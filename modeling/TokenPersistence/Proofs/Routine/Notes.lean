import TokenPersistence.Timed

/-!
# What a run notes

A run that returns leaves a state and a log, and a view picks out what is noted of each
event. Each way of putting routines together has a rule for all of it, so that the notes of
a routine are put together from the notes of its parts, in their order.
-/

namespace TokenPersistence

set_option autoImplicit false

variable {σ α β ν : Type}

namespace Routine

/-- The run ends with the value and leaves the state, and its log shows this in the view. -/
structure Notes (view : LogEvent → Option ν) (routine : Routine σ α) (start : σ) (value : α)
    (after : σ) (noted : List ν) : Prop where
  ending : (routine.run start).ending = .returned value
  state : (routine.run start).state = after
  log : (routine.run start).log.filterMap view = noted

variable {view : LogEvent → Option ν} {start between after : σ} {first second noted : List ν}

theorem notes_pure (value : α) (start : σ) :
    (pure value : Routine σ α).Notes view start value start [] :=
  ⟨rfl, rfl, rfl⟩

theorem notes_step (transition : σ → α × σ) (start : σ) :
    (step transition).Notes view start (transition start).1 (transition start).2 [] :=
  ⟨rfl, rfl, rfl⟩

theorem notes_modify (change : σ → σ) (start : σ) :
    (modify change).Notes view start () (change start) [] :=
  ⟨rfl, rfl, rfl⟩

theorem notes_write {event : LogEvent} {note : ν} (shown : view event = some note)
    (start : σ) : (write event).Notes view start () start [note] := by
  refine ⟨rfl, rfl, ?_⟩
  change [event].filterMap view = _
  simp [shown]

theorem notes_hidden {event : LogEvent} (hidden : view event = none) (start : σ) :
    (write event).Notes view start () start [] := by
  refine ⟨rfl, rfl, ?_⟩
  change [event].filterMap view = _
  simp [hidden]

theorem Notes.bind {routine : Routine σ α} {continuation : α → Routine σ β} {value : α}
    {result : β} (begins : routine.Notes view start value between first)
    (goesOn : (continuation value).Notes view between result after second)
    (all : first ++ second = noted) :
    (routine >>= continuation).Notes view start result after noted := by
  subst all
  obtain ⟨ending, rfl, rfl⟩ := begins
  obtain ⟨endingRest, rfl, rfl⟩ := goesOn
  have run : (routine >>= continuation).run start =
      let rest := (continuation value).run (routine.run start).state
      { rest with log := (routine.run start).log ++ rest.log } := by
    rw [bind_eq, run_bind, andThen, ending]
  refine ⟨?_, ?_, ?_⟩
  · rw [run]
    exact endingRest
  · rw [run]
  · rw [run]
    exact List.filterMap_append

theorem Notes.discard {routine : Routine σ α} {value : α}
    (notes : routine.Notes view start value after noted) :
    (Functor.discard routine : Routine σ Unit).Notes view start () after noted :=
  notes.bind (notes_pure () after) (List.append_nil noted)

end Routine

open Routine (Notes)

variable {view : LogEvent → Option ν} {start after : Context σ} {noted : List ν}

theorem Context.notes_with_clock {continuation : Timestamp → Routine (Context σ) α} {value : α}
    (clock : start.clockIsBroken = false)
    (notes : (continuation start.now).Notes view start value after noted) :
    (withClock continuation).Notes view start value after noted := by
  have run : (withClock continuation).run start = (continuation start.now).run start := by
    unfold withClock
    simp only [Routine.run, clock, Bool.false_eq_true, if_false]
  obtain ⟨ending, state, log⟩ := notes
  exact ⟨run ▸ ending, run ▸ state, run ▸ log⟩

theorem Routine.Notes.timed {routine : Routine (Context σ) α} {value : α}
    (clock : start.clockIsBroken = false) (stillTicks : after.clockIsBroken = false)
    (notes : routine.Notes view start value after noted) :
    routine.timed.Notes view start ⟨value, Timestamp.elapsed start.now after.now⟩ after
      noted := by
  apply Context.notes_with_clock clock
  exact notes.bind (Context.notes_with_clock stillTicks (notes_pure _ after))
    (List.append_nil noted)

theorem Call.notes_lift {routine : Routine (Context σ) α} {value : α}
    (notes : routine.Notes view start value after noted) :
    (ExceptT.lift routine : Call σ α).run.Notes view start (.ok value) after noted :=
  notes.bind (Routine.notes_pure (Except.ok value) after) (List.append_nil noted)

end TokenPersistence
