import TokenPersistence.Proofs.Routine.Leaves

/-!
# What a call tells

A call that ends with an outcome leaves a state, and a log of which only some events
matter. Each way of putting calls together has a rule for all three, so that the course of
a call is put together from the courses of its parts; a failure ends it early.
-/

namespace TokenPersistence

set_option autoImplicit false

variable {σ α β : Type}

namespace Call

/-- The call ends with the outcome, leaves the state, and logs these and no other events
that matter. -/
structure Tells (matters : LogEvent → Bool) (call : Call σ α) (start : Context σ)
    (outcome : Except Failure α) (after : Context σ) (told : List LogEvent) : Prop where
  ending : (call.run.run start).ending = .returned outcome
  state : (call.run.run start).state = after
  log : (call.run.run start).log.filter matters = told

variable {matters : LogEvent → Bool} {start between after : Context σ}
  {told first second : List LogEvent}

theorem run_bind_of_ok {call : Call σ α} (continuation : α → Call σ β) {value : α}
    (ended : (call.run.run start).ending = .returned (.ok value)) :
    (call >>= continuation).run.run start =
      let rest := (continuation value).run.run (call.run.run start).state
      { rest with log := (call.run.run start).log ++ rest.log } := by
  change Routine.run (call.run.bind (ExceptT.bindCont continuation)) start = _
  rw [Routine.run_bind, Routine.andThen, ended]
  rfl

theorem run_bind_of_error {call : Call σ α} (continuation : α → Call σ β) {failure : Failure}
    (ended : (call.run.run start).ending = .returned (.error failure)) :
    (call >>= continuation).run.run start =
      ⟨.returned (.error failure), (call.run.run start).state, (call.run.run start).log⟩ := by
  change Routine.run (call.run.bind (ExceptT.bindCont continuation)) start = _
  rw [Routine.run_bind, Routine.andThen, ended]
  change Run.mk _ _ (_ ++ []) = _
  rw [List.append_nil]
  rfl

theorem Tells.bind {call : Call σ α} {continuation : α → Call σ β} {value : α}
    {outcome : Except Failure β} (begins : call.Tells matters start (.ok value) between first)
    (goesOn : (continuation value).Tells matters between outcome after second) :
    (call >>= continuation).Tells matters start outcome after (first ++ second) := by
  obtain ⟨ending, rfl, rfl⟩ := begins
  obtain ⟨endingRest, rfl, rfl⟩ := goesOn
  have run := run_bind_of_ok continuation ending
  refine ⟨?_, ?_, ?_⟩
  · rw [run]
    exact endingRest
  · rw [run]
  · rw [run]
    exact List.filter_append _ _

theorem Tells.fails {call : Call σ α} {failure : Failure}
    (failed : call.Tells matters start (.error failure) after told)
    (continuation : α → Call σ β) :
    (call >>= continuation).Tells matters start (.error failure) after told := by
  obtain ⟨ending, rfl, rfl⟩ := failed
  have run := run_bind_of_error continuation ending
  refine ⟨?_, ?_, ?_⟩ <;> rw [run]

theorem Tells.outcome {call : Call σ α} {result : Except Failure α}
    (told : call.Tells matters start result after first) :
    call.outcome.Tells matters start (.ok result) after first := by
  obtain ⟨ending, rfl, rfl⟩ := told
  have run : call.outcome.run.run start =
      ⟨.returned (.ok result), (call.run.run start).state, (call.run.run start).log⟩ := by
    change Routine.run (call.run.bind fun value => Routine.done (Except.ok value)) start = _
    rw [Routine.run_bind, Routine.andThen, ending]
    change Run.mk _ _ (_ ++ []) = _
    rw [List.append_nil]
    rfl
  refine ⟨?_, ?_, ?_⟩ <;> rw [run]

end Call

end TokenPersistence
