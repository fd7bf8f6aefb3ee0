import TokenPersistence.Proofs.Routine.Polls

/-!
# Handlers of outcomes

A handler takes what a routine ends with, be it a value or a panic. It is polled only in the
poll in which the routine ends, and if it ends at once, that poll is the last one. Of a routine
that cannot panic a handler sees values alone, so one that passes these on does nothing.
-/

namespace TokenPersistence

set_option autoImplicit false

variable {σ α β : Type}

namespace Routine

/-- However the routine goes on after its suspension points, it does not panic, and what it
ends with is good. -/
def EndsBy (good : α → Prop) : Routine σ α → Prop
  | done value => good value
  | panic _ => False
  | get next => ∀ state, (next state).EndsBy good
  | set _ next => next.EndsBy good
  | log _ next => next.EndsBy good
  | pause next => next.EndsBy good
  | wait _ next => next.EndsBy good

theorem ends_by_catch_panic (routine : Routine σ α) :
    routine.catchPanic.EndsBy fun _ => True := by
  induction routine with
  | done value => trivial
  | panic payload => trivial
  | get next ih => exact ih
  | set state next ih => exact ih
  | log event next ih => exact ih
  | pause next ih => exact ih
  | wait ready next ih => exact ih

theorem EndsBy.bind {routine : Routine σ α} {continuation : α → Routine σ β}
    {first : α → Prop} {good : β → Prop} (ends : routine.EndsBy first)
    (goesOn : ∀ value, first value → (continuation value).EndsBy good) :
    (routine.bind continuation).EndsBy good := by
  induction routine with
  | done value => exact goesOn value ends
  | panic payload => exact ends.elim
  | get next ih => exact fun state => ih state (ends state)
  | set state next ih => exact ih ends
  | log event next ih => exact ih ends
  | pause next ih => exact ih ends
  | wait ready next ih => exact ih ends

theorem EndsBy.catch_panic_bind {routine : Routine σ α} {good : α → Prop}
    {handler : Except Panic α → Routine σ α} (ends : routine.EndsBy good)
    (passes : ∀ value, good value → handler (.ok value) = done value) :
    routine.catchPanic.bind handler = routine := by
  induction routine with
  | done value => exact passes value ends
  | panic payload => exact ends.elim
  | get next ih =>
      simp only [catchPanic, Routine.bind]
      congr 1
      funext state
      exact ih state (ends state)
  | set state next ih => simp only [catchPanic, Routine.bind, ih ends]
  | log event next ih => simp only [catchPanic, Routine.bind, ih ends]
  | pause next ih => simp only [catchPanic, Routine.bind, ih ends]
  | wait ready next ih => simp only [catchPanic, Routine.bind, ih ends]

/-- The handler that goes on with a value and leaves a panic alone. -/
def rethrowing (continuation : α → Routine σ β) : Except Panic α → Routine σ β
  | .ok value => continuation value
  | .error payload => panic payload

theorem bind_eq_handled (routine : Routine σ α) (continuation : α → Routine σ β) :
    routine.bind continuation = routine.catchPanic.bind (rethrowing continuation) := by
  induction routine with
  | done value => rfl
  | panic payload => rfl
  | get next ih => simp only [catchPanic, Routine.bind, ih]
  | set state next ih => simp only [catchPanic, Routine.bind, ih]
  | log event next ih => simp only [catchPanic, Routine.bind, ih]
  | pause next ih => simp only [catchPanic, Routine.bind, ih]
  | wait ready next ih => simp only [catchPanic, Routine.bind, ih]

end Routine

/-- What a poll shows once a handler takes the outcome, be it a value or a panic. -/
def Polled.handled (handler : Except Panic α → Routine σ β) (polled : Polled σ α) :
    Polled σ β :=
  match polled.progress with
  | .returned value => ((handler (.ok value)).poll polled.state).onto polled.log
  | .panicked payload => ((handler (.error payload)).poll polled.state).onto polled.log
  | .pending woken rest =>
      { polled with progress := .pending woken (rest.catchPanic.bind handler) }

namespace Polled

variable {handler : Except Panic α → Routine σ β} {polled : Polled σ α}

theorem onto_onto (polled : Polled σ α) (first second : List LogEvent) :
    (polled.onto second).onto first = polled.onto (first ++ second) := by
  simp only [onto, List.append_assoc]

theorem handled_onto (earlier : List LogEvent) :
    (polled.onto earlier).handled handler = (polled.handled handler).onto earlier := by
  obtain ⟨progress, state, log⟩ := polled
  cases progress with
  | returned value => exact (onto_onto _ earlier log).symm
  | panicked payload => exact (onto_onto _ earlier log).symm
  | pending woken rest => rfl

end Polled

namespace Routine

variable {handler : Except Panic α → Routine σ β} {routine : Routine σ α}
  {outside : Nat → σ → σ} {start : σ}

theorem poll_handled (handler : Except Panic α → Routine σ β) (routine : Routine σ α) (now : σ) :
    (routine.catchPanic.bind handler).poll now = (routine.poll now).handled handler := by
  induction routine generalizing now with
  | done value => rfl
  | panic payload => rfl
  | get next ih => exact ih now now
  | set state next ih => exact ih state
  | log event next ih =>
      simp only [catchPanic, Routine.bind, poll, ih now]
      exact (Polled.handled_onto [event]).symm
  | pause next ih => rfl
  | wait ready next ih =>
      simp only [catchPanic, Routine.bind, poll]
      split
      · exact ih now
      · rfl

/-- A handler that ends at once ends the whole in the poll in which the routine ends. -/
theorem after_polls_handled (count : Nat)
    (prompt : (routine.afterPolls outside start count).progress.isPending = false →
      ((routine.afterPolls outside start count).handled handler).progress.isPending = false) :
    (routine.catchPanic.bind handler).afterPolls outside start count =
      (routine.afterPolls outside start count).handled handler := by
  induction count with
  | zero => rfl
  | succ count ih =>
      cases progress : (routine.afterPolls outside start count).progress with
      | pending woken rest =>
          have reached := ih fun ended => by simp [progress, Progress.isPending] at ended
          have left : ((routine.catchPanic.bind handler).afterPolls outside start
              count).progress = .pending woken (rest.catchPanic.bind handler) := by
            rw [reached, Polled.handled, progress]
          have state : ((routine.afterPolls outside start count).handled handler).state =
              (routine.afterPolls outside start count).state := by
            rw [Polled.handled, progress]
          have log : ((routine.afterPolls outside start count).handled handler).log =
              (routine.afterPolls outside start count).log := by
            rw [Polled.handled, progress]
          rw [after_polls_pending progress, after_polls_pending left, reached, state, log,
            poll_handled, Polled.handled_onto]
      | returned value =>
          have ended : (routine.afterPolls outside start count).progress.isPending = false := by
            rw [progress]
            rfl
          rw [after_polls_ended ended] at prompt ⊢
          rw [after_polls_ended (ih prompt ▸ prompt ended), ih prompt]
      | panicked payload =>
          have ended : (routine.afterPolls outside start count).progress.isPending = false := by
            rw [progress]
            rfl
          rw [after_polls_ended ended] at prompt ⊢
          rw [after_polls_ended (ih prompt ▸ prompt ended), ih prompt]

end Routine

end TokenPersistence
