import TokenPersistence.Context

/-!
# Closed properties of routines

A property of routines is closed if whatever ends or logs has it, and if it passes on when
one routine follows another and when a panic is contained. A closed property passes on to
calls, where a failure cuts short what would have followed.
-/

namespace TokenPersistence

set_option autoImplicit false

variable {σ α β : Type}

namespace Routine

structure Closed (property : (α : Type) → Routine σ α → Prop) : Prop where
  done : ∀ {α : Type} (value : α), property α (.done value)
  panic : ∀ {α : Type} (payload : Panic), property α (.panic payload)
  write : ∀ event, property Unit (write event)
  bind : ∀ {α β : Type} {routine : Routine σ α} {continuation : α → Routine σ β},
    property α routine → (∀ value, property β (continuation value)) →
      property β (routine.bind continuation)
  catchPanic : ∀ {α : Type} {routine : Routine σ α}, property α routine →
    property (Except Panic α) routine.catchPanic

namespace Closed

variable {property : (α : Type) → Routine (Context σ) α → Prop}

theorem lift (closed : Closed property) {routine : Routine (Context σ) α}
    (held : property α routine) : property _ (ExceptT.lift routine : Call σ α).run :=
  closed.bind held fun value => closed.done (Except.ok value)

theorem log (closed : Closed property) (event : LogEvent) :
    property _ (Call.log event : Call σ Unit).run :=
  closed.lift (closed.write event)

theorem outcome (closed : Closed property) {call : Call σ α} (held : property _ call.run) :
    property _ call.outcome.run :=
  closed.lift held

theorem andThen (closed : Closed property) {call : Call σ α} {continuation : α → Call σ β}
    (first : property _ call.run) (second : ∀ value, property _ (continuation value).run) :
    property _ (call >>= continuation).run := by
  apply closed.bind first
  intro outcome
  cases outcome with
  | ok value => exact second value
  | error failure => exact closed.done (Except.error failure)

/-- What follows an attempt has to be looked at only for the value that is attempted. -/
theorem attempt (closed : Closed property) {attempted : Attempt α}
    {continuation : α → Call σ β}
    (second : ∀ value, attempted = .returned value → property _ (continuation value).run) :
    property _ (Call.ofAttempt attempted >>= continuation).run := by
  cases attempted with
  | returned value => exact second value rfl
  | failed failure => exact closed.done (Except.error failure)
  | panicked payload => exact closed.panic payload

end Closed

end Routine

end TokenPersistence
