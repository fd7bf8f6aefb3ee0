import TokenPersistence.Context

/-!
# Timing

The stopwatch of a timed routine starts with its first poll, not when the routine
is put together, and stops with the poll that ends it. A clock that was set back
in between shows no time at all.
-/

namespace TokenPersistence

set_option autoImplicit false

structure Timed (α : Type) where
  value : α
  duration : Duration
  deriving DecidableEq

variable {σ α : Type}

def Routine.timed (routine : Routine (Context σ) α) : Routine (Context σ) (Timed α) :=
  Context.withClock fun started =>
    routine.bind fun value =>
      Context.withClock fun ended => .done ⟨value, Timestamp.elapsed started ended⟩

end TokenPersistence
