import TokenPersistence.Context

/-!
# Call hints

A caller may tell a store when an entry loses its value, where to report the level
of a hit, and which token cancels the call. A cancellable call is not started when
its token is already cancelled; otherwise it is polled first and the token is looked
at whenever the call is left pending, so a call that ends in the same poll in which
it was cancelled keeps its own result.
-/

namespace TokenPersistence

set_option autoImplicit false

structure CallHints where
  cancellation : Option CancellationToken
  suggestedExpiry : Option Timestamp
  sink : Option LevelSink
  disableMessage : Option String
  deriving DecidableEq

namespace CallHints

variable {σ α : Type}

def none : CallHints := ⟨.none, .none, .none, .none⟩

instance : Inhabited CallHints := ⟨none⟩

def isCancelled (hints : CallHints) (context : Context σ) : Bool :=
  hints.cancellation.any context.isCancelled

def level (hints : CallHints) (context : Context σ) : Option CacheLevel :=
  hints.sink.map context.level

def report (hints : CallHints) (level : CacheLevel) (context : Context σ) : Context σ :=
  match hints.sink with
  | some sink => context.setLevel sink level
  | .none => context

def reportLevel (hints : CallHints) (level : CacheLevel) : Routine (Context σ) Unit :=
  Routine.modify (hints.report level)

/-- Races a call against the token of the hints; `during` names the activity that
was under way in the failure of a cancelled call. -/
def cancellable (hints : CallHints) (during : Activity) (call : Call σ α) : Call σ α :=
  ExceptT.mk (Routine.get fun context =>
    if hints.isCancelled context then .done (.error (Failure.cancelled during))
    else call.run.unlessStopped hints.isCancelled (.error (Failure.cancelled during)))

end CallHints

end TokenPersistence
