import TokenPersistence.Hook

/-!
# Safe wiring

A host that must not be disturbed by its cache wires hooks that never fail. The
wrapped hook runs as it is; a failure or a panic that it ends with is logged, then
shown to the observer, if there is one. An observer that panics is logged as well.
The host always sees success.
-/

namespace TokenPersistence

set_option autoImplicit false

variable {σ : Type}

structure HookFailure where
  hook : HookKind
  failure : Failure
  deriving DecidableEq, Repr

abbrev FailureObserver (σ : Type) := HookFailure → Routine (Context σ) Unit

structure SafeWiring (σ : Type) where
  observer : Option (FailureObserver σ)

def Panic.asFailure (panic : Panic) : Failure := Failure.withText .hook panic.report

/-- The failure with which a hook ended, if it did not succeed. -/
def hookFailure? : Except Panic (Except Failure Unit) → Option Failure
  | .ok (.ok ()) => none
  | .ok (.error failure) => some failure
  | .error panic => some panic.asFailure

namespace SafeWiring

/-- Tells the observer, and logs that it panicked if it did. -/
def notify (wiring : SafeWiring σ) (observed : HookFailure) : Routine (Context σ) Unit :=
  match wiring.observer with
  | none => pure ()
  | some observer => do
      match ← (observer observed).catchPanic with
      | .ok () => pure ()
      | .error panic => Routine.write (.observerPanicked observed.hook panic.report)

def suppress (wiring : SafeWiring σ) (kind : HookKind) (failure : Failure) :
    Routine (Context σ) Unit := do
  Routine.write (.failureSuppressed kind failure)
  wiring.notify ⟨kind, failure⟩

def wrap (wiring : SafeWiring σ) (kind : HookKind) (hook : AccessHook σ) : AccessHook σ :=
  fun access => ExceptT.lift do
    match hookFailure? (← (hook access).run.catchPanic) with
    | none => pure ()
    | some failure => wiring.suppress kind failure

def wrapAll (wiring : SafeWiring σ) (hooks : AccessHooks σ) : AccessHooks σ :=
  AccessHooks.ofKinds fun kind => wiring.wrap kind (hooks.hook kind)

end SafeWiring

end TokenPersistence
