import TokenPersistence.Rehearsal.Parts

/-!
# Hook drills

Scripted hooks show what safe wiring makes of success, failure and panic. A hook
writes its name down before anything else happens. A drill either wraps a single
hook, perhaps twice, or invokes one of the hooks that the host has been given.
-/

namespace TokenPersistence.Rehearsal

set_option autoImplicit false

structure DrillNotes where
  calls : List String
  observed : List HookFailure

namespace DrillNotes

def empty : DrillNotes := ⟨[], []⟩

def callsCell : Cell DrillNotes (List String) where
  get notes := notes.calls
  put calls notes := { notes with calls }

def observedCell : Cell DrillNotes (List HookFailure) where
  get notes := notes.observed
  put observed notes := { notes with observed }

end DrillNotes

structure HookPart where
  name : String
  pausesFirst : Bool
  ending : Attempt Unit

def HookPart.toHook (part : HookPart) : AccessHook DrillNotes := fun _ => ExceptT.mk do
  DrillNotes.callsCell.modify fun calls => calls ++ [part.name]
  Routine.pauses (if part.pausesFirst then 1 else 0)
  Routine.attempt part.ending

def idleAccess : Access DrillNotes where
  collection := ⟨pure [], fun _ _ => pure ()⟩
  suggestedKey := "key"
  stateChanged := false
  hasTokens := false
  appCache := false
  cancellation := CancellationToken.named "idle"
  suggestedExpiry := none
  sink := none
  noSharedCacheReason := none

structure HookDrill where
  observer : Option ObserverPart
  hooks : Option (HookKind → HookPart)
  strict : Bool

inductive HookDrillStep where
  | wrapped (kind : HookKind) (part : HookPart) (again : Option HookKind)
  | invoked (kind : HookKind)

structure HookDrillReport where
  outcome : Ending (Except Failure Unit)
  calls : List String
  observed : List HookFailure
  log : List LogEvent

namespace HookDrill

def wiring (drill : HookDrill) : SafeWiring DrillNotes :=
  ⟨drill.observer.map fun part => part.toObserver DrillNotes.observedCell⟩

def wired (drill : HookDrill) : Option (AccessHooks DrillNotes) :=
  drill.hooks.map fun parts =>
    let hooks := AccessHooks.ofKinds fun kind => (parts kind).toHook
    if drill.strict then hooks else drill.wiring.wrapAll hooks

def call (drill : HookDrill) : HookDrillStep → Call DrillNotes Unit
  | .wrapped kind part none => drill.wiring.wrap kind part.toHook idleAccess
  | .wrapped kind part (some outer) =>
      drill.wiring.wrap outer (drill.wiring.wrap kind part.toHook) idleAccess
  | .invoked kind => invokeWired drill.wired kind idleAccess

def perform (drill : HookDrill) (step : HookDrillStep) : HookDrillReport :=
  let ran := (drill.call step).run.run (Context.initial Timestamp.epoch DrillNotes.empty)
  ⟨ran.ending, ran.state.data.calls, ran.state.data.observed, ran.log⟩

end HookDrill

end TokenPersistence.Rehearsal
