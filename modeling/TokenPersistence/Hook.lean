import TokenPersistence.Access

/-!
# Hooks

A host calls one hook before it reads a collection, one after it has used it, and
one before it changes it. A host wires a set of hooks once and then invokes them by
kind.
-/

namespace TokenPersistence

set_option autoImplicit false

abbrev AccessHook (σ : Type) := Access σ → Call σ Unit

structure AccessHooks (σ : Type) where
  beforeAccess : AccessHook σ
  afterAccess : AccessHook σ
  beforeWrite : AccessHook σ

namespace AccessHooks

variable {σ : Type}

def hook (hooks : AccessHooks σ) : HookKind → AccessHook σ
  | .beforeAccess => hooks.beforeAccess
  | .afterAccess => hooks.afterAccess
  | .beforeWrite => hooks.beforeWrite

def ofKinds (hook : HookKind → AccessHook σ) : AccessHooks σ where
  beforeAccess := hook .beforeAccess
  afterAccess := hook .afterAccess
  beforeWrite := hook .beforeWrite

theorem hook_of_kinds (hook : HookKind → AccessHook σ) (kind : HookKind) :
    (ofKinds hook).hook kind = hook kind := by
  cases kind <;> rfl

def invoke (hooks : AccessHooks σ) (kind : HookKind) (access : Access σ) : Call σ Unit :=
  hooks.hook kind access

end AccessHooks

def invokeWired {σ : Type} (wired : Option (AccessHooks σ)) (kind : HookKind)
    (access : Access σ) : Call σ Unit :=
  match wired with
  | some hooks => hooks.invoke kind access
  | none => throw (Failure.withText .hook "no hooks wired")

end TokenPersistence
