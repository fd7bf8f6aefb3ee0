import TokenPersistence.Key
import TokenPersistence.Protector
import TokenPersistence.SafeWiring
import TokenPersistence.Store

/-!
# The adapter

The adapter stands between a host's collections and a store. Before an access it
loads the partition into the collection; after an access that changed something it
writes the partition, or removes it when no tokens are left; before a write it takes
the lock of the partition, if a lock is configured, which the hook after the access
gives back.
-/

namespace TokenPersistence

set_option autoImplicit false

/-- A lock that keeps other processes from writing the same partition. -/
structure WriteLock (σ : Type) where
  lock : String → Call σ Unit
  unlock : String → Call σ Unit

structure Adapter (σ : Type) where
  store : PartitionStore σ
  key : KeyProvider σ
  protector : Protector
  lock : Option (WriteLock σ)
  observer : Option (FailureObserver σ)

namespace Adapter

variable {σ : Type}

/-- Fills the collection with a partition, replacing what it held. -/
def load (adapter : Adapter σ) (key : String) (access : Access σ) (plaintext : Bytes) :
    Call σ Unit := do
  match ← (access.collection.load plaintext true).outcome with
  | .ok () => Call.log (.loaded key plaintext.length access.appCache)
  | .error failure => do
      Call.log (.loadRejected key adapter.protector.isEnabled failure)
      throw failure

def beforeAccess (adapter : Adapter σ) : AccessHook σ := fun access => do
  let key ← Call.ofAttempt (adapter.key access)
  if key.isEmpty then pure ()
  else do
    let payload ← adapter.store.read key access.hints
    let plaintext ← adapter.protector.unprotect (payload.getD [])
    adapter.load key access plaintext

/-- Writes a changed partition, or removes one that holds no tokens any more. -/
def persist (adapter : Adapter σ) (key : String) (access : Access σ) : Call σ Unit :=
  if !access.stateChanged then pure ()
  else if access.hasTokens then do
    let plaintext ← access.collection.serialize
    let payload ← adapter.protector.protect plaintext
    adapter.store.write key payload access.hints
    Call.log (.persisted key payload.length access.appCache)
  else do
    adapter.store.remove key access.hints
    Call.log (.removed key)

def unlock (adapter : Adapter σ) (key : String) : Call σ Unit :=
  match adapter.lock with
  | some lock => lock.unlock key
  | none => pure ()

/-- The lock is given back whether or not persisting failed; of two failures the
one of persisting is passed on. -/
def afterAccess (adapter : Adapter σ) : AccessHook σ := fun access =>
  if !access.stateChanged && adapter.lock.isNone then pure ()
  else do
    let key ← Call.ofAttempt (adapter.key access)
    if key.isEmpty then pure ()
    else do
      let persisted ← (adapter.persist key access).outcome
      let unlocked ← (adapter.unlock key).outcome
      match persisted with
      | .error failure => throw failure
      | .ok () => Call.ofRoutine (pure unlocked)

def beforeWrite (adapter : Adapter σ) : AccessHook σ := fun access =>
  match adapter.lock with
  | none => pure ()
  | some lock => do
      let key ← Call.ofAttempt (adapter.key access)
      if key.isEmpty then pure () else lock.lock key

def hooks (adapter : Adapter σ) : AccessHooks σ where
  beforeAccess := adapter.beforeAccess
  afterAccess := adapter.afterAccess
  beforeWrite := adapter.beforeWrite

/-- The hooks for a host that must not see failures. -/
def safeHooks (adapter : Adapter σ) : AccessHooks σ :=
  SafeWiring.wrapAll ⟨adapter.observer⟩ adapter.hooks

def clear (adapter : Adapter σ) (account : String) : Call σ Unit := do
  adapter.store.remove account CallHints.none
  Call.log (.removed account)

end Adapter

end TokenPersistence
