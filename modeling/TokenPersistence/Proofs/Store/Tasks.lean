import TokenPersistence.Proofs.Store.Cancellation

/-!
# The work that stores are given

A store is of one of two kinds: the store in memory, or the tiered store. Hosts call it, and
whoever takes the background writes of a tiered store carries them out later. All of this work
ends in the same way, and only a read may end with a blob.
-/

namespace TokenPersistence

set_option autoImplicit false

variable {σ : Type}

inductive AnyStore (σ : Type) where
  | memory (store : MemoryStore σ)
  | tiered (store : TieredStore σ)

/-- Work that a store is given: a call of a host, or a write that was put off. -/
inductive StoreTask where
  | call (hints : CallHints) (call : StoreCall)
  | job (job : BackgroundWrite)

def StoreTask.key : StoreTask → String
  | .call _ asked => asked.key
  | .job put => put.key

namespace AnyStore

def toStore : AnyStore σ → PartitionStore σ
  | memory store => store.toStore
  | tiered store => store.toStore

def near : AnyStore σ → Option (ByteCacheCell σ)
  | memory store => some store.cache
  | tiered store => store.l1

/-- The level at which a read finds what it finds: in memory if the entry is live there, and
otherwise in the shared cache. -/
def levelOf (store : AnyStore σ) (key : String) (now : Context σ) : CacheLevel :=
  if (store.near.bind fun cache => (cache.get now.data).get? now.uptime key).isSome then .l1
  else .l2

theorem level_of_near (store : AnyStore σ) {cache : ByteCacheCell σ}
    (enabled : store.near = some cache) (key : String) (now : Context σ) :
    store.levelOf key now =
      if ((cache.get now.data).get? now.uptime key).isSome then .l1 else .l2 := by
  simp only [levelOf, enabled, Option.bind_some]

theorem level_of_far (store : AnyStore σ) (disabled : store.near = none) (key : String)
    (now : Context σ) : store.levelOf key now = .l2 := by
  simp [levelOf, disabled]

/-- The store in memory puts nothing off. -/
def carryOut (store : AnyStore σ) :
    StoreTask → Routine (Context σ) (Except Failure (Option Bytes))
  | .call hints call => store.toStore.perform hints call
  | .job job =>
      match store with
      | memory _ => .done (.ok none)
      | tiered store => (store.writeShared job).bind fun _ => .done (.ok none)

end AnyStore

end TokenPersistence
