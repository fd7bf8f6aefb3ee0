import TokenPersistence.Memory.Store
import TokenPersistence.Rehearsal.Bench
import TokenPersistence.Rehearsal.LeastRecent

/-!
# Nodes

A node of a rehearsal is an adapter over a store of one of three kinds, with a host
that is not wired yet.
-/

namespace TokenPersistence.Rehearsal

set_option autoImplicit false

inductive StoreSetup where
  | recording (entries : List (String × Bytes))
  | memory (options : MemoryOptions)
  | tiered (options : TieredOptions) (retry : Option RetryPart) (spawns : Bool)

structure NodeSetup where
  store : StoreSetup
  key : KeyPart
  encryptor : Option EncryptorPart
  lock : Option LockPart
  observer : Option ObserverPart

inductive NodeStore where
  | recording
  | memory (store : MemoryStore Bench)
  | tiered (store : TieredStore Bench)

structure Node where
  index : Nat
  store : NodeStore
  adapter : Adapter Bench

namespace NodeSetup

def cell {τ : Type} (index : Nat) (part : Cell NodeData τ) : Cell Bench τ :=
  (Bench.node index).inside part

def nearCache (index : Nat) : ByteCacheCell Bench where
  toCell := cell index NodeData.cacheCell
  policy := leastRecent

def initialData (setup : NodeSetup) : NodeData :=
  match setup.store with
  | .recording entries =>
      { (default : NodeData) with store := RecordingStore.ofTable (Table.ofList entries) }
  | .memory options => { (default : NodeData) with cache := MemoryStore.initialCache options }
  | .tiered options _ _ =>
      { (default : NodeData) with cache := TieredStore.initialCache options }

def enqueue (index : Nat) : Spawner Bench := fun job =>
  (cell index NodeData.queueCell).modify fun queue => queue ++ [job]

def buildStore (setup : NodeSetup) (index : Nat) :
    Except Panic (Except OptionsProblem (NodeStore × PartitionStore Bench)) :=
  match setup.store with
  | .recording _ =>
      .ok (.ok (.recording, RecordingStore.toStore (cell index NodeData.storeCell)))
  | .memory options =>
      let store : MemoryStore Bench := ⟨nearCache index, options⟩
      .ok (.ok (.memory store, store.toStore))
  | .tiered options retry spawns =>
      (TieredStore.build (nearCache index)
        (ScriptedCache.toSharedCache Bench.sharedCell) options
        (retry.map fun part => part.toPredicate (cell index NodeData.retriesCell))
        (if spawns then some (enqueue index) else none)).map fun built =>
          built.map fun store => (.tiered store, store.toStore)

def build (setup : NodeSetup) (index : Nat) : Except Panic (Except OptionsProblem Node) :=
  (setup.buildStore index).map fun built =>
    built.map fun (kind, store) =>
      { index
        store := kind
        adapter :=
          { store
            key := setup.key.toProvider
            protector := ⟨setup.encryptor.map EncryptorPart.toEncryptor⟩
            lock := setup.lock.map fun part => part.toLock (cell index NodeData.locksCell)
            observer :=
              setup.observer.map fun part =>
                part.toObserver (cell index NodeData.failuresCell) } }

end NodeSetup

end TokenPersistence.Rehearsal
