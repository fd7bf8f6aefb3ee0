import TokenPersistence.Store
import TokenPersistence.Table

/-!
# A store that records

For rehearsals: a store that writes down every operation it is asked for, whether
it fails or not, and fails those operations that a predicate picks. A failed
operation changes nothing.
-/

namespace TokenPersistence.Rehearsal

set_option autoImplicit false

inductive StoreOperation where
  | read (key : String) (expiry : Option Timestamp)
  | write (key : String) (bytes : Bytes) (expiry : Option Timestamp)
  | remove (key : String) (expiry : Option Timestamp)
  deriving DecidableEq

namespace StoreOperation

def key : StoreOperation → String
  | read key _ => key
  | write key _ _ => key
  | remove key _ => key

def activity : StoreOperation → Activity
  | read .. => .read
  | write .. => .write
  | remove .. => .remove

def failure : StoreOperation → Failure
  | read .. => Failure.withText .read "mock: read failed"
  | write .. => Failure.withText .write "mock: write failed"
  | remove .. => Failure.withText .remove "mock: remove failed"

end StoreOperation

structure RecordingStore where
  data : Table
  operations : List StoreOperation
  failsWhen : Option (StoreOperation → Bool)

namespace RecordingStore

def ofTable (data : Table) : RecordingStore := ⟨data, [], none⟩

instance : Inhabited RecordingStore := ⟨ofTable Table.empty⟩

def fails (store : RecordingStore) (operation : StoreOperation) : Bool :=
  store.failsWhen.any fun predicate => predicate operation

def perform {α : Type} (store : RecordingStore) (operation : StoreOperation)
    (effect : Table → α × Table) : Except Failure α × RecordingStore :=
  let recorded := { store with operations := store.operations ++ [operation] }
  if store.fails operation then (.error operation.failure, recorded)
  else (.ok (effect store.data).1, { recorded with data := (effect store.data).2 })

def read (key : String) (expiry : Option Timestamp) (store : RecordingStore) :
    Except Failure (Option Bytes) × RecordingStore :=
  store.perform (.read key expiry) fun data => (data.get? key, data)

def write (key : String) (bytes : Bytes) (expiry : Option Timestamp)
    (store : RecordingStore) : Except Failure Unit × RecordingStore :=
  store.perform (.write key bytes expiry) fun data => ((), data.insert key bytes)

def remove (key : String) (expiry : Option Timestamp) (store : RecordingStore) :
    Except Failure Unit × RecordingStore :=
  store.perform (.remove key expiry) fun data => ((), data.erase key)

def failWhen (predicate : StoreOperation → Bool) (store : RecordingStore) : RecordingStore :=
  { store with failsWhen := some predicate }

def clearFailures (store : RecordingStore) : RecordingStore := { store with failsWhen := none }

def clearOperations (store : RecordingStore) : RecordingStore := { store with operations := [] }

def toStore {σ : Type} (cell : Cell σ RecordingStore) : PartitionStore σ where
  read key hints := ExceptT.mk (cell.step (read key hints.suggestedExpiry))
  write key bytes hints := ExceptT.mk (cell.step (write key bytes hints.suggestedExpiry))
  remove key hints := ExceptT.mk (cell.step (remove key hints.suggestedExpiry))

end RecordingStore

end TokenPersistence.Rehearsal
