import TokenPersistence.Table
import TokenPersistence.Tiered.SharedCache

/-!
# A shared cache that records

For rehearsals: a shared cache that writes down every operation. An operation fails
when the predicate picks it or when some of the next operations are to fail; every
operation uses up one of those, even one that fails anyway. A failed operation
changes nothing, and entries never expire.
-/

namespace TokenPersistence.Rehearsal

set_option autoImplicit false

inductive SharedCall where
  | get (key : String)
  | set (key : String) (bytes : Bytes) (options : EntryOptions)
  | refresh (key : String)
  | remove (key : String)
  deriving DecidableEq

namespace SharedCall

def key : SharedCall → String
  | get key => key
  | set key _ _ => key
  | refresh key => key
  | remove key => key

def operation : SharedCall → SharedOperation
  | get _ => .read
  | set .. => .write
  | refresh _ => .refresh
  | remove _ => .remove

def operationName : SharedOperation → String
  | .read => "get"
  | .write => "set"
  | .refresh => "refresh"
  | .remove => "remove"

def operationOfName? (name : String) : Option SharedOperation :=
  [.read, .write, .refresh, .remove].find? fun operation => operationName operation == name

def name (call : SharedCall) : String := operationName call.operation

def failure : SharedCall → Failure
  | get _ | refresh _ => Failure.withText .read "mock: l2 read failed"
  | set .. => Failure.withText .write "mock: l2 write failed"
  | remove _ => Failure.withText .remove "mock: l2 remove failed"

end SharedCall

structure RecordingCache where
  data : Table
  operations : List SharedCall
  failsWhen : Option (SharedCall → Bool)
  failNext : Nat

namespace RecordingCache

def ofTable (data : Table) : RecordingCache := ⟨data, [], none, 0⟩

instance : Inhabited RecordingCache := ⟨ofTable Table.empty⟩

def fails (cache : RecordingCache) (operation : SharedCall) : Bool :=
  decide (0 < cache.failNext) || cache.failsWhen.any fun predicate => predicate operation

def perform {α : Type} (cache : RecordingCache) (operation : SharedCall)
    (effect : Table → α × Table) : Except Failure α × RecordingCache :=
  let recorded :=
    { cache with
      operations := cache.operations ++ [operation]
      failNext := cache.failNext - 1 }
  if cache.fails operation then (.error operation.failure, recorded)
  else (.ok (effect cache.data).1, { recorded with data := (effect cache.data).2 })

def get (key : String) (cache : RecordingCache) :
    Except Failure (Option Bytes) × RecordingCache :=
  cache.perform (.get key) fun data => (data.get? key, data)

def set (key : String) (bytes : Bytes) (options : EntryOptions) (cache : RecordingCache) :
    Except Failure Unit × RecordingCache :=
  cache.perform (.set key bytes options) fun data => ((), data.insert key bytes)

def refresh (key : String) (cache : RecordingCache) : Except Failure Unit × RecordingCache :=
  cache.perform (.refresh key) fun data => ((), data)

def remove (key : String) (cache : RecordingCache) : Except Failure Unit × RecordingCache :=
  cache.perform (.remove key) fun data => ((), data.erase key)

def failWhen (predicate : SharedCall → Bool) (cache : RecordingCache) : RecordingCache :=
  { cache with failsWhen := some predicate }

def failNextCalls (count : Nat) (cache : RecordingCache) : RecordingCache :=
  { cache with failNext := count }

def clearFailures (cache : RecordingCache) : RecordingCache :=
  { cache with failsWhen := none, failNext := 0 }

def clearOperations (cache : RecordingCache) : RecordingCache := { cache with operations := [] }

def toSharedCache {σ : Type} (cell : Cell σ RecordingCache) : SharedCache σ where
  get key := ExceptT.mk (cell.step (get key))
  set key bytes options := ExceptT.mk (cell.step (set key bytes options))
  refresh key := ExceptT.mk (cell.step (refresh key))
  remove key := ExceptT.mk (cell.step (remove key))

end RecordingCache

end TokenPersistence.Rehearsal
