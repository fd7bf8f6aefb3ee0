import TokenPersistence.Memory.ByteCache
import TokenPersistence.Store

/-!
# The store in memory

Partitions live in a byte cache, for the configured time or until the expiry that
the caller suggests, whichever comes first; a suggestion in the past still leaves
one millisecond.
-/

namespace TokenPersistence

set_option autoImplicit false

structure MemoryOptions where
  expiration : Duration
  sizeLimit : Option UInt64
  deriving DecidableEq

namespace MemoryOptions

/-- Entries are kept for two weeks, and there is no limit on their size. -/
def standard : MemoryOptions := ⟨Duration.ofDays 14, none⟩

instance : Inhabited MemoryOptions := ⟨standard⟩

end MemoryOptions

structure MemoryStore (σ : Type) where
  cache : ByteCacheCell σ
  options : MemoryOptions

namespace MemoryStore

variable {σ : Type}

def initialCache (options : MemoryOptions) : ByteCache :=
  ByteCache.empty (options.sizeLimit.map UInt64.toNat)

def lifetime (options : MemoryOptions) (hints : CallHints) (now : Timestamp) : Duration :=
  match hints.suggestedExpiry with
  | none => options.expiration
  | some suggested => Duration.shorter (suggested.remaining now) options.expiration

/-- The lifetime of an entry that is written at once. The clock is read only for a
suggested expiry. -/
def currentLifetime (store : MemoryStore σ) (hints : CallHints) :
    Routine (Context σ) Duration :=
  match hints.suggestedExpiry with
  | none => pure store.options.expiration
  | some _ => Context.withClock fun now => pure (lifetime store.options hints now)

def read (store : MemoryStore σ) (key : String) (hints : CallHints) :
    Call σ (Option Bytes) := do
  let found ← hints.cancellable .read (ExceptT.lift (store.cache.lookup key))
  if found.isSome then ExceptT.lift (hints.reportLevel .l1)
  Call.log (.memoryRead key found.isSome)
  pure found

def write (store : MemoryStore σ) (key : String) (bytes : Bytes) (hints : CallHints) :
    Call σ Unit := do
  let expiry ← ExceptT.lift (store.currentLifetime hints)
  hints.cancellable .write (ExceptT.lift (store.cache.insert key bytes (some expiry)))

def remove (store : MemoryStore σ) (key : String) (hints : CallHints) : Call σ Unit :=
  hints.cancellable .remove (ExceptT.lift (store.cache.erase key))

def toStore (store : MemoryStore σ) : PartitionStore σ where
  read := store.read
  write := store.write
  remove := store.remove

end MemoryStore

end TokenPersistence
