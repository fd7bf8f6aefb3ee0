import TokenPersistence.Memory.ByteCache
import TokenPersistence.Store
import TokenPersistence.Tiered.Options
import TokenPersistence.Tiered.SharedCache
import TokenPersistence.Timed

/-!
# The tiered store

A tiered store answers from a cache in memory and otherwise from a shared cache,
whose answer it copies into memory. Failures of the shared cache stay inside: a
failed operation is tried once more if the retry predicate accepts its failure, and
is given up after that. A write may be handed to a spawner as a job that is carried
out later.
-/

namespace TokenPersistence

set_option autoImplicit false

/-- A write to the shared cache that has been put off. -/
structure BackgroundWrite where
  key : String
  bytes : Bytes
  options : EntryOptions
  deriving DecidableEq

abbrev RetryPredicate (σ : Type) := Failure → Routine (Context σ) Bool

/-- Takes a write that is to be carried out later. -/
abbrev Spawner (σ : Type) := BackgroundWrite → Routine (Context σ) Unit

structure TieredStore (σ : Type) where
  l1 : Option (ByteCacheCell σ)
  l1Lifetime : Option Duration
  l2 : SharedCache σ
  options : TieredOptions
  retry : Option (RetryPredicate σ)
  spawner : Option (Spawner σ)

namespace TieredStore

variable {σ α : Type}

def build (l1 : ByteCacheCell σ) (l2 : SharedCache σ) (options : TieredOptions)
    (retry : Option (RetryPredicate σ)) (spawner : Option (Spawner σ)) :
    Except Panic (Except OptionsProblem (TieredStore σ)) := do
  match options.validate with
  | .error problem => pure (.error problem)
  | .ok () =>
      if options.writesInBackground && spawner.isNone then pure (.error .spawnerMissing)
      else
        let l1Lifetime ← options.l1Lifetime
        pure (.ok
          { l1 := if options.l1Disabled then none else some l1
            l1Lifetime, l2, options, retry, spawner })

def initialCache (options : TieredOptions) : ByteCache :=
  ByteCache.empty (some options.l1SizeLimit.toNat)

/-- When an entry is to end: at the suggested expiry, or else at the configured one. -/
def deadline? (store : TieredStore σ) (hints : CallHints) : Option Timestamp :=
  hints.suggestedExpiry <|> store.options.absolute

/-- The lifetime in memory of an entry written at `now`: the time left until its
deadline, but no longer than copies live. -/
def l1Expiry (store : TieredStore σ) (hints : CallHints) (now : Timestamp) :
    Option Duration :=
  match (store.deadline? hints).map (·.remaining now),
      store.l1Lifetime with
  | some absolute, some relative => some (absolute.shorter relative)
  | absolute, relative => absolute <|> relative

/-- The lifetime in memory of an entry that is written at once. The clock is read only
for a deadline. -/
def currentL1Expiry (store : TieredStore σ) (hints : CallHints) :
    Routine (Context σ) (Option Duration) :=
  match store.deadline? hints with
  | none => pure store.l1Lifetime
  | some _ => Context.withClock fun now => pure (store.l1Expiry hints now)

def earliest : Option Timestamp → Option Timestamp → Option Timestamp
  | some first, some second => some (first.earlier second)
  | first, second => first <|> second

def entryOptions (store : TieredStore σ) (hints : CallHints) : EntryOptions where
  absolute := earliest hints.suggestedExpiry store.options.absolute
  relative := store.options.relative
  sliding := store.options.sliding

def shouldRetry (store : TieredStore σ) (failure : Failure) : Routine (Context σ) Bool :=
  match store.retry with
  | some predicate => predicate failure
  | none => pure false

def attemptShared (operation : SharedOperation) (key : String) (size : α → Nat)
    (retry : Bool) (work : Call σ α) : Routine (Context σ) (Except Failure α) := do
  let timed ← work.run.timed
  match timed.value with
  | .ok value => Routine.write (.sharedDone operation key (size value) retry timed.duration)
  | .error failure => Routine.write (.sharedFailed operation retry failure)
  pure timed.value

/-- An operation of the shared cache, tried a second time at most. -/
def callShared (store : TieredStore σ) (operation : SharedOperation) (key : String)
    (size : α → Nat) (work : Call σ α) : Routine (Context σ) (Option α) := do
  match ← attemptShared operation key size false work with
  | .ok value => pure (some value)
  | .error failure =>
      if ← store.shouldRetry failure then
        Routine.write (.sharedRetry operation key)
        match ← attemptShared operation key size true work with
        | .ok value => pure (some value)
        | .error _ => pure none
      else pure none

def foundSize (found : Option Bytes) : Nat := (found.map List.length).getD 0

def readShared (store : TieredStore σ) (key : String) (hints : CallHints) :
    Routine (Context σ) (Option Bytes) := do
  let timed ← (store.callShared .read key foundSize (store.l2.get key)).timed
  Routine.write (.sharedReadTime timed.duration)
  match timed.value.join with
  | none => pure none
  | some bytes => do
      hints.reportLevel .l2
      match store.l1 with
      | none => pure (some bytes)
      | some l1 => do
          Routine.write (.backPropagated key bytes.length)
          l1.insert key bytes store.l1Lifetime
          l1.logAccess .backPropagate key bytes.length
          pure (some bytes)

def readLevels (store : TieredStore σ) (key : String) (hints : CallHints) :
    Routine (Context σ) (Option Bytes) :=
  match store.l1 with
  | none => store.readShared key hints
  | some l1 => do
      let cached ← l1.lookup key
      l1.logAccess .read key (foundSize cached)
      match cached with
      | none => store.readShared key hints
      | some bytes => do
          discard (store.callShared .refresh key (fun _ => bytes.length) (store.l2.refresh key))
          hints.reportLevel .l1
          pure (some bytes)

def writeShared (store : TieredStore σ) (job : BackgroundWrite) : Routine (Context σ) Unit :=
  discard (store.callShared .write job.key (fun _ => job.bytes.length)
    (store.l2.set job.key job.bytes job.options))

def writeNear (store : TieredStore σ) (key : String) (bytes : Bytes) (hints : CallHints) :
    Routine (Context σ) Unit :=
  match store.l1 with
  | none => pure ()
  | some l1 => do
      let expiry ← store.currentL1Expiry hints
      l1.insert key bytes expiry
      l1.logAccess .write key bytes.length

def writeLevels (store : TieredStore σ) (key : String) (bytes : Bytes) (hints : CallHints) :
    Routine (Context σ) Unit := do
  store.writeNear key bytes hints
  let job : BackgroundWrite := ⟨key, bytes, store.entryOptions hints⟩
  match store.spawner with
  | some spawner =>
      if store.options.writesInBackground then spawner job else store.writeShared job
  | none => store.writeShared job

def removeLevels (store : TieredStore σ) (key : String) : Routine (Context σ) Unit := do
  match store.l1 with
  | none => pure ()
  | some l1 => do
      l1.erase key
      Routine.write (.nearRemoved key)
  discard (store.callShared .remove key (fun _ => 0) (store.l2.remove key))

def read (store : TieredStore σ) (key : String) (hints : CallHints) : Call σ (Option Bytes) :=
  hints.cancellable .read (ExceptT.lift (store.readLevels key hints))

def write (store : TieredStore σ) (key : String) (bytes : Bytes) (hints : CallHints) :
    Call σ Unit :=
  hints.cancellable .write (ExceptT.lift (store.writeLevels key bytes hints))

def remove (store : TieredStore σ) (key : String) (hints : CallHints) : Call σ Unit :=
  hints.cancellable .remove (ExceptT.lift (store.removeLevels key))

def toStore (store : TieredStore σ) : PartitionStore σ where
  read := store.read
  write := store.write
  remove := store.remove

end TieredStore

end TokenPersistence
