import TokenPersistence.Rehearsal.LeastRecent
import TokenPersistence.Rehearsal.Parts
import TokenPersistence.Rehearsal.RecordDescriptions

/-!
# Portraits

How the parts of an adapter describe themselves when they have been put together in
a given way: an adapter over a store that has nothing to show, the recording stores
after one write, and a tiered store without a cache in memory.
-/

namespace TokenPersistence.Rehearsal

set_option autoImplicit false

structure PortraitSetup where
  encryptor : Option EncryptorPart
  locked : Bool
  keyPrefix : Option String
  entry : Option (String × Bytes)
  relative : Option Duration
  failing : Bool
  options : TieredOptions

structure Portrait where
  adapter : String
  parts : String
  hooks : String
  sharedCache : String
  store : String
  tiered : String
  key : String
  level : String

namespace PortraitSetup

def idleStore : PartitionStore Unit where
  read _ _ := pure none
  write _ _ _ := pure ()
  remove _ _ := pure ()

def idleLock : WriteLock Unit where
  lock _ := pure ()
  unlock _ := pure ()

def idleSharedCache : SharedCache Unit where
  get _ := pure none
  set _ _ _ := pure ()
  refresh _ := pure ()
  remove _ := pure ()

def adapter (setup : PortraitSetup) : Adapter Unit where
  store := idleStore
  key :=
    match setup.keyPrefix with
    | some keyPrefix => KeyProvider.prefixed keyPrefix
    | none => KeyProvider.suggested
  protector := ⟨setup.encryptor.map EncryptorPart.toEncryptor⟩
  lock := if setup.locked then some idleLock else none
  observer := none

def recordingStore (setup : PortraitSetup) : RecordingStore :=
  let written :=
    match setup.entry with
    | some (key, bytes) => ((default : RecordingStore).write key bytes none).2
    | none => default
  if setup.failing then written.failWhen fun _ => true else written

def recordingCache (setup : PortraitSetup) : RecordingCache :=
  let written :=
    match setup.entry with
    | some (key, bytes) =>
        ((default : RecordingCache).set key bytes ⟨none, setup.relative, none⟩).2
    | none => default
  if setup.failing then (written.failWhen fun _ => true).failNextCalls 3 else written

def emptyCell : ByteCacheCell Unit where
  get _ := default
  put _ data := data
  policy := leastRecent

def tieredText (setup : PortraitSetup) : Except Panic String := do
  match ← TieredStore.build emptyCell idleSharedCache
      { setup.options with l1Disabled := true } none none with
  | .ok store => pure store.describeWithoutL1
  | .error problem => pure problem.message

def paint (setup : PortraitSetup) : Except Panic Portrait := do
  let tiered ← setup.tieredText
  pure
    { adapter := setup.adapter.describe "Unit" (describeKey setup.keyPrefix)
      parts := setup.adapter.describeParts "Unit" (describeKey setup.keyPrefix)
      hooks := setup.adapter.hooks.describe
      sharedCache := setup.recordingCache.describe
      store := setup.recordingStore.describe
      tiered
      key := describeKey none
      level := CacheLevel.none.name }

end PortraitSetup

end TokenPersistence.Rehearsal
