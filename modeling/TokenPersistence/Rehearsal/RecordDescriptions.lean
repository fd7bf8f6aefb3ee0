import TokenPersistence.Descriptions
import TokenPersistence.Rehearsal.RecordingCache
import TokenPersistence.Rehearsal.RecordingStore

/-!
# Descriptions of recordings

How the recording store and the recording cache describe their blobs, what they have
written down, and which failures are still to come.
-/

namespace TokenPersistence

set_option autoImplicit false

def Table.describe (table : Table) : String :=
  Text.mapping (table.entries.map fun entry => (entry.1, Text.bytes entry.2))

namespace Rehearsal

def describeGuarded (value : String) : String := Text.record "Mutex" [("data", value)]

def StoreOperation.describe (operation : StoreOperation) : String :=
  let expiryField (expiry : Option Timestamp) : String × String :=
    ("expiry", Text.optional (expiry.map Text.timestamp))
  match operation with
  | .read key expiry => Text.record "Read" [("key", Text.quoted key), expiryField expiry]
  | .write key bytes expiry =>
      Text.record "Write"
        [("key", Text.quoted key), ("bytes", Text.bytes bytes), expiryField expiry]
  | .remove key expiry => Text.record "Remove" [("key", Text.quoted key), expiryField expiry]

def RecordingStore.describe (store : RecordingStore) : String :=
  Text.record "MockStore"
    [("data", describeGuarded store.data.describe),
      ("operations",
        describeGuarded (Text.bracketed (store.operations.map StoreOperation.describe))),
      ("fail_when", Text.flag store.failsWhen.isSome)]

def SharedCall.describe : SharedCall → String
  | .get key => "Get(" ++ Text.quoted key ++ ")"
  | .set key bytes options =>
      Text.record "Set"
        [("key", Text.quoted key), ("bytes", Text.bytes bytes),
          ("options", options.describe)]
  | .refresh key => "Refresh(" ++ Text.quoted key ++ ")"
  | .remove key => "Remove(" ++ Text.quoted key ++ ")"

def RecordingCache.describe (cache : RecordingCache) : String :=
  Text.record "MockDistributedCache"
    [("data", cache.data.describe),
      ("operations", Text.bracketed (cache.operations.map SharedCall.describe)),
      ("fail_when", Text.flag cache.failsWhen.isSome),
      ("fail_next", toString cache.failNext)]

end Rehearsal

end TokenPersistence
