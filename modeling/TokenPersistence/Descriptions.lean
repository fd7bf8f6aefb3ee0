import TokenPersistence.Adapter
import TokenPersistence.Cipher.SealedPayload
import TokenPersistence.Memory.Store
import TokenPersistence.Text.Description
import TokenPersistence.Tiered.Store

/-!
# Descriptions of the parts of the library

How options, accesses, adapters and their parts describe themselves. What cannot be
shown, or must not be, is shown as a flag or left out: ciphers never show
their key, accesses never show their collection.
-/

namespace TokenPersistence

set_option autoImplicit false

variable {σ : Type}

def MemoryOptions.describe (options : MemoryOptions) : String :=
  Text.record "MemoryTokenCacheOptions"
    [("absolute_expiration_relative_to_now", Text.duration options.expiration),
      ("size_limit_bytes",
        Text.optional (options.sizeLimit.map fun limit => toString limit.toNat))]

def TieredOptions.describe (options : TieredOptions) (retries : Bool) : String :=
  Text.record "DistributedTokenCacheOptions"
    [("disable_l1_cache", Text.flag options.l1Disabled),
      ("l1_size_limit_bytes", toString options.l1SizeLimit.toNat),
      ("l1_expiration_time_ratio", Text.number options.l1Share),
      ("absolute_expiration", Text.optional (options.absolute.map Text.timestamp)),
      ("absolute_expiration_relative_to_now",
        Text.optional (options.relative.map Text.duration)),
      ("sliding_expiration", Text.optional (options.sliding.map Text.duration)),
      ("enable_async_l2_write", Text.flag options.asyncWrites),
      ("on_l2_failure", Text.flag retries)]

def EntryOptions.describe (options : EntryOptions) : String :=
  Text.record "DistributedEntryOptions"
    [("absolute_expiration", Text.optional (options.absolute.map Text.timestamp)),
      ("absolute_expiration_relative_to_now",
        Text.optional (options.relative.map Text.duration)),
      ("sliding_expiration", Text.optional (options.sliding.map Text.duration))]

def Access.describe (access : Access σ) (context : Context σ) : String :=
  Text.partialRecord "AccessEvent"
    [("suggested_key", Text.quoted access.suggestedKey),
      ("has_state_changed", Text.flag access.stateChanged),
      ("has_tokens", Text.flag access.hasTokens),
      ("is_app_cache", Text.flag access.appCache),
      ("cancelled", Text.flag (access.isCancelled context)),
      ("suggested_expiry", Text.optional (access.suggestedExpiry.map Text.timestamp)),
      ("no_distributed_cache_reason",
        Text.optional (access.noSharedCacheReason.map Text.quoted))]

def Protector.describe (protector : Protector) : String :=
  Text.record "Protector" [("enabled", Text.flag protector.isEnabled)]

def SealingEncryptor.describe (encryptor : SealingEncryptor) : String :=
  Text.partialRecord "AesGcmEncryptor" [("purpose", Text.quoted encryptor.purpose)]

def SafeWiring.describe (wiring : SafeWiring σ) : String :=
  Text.record "SafeMode" [("observer", Text.flag wiring.observer.isSome)]

def AccessHooks.describe (_ : AccessHooks σ) : String := "AccessHooks \x7b .. \x7d"

def describeKey (keyPrefix : Option String) : String :=
  match keyPrefix with
  | none => "SuggestedKey"
  | some keyPrefix => Text.record "PrefixedKey" [("prefix", Text.quoted keyPrefix)]

def Adapter.describe (adapter : Adapter σ) (store key : String) : String :=
  Text.partialRecord "TokenCacheProvider"
    [("store", store), ("key_provider", key),
      ("protector", adapter.protector.describe),
      ("write_lock", Text.flag adapter.lock.isSome)]

def Adapter.describeParts (adapter : Adapter σ) (store key : String) : String :=
  Text.partialRecord "TokenCacheProviderBuilder"
    [("store", store), ("key_provider", key),
      ("encryptor", Text.flag adapter.protector.isEnabled),
      ("write_lock", Text.flag adapter.lock.isSome)]

def TieredStore.describeWithoutL1 (store : TieredStore σ) : String :=
  Text.partialRecord "DistributedTokenCache"
    [("l1", "None"), ("options", store.options.describe store.retry.isSome)]

end TokenPersistence
