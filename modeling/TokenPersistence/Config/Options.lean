import TokenPersistence.Config.Times
import TokenPersistence.Memory.Store
import TokenPersistence.Tiered.Options

/-!
# Options in configuration text

The options of the stores are open records whose defaults are the standard options.
-/

namespace TokenPersistence.Config

set_option autoImplicit false

variable {ρ α : Type}

/-- A field whose value replaces a part of the record. -/
def field (name : String) (reader : Reader α) (store : α → ρ → ρ) : Field ρ where
  name
  read := fun record text =>
    (reader text).map fun reading => (store reading.1 record, reading.2)

def readWord64 : Reader UInt64 := fun text =>
  (readNatural (Nat.pow 2 64 - 1) text).map fun reading => (UInt64.ofNat reading.1, reading.2)

def memorySchema : Schema MemoryOptions where
  fields :=
    [field "absolute_expiration_relative_to_now" readDuration
        fun expiration options => { options with expiration },
      field "size_limit_bytes" (readOptional readWord64)
        fun sizeLimit options => { options with sizeLimit }]
  isOpen := true

def readMemoryOptions : Reader MemoryOptions :=
  readRecord memorySchema MemoryOptions.standard .ok

def tieredSchema : Schema TieredOptions where
  fields :=
    [field "disable_l1_cache" readFlag fun l1Disabled options => { options with l1Disabled },
      field "l1_size_limit_bytes" readWord64
        fun l1SizeLimit options => { options with l1SizeLimit },
      field "l1_expiration_time_ratio" readReal
        fun l1Share options => { options with l1Share },
      field "absolute_expiration" (readOptional readTimestamp)
        fun absolute options => { options with absolute },
      field "absolute_expiration_relative_to_now" (readOptional readDuration)
        fun relative options => { options with relative },
      field "sliding_expiration" (readOptional readDuration)
        fun sliding options => { options with sliding },
      field "enable_async_l2_write" readFlag
        fun asyncWrites options => { options with asyncWrites }]
  isOpen := true

def readTieredOptions : Reader TieredOptions :=
  readRecord tieredSchema TieredOptions.standard .ok

def memoryOptions (text : String) : Except Problem MemoryOptions :=
  readWhole readMemoryOptions text

def tieredOptions (text : String) : Except Problem TieredOptions :=
  readWhole readTieredOptions text

end TokenPersistence.Config
