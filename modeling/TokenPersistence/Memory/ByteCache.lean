import TokenPersistence.Context
import TokenPersistence.Memory.Eviction

/-!
# Caches of bytes with lifetimes

A byte cache keeps blobs under keys, each with a lifetime of its own: an entry is
gone from the moment on at which its lifetime has passed, and each insertion starts
a new one. A cache may have a limit on the weight of its entries. A limit of nothing
admits no entry at all. Otherwise a blob replaces the one under its key at once, and
after this and every other use the policy of the cache says what has to go. Time is the
uptime of the context.
-/

namespace TokenPersistence

set_option autoImplicit false

structure ByteCache where
  limit : Option Nat
  residents : Residents
  uses : List DatedUse
  deriving DecidableEq, Repr

namespace ByteCache

def empty (limit : Option Nat) : ByteCache := ⟨limit, [], []⟩

instance : Inhabited ByteCache := ⟨empty none⟩

variable (cache : ByteCache) (policy : EvictionPolicy) (uptime : Nat) (key : String)

def record : CacheRecord where
  limit := cache.limit
  uses := cache.uses
  tenants := cache.residents.map (Residents.tenant cache.limit.isSome)

def dropAll (keys : List String) : ByteCache :=
  { cache with residents := cache.residents.filter fun resident => !keys.contains resident.1 }

/-- Writes a use down, and drops what the policy evicts then. -/
def noteUse (use : CacheUse) : ByteCache :=
  let noted := { cache with uses := ⟨uptime, use⟩ :: cache.uses }
  noted.dropAll (policy.evicted noted.record)

def find? : Option CacheEntry :=
  (cache.residents.find? fun resident => resident.1 == key).map Prod.snd

def replace (entry : CacheEntry) : ByteCache :=
  { cache with residents := cache.residents.withLast key entry }

def insert (bytes : Bytes) (lifetime : Option Duration) : ByteCache :=
  if cache.limit = some 0 then cache
  else
    let entry : CacheEntry := ⟨bytes, lifetime.map fun duration => uptime + duration.nanos⟩
    let tenant := Residents.tenant cache.limit.isSome (key, entry)
    (cache.replace key entry).noteUse policy uptime
      (.insert tenant (cache.find? key).isSome)

def erase : ByteCache :=
  { cache with residents := cache.residents.without key }.noteUse policy uptime (.erase key)

def clear : ByteCache := { cache with residents := [] }.noteUse policy uptime .clear

/-- Has the policy do what it has put off. -/
def settle : ByteCache := cache.noteUse policy uptime .settle

def live? : Option CacheEntry := (cache.find? key).filter fun entry => entry.isLive uptime

def get? : Option Bytes := (cache.live? uptime key).map CacheEntry.bytes

/-- Marks a key as asked for, and its entry as used. -/
def touch : ByteCache :=
  let used := ((cache.live? uptime key).map (cache.replace key)).getD cache
  used.noteUse policy uptime (.lookup key)

def lookup : Option Bytes × ByteCache := (cache.get? uptime key, cache.touch policy uptime key)

/-- The number of entries and their weight, as the policy estimates them. -/
def census : Census := policy.census cache.record

end ByteCache

structure ByteCacheCell (σ : Type) extends Cell σ ByteCache where
  policy : EvictionPolicy

namespace ByteCacheCell

variable {σ : Type} (cache : ByteCacheCell σ)

def lookup (key : String) : Routine (Context σ) (Option Bytes) :=
  Routine.step fun context =>
    let found := (cache.get context.data).lookup cache.policy context.uptime key
    (found.1, { context with data := cache.put found.2 context.data })

def change (change : ByteCache → EvictionPolicy → Nat → ByteCache) :
    Routine (Context σ) Unit :=
  Routine.modify fun context =>
    let changed := change (cache.get context.data) cache.policy context.uptime
    { context with data := cache.put changed context.data }

def insert (key : String) (bytes : Bytes) (lifetime : Option Duration) :
    Routine (Context σ) Unit :=
  cache.change fun contents policy uptime => contents.insert policy uptime key bytes lifetime

def erase (key : String) : Routine (Context σ) Unit :=
  cache.change fun contents policy uptime => contents.erase policy uptime key

def clear : Routine (Context σ) Unit := cache.change ByteCache.clear

def settle : Routine (Context σ) Unit := cache.change ByteCache.settle

def census (context : Context σ) : Census := (cache.get context.data).census cache.policy

/-- Logs an access to the cache, with the number of entries after it. -/
def logAccess (access : NearAccess) (key : String) (size : Nat) : Routine (Context σ) Unit :=
  Routine.get fun context =>
    Routine.write (.nearAccess access key size (cache.census context).entries)

end ByteCacheCell

end TokenPersistence
