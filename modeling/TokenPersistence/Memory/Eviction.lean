import TokenPersistence.Memory.Residents

/-!
# Eviction policies

Which entries a cache gives up, and when, is left to a policy. A policy goes by a record:
the limit of the cache, the uses that were made of it with the uptime of each, and the
tenants. It sees no blob, so it cannot but treat blobs of equal length alike. It may put
its work off, let a newcomer enter and give it up later, or give up an entry that was read
a moment ago. Two things are certain. In a cache without a limit nothing has to go before
its lifetime is over. And once the cache has been settled, which means that all work put
off is done, the tenants that stay weigh no more than the limit.
-/

namespace TokenPersistence

set_option autoImplicit false

inductive CacheUse where
  | lookup (key : String)
  | insert (tenant : Tenant) (replaces : Bool)
  | erase (key : String)
  | clear
  | settle
  deriving DecidableEq, Repr

structure DatedUse where
  uptime : Nat
  use : CacheUse
  deriving DecidableEq, Repr

/-- What a policy may look at. The latest use stands first. -/
structure CacheRecord where
  limit : Option Nat
  uses : List DatedUse
  tenants : List Tenant

namespace CacheRecord

def uptime (record : CacheRecord) : Nat := (record.uses.head?.map DatedUse.uptime).getD 0

/-- Nothing has been put off since the last use. -/
def isSettled (record : CacheRecord) : Bool :=
  record.uses.head?.any fun dated => dated.use == .settle

def staying (record : CacheRecord) (leaving : List String) : List Tenant :=
  record.tenants.filter fun tenant => !leaving.contains tenant.key

end CacheRecord

structure Census where
  entries : Nat
  weight : Nat
  deriving DecidableEq, Repr

/-- The policy evicts what is under some keys after each use. The census that it gives is
an estimate. -/
structure EvictionPolicy where
  evicted : CacheRecord → List String
  census : CacheRecord → Census
  patient : ∀ record : CacheRecord, record.limit = none → ∀ key ∈ evicted record,
    ∃ tenant ∈ record.tenants, tenant.key = key ∧
      ∃ expiry, tenant.expiresAt = some expiry ∧ expiry ≤ record.uptime
  bounded : ∀ (record : CacheRecord) (most : Nat), record.limit = some most →
    record.isSettled = true → Tenant.totalWeight (record.staying (evicted record)) ≤ most

end TokenPersistence
