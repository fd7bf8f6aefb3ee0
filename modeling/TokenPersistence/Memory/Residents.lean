import TokenPersistence.Bytes

/-!
# The residents of a cache

The residents of a cache are its entries under their keys, in the order of their last
use: the one that has been out of use for longest stands first. Whoever has to decide
which of them stay sees tenants, of which nothing but the key, the weight and the end
of the lifetime is known.
-/

namespace TokenPersistence

set_option autoImplicit false

structure CacheEntry where
  bytes : Bytes
  expiresAt : Option Nat
  deriving DecidableEq, Repr

/-- The entry is read until its last moment, not at it. -/
def CacheEntry.isLive (entry : CacheEntry) (uptime : Nat) : Bool :=
  entry.expiresAt.all fun expiry => decide (uptime < expiry)

structure Tenant where
  key : String
  weight : Nat
  expiresAt : Option Nat
  deriving DecidableEq, Repr

namespace Tenant

def totalWeight : List Tenant → Nat
  | [] => 0
  | tenant :: others => tenant.weight + totalWeight others

@[simp] theorem total_weight_append (tenants others : List Tenant) :
    totalWeight (tenants ++ others) = totalWeight tenants + totalWeight others := by
  induction tenants with
  | nil => simp [totalWeight]
  | cons tenant rest ih => simp [totalWeight, ih, Nat.add_assoc]

theorem total_weight_perm {tenants others : List Tenant} (same : tenants.Perm others) :
    totalWeight tenants = totalWeight others := by
  induction same with
  | nil => rfl
  | cons tenant _ ih => rw [totalWeight, totalWeight, ih]
  | swap first second rest =>
      simp only [totalWeight]
      omega
  | trans _ _ first second => exact first.trans second

theorem total_weight_filter_le (keeps : Tenant → Bool) (tenants : List Tenant) :
    totalWeight (tenants.filter keeps) ≤ totalWeight tenants := by
  rw [← total_weight_perm (List.filter_append_perm keeps tenants), total_weight_append]
  exact Nat.le_add_right _ _

end Tenant

def heaviest : Nat := Nat.pow 2 32 - 1

abbrev Residents := List (String × CacheEntry)

namespace Residents

/-- In a cache with a limit an entry weighs as many units as its blob has bytes, but
never more than the heaviest weight; in any other it weighs one unit. -/
def weight (limited : Bool) (entry : CacheEntry) : Nat :=
  if limited then Nat.min entry.bytes.length heaviest else 1

def tenant (limited : Bool) (resident : String × CacheEntry) : Tenant where
  key := resident.1
  weight := weight limited resident.2
  expiresAt := resident.2.expiresAt

def without (residents : Residents) (key : String) : Residents :=
  residents.filter fun resident => resident.1 != key

/-- Lets an entry be the one that was used last. -/
def withLast (residents : Residents) (key : String) (entry : CacheEntry) : Residents :=
  residents.without key ++ [(key, entry)]

end Residents

end TokenPersistence
