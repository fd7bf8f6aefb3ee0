import TokenPersistence.Access

/-!
# Partition keys

A key provider decides under which key the partition of an access is kept. The
empty key means that the access has no partition.
-/

namespace TokenPersistence

set_option autoImplicit false

variable {σ : Type}

abbrev KeyProvider (σ : Type) := Access σ → Attempt String

namespace KeyProvider

def suggested : KeyProvider σ := fun access => .returned access.suggestedKey

/-- A prefix in front of a key; the empty key stays empty. -/
def withPrefix (keyPrefix key : String) : String :=
  if key.isEmpty then "" else keyPrefix ++ key

@[simp] theorem with_empty_prefix (key : String) : withPrefix "" key = key := by
  unfold withPrefix
  split
  · next vacant => exact (String.isEmpty_iff.mp vacant).symm
  · exact String.empty_append

theorem with_prefix_of_name (keyPrefix : String) {key : String} (named : key ≠ "") :
    withPrefix keyPrefix key = keyPrefix ++ key := by
  unfold withPrefix
  rw [if_neg (fun vacant => named (String.isEmpty_iff.mp vacant))]

theorem with_prefix_ne_empty (keyPrefix : String) {key : String} (named : key ≠ "") :
    withPrefix keyPrefix key ≠ "" := by
  rw [with_prefix_of_name keyPrefix named]
  intro vacant
  exact named (String.append_eq_empty_iff.mp vacant).2

/-- The suggested key in a namespace of its own. -/
def prefixed (keyPrefix : String) : KeyProvider σ := fun access =>
  .returned (withPrefix keyPrefix access.suggestedKey)

end KeyProvider

end TokenPersistence
