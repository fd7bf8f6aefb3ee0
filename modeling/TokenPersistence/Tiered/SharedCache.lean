import TokenPersistence.Context

/-!
# Shared caches

A cache that several instances share. Refreshing an entry only starts its sliding
window anew. An entry may be given a point in time at which it ends, a lifetime, and
a sliding window.
-/

namespace TokenPersistence

set_option autoImplicit false

structure EntryOptions where
  absolute : Option Timestamp
  relative : Option Duration
  sliding : Option Duration
  deriving DecidableEq

structure SharedCache (σ : Type) where
  get : String → Call σ (Option Bytes)
  set : String → Bytes → EntryOptions → Call σ Unit
  refresh : String → Call σ Unit
  remove : String → Call σ Unit

end TokenPersistence
