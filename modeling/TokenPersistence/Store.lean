import TokenPersistence.Hints

/-!
# Partition stores

A store keeps one partition under each key. Every operation takes hints; callers
that have none pass the empty ones.
-/

namespace TokenPersistence

set_option autoImplicit false

structure PartitionStore (σ : Type) where
  read : String → CallHints → Call σ (Option Bytes)
  write : String → Bytes → CallHints → Call σ Unit
  remove : String → CallHints → Call σ Unit

end TokenPersistence
