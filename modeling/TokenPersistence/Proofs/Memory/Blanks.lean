import TokenPersistence.Memory.ByteCache

/-!
# Caches with blank entries

Blobs of equal length are equal once they are blanked. A cache whose entries are blanked does
what the cache itself does: whatever its policy is, it is shown keys, weights and times alone,
so blanking the entries before or after makes no difference to what is kept, found or counted.
-/

namespace TokenPersistence

set_option autoImplicit false

/-- A blob of the same length that says nothing. -/
def Bytes.blank (bytes : Bytes) : Bytes := List.replicate bytes.length 0

@[simp] theorem Bytes.length_blank (bytes : Bytes) : (Bytes.blank bytes).length = bytes.length :=
  List.length_replicate

theorem Bytes.blank_eq_iff {first second : Bytes} :
    Bytes.blank first = Bytes.blank second ↔ first.length = second.length := by
  constructor
  · intro same
    simpa using congrArg List.length same
  · intro same
    rw [blank, blank, same]

def CacheEntry.blank (entry : CacheEntry) : CacheEntry :=
  { entry with bytes := Bytes.blank entry.bytes }

namespace Residents

def blank (residents : Residents) : Residents :=
  residents.map fun resident => (resident.1, resident.2.blank)

@[simp] theorem weight_blank (limited : Bool) (entry : CacheEntry) :
    weight limited entry.blank = weight limited entry := by
  simp [weight, CacheEntry.blank]

@[simp] theorem tenant_blank (limited : Bool) (resident : String × CacheEntry) :
    tenant limited (resident.1, resident.2.blank) = tenant limited resident := by
  rw [tenant, weight_blank]
  rfl

theorem filter_blank {keeps : String × CacheEntry → Bool}
    (blind : ∀ resident : String × CacheEntry,
      keeps (resident.1, resident.2.blank) = keeps resident)
    (residents : Residents) : (blank residents).filter keeps = blank (residents.filter keeps) := by
  rw [blank, List.filter_map]
  congr 1
  exact List.filter_congr fun resident _ => blind resident

@[simp] theorem without_blank (residents : Residents) (key : String) :
    (blank residents).without key = blank (residents.without key) :=
  filter_blank (fun _ => rfl) residents

@[simp] theorem with_last_blank (residents : Residents) (key : String) (entry : CacheEntry) :
    (blank residents).withLast key entry.blank = blank (residents.withLast key entry) := by
  rw [withLast, without_blank, withLast]
  simp [blank]

end Residents

namespace ByteCache

def blank (cache : ByteCache) : ByteCache :=
  { cache with residents := cache.residents.blank }

variable (cache : ByteCache) (policy : EvictionPolicy) (uptime : Nat) (key : String)

/-- A policy is shown the same, whether the entries are blank or not. -/
@[simp] theorem record_blank : cache.blank.record = cache.record := by
  have tenants : (Residents.blank cache.residents).map (Residents.tenant cache.limit.isSome) =
      cache.residents.map (Residents.tenant cache.limit.isSome) := by
    rw [Residents.blank, List.map_map]
    exact List.map_congr_left fun resident _ => Residents.tenant_blank _ resident
  simp only [record, blank, tenants]

@[simp] theorem drop_all_blank (keys : List String) :
    cache.blank.dropAll keys = (cache.dropAll keys).blank := by
  have kept : (Residents.blank cache.residents).filter
      (fun resident => !keys.contains resident.1) =
        Residents.blank (cache.residents.filter fun resident => !keys.contains resident.1) :=
    Residents.filter_blank (fun _ => rfl) cache.residents
  simp only [dropAll, blank, kept]

@[simp] theorem note_use_blank (use : CacheUse) :
    cache.blank.noteUse policy uptime use = (cache.noteUse policy uptime use).blank := by
  let noted := { cache with uses := ⟨uptime, use⟩ :: cache.uses }
  change noted.blank.dropAll (policy.evicted noted.blank.record) = _
  rw [record_blank, drop_all_blank]
  rfl

@[simp] theorem find_blank : cache.blank.find? key = (cache.find? key).map CacheEntry.blank := by
  simp only [find?, blank, Residents.blank, List.find?_map, Option.map_map]
  rfl

@[simp] theorem live_blank :
    cache.blank.live? uptime key = (cache.live? uptime key).map CacheEntry.blank := by
  rw [live?, find_blank, Option.filter_map]
  rfl

@[simp] theorem get_blank :
    cache.blank.get? uptime key = (cache.get? uptime key).map Bytes.blank := by
  simp only [get?, live_blank, Option.map_map]
  rfl

@[simp] theorem replace_blank (entry : CacheEntry) :
    cache.blank.replace key entry.blank = (cache.replace key entry).blank := by
  simp only [replace, blank, Residents.with_last_blank]

theorem touch_blank :
    cache.blank.touch policy uptime key = (cache.touch policy uptime key).blank := by
  unfold touch
  rw [live_blank]
  cases cache.live? uptime key with
  | none => exact note_use_blank cache policy uptime _
  | some entry =>
      simp only [Option.map_some, Option.getD_some, replace_blank]
      exact note_use_blank _ policy uptime _

theorem erase_blank :
    cache.blank.erase policy uptime key = (cache.erase policy uptime key).blank := by
  unfold erase
  rw [← note_use_blank]
  simp only [blank, Residents.without_blank]

theorem insert_blank (bytes : Bytes) (lifetime : Option Duration) :
    cache.blank.insert policy uptime key (Bytes.blank bytes) lifetime =
      (cache.insert policy uptime key bytes lifetime).blank := by
  have same : cache.blank.limit = cache.limit := rfl
  let entry : CacheEntry := ⟨bytes, lifetime.map fun duration => uptime + duration.nanos⟩
  unfold insert
  rw [same]
  split
  · rfl
  · change (cache.blank.replace key entry.blank).noteUse policy uptime
      (.insert (Residents.tenant _ (key, entry.blank)) (cache.blank.find? key).isSome) = _
    rw [replace_blank, note_use_blank, Residents.tenant_blank _ (key, entry), find_blank,
      Option.isSome_map]

variable {cache} {other : ByteCache} (same : cache.blank = other.blank)

include same

theorem get_length_of_blank :
    (cache.get? uptime key).map List.length = (other.get? uptime key).map List.length := by
  have found := cache.get_blank uptime key
  rw [same, get_blank] at found
  simpa only [Option.map_map, Function.comp_def, Bytes.length_blank] using
    congrArg (Option.map List.length) found.symm

theorem touch_of_blank :
    (cache.touch policy uptime key).blank = (other.touch policy uptime key).blank := by
  rw [← touch_blank, same, touch_blank]

theorem erase_of_blank :
    (cache.erase policy uptime key).blank = (other.erase policy uptime key).blank := by
  rw [← erase_blank, same, erase_blank]

theorem insert_of_blank {first second : Bytes} (lengths : first.length = second.length)
    (lifetime : Option Duration) :
    (cache.insert policy uptime key first lifetime).blank =
      (other.insert policy uptime key second lifetime).blank := by
  rw [← insert_blank, same, Bytes.blank_eq_iff.mpr lengths, insert_blank]

theorem census_of_blank : cache.census policy = other.census policy := by
  rw [census, census, ← record_blank, same, record_blank]

end ByteCache

end TokenPersistence
