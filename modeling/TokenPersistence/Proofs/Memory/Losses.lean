import TokenPersistence.Memory.ByteCache
import TokenPersistence.Proofs.Routine.Returns

/-!
# What a byte cache may hold

A byte cache may lose any of its entries at any time, by their age, for want of room
or because its owner drops them; what it never does is to hold an entry that nobody
put there. An insertion leaves entries that were there before under other keys, and
perhaps the new one: also where the new blob is refused, nothing old stays under its
key. The blobs of a cache agree with a map if each of them is what the map has under
its key; losses keep such an agreement, and so do the operations, when the map changes
with them.
-/

namespace TokenPersistence

set_option autoImplicit false

namespace Residents

theorem mem_without {residents : Residents} {key : String} {resident : String × CacheEntry}
    (present : resident ∈ residents.without key) :
    resident ∈ residents ∧ resident.1 ≠ key := by
  unfold without at present
  simpa using present

theorem mem_with_last {residents : Residents} {key : String} {entry : CacheEntry}
    {resident : String × CacheEntry} (present : resident ∈ residents.withLast key entry) :
    resident = (key, entry) ∨ resident ∈ residents ∧ resident.1 ≠ key := by
  unfold withLast at present
  rcases List.mem_append.mp present with before | last
  · exact Or.inr (mem_without before)
  · exact Or.inl (List.mem_singleton.mp last)

end Residents

namespace ByteCache

/-- Entries may have been lost, and the marks of their use may have changed. -/
structure Losses (before after : ByteCache) : Prop where
  limit : after.limit = before.limit
  residents : after.residents ⊆ before.residents

theorem Losses.refl (cache : ByteCache) : Losses cache cache :=
  ⟨rfl, List.Subset.refl _⟩

theorem Losses.trans {first second third : ByteCache} (earlier : Losses first second)
    (later : Losses second third) : Losses first third :=
  ⟨later.limit.trans earlier.limit, List.Subset.trans later.residents earlier.residents⟩

/-- Every entry is what a map has under its key, and a cache that admits nothing is
empty. -/
structure Agrees (cache : ByteCache) (shared : String → Option Bytes) : Prop where
  blobs : ∀ resident ∈ cache.residents, shared resident.1 = some resident.2.bytes
  closed : cache.limit = some 0 → cache.residents = []

theorem agrees_empty (limit : Option Nat) (shared : String → Option Bytes) :
    (empty limit).Agrees shared :=
  ⟨by simp [empty], fun _ => rfl⟩

theorem Agrees.losses {before after : ByteCache} {shared : String → Option Bytes}
    (agrees : before.Agrees shared) (losses : Losses before after) : after.Agrees shared := by
  refine ⟨fun resident present => agrees.blobs resident (losses.residents present), ?_⟩
  intro admitsNothing
  have empty := agrees.closed (losses.limit.symm.trans admitsNothing)
  exact List.subset_nil.mp (empty ▸ losses.residents)

theorem find_mem {cache : ByteCache} {key : String} {entry : CacheEntry}
    (found : cache.find? key = some entry) : (key, entry) ∈ cache.residents := by
  unfold find? at found
  obtain ⟨resident, first, rfl⟩ := Option.map_eq_some_iff.mp found
  have same : resident.1 = key := by simpa using List.find?_some first
  subst same
  exact List.mem_of_find?_eq_some first

theorem absent_of_find_none {cache : ByteCache} {key : String}
    (missing : (cache.find? key).isSome = false) :
    ∀ resident ∈ cache.residents, resident.1 ≠ key := by
  intro resident present same
  have unfound : cache.find? key = none := by simpa using missing
  unfold find? at unfound
  have passed := List.find?_eq_none.mp (Option.map_eq_none_iff.mp unfound) resident present
  simp [same] at passed

theorem live_mem {cache : ByteCache} {uptime : Nat} {key : String} {entry : CacheEntry}
    (alive : cache.live? uptime key = some entry) : (key, entry) ∈ cache.residents :=
  find_mem (Option.filter_eq_some_iff.mp alive).1

theorem Agrees.get {cache : ByteCache} {shared : String → Option Bytes}
    (agrees : cache.Agrees shared) {uptime : Nat} {key : String} {bytes : Bytes}
    (cached : cache.get? uptime key = some bytes) : shared key = some bytes := by
  obtain ⟨entry, alive, rfl⟩ := Option.map_eq_some_iff.mp cached
  exact agrees.blobs _ (live_mem alive)

theorem losses_note_use (cache : ByteCache) (policy : EvictionPolicy) (uptime : Nat)
    (use : CacheUse) : Losses cache (cache.noteUse policy uptime use) :=
  ⟨rfl, List.filter_sublist.subset⟩

variable (policy : EvictionPolicy)

theorem losses_erase (cache : ByteCache) (uptime : Nat) (key : String) :
    Losses cache (cache.erase policy uptime key) := by
  refine Losses.trans ?_ (losses_note_use _ policy uptime _)
  exact ⟨rfl, List.filter_sublist.subset⟩

theorem losses_clear (cache : ByteCache) (uptime : Nat) :
    Losses cache (cache.clear policy uptime) := by
  refine Losses.trans ?_ (losses_note_use _ policy uptime _)
  exact ⟨rfl, List.nil_subset _⟩

theorem losses_settle (cache : ByteCache) (uptime : Nat) :
    Losses cache (cache.settle policy uptime) :=
  losses_note_use cache policy uptime .settle

theorem losses_touch (cache : ByteCache) (uptime : Nat) (key : String) :
    Losses cache (cache.touch policy uptime key) := by
  refine Losses.trans ?_ (losses_note_use _ policy uptime _)
  cases alive : cache.live? uptime key with
  | none => exact Losses.refl cache
  | some entry =>
      refine ⟨rfl, ?_⟩
      intro resident present
      rcases Residents.mem_with_last present with rfl | ⟨earlier, _⟩
      · exact live_mem alive
      · exact earlier

variable {policy}

@[simp] theorem limit_insert (cache : ByteCache) (uptime : Nat) (key : String) (bytes : Bytes)
    (lifetime : Option Duration) :
    (cache.insert policy uptime key bytes lifetime).limit = cache.limit := by
  unfold insert
  split <;> rfl

theorem insert_closed {cache : ByteCache} (closed : cache.limit = some 0) (uptime : Nat)
    (key : String) (bytes : Bytes) (lifetime : Option Duration) :
    cache.insert policy uptime key bytes lifetime = cache := by
  unfold insert
  rw [if_pos closed]

/-- What is in a cache that admits something was there before the insertion, under another
key, or is the new entry with the end of its lifetime. -/
theorem mem_insert_renewed {cache : ByteCache} {uptime : Nat} {key : String} {bytes : Bytes}
    {lifetime : Option Duration} {resident : String × CacheEntry}
    (admits : cache.limit ≠ some 0)
    (present : resident ∈ (cache.insert policy uptime key bytes lifetime).residents) :
    resident = (key, ⟨bytes, lifetime.map fun duration => uptime + duration.nanos⟩) ∨
      resident ∈ cache.residents ∧ resident.1 ≠ key := by
  unfold insert at present
  rw [if_neg admits] at present
  exact Residents.mem_with_last ((losses_note_use _ policy uptime _).residents present)

theorem mem_insert {cache : ByteCache} {uptime : Nat} {key : String} {bytes : Bytes}
    {lifetime : Option Duration} {resident : String × CacheEntry}
    (present : resident ∈ (cache.insert policy uptime key bytes lifetime).residents) :
    resident = (key, ⟨bytes, lifetime.map fun duration => uptime + duration.nanos⟩) ∨
      resident ∈ cache.residents := by
  by_cases closed : cache.limit = some 0
  · rw [insert_closed closed] at present
    exact Or.inr present
  · exact (mem_insert_renewed closed present).imp_right And.left

theorem mem_erase {cache : ByteCache} {uptime : Nat} {key : String}
    {resident : String × CacheEntry}
    (present : resident ∈ (cache.erase policy uptime key).residents) :
    resident ∈ cache.residents ∧ resident.1 ≠ key :=
  Residents.mem_without ((losses_note_use _ policy uptime _).residents present)

/-- An insertion keeps the agreement with a map that changes along with it. A cache that
admits nothing ignores the insertion, but then it is empty. -/
theorem Agrees.insert {cache : ByteCache} {shared changed : String → Option Bytes}
    {key : String} {bytes : Bytes} (agrees : cache.Agrees shared)
    (here : changed key = some bytes)
    (elsewhere : ∀ other, other ≠ key → changed other = shared other)
    (uptime : Nat) (lifetime : Option Duration) :
    (cache.insert policy uptime key bytes lifetime).Agrees changed := by
  by_cases admitsNothing : cache.limit = some 0
  · rw [insert_closed admitsNothing]
    exact ⟨by simp [agrees.closed admitsNothing], agrees.closed⟩
  · refine ⟨?_, fun closed => absurd ((limit_insert ..).symm.trans closed) admitsNothing⟩
    intro resident present
    rcases mem_insert_renewed admitsNothing present with rfl | ⟨old, other⟩
    · exact here
    · rw [elsewhere _ other]
      exact agrees.blobs resident old

theorem Agrees.erase {cache : ByteCache} {shared changed : String → Option Bytes}
    {key : String} (agrees : cache.Agrees shared)
    (elsewhere : ∀ other, other ≠ key → changed other = shared other) (uptime : Nat) :
    (cache.erase policy uptime key).Agrees changed := by
  refine ⟨?_, (agrees.losses (losses_erase policy cache uptime key)).closed⟩
  intro resident present
  obtain ⟨old, other⟩ := mem_erase present
  rw [elsewhere _ other]
  exact agrees.blobs resident old

end ByteCache

namespace ByteCacheCell

variable {σ : Type}

@[simp] theorem returns_lookup (cache : ByteCacheCell σ) (key : String) (start : Context σ)
    (post : Option Bytes → Context σ → Prop) :
    (cache.lookup key).Returns start post ↔
      post ((cache.get start.data).get? start.uptime key)
        { start with
          data := cache.put ((cache.get start.data).touch cache.policy start.uptime key)
            start.data } := by
  simp [lookup, ByteCache.lookup]

@[simp] theorem returns_insert (cache : ByteCacheCell σ) (key : String) (bytes : Bytes)
    (lifetime : Option Duration) (start : Context σ) (post : Unit → Context σ → Prop) :
    (cache.insert key bytes lifetime).Returns start post ↔
      post () { start with
        data := cache.put
          ((cache.get start.data).insert cache.policy start.uptime key bytes lifetime)
          start.data } := by
  simp [insert, change]

@[simp] theorem returns_erase (cache : ByteCacheCell σ) (key : String) (start : Context σ)
    (post : Unit → Context σ → Prop) :
    (cache.erase key).Returns start post ↔
      post () { start with
        data := cache.put ((cache.get start.data).erase cache.policy start.uptime key)
          start.data } := by
  simp [erase, change]

@[simp] theorem returns_log_access (cache : ByteCacheCell σ) (access : NearAccess)
    (key : String) (size : Nat) (start : Context σ) (post : Unit → Context σ → Prop) :
    (cache.logAccess access key size).Returns start post ↔ post () start :=
  Routine.returns_done () start post

end ByteCacheCell

end TokenPersistence
