import Mathlib.Logic.Function.Basic
import TokenPersistence.Proofs.Memory.Losses
import TokenPersistence.Proofs.Rehearsal.Cells
import TokenPersistence.Proofs.Tiered.Calls

/-!
# Instances that share a cache

Several tiered stores stand in front of one shared cache, each with a memory of its own.
The shared cache never fails and is changed by nobody else; meanwhile time passes, and a
memory may lose entries. A memory takes no notice of what other instances do, so what it
holds may be out of date. But every blob in it is dated by a moment: the shared cache had
that blob just after some call, and the entry ends within a lifetime from there. A write
has the entry in memory before the shared cache has it; it is then dated by the moment
that the call is about to reach.
-/

namespace TokenPersistence

set_option autoImplicit false

variable {σ ι α : Type}

/-- Stores in front of one shared cache, what that has under each key, and when it can be
relied on. -/
structure Fleet (σ ι : Type) where
  stores : ι → TieredStore σ
  shared : SharedCache σ
  contents : σ → String → Option Bytes
  reliable : σ → Prop

/-- A point of the uptime, and what the shared cache had then. -/
structure Moment where
  time : Nat
  contents : String → Option Bytes

/-- The shared cache had the blob at the moment, and the entry ends within the lifetime
from there. -/
def Moment.Dates (moment : Moment) (lifetime : Duration) (resident : String × CacheEntry) :
    Prop :=
  moment.contents resident.1 = some resident.2.bytes ∧
    ∃ deadline, resident.2.expiresAt = some deadline ∧
      deadline ≤ moment.time + lifetime.nanos

namespace Fleet

/-- Time passes, and memories may lose entries. -/
structure Passing (fleet : Fleet σ ι) (before after : Context σ) : Prop where
  forward : before.uptime ≤ after.uptime
  near : ∀ index l1, (fleet.stores index).l1 = some l1 →
    ByteCache.Losses (l1.get before.data) (l1.get after.data)

/-- The clock works, and so does the shared cache, which has this. -/
structure Stands (fleet : Fleet σ ι) (map : String → Option Bytes) (now : Context σ) :
    Prop where
  clock : now.clockIsBroken = false
  reliable : fleet.reliable now.data
  contents : fleet.contents now.data = map

/-- The operation succeeds with the value and changes the shared cache to this. -/
def Does (fleet : Fleet σ ι) (work : Call σ α) (now : Context σ) (value : α)
    (changed : String → Option Bytes) : Prop :=
  work.run.Returns now fun outcome after =>
    outcome = .ok value ∧ fleet.Stands changed after ∧ fleet.Passing now after

/-- The shared cache does what it is told, and the memories are apart from it and from
each other. -/
structure Serves (fleet : Fleet σ ι) : Prop where
  nearLawful : ∀ index l1, (fleet.stores index).l1 = some l1 → l1.Lawful
  nearApart : ∀ index other mine theirs, index ≠ other →
    (fleet.stores index).l1 = some mine → (fleet.stores other).l1 = some theirs →
      mine.Spares theirs.toCell
  near : ∀ index l1, (fleet.stores index).l1 = some l1 → ∀ cache map now,
    fleet.Stands map now → fleet.Stands map { now with data := l1.put cache now.data }
  get : ∀ key map now, fleet.Stands map now →
    fleet.Does (fleet.shared.get key) now (map key) map
  refresh : ∀ key map now, fleet.Stands map now →
    fleet.Does (fleet.shared.refresh key) now () map
  set : ∀ key bytes options map now, fleet.Stands map now →
    fleet.Does (fleet.shared.set key bytes options) now ()
      (Function.update map key (some bytes))
  remove : ∀ key map now, fleet.Stands map now →
    fleet.Does (fleet.shared.remove key) now () (Function.update map key none)

variable {fleet : Fleet σ ι} {map changed : String → Option Bytes} {moments : List Moment}

theorem Passing.refl (now : Context σ) : fleet.Passing now now :=
  ⟨Nat.le_refl _, fun _ _ _ => ByteCache.Losses.refl _⟩

theorem Passing.trans {first second third : Context σ} (earlier : fleet.Passing first second)
    (later : fleet.Passing second third) : fleet.Passing first third :=
  ⟨Nat.le_trans earlier.forward later.forward, fun index l1 enabled =>
    (earlier.near index l1 enabled).trans (later.near index l1 enabled)⟩

theorem passing_report (hints : CallHints) (level : CacheLevel) (now : Context σ) :
    fleet.Passing now (hints.report level now) := by
  refine ⟨by simp, ?_⟩
  intro index l1 _
  rw [CallHints.data_report]
  exact ByteCache.Losses.refl _

theorem Stands.report {now : Context σ} (stands : fleet.Stands map now) (hints : CallHints)
    (level : CacheLevel) : fleet.Stands map (hints.report level now) := by
  refine ⟨?_, ?_, ?_⟩
  · rw [CallHints.clock_report]
    exact stands.clock
  · rw [CallHints.data_report]
    exact stands.reliable
  · rw [CallHints.data_report]
    exact stands.contents

theorem Serves.passing_near (serves : fleet.Serves) {index : ι} {l1 : ByteCacheCell σ}
    (enabled : (fleet.stores index).l1 = some l1) {cache : ByteCache} {now : Context σ}
    (losses : ByteCache.Losses (l1.get now.data) cache) :
    fleet.Passing now { now with data := l1.put cache now.data } := by
  refine ⟨Nat.le_refl _, ?_⟩
  intro other theirs enabledThere
  by_cases same : index = other
  · subst same
    rw [enabled] at enabledThere
    cases enabledThere
    rw [(serves.nearLawful index l1 enabled).get_put]
    exact losses
  · rw [serves.nearApart index other l1 theirs same enabled enabledThere]
    exact ByteCache.Losses.refl _

/-- Every blob in a memory is dated by one of the moments, which are all past. -/
structure Timely (fleet : Fleet σ ι) (moments : List Moment) (now : Context σ) : Prop where
  past : ∀ moment ∈ moments, moment.time ≤ now.uptime
  dated : ∀ index l1 lifetime, (fleet.stores index).l1 = some l1 →
    (fleet.stores index).l1Lifetime = some lifetime →
      ∀ resident ∈ (l1.get now.data).residents, ∃ moment ∈ moments, moment.Dates lifetime resident

theorem Timely.passing {before after : Context σ} (timely : fleet.Timely moments before)
    (passing : fleet.Passing before after) : fleet.Timely moments after := by
  refine ⟨fun moment known => Nat.le_trans (timely.past moment known) passing.forward, ?_⟩
  intro index l1 lifetime enabled copies resident present
  exact timely.dated index l1 lifetime enabled copies resident
    ((passing.near index l1 enabled).residents present)

theorem Timely.also {now : Context σ} (timely : fleet.Timely moments now)
    (map : String → Option Bytes) : fleet.Timely (⟨now.uptime, map⟩ :: moments) now := by
  refine ⟨?_, ?_⟩
  · intro moment known
    rcases List.mem_cons.mp known with rfl | earlier
    · exact Nat.le_refl _
    · exact timely.past moment earlier
  · intro index l1 lifetime enabled copies resident present
    obtain ⟨moment, known, dates⟩ :=
      timely.dated index l1 lifetime enabled copies resident present
    exact ⟨moment, List.mem_cons_of_mem _ known, dates⟩

/-- The last moment may be put off for as long as the shared cache stays the same. -/
theorem Timely.onward {before after : Context σ}
    (timely : fleet.Timely (⟨before.uptime, map⟩ :: moments) before)
    (passing : fleet.Passing before after) :
    fleet.Timely (⟨after.uptime, map⟩ :: moments) after := by
  have passed := timely.passing passing
  refine ⟨?_, ?_⟩
  · intro moment known
    rcases List.mem_cons.mp known with rfl | earlier
    · exact Nat.le_refl _
    · exact passed.past moment (List.mem_cons_of_mem _ earlier)
  · intro index l1 lifetime enabled copies resident present
    obtain ⟨moment, known, dates⟩ :=
      passed.dated index l1 lifetime enabled copies resident present
    rcases List.mem_cons.mp known with rfl | earlier
    · obtain ⟨had, deadline, ends, bound⟩ := dates
      exact ⟨_, List.mem_cons_self, had, deadline, ends,
        Nat.le_trans bound (Nat.add_le_add_right passing.forward _)⟩
    · exact ⟨moment, List.mem_cons_of_mem _ earlier, dates⟩

/-- A new entry is dated by what the shared cache has, or is about to have, if it lives no
longer than copies do. -/
theorem Serves.insert_near (serves : fleet.Serves) {index : ι} {l1 : ByteCacheCell σ}
    (enabled : (fleet.stores index).l1 = some l1) {key : String} {bytes : Bytes}
    (here : map key = some bytes) {expiry : Option Duration}
    (bounded : ∀ lifetime, (fleet.stores index).l1Lifetime = some lifetime →
      ∃ shorter, expiry = some shorter ∧ shorter.nanos ≤ lifetime.nanos)
    {now : Context σ} (timely : fleet.Timely moments now) :
    fleet.Timely (⟨now.uptime, map⟩ :: moments)
      { now with
        data := l1.put ((l1.get now.data).insert l1.policy now.uptime key bytes expiry)
          now.data } := by
  have known := timely.also map
  refine ⟨known.past, ?_⟩
  intro other theirs lifetime enabledThere copies resident present
  by_cases same : index = other
  · subst same
    rw [enabled] at enabledThere
    cases enabledThere
    rw [(serves.nearLawful index l1 enabled).get_put] at present
    rcases ByteCache.mem_insert present with rfl | old
    · obtain ⟨shorter, rfl, bound⟩ := bounded lifetime copies
      exact ⟨_, List.mem_cons_self, here, _, rfl, Nat.add_le_add_left bound _⟩
    · exact known.dated index l1 lifetime enabled copies resident old
  · rw [serves.nearApart index other l1 theirs same enabled enabledThere] at present
    exact known.dated other theirs lifetime enabledThere copies resident present

/-! ## Operations of the shared cache -/

theorem call_succeeds (store : TieredStore σ) (operation : SharedOperation) (key : String)
    (size : α → Nat) (work : Call σ α) (now : Context σ) (stands : fleet.Stands map now)
    (value : α) (does : fleet.Does work now value changed) :
    (store.callShared operation key size work).Returns now fun answer after =>
      answer = some value ∧ fleet.Stands changed after ∧ fleet.Passing now after := by
  apply (TieredStore.returns_call_shared_ok store operation key size work now
    (fun answer after =>
      answer = value ∧ fleet.Stands changed after ∧ fleet.Passing now after) stands.clock _).imp
  · intro answer after called
    obtain ⟨_, rfl, rfl, done⟩ := called
    exact ⟨rfl, done⟩
  · apply does.imp
    intro outcome after worked
    obtain ⟨done, stood, passed⟩ := worked
    exact ⟨stood.clock, value, done, rfl, stood, passed⟩

/-! ## Calls of one instance -/

structure Done (fleet : Fleet σ ι) (moments : List Moment) (map : String → Option Bytes)
    (after : Context σ) : Prop where
  stands : fleet.Stands map after
  timely : fleet.Timely (⟨after.uptime, map⟩ :: moments) after

/-- The shared cache had this under the key at one of the moments, less than the lifetime
ago. -/
def Recent (moments : List Moment) (lifetime : Duration) (time : Nat) (key : String)
    (answer : Option Bytes) : Prop :=
  ∃ moment ∈ moments, moment.time ≤ time ∧ time < moment.time + lifetime.nanos ∧
    answer = moment.contents key

theorem Timely.recent {now : Context σ} (timely : fleet.Timely moments now) {index : ι}
    {l1 : ByteCacheCell σ} (enabled : (fleet.stores index).l1 = some l1) {lifetime : Duration}
    (copies : (fleet.stores index).l1Lifetime = some lifetime) {key : String} {bytes : Bytes}
    (cached : (l1.get now.data).get? now.uptime key = some bytes) :
    Recent moments lifetime now.uptime key (some bytes) := by
  obtain ⟨entry, alive, rfl⟩ := Option.map_eq_some_iff.mp cached
  obtain ⟨moment, known, had, deadline, ends, bound⟩ :=
    timely.dated index l1 lifetime enabled copies _ (ByteCache.live_mem alive)
  have live := (Option.filter_eq_some_iff.mp alive).2
  unfold CacheEntry.isLive at live
  rw [ends] at live
  have before : now.uptime < deadline := by simpa using live
  exact ⟨moment, known, timely.past moment known, Nat.lt_of_lt_of_le before bound, had.symm⟩

section Calls

variable (serves : fleet.Serves) (shares : ∀ index, (fleet.stores index).l2 = fleet.shared)
  (index : ι) (key : String) (hints : CallHints) (now : Context σ)

include serves shares

theorem read_shared_dated (stands : fleet.Stands map now) (timely : fleet.Timely moments now) :
    ((fleet.stores index).readShared key hints).Returns now fun answer after =>
      fleet.Done moments map after ∧ answer = map key := by
  have does := serves.get key map now stands
  rw [← shares index] at does
  obtain ⟨called, ending, rfl, stood, passed⟩ :=
    call_succeeds (fleet.stores index) .read key TieredStore.foundSize _ now stands _ does
  unfold TieredStore.readShared
  rw [Routine.returns_bind, Routine.returns_timed]
  refine ⟨stands.clock, _, ending, stood.clock, ?_⟩
  have later := timely.passing passed
  cases found : map key with
  | none =>
      simp only [Option.join_some, Routine.returns_bind, Routine.returns_write,
        Routine.returns_pure]
      exact ⟨⟨stood, later.also map⟩, trivial⟩
  | some bytes =>
      simp only [Option.join_some, Routine.returns_bind, Routine.returns_write,
        CallHints.returns_report_level]
      have reported := later.passing (passing_report hints .l2 _)
      have stoodReported := stood.report hints .l2
      cases enabled : (fleet.stores index).l1 with
      | none =>
          rw [Routine.returns_pure]
          exact ⟨⟨stoodReported, reported.also map⟩, rfl⟩
      | some l1 =>
          simp only [Routine.returns_bind, Routine.returns_write, Routine.returns_pure,
            ByteCacheCell.returns_insert, ByteCacheCell.returns_log_access]
          refine ⟨⟨serves.near index l1 enabled _ map _ stoodReported, ?_⟩, trivial⟩
          exact serves.insert_near enabled found
            (fun lifetime copies => ⟨lifetime, copies, Nat.le_refl _⟩) reported

theorem read_levels_dated (stands : fleet.Stands map now) (timely : fleet.Timely moments now) :
    ((fleet.stores index).readLevels key hints).Returns now fun answer after =>
      fleet.Done moments map after ∧
        (answer = map key ∨ ∀ lifetime, (fleet.stores index).l1Lifetime = some lifetime →
          Recent moments lifetime now.uptime key answer) := by
  unfold TieredStore.readLevels
  cases enabled : (fleet.stores index).l1 with
  | none =>
      apply (read_shared_dated serves shares index key hints now stands timely).imp
      intro answer after read
      exact ⟨read.1, Or.inl read.2⟩
  | some l1 =>
      have touched := serves.passing_near enabled
        (ByteCache.losses_touch l1.policy (l1.get now.data) now.uptime key)
      have stoodTouched := serves.near index l1 enabled
        ((l1.get now.data).touch l1.policy now.uptime key) map now stands
      have timelyTouched := timely.passing touched
      simp only [Routine.returns_bind, ByteCacheCell.returns_lookup,
        ByteCacheCell.returns_log_access]
      cases cached : (l1.get now.data).get? now.uptime key with
      | none =>
          apply (read_shared_dated serves shares index key hints _ stoodTouched
            timelyTouched).imp
          intro answer after read
          exact ⟨read.1, Or.inl read.2⟩
      | some bytes =>
          simp only [Routine.returns_bind, Routine.returns_discard,
            CallHints.returns_report_level, Routine.returns_pure]
          have does := serves.refresh key map _ stoodTouched
          rw [← shares index] at does
          apply (call_succeeds (fleet.stores index) .refresh key _ _ _ stoodTouched _ does).imp
          intro _ after called
          obtain ⟨_, stood, passed⟩ := called
          have reported := (timelyTouched.passing passed).passing (passing_report hints .l1 after)
          refine ⟨⟨stood.report hints .l1, reported.also map⟩, Or.inr ?_⟩
          intro lifetime copies
          exact timely.recent enabled copies cached

omit shares in
theorem write_near_dated (bytes : Bytes) (stands : fleet.Stands map now)
    (timely : fleet.Timely moments now) :
    ((fleet.stores index).writeNear key bytes hints).Returns now fun _ after =>
      fleet.Stands map after ∧
        fleet.Timely (⟨after.uptime, Function.update map key (some bytes)⟩ :: moments) after := by
  unfold TieredStore.writeNear
  cases enabled : (fleet.stores index).l1 with
  | none =>
      rw [Routine.returns_pure]
      exact ⟨stands, timely.also _⟩
  | some l1 =>
      rw [Routine.returns_bind]
      apply ((fleet.stores index).returns_current_l1_expiry_within hints now stands.clock).imp
      intro expiry afterClock read
      obtain ⟨rfl, bounded⟩ := read
      simp only [Routine.returns_bind, ByteCacheCell.returns_insert,
        ByteCacheCell.returns_log_access]
      exact ⟨serves.near index l1 enabled _ map _ stands,
        serves.insert_near enabled (Function.update_self key (some bytes) map) bounded timely⟩

theorem write_levels_dated (bytes : Bytes)
    (waits : (fleet.stores index).options.writesInBackground = false)
    (stands : fleet.Stands map now) (timely : fleet.Timely moments now) :
    ((fleet.stores index).writeLevels key bytes hints).Returns now fun _ after =>
      fleet.Done moments (Function.update map key (some bytes)) after := by
  rw [TieredStore.write_levels_eq _ key bytes hints waits, Routine.returns_bind]
  apply (write_near_dated serves index key hints now bytes stands timely).imp
  intro _ between halfway
  obtain ⟨stood, dated⟩ := halfway
  have does := serves.set key bytes ((fleet.stores index).entryOptions hints) map between stood
  rw [← shares index] at does
  unfold TieredStore.writeShared
  rw [Routine.returns_discard]
  apply (call_succeeds (fleet.stores index) .write key _ _ between stood _ does).imp
  intro _ after called
  obtain ⟨_, changed, passed⟩ := called
  exact ⟨changed, dated.onward passed⟩

theorem remove_levels_dated (stands : fleet.Stands map now)
    (timely : fleet.Timely moments now) :
    ((fleet.stores index).removeLevels key).Returns now fun _ after =>
      fleet.Done moments (Function.update map key none) after := by
  have near : ((fleet.stores index).removeNear key).Returns now fun _ after =>
      fleet.Stands map after ∧ fleet.Passing now after := by
    unfold TieredStore.removeNear
    cases enabled : (fleet.stores index).l1 with
    | none => exact (Routine.returns_pure _ now _).mpr ⟨stands, Passing.refl now⟩
    | some l1 =>
        simp only [Routine.returns_bind, ByteCacheCell.returns_erase, Routine.returns_write]
        exact ⟨serves.near index l1 enabled _ map now stands,
          serves.passing_near enabled (ByteCache.losses_erase _ _ now.uptime key)⟩
  rw [TieredStore.remove_levels_eq, Routine.returns_bind]
  apply near.imp
  intro _ between erased
  obtain ⟨stood, passed⟩ := erased
  have does := serves.remove key map between stood
  rw [← shares index] at does
  rw [Routine.returns_discard]
  apply (call_succeeds (fleet.stores index) .remove key _ _ between stood _ does).imp
  intro _ after called
  obtain ⟨_, changed, passedOn⟩ := called
  exact ⟨changed, (timely.passing (passed.trans passedOn)).also _⟩

end Calls

end Fleet

end TokenPersistence
