import TokenPersistence.Proofs.Tiered.Lifetimes

/-!
# Lifetimes of copies

A read that finds nothing in memory copies the answer of the shared cache. The lifetime of
the copy comes from the relative expiration alone and counts from the read: the configured
point in time, which bounds the entry in the shared cache and the copies of writes, does
not bound it, and without a relative expiration the copy has no lifetime at all. So whether
memory serves the copy after the shared cache has dropped the entry depends on how much
time is left when the copy is made.
-/

namespace TokenPersistence

set_option autoImplicit false

variable {σ α : Type}

theorem CallHints.returns_of_cancellable (hints : CallHints) (during : Activity)
    (work : Routine (Context σ) α) (start : Context σ) (value : α)
    (returned : (hints.cancellable during (ExceptT.lift work)).run.Returns start
      fun outcome _ => outcome = .ok value) :
    work.Returns start fun answer after =>
      answer = value ∧
        ((hints.cancellable during (ExceptT.lift work)).run.run start).state = after := by
  obtain ⟨outcome, ending, rfl⟩ := returned
  have uncancelled := hints.uncancelled_of_returned during _ start value ending
  rw [hints.run_cancellable during _ start uncancelled] at ending ⊢
  have lifted : (ExceptT.lift work : Call σ α).run.Returns start fun outcome after =>
      outcome = .ok value ∧ ((ExceptT.lift work : Call σ α).run.run start).state = after :=
    ⟨_, ending, rfl, rfl⟩
  rw [Call.returns_lift] at lifted
  apply lifted.imp
  intro answer after ended
  exact ⟨Except.ok.inj ended.1, ended.2⟩

namespace ByteCache

variable {cache : ByteCache} {policy : EvictionPolicy} {uptime : Nat} {key : String} {bytes : Bytes}
  {lifetime : Option Duration}

theorem find_insert (admits : cache.limit ≠ some 0) {entry : CacheEntry}
    (found : (cache.insert policy uptime key bytes lifetime).find? key = some entry) :
    entry = ⟨bytes, lifetime.map fun duration => uptime + duration.nanos⟩ := by
  rcases mem_insert_renewed admits (find_mem found) with new | ⟨_, other⟩
  · exact congrArg Prod.snd new
  · exact absurd rfl other

theorem get_elapsed
    (found : cache.find? key = some ⟨bytes, lifetime.map fun duration => uptime + duration.nanos⟩)
    (elapsed : Nat) (blob : Bytes) :
    cache.get? (uptime + elapsed) key = some blob ↔
      blob = bytes ∧ ∀ duration, lifetime = some duration → elapsed < duration.nanos := by
  unfold get? live?
  rw [found]
  cases lifetime with
  | none => simp [CacheEntry.isLive, Option.filter, eq_comm]
  | some duration =>
      by_cases alive : elapsed < duration.nanos
      · simp [CacheEntry.isLive, Option.filter, alive, eq_comm]
      · simp [CacheEntry.isLive, Option.filter, alive]

end ByteCache

namespace TieredStore

variable {store : TieredStore σ} {l1 : ByteCacheCell σ} {l2 : SharedCache σ}
  {options : TieredOptions} {retry : Option (RetryPredicate σ)} {spawner : Option (Spawner σ)}

def withCopy (store : TieredStore σ) (l1 : ByteCacheCell σ) (key : String) (bytes : Bytes)
    (hints : CallHints) (between : Context σ) : Context σ :=
  { hints.report .l2 between with
    data := l1.put
      ((l1.get between.data).insert l1.policy between.uptime key bytes store.l1Lifetime)
      between.data }

def withLookup (l1 : ByteCacheCell σ) (key : String) (start : Context σ) : Context σ :=
  { start with
    data := l1.put ((l1.get start.data).touch l1.policy start.uptime key) start.data }

/-- The shared cache answers with a blob, in the first or the second attempt. -/
def SharedAnswers (store : TieredStore σ) (key : String) (bytes : Bytes)
    (start between : Context σ) : Prop :=
  (store.callShared .read key foundSize (store.l2.get key)).Returns start fun answer after =>
    answer = some (some bytes) ∧ after = between

theorem returns_read_levels_copied (enabled : store.l1 = some l1) (key : String)
    (hints : CallHints) (start : Context σ) (bytes : Bytes)
    (missed : (l1.get start.data).get? start.uptime key = none)
    {post : Context σ → Prop}
    (returned : (store.readLevels key hints).Returns start fun answer after =>
      answer = some bytes ∧ post after) :
    ∃ between, store.SharedAnswers key bytes (withLookup l1 key start) between ∧
      post (store.withCopy l1 key bytes hints between) := by
  unfold readLevels at returned
  simp only [enabled, Routine.returns_bind, ByteCacheCell.returns_lookup, missed,
    ByteCacheCell.returns_log_access] at returned
  rw [read_shared_eq, Routine.returns_bind, Routine.returns_timed] at returned
  obtain ⟨clock, answer, ending, ticks, kept⟩ := returned
  unfold keepAnswer at kept
  rw [Routine.returns_bind, Routine.returns_write] at kept
  cases found : answer.join with
  | none => simp [found] at kept
  | some blob =>
      simp only [found, enabled, Routine.returns_bind, CallHints.returns_report_level,
        Routine.returns_write, ByteCacheCell.returns_insert, ByteCacheCell.returns_log_access,
        Routine.returns_pure] at kept
      obtain ⟨same, holds⟩ := kept
      obtain rfl := Option.some.inj same
      refine ⟨_, ⟨answer, ending, Option.join_eq_some_iff.mp found, rfl⟩, ?_⟩
      simpa only [withCopy, withLookup, CallHints.data_report, CallHints.uptime_report]
        using holds

def copyOf (store : TieredStore σ) (bytes : Bytes) (between : Context σ) : CacheEntry :=
  ⟨bytes, store.l1Lifetime.map fun duration => between.uptime + duration.nanos⟩

theorem find_with_copy (lawful : l1.Lawful) (key : String) (bytes : Bytes) (hints : CallHints)
    (between : Context σ) (admits : (l1.get between.data).limit ≠ some 0) (entry : CacheEntry)
    (found : (l1.get (store.withCopy l1 key bytes hints between).data).find? key = some entry) :
    entry = store.copyOf bytes between := by
  unfold withCopy at found
  rw [lawful.get_put] at found
  exact ByteCache.find_insert admits found

/-- How long after a deadline a copy may be served. -/
def grace : Int := Duration.millisecond.nanos

/-- While time passes on both clocks, a copy is served within the grace after a deadline if
and only if it has a lifetime that is over by then. -/
theorem served_in_time_iff {bytes : Bytes} {between : Context σ} {later : ByteCache}
    {key : String} (kept : later.find? key = some (store.copyOf bytes between))
    {deadline : Timestamp} (inTime : between.now.nanos ≤ deadline.nanos) :
    (∀ (elapsed : Nat) (blob : Bytes),
        later.get? (between.uptime + elapsed) key = some blob →
          between.now.nanos + elapsed ≤ deadline.nanos + grace) ↔
      ∃ lifetime, store.l1Lifetime = some lifetime ∧
        between.now.nanos + lifetime.nanos ≤ deadline.nanos + grace + 1 := by
  have served := fun elapsed blob => ByteCache.get_elapsed kept elapsed blob
  have some_grace : 0 ≤ grace := by decide
  constructor
  · intro bounded
    cases copies : store.l1Lifetime with
    | none =>
        have late := bounded (deadline.nanos - between.now.nanos + grace + 1).toNat bytes
          ((served _ _).mpr ⟨rfl, by simp [copies]⟩)
        omega
    | some lifetime =>
        refine ⟨lifetime, rfl, ?_⟩
        rcases Nat.eq_zero_or_pos lifetime.nanos with instant | positive
        · omega
        · have last := bounded (lifetime.nanos - 1) bytes
            ((served _ _).mpr ⟨rfl, by
              intro duration same
              obtain rfl := Option.some.inj (copies.symm.trans same)
              omega⟩)
          omega
  · intro limited elapsed blob answered
    obtain ⟨lifetime, copies, past⟩ := limited
    have alive := ((served elapsed blob).mp answered).2 lifetime copies
    omega

/-- What a read copies into memory, and for how long. Copies live for the relative expiration
at most, up to rounding, and have no lifetime without one; the configured point in time plays
no part. So a copy is served in time for a deadline of the shared cache exactly if its
lifetime is over by then. -/
theorem copied_lifetime_beside_shared (store : TieredStore σ) (l1 : ByteCacheCell σ)
    (l2 : SharedCache σ) (options : TieredOptions) (retry : Option (RetryPredicate σ))
    (spawner : Option (Spawner σ))
    (built : build l1 l2 options retry spawner = .ok (.ok store))
    (enabled : options.l1Disabled = false) (lawful : l1.Lawful) (key : String)
    (hints : CallHints) (bytes : Bytes) (start : Context σ)
    (missed : (l1.get start.data).get? start.uptime key = none)
    (answered : (store.read key hints).run.Returns start
      fun outcome _ => outcome = .ok (some bytes)) :
    ∃ between, store.SharedAnswers key bytes (withLookup l1 key start) between ∧
      ((store.read key hints).run.run start).state =
        store.withCopy l1 key bytes hints between ∧
      (∀ relative, options.relative = some relative →
        ∃ lifetime, store.l1Lifetime = some lifetime ∧ lifetime.RoundedWithin relative) ∧
      (∀ lifetime, store.l1Lifetime = some lifetime ↔
        ∃ relative, options.relative = some relative ∧
          relative.scale? options.l1Share = some lifetime) ∧
      ((l1.get between.data).limit ≠ some 0 → ∀ entry,
        (l1.get (store.withCopy l1 key bytes hints between).data).find? key = some entry →
          entry = store.copyOf bytes between) ∧
      ∀ (later : ByteCache) (deadline : Timestamp), later.find? key = some (store.copyOf bytes between) →
        between.now.nanos ≤ deadline.nanos →
          ((∀ (elapsed : Nat) (blob : Bytes),
              later.get? (between.uptime + elapsed) key = some blob →
                between.now.nanos + elapsed ≤ deadline.nanos + grace) ↔
            ∃ lifetime, store.l1Lifetime = some lifetime ∧
              between.now.nanos + lifetime.nanos ≤ deadline.nanos + grace + 1) := by
  have memory := memory_of_build built enabled
  have levels := hints.returns_of_cancellable .read (store.readLevels key hints) start
    (some bytes) answered
  obtain ⟨between, answers, copied⟩ :=
    returns_read_levels_copied memory key hints start bytes missed levels
  exact ⟨between, answers, copied, fun _ => lifetime_within_relative built,
    lifetime_iff_share built, find_with_copy lawful key bytes hints between,
    fun _ _ kept inTime => served_in_time_iff kept inTime⟩

end TieredStore

namespace Rehearsal

def unevenStart : Context Bench := benchStart unevenOptions (Table.ofList [("A", [1])])

/-- The shared cache has a blob that memory does not have. -/
theorem copied_lifetime_beside_uneven :
    ∃ between, unevenStore.SharedAnswers "A" [1]
        (TieredStore.withLookup (NodeSetup.nearCache 0) "A" unevenStart) between ∧
      ((unevenStore.read "A" CallHints.none).run.run unevenStart).state =
        unevenStore.withCopy (NodeSetup.nearCache 0) "A" [1] CallHints.none
          between ∧
      ∃ lifetime, unevenStore.l1Lifetime = some lifetime ∧
        lifetime.RoundedWithin unevenLifetime := by
  have missed : ((NodeSetup.nearCache 0).get unevenStart.data).get?
      unevenStart.uptime "A" = none := by rfl
  have answered : (unevenStore.read "A" CallHints.none).run.Returns unevenStart
      fun outcome _ => outcome = .ok (some [1]) := ⟨_, rfl, rfl⟩
  obtain ⟨between, answers, copied, relative, _⟩ :=
    TieredStore.copied_lifetime_beside_shared unevenStore (NodeSetup.nearCache 0)
      _ unevenOptions none none uneven_store_built rfl
      (NodeSetup.cell_lawful 0 NodeData.cache_lawful) "A" CallHints.none [1] unevenStart missed
      answered
  exact ⟨between, answers, copied, relative unevenLifetime rfl⟩

def dueStore : TieredStore Bench := benchStoreLasting dueOptions none

def dueStart : Context Bench := benchStart dueOptions (Table.ofList [("A", [1])])

/-- The shared cache is told to drop its entries at ten seconds. A copy made before that has
no lifetime, and memory serves it at twenty seconds. -/
theorem copy_outlasts_shared_entry :
    TieredStore.build (NodeSetup.nearCache 0)
        (RecordingCache.toSharedCache (Bench.sharedCell.inside ScriptedCache.recording))
        dueOptions none none = .ok (.ok dueStore) ∧
      ((dueStore.read "A" CallHints.none).run.run dueStart).ending =
        .returned (.ok (some [1])) ∧
      ∃ absolute, dueOptions.absolute = some absolute ∧
        let copied := ((dueStore.read "A" CallHints.none).run.run dueStart).state
        let elapsed : Nat := 20 * 1000000000
        ((NodeSetup.nearCache 0).get copied.data).get?
            (copied.uptime + elapsed) "A" = some [1] ∧
          ¬ copied.now.nanos + elapsed ≤ absolute.nanos + TieredStore.grace := by
  exact ⟨bench_lasting_built rfl rfl rfl rfl, rfl, _, rfl, rfl, by decide⟩

end Rehearsal

end TokenPersistence
