import TokenPersistence.Proofs.Memory.Losses
import TokenPersistence.Proofs.Number.Scaling
import TokenPersistence.Proofs.Rehearsal.TieredBench

/-!
# Lifetimes of written entries

A write tells the shared cache two ends of its entry, a point in time and a lifetime, and
the copy in memory gets a lifetime of its own. The point in time for memory is the suggested
one whenever there is a suggestion, while the shared cache takes the earlier one of the
suggested and the configured point. So memory keeps an entry for longer than the shared
cache only if the suggestion is later than what is configured, or by the rounding of its
share of the lifetime.
-/

namespace TokenPersistence

set_option autoImplicit false

/-- At most as long as the limit, up to the precision with which seconds are counted. -/
def Duration.RoundedWithin (lifetime limit : Duration) : Prop :=
  lifetime.nanos ≤ limit.nanos + limit.nanos / 2 ^ 52 + 1 ∧
    (limit.nanos < 2 ^ 23 * nanosPerSecond → lifetime.nanos ≤ limit.nanos)

theorem Duration.RoundedWithin.le {lifetime longer limit : Duration}
    (within : longer.RoundedWithin limit) (atMost : lifetime.nanos ≤ longer.nanos) :
    lifetime.RoundedWithin limit :=
  ⟨Nat.le_trans atMost within.1, fun short => Nat.le_trans atMost (within.2 short)⟩

namespace TieredStore

variable {σ : Type} {store : TieredStore σ} {l1 : ByteCacheCell σ} {l2 : SharedCache σ}
  {options : TieredOptions} {retry : Option (RetryPredicate σ)} {spawner : Option (Spawner σ)}

theorem build_of_lifetime {lifetime : Option Duration} (valid : options.validate = .ok ())
    (computed : options.l1Lifetime = .ok lifetime)
    (spawned : options.writesInBackground = true → spawner.isSome = true) :
    build l1 l2 options retry spawner =
      .ok (.ok
        { l1 := if options.l1Disabled then none else some l1
          l1Lifetime := lifetime, l2, options, retry, spawner }) := by
  have accepted : (options.writesInBackground && spawner.isNone) = false := by
    cases later : options.writesInBackground with
    | false => rfl
    | true => simp [Option.isNone_eq_false_iff.mpr (spawned later)]
  unfold build
  simp only [valid, accepted, computed, Bool.false_eq_true, if_false]
  rfl

section Built

variable (built : build l1 l2 options retry spawner = .ok (.ok store))

include built

theorem memory_of_build (enabled : options.l1Disabled = false) : store.l1 = some l1 := by
  obtain ⟨_, _, _, rfl⟩ := parts_of_build built
  simp [enabled]

theorem no_lifetime_of_build (unlimited : options.relative = none) :
    store.l1Lifetime = none := by
  obtain ⟨_, l1Lifetime, computed, rfl⟩ := parts_of_build built
  simp only [TieredOptions.l1Lifetime, unlimited, Except.ok.injEq] at computed
  exact computed.symm

theorem share_of_build {relative : Duration} (given : options.relative = some relative) :
    ∃ lifetime, store.l1Lifetime = some lifetime ∧ options.hasValidShare = true ∧
      relative.scale? options.l1Share = some lifetime := by
  obtain ⟨lifetime, computed, copies⟩ :=
    lifetime_of_build built (Option.isSome_iff_exists.mpr ⟨relative, given⟩)
  refine ⟨lifetime, copies, ?_⟩
  unfold TieredOptions.l1Lifetime at computed
  simp only [given] at computed
  split at computed
  · next proper =>
      split at computed
      · next scaled shares =>
          rw [← Except.ok.inj computed]
          exact ⟨proper, shares⟩
      · cases computed
  · cases Except.ok.inj computed

theorem lifetime_iff_share (lifetime : Duration) :
    store.l1Lifetime = some lifetime ↔
      ∃ relative, options.relative = some relative ∧
        relative.scale? options.l1Share = some lifetime := by
  cases expires : options.relative with
  | none => simp [no_lifetime_of_build built expires]
  | some relative =>
      obtain ⟨copies, limited, _, shares⟩ := share_of_build built expires
      simp [limited, shares]

theorem lifetime_within_relative {relative : Duration}
    (given : options.relative = some relative) :
    ∃ lifetime, store.l1Lifetime = some lifetime ∧ lifetime.RoundedWithin relative := by
  obtain ⟨lifetime, limited, proper, shares⟩ := share_of_build built given
  exact ⟨lifetime, limited, Duration.scaled_le proper shares,
    Duration.scaled_le_of_short proper shares⟩

end Built

section Expiry

variable (store) (hints : CallHints) (now : Timestamp)

theorem l1_expiry_le_remaining {deadline : Timestamp}
    (due : store.deadline? hints = some deadline) :
    ∃ lifetime, store.l1Expiry hints now = some lifetime ∧
      lifetime.nanos ≤ (deadline.remaining now).nanos := by
  unfold l1Expiry
  rw [due]
  cases copies : store.l1Lifetime with
  | none => exact ⟨_, rfl, Nat.le_refl _⟩
  | some relative =>
      refine ⟨_, rfl, ?_⟩
      rw [Duration.nanos_shorter]
      exact Nat.min_le_left _ _

theorem l1_expiry_le_lifetime {copies : Duration} (limited : store.l1Lifetime = some copies) :
    ∃ lifetime, store.l1Expiry hints now = some lifetime ∧ lifetime.nanos ≤ copies.nanos := by
  unfold l1Expiry
  rw [limited]
  cases store.deadline? hints with
  | none => exact ⟨_, rfl, Nat.le_refl _⟩
  | some deadline =>
      refine ⟨_, rfl, ?_⟩
      rw [Duration.nanos_shorter]
      exact Nat.min_le_right _ _

theorem l1_expiry_none :
    store.l1Expiry hints now = none ↔ store.deadline? hints = none ∧ store.l1Lifetime = none := by
  unfold l1Expiry
  cases store.deadline? hints <;> cases store.l1Lifetime <;> simp

theorem deadline_of_absolute {deadline : Timestamp}
    (absolute : (store.entryOptions hints).absolute = some deadline) :
    store.deadline? hints = some deadline ∨
      ∃ suggested, store.deadline? hints = some suggested ∧
        hints.suggestedExpiry = some suggested ∧ store.options.absolute = some deadline ∧
          deadline.nanos < suggested.nanos := by
  unfold entryOptions earliest at absolute
  unfold deadline?
  cases suggests : hints.suggestedExpiry with
  | none =>
      simp only [suggests] at absolute
      exact Or.inl absolute
  | some suggested =>
      cases configured : store.options.absolute with
      | none =>
          simp only [suggests, configured] at absolute ⊢
          exact Or.inl absolute
      | some at' =>
          simp only [suggests, configured, Option.some.injEq] at absolute ⊢
          unfold Timestamp.earlier at absolute
          split at absolute
          · exact Or.inl (congrArg some absolute)
          · next later =>
              subst absolute
              exact Or.inr ⟨suggested, rfl, rfl, rfl, by omega⟩

theorem absolute_none :
    (store.entryOptions hints).absolute = none ↔ store.deadline? hints = none := by
  unfold entryOptions earliest deadline?
  cases hints.suggestedExpiry <;> cases store.options.absolute <;> simp

end Expiry

/-- The second half of a write: the job is left to the spawner, or carried out at once. -/
def passOn (store : TieredStore σ) (job : BackgroundWrite) : Routine (Context σ) Unit :=
  match store.spawner with
  | some spawner =>
      if store.options.writesInBackground then spawner job else store.writeShared job
  | none => store.writeShared job

def withWritten (store : TieredStore σ) (l1 : ByteCacheCell σ) (key : String) (bytes : Bytes)
    (hints : CallHints) (start : Context σ) : Context σ :=
  { start with
    data := l1.put ((l1.get start.data).insert l1.policy start.uptime key bytes
      (store.l1Expiry hints start.now)) start.data }

theorem run_current_l1_expiry (store : TieredStore σ) (hints : CallHints) (start : Context σ)
    (clock : start.clockIsBroken = false) :
    (store.currentL1Expiry hints).run start =
      ⟨.returned (store.l1Expiry hints start.now), start, []⟩ := by
  unfold currentL1Expiry
  cases due : store.deadline? hints with
  | none =>
      have expiry : store.l1Expiry hints start.now = store.l1Lifetime := by
        unfold l1Expiry
        simp [due]
      rw [expiry]
      rfl
  | some deadline => simp [Context.withClock, Routine.run, clock, Routine.pure_eq]

/-- A write puts the entry into memory with its lifetime there, and then passes it on with
the ends for the shared cache. -/
theorem run_write_levels (enabled : store.l1 = some l1) (key : String) (bytes : Bytes)
    (hints : CallHints) (start : Context σ) (clock : start.clockIsBroken = false) :
    (store.writeLevels key bytes hints).run start =
      let written := store.withWritten l1 key bytes hints start
      let rest := (store.passOn ⟨key, bytes, store.entryOptions hints⟩).run written
      { rest with
        log := .nearAccess .write key bytes.length (l1.census written).entries :: rest.log } := by
  have halves : store.writeLevels key bytes hints =
      (store.writeNear key bytes hints).bind fun _ =>
        store.passOn ⟨key, bytes, store.entryOptions hints⟩ := rfl
  have near : store.writeNear key bytes hints =
      (store.currentL1Expiry hints).bind fun expiry =>
        (l1.insert key bytes expiry).bind fun _ =>
          l1.logAccess .write key bytes.length := by
    unfold writeNear
    rw [enabled]
    rfl
  rw [halves, near, Routine.run_bind, Routine.run_bind, run_current_l1_expiry _ _ _ clock]
  rfl

/-- The lifetime in memory of a written entry, beside the ends that the shared cache is told
for it. Where the suggestion is not later than a configured point in time, memory keeps the
entry until the point for the shared cache at most, or for a millisecond; and it never keeps
it for longer than the relative expiration, up to rounding. Without any end for the shared
cache there is none in memory, and only then. -/
theorem written_lifetime_beside_shared (store : TieredStore σ) (l1 : ByteCacheCell σ)
    (l2 : SharedCache σ) (options : TieredOptions) (retry : Option (RetryPredicate σ))
    (spawner : Option (Spawner σ))
    (built : build l1 l2 options retry spawner = .ok (.ok store))
    (enabled : options.l1Disabled = false) (hints : CallHints) :
    (∀ now,
      (∀ deadline, (store.entryOptions hints).absolute = some deadline →
        ∃ lifetime, store.l1Expiry hints now = some lifetime ∧
          (lifetime.nanos ≤
              Nat.max (deadline.nanos - now.nanos).toNat Duration.millisecond.nanos ∨
            ∃ suggested, hints.suggestedExpiry = some suggested ∧
              options.absolute = some deadline ∧ deadline.nanos < suggested.nanos ∧
                lifetime.nanos ≤
                  Nat.max (suggested.nanos - now.nanos).toNat Duration.millisecond.nanos)) ∧
      (∀ relative, (store.entryOptions hints).relative = some relative →
        ∃ lifetime, store.l1Expiry hints now = some lifetime ∧
          lifetime.RoundedWithin relative) ∧
      (store.l1Expiry hints now = none ↔
        (store.entryOptions hints).absolute = none ∧
          (store.entryOptions hints).relative = none)) ∧
    ∀ key bytes start, start.clockIsBroken = false →
      (store.writeLevels key bytes hints).run start =
        let written := store.withWritten l1 key bytes hints start
        let rest := (store.passOn ⟨key, bytes, store.entryOptions hints⟩).run written
        { rest with
          log := .nearAccess .write key bytes.length (l1.census written).entries :: rest.log } := by
  have given : store.options = options := options_of_build built
  have relativeEq : (store.entryOptions hints).relative = options.relative :=
    congrArg TieredOptions.relative given
  refine ⟨fun now => ⟨?_, ?_, ?_⟩, ?_⟩
  · intro deadline absolute
    rcases deadline_of_absolute store hints absolute with
      same | ⟨suggested, due, suggests, configured, later⟩
    · obtain ⟨lifetime, expiry, short⟩ := l1_expiry_le_remaining store hints now same
      rw [Timestamp.nanos_remaining] at short
      exact ⟨lifetime, expiry, Or.inl short⟩
    · obtain ⟨lifetime, expiry, short⟩ := l1_expiry_le_remaining store hints now due
      rw [Timestamp.nanos_remaining] at short
      rw [given] at configured
      exact ⟨lifetime, expiry, Or.inr ⟨suggested, suggests, configured, later, short⟩⟩
  · intro relative ends
    rw [relativeEq] at ends
    obtain ⟨copies, limited, within⟩ := lifetime_within_relative built ends
    obtain ⟨lifetime, expiry, short⟩ := l1_expiry_le_lifetime store hints now limited
    exact ⟨lifetime, expiry, within.le short⟩
  · rw [l1_expiry_none, absolute_none, relativeEq]
    apply and_congr_right
    intro _
    cases expires : options.relative with
    | none => simp [no_lifetime_of_build built expires]
    | some relative =>
        obtain ⟨copies, limited, _⟩ := lifetime_within_relative built expires
        simp [limited]
  · intro key bytes start clock
    exact run_write_levels (memory_of_build built enabled) key bytes hints start clock

end TieredStore

namespace Rehearsal

def benchStoreLasting (options : TieredOptions) (lifetime : Option Duration) :
    TieredStore Bench :=
  { benchTiered options none with l1Lifetime := lifetime }

theorem bench_lasting_built {options : TieredOptions} {lifetime : Option Duration}
    (valid : options.validate = .ok ()) (computed : options.l1Lifetime = .ok lifetime)
    (enabled : options.l1Disabled = false) (waits : options.asyncWrites = false) :
    TieredStore.build (NodeSetup.nearCache 0)
        (RecordingCache.toSharedCache (Bench.sharedCell.inside ScriptedCache.recording))
        options none none = .ok (.ok (benchStoreLasting options lifetime)) := by
  rw [TieredStore.build_of_lifetime valid computed (by
    simp [TieredOptions.writesInBackground, waits])]
  simp [enabled, benchStoreLasting, benchTiered]

def dueOptions : TieredOptions :=
  { TieredOptions.standard with absolute := some ⟨10 * 1000000000, by decide, by decide⟩ }

def lateHints : CallHints :=
  { CallHints.none with suggestedExpiry := some ⟨20 * 1000000000, by decide, by decide⟩ }

/-- Just beyond the lifetimes of which no share is longer than the whole. -/
def unevenLifetime : Duration := ⟨2 ^ 23 * nanosPerSecond + 1, by decide⟩

def roundedLifetime : Duration := ⟨2 ^ 23 * nanosPerSecond + 2, by decide⟩

def unevenOptions : TieredOptions :=
  { TieredOptions.standard with relative := some unevenLifetime }

theorem uneven_options_valid : unevenOptions.validate = .ok () := by
  have proper : unevenOptions.hasValidShare = true := by decide +kernel
  simp [TieredOptions.validate, proper]

theorem uneven_options_lifetime : unevenOptions.l1Lifetime = .ok (some roundedLifetime) := by
  have proper : unevenOptions.hasValidShare = true := by decide +kernel
  have scaled : unevenLifetime.scale? unevenOptions.l1Share = some roundedLifetime := by
    decide +kernel
  unfold TieredOptions.l1Lifetime
  simp only [proper, if_true]
  rw [show unevenOptions.relative = some unevenLifetime from rfl]
  simp only [scaled]

def unevenStore : TieredStore Bench := benchStoreLasting unevenOptions (some roundedLifetime)

theorem uneven_store_built :
    TieredStore.build (NodeSetup.nearCache 0)
        (RecordingCache.toSharedCache (Bench.sharedCell.inside ScriptedCache.recording))
        unevenOptions none none = .ok (.ok unevenStore) :=
  bench_lasting_built uneven_options_valid uneven_options_lifetime rfl rfl

theorem written_lifetime_beside_uneven :
    (∃ lifetime, unevenStore.l1Expiry lateHints Timestamp.epoch = some lifetime ∧
      lifetime.RoundedWithin unevenLifetime) ∧
    let start := benchStart unevenOptions (Table.ofList [])
    let written := unevenStore.withWritten (NodeSetup.nearCache 0) "A" [1] lateHints start
    (unevenStore.writeLevels "A" [1] lateHints).run start =
      let rest := (unevenStore.passOn ⟨"A", [1], unevenStore.entryOptions lateHints⟩).run written
      { rest with log := .nearAccess .write "A" 1 1 :: rest.log } := by
  obtain ⟨bounds, writes⟩ := TieredStore.written_lifetime_beside_shared _ _ _ _ _ _
    uneven_store_built rfl lateHints
  exact ⟨(bounds Timestamp.epoch).2.1 unevenLifetime rfl, writes "A" [1] _ rfl⟩

/-- A suggestion that is later than the configured point in time keeps the entry in memory
after the shared cache has dropped it, and so does the rounding of a lifetime. -/
theorem memory_outlasts_shared_entry :
    (∃ store, TieredStore.build (NodeSetup.nearCache 0)
        (RecordingCache.toSharedCache (Bench.sharedCell.inside ScriptedCache.recording))
        dueOptions none none = .ok (.ok store) ∧
      ∃ deadline lifetime, (store.entryOptions lateHints).absolute = some deadline ∧
        store.l1Expiry lateHints Timestamp.epoch = some lifetime ∧
          ¬ lifetime.nanos ≤ Nat.max (deadline.nanos - Timestamp.epoch.nanos).toNat
            Duration.millisecond.nanos) ∧
    ∃ store, TieredStore.build (NodeSetup.nearCache 0)
        (RecordingCache.toSharedCache (Bench.sharedCell.inside ScriptedCache.recording))
        unevenOptions none none = .ok (.ok store) ∧
      ∃ relative lifetime, (store.entryOptions CallHints.none).relative = some relative ∧
        store.l1Expiry CallHints.none Timestamp.epoch = some lifetime ∧
          ¬ lifetime.nanos ≤ relative.nanos := by
  constructor
  · exact ⟨_, bench_lasting_built rfl rfl rfl rfl, _, _, rfl, rfl, by decide⟩
  · exact ⟨_, uneven_store_built, _, _, rfl, rfl, by decide⟩

end Rehearsal

end TokenPersistence
