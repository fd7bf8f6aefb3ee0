import Mathlib.Algebra.Order.Field.Basic
import Mathlib.Data.Rat.Cast.Order
import Mathlib.Tactic.Linarith
import TokenPersistence.Proofs.Number.Overflow
import TokenPersistence.Proofs.Tiered.Lifetimes

/-!
# Building a tiered store

The options of a store are checked before the lifetime of copies is computed from them. The
check lets one case through that the computation cannot carry out: the whole of a relative
expiration whose seconds are rounded to 2^64. There building panics; otherwise it gives a
store or says what is wrong with the options.
-/

namespace TokenPersistence

set_option autoImplicit false

namespace Binary64

/-- The number that is meant, unless it is infinite or none at all. -/
def value? (number : Binary64) : Option ℚ :=
  if number.isFinite then
    some ((if number.isNegative then -1 else 1) * (number.magnitude / unit))
  else none

theorem proper_share_iff (number : Binary64) :
    number.isProperShare = true ↔ ∃ value, number.value? = some value ∧ 0 < value ∧ value ≤ 1 := by
  have positive : (0 : ℚ) < unit := Nat.cast_pos.mpr unit_positive
  unfold isProperShare value?
  -- The unit is too large a number for arithmetic to be done with it.
  generalize unit = one at positive ⊢
  cases number.isFinite with
  | false => simp
  | true =>
      cases number.isNegative with
      | true =>
          have quotient : (0 : ℚ) ≤ number.magnitude / one :=
            div_nonneg (Nat.cast_nonneg _) (Nat.cast_nonneg _)
          constructor
          · intro proper
            simp at proper
          · rintro ⟨value, same, above, _⟩
            obtain rfl := Option.some.inj same
            rw [if_pos rfl] at above
            linarith
      | false => simp [div_le_one positive, positive]

end Binary64

namespace TieredOptions

/-- What a store needs to be built: a share in range, if there is something to share, and
someone to leave background writes to. -/
def Consistent (options : TieredOptions) (spawns : Bool) : Prop :=
  (options.relative.isSome = true →
    ∃ share, options.l1Share.value? = some share ∧ 0 < share ∧ share ≤ 1) ∧
  (options.asyncWrites = true → options.l1Disabled = false → spawns = true)

/-- The whole of a relative expiration that is rounded to 2^64 seconds. -/
def Overlong (options : TieredOptions) : Prop :=
  options.l1Share = Binary64.one ∧
    ∃ relative, options.relative = some relative ∧
      Duration.longestSeconds ≤ relative.seconds

theorem validate_eq_ok_iff (options : TieredOptions) :
    options.validate = .ok () ↔ (options.relative.isSome = true → options.hasValidShare = true) := by
  unfold validate
  cases options.relative.isSome <;> cases options.hasValidShare <;> simp

theorem consistent_iff (options : TieredOptions) (spawns : Bool) :
    options.Consistent spawns ↔
      options.validate = .ok () ∧ (options.writesInBackground = true → spawns = true) := by
  unfold Consistent writesInBackground
  rw [validate_eq_ok_iff, hasValidShare, Binary64.proper_share_iff]
  simp

theorem lifetime_of_valid {options : TieredOptions} (valid : options.validate = .ok ()) :
    options.Overlong ∧ (∃ panic, options.l1Lifetime = .error panic) ∨
      ¬ options.Overlong ∧ ∃ lifetime, options.l1Lifetime = .ok lifetime ∧
        lifetime.isSome = options.relative.isSome := by
  have proper := options.validate_eq_ok_iff.mp valid
  unfold l1Lifetime Overlong
  cases given : options.relative with
  | none => exact Or.inr ⟨by simp, none, rfl, rfl⟩
  | some relative =>
      have shares : options.l1Share.isProperShare = true := proper (by simp [given])
      have overflows : relative.scale? options.l1Share = none ↔ _ :=
        Duration.scale_eq_none_iff shares
      dsimp only
      rw [if_pos (proper (by simp [given]))]
      cases scaled : relative.scale? options.l1Share with
      | none =>
          obtain ⟨whole, long⟩ := overflows.mp scaled
          exact Or.inl ⟨⟨whole, relative, rfl, long⟩, _, rfl⟩
      | some lifetime =>
          refine Or.inr ⟨?_, some lifetime, rfl, rfl⟩
          rintro ⟨whole, _, same, long⟩
          obtain rfl := Option.some.inj same
          rw [overflows.mpr ⟨whole, long⟩] at scaled
          cases scaled

end TieredOptions

namespace TieredStore

variable {σ : Type} {l1 : ByteCacheCell σ} {l2 : SharedCache σ} {options : TieredOptions}
  {retry : Option (RetryPredicate σ)} {spawner : Option (Spawner σ)}

theorem build_of_inconsistent (refused : ¬ options.Consistent spawner.isSome) :
    ∃ problem, build l1 l2 options retry spawner = .ok (.error problem) := by
  rw [TieredOptions.consistent_iff] at refused
  unfold build
  cases valid : options.validate with
  | error problem => exact ⟨problem, rfl⟩
  | ok done =>
      have unspawned : (options.writesInBackground && spawner.isNone) = true := by
        simpa [valid] using refused
      dsimp only
      rw [if_pos unspawned]
      exact ⟨_, rfl⟩

theorem build_of_overlong (accepted : options.Consistent spawner.isSome) {panic : Panic}
    (overflows : options.l1Lifetime = .error panic) :
    build l1 l2 options retry spawner = .error panic := by
  obtain ⟨valid, spawned⟩ := (options.consistent_iff spawner.isSome).mp accepted
  have present : (options.writesInBackground && spawner.isNone) = false := by
    cases later : options.writesInBackground with
    | false => rfl
    | true => simpa using spawned later
  unfold build
  simp only [valid, present, overflows, Bool.false_eq_true, if_false]
  rfl

/-- Building gives a store exactly for options that are consistent and not overlong, and says
what is wrong exactly for those that are not consistent. Consistent options that are overlong
are the only ones with which it panics. -/
theorem built_unless_overlong (l1 : ByteCacheCell σ) (l2 : SharedCache σ)
    (options : TieredOptions) (retry : Option (RetryPredicate σ))
    (spawner : Option (Spawner σ)) :
    let built := build l1 l2 options retry spawner
    let accepted := options.Consistent spawner.isSome
    ((∃ panic, built = .error panic) ↔ accepted ∧ options.Overlong) ∧
      ((∃ store, built = .ok (.ok store)) ↔ accepted ∧ ¬ options.Overlong) ∧
      ((∃ problem, built = .ok (.error problem)) ↔ ¬ accepted) ∧
      ∀ store, built = .ok (.ok store) →
        (store.l1Lifetime.isSome = true ↔ options.relative.isSome = true) := by
  intro built accepted
  by_cases consistent : accepted
  · obtain ⟨valid, spawned⟩ := (options.consistent_iff spawner.isSome).mp consistent
    rcases TieredOptions.lifetime_of_valid valid with
      ⟨overlong, panic, overflows⟩ | ⟨fits, lifetime, computed, limited⟩
    · have panics : built = .error panic := build_of_overlong consistent overflows
      simp [panics, consistent, overlong]
    · have builds : built = .ok (.ok _) := build_of_lifetime valid computed spawned
      simp [builds, consistent, fits, limited]
  · obtain ⟨problem, refuses⟩ : ∃ problem, built = .ok (.error problem) :=
      build_of_inconsistent consistent
    simp [refuses, consistent]

end TieredStore

namespace Rehearsal

def longestOptions : TieredOptions :=
  { TieredOptions.standard with relative := some Duration.max }

/-- The options pass the check and nothing is written in the background, but the store is
not built. -/
theorem longest_lifetime_panics :
    longestOptions.validate = .ok () ∧ longestOptions.writesInBackground = false ∧
      ∃ panic, TieredStore.build (NodeSetup.nearCache 0)
        (RecordingCache.toSharedCache (Bench.sharedCell.inside ScriptedCache.recording))
        longestOptions none none = .error panic := by
  have proper : longestOptions.hasValidShare = true := by decide +kernel
  have valid := longestOptions.validate_eq_ok_iff.mpr fun _ => proper
  have scaled : Duration.max.scale? longestOptions.l1Share = none := by decide +kernel
  have overflows : longestOptions.l1Lifetime = .error (.message "duration out of range") := by
    unfold TieredOptions.l1Lifetime
    rw [show longestOptions.relative = some Duration.max from rfl]
    simp only [proper, scaled, if_true]
  refine ⟨valid, rfl, _, TieredStore.build_of_overlong ?_ overflows⟩
  exact (longestOptions.consistent_iff false).mpr ⟨valid, fun later => by cases later⟩

end Rehearsal

end TokenPersistence
