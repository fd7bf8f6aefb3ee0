import Mathlib.Tactic.Linarith
import TokenPersistence.Proofs.Number.Scaling

/-!
# Where scaling overflows

The number of seconds of a duration reaches 2^64 by rounding alone, for the durations whose
whole seconds are at most 1024 below. A share of less than one takes such a number below
2^64 again, and then at least 2048 below, for numbers of that size are 2048 apart. So the
only shares of durations that are none are the whole of those that are that long.
-/

namespace TokenPersistence

set_option autoImplicit false

namespace Binary64

variable {dividend count scale : Nat}

theorem le_rounding_scale (large : 2 ^ (52 + scale) ≤ dividend) :
    scale ≤ roundingScale dividend 1 := by
  have nonzero : dividend ≠ 0 := by
    have positive := Nat.two_pow_pos (52 + scale)
    omega
  have log := (Nat.le_log2 nonzero).mpr large
  unfold roundingScale
  rw [Nat.div_one]
  omega

/-- Below the middle between two numbers of the format nothing is rounded up. -/
theorem magnitude_round_le_of_lt_middle (finite : (round dividend 1).isFinite = true)
    (normal : 2 ^ 52 ≤ count) (fits : count < 2 ^ 53)
    (below : 2 * dividend < (2 * count + 1) * 2 ^ scale) :
    (round dividend 1).magnitude ≤ count * 2 ^ scale := by
  rcases Nat.lt_or_ge (count * 2 ^ scale) dividend with beyond | within
  · have least : 2 ^ (52 + scale) ≤ count * 2 ^ scale := by
      rw [Nat.pow_add]
      exact Nat.mul_le_mul_right _ normal
    have most : 2 * dividend < 2 * (2 ^ 53 * 2 ^ scale) :=
      calc 2 * dividend < (2 * count + 1) * 2 ^ scale := below
        _ ≤ 2 * 2 ^ 53 * 2 ^ scale := Nat.mul_le_mul_right _ (by omega)
        _ = _ := Nat.mul_assoc _ _ _
    have scaleEq : roundingScale dividend 1 = scale := by
      apply Nat.le_antisymm _ (le_rounding_scale (Nat.le_trans least beyond.le))
      have fits : dividend < 2 ^ (53 + scale) := by
        rw [Nat.pow_add]
        omega
      have log := log_lt (by omega) fits
      unfold roundingScale
      rw [Nat.div_one]
      omega
    have near := (half_even_near dividend (Nat.two_pow_pos scale)).1
    rw [magnitude_round Nat.one_pos finite, scaleEq]
    apply Nat.mul_le_mul_right
    unfold roundedCount
    rw [Nat.one_mul, scaleEq]
    by_contra above
    have more : 2 ^ scale * (count + 1) ≤ 2 ^ scale * roundHalfEven dividend (2 ^ scale) :=
      Nat.mul_le_mul_left _ (by omega)
    rw [Nat.mul_add, Nat.mul_one, Nat.mul_comm _ count] at more
    rw [Nat.add_mul, Nat.one_mul, Nat.mul_assoc] at below
    omega
  · exact magnitude_round_le Nat.one_pos finite fits (by rwa [Nat.one_mul])

/-- Rounding never passes a number of the format on its way down. -/
theorem le_magnitude_round (finite : (round dividend 1).isFinite = true)
    (normal : 2 ^ 52 ≤ count) (most : count ≤ 2 ^ 53) (above : count * 2 ^ scale ≤ dividend) :
    count * 2 ^ scale ≤ (round dividend 1).magnitude := by
  have large : 2 ^ (52 + scale) ≤ dividend := by
    rw [Nat.pow_add]
    exact Nat.le_trans (Nat.mul_le_mul_right _ normal) above
  have coarse := le_rounding_scale large
  rw [magnitude_round Nat.one_pos finite]
  rcases Nat.lt_or_ge scale (roundingScale dividend 1) with coarser | same
  · calc count * 2 ^ scale ≤ 2 ^ 53 * 2 ^ scale := Nat.mul_le_mul_right _ most
      _ = 2 ^ 52 * 2 ^ (scale + 1) := by ring
      _ ≤ 2 ^ 52 * 2 ^ roundingScale dividend 1 :=
        Nat.mul_le_mul_left _ (Nat.pow_le_pow_right Nat.two_pos coarser)
      _ ≤ _ := Nat.mul_le_mul_right _ (le_rounded_count Nat.one_pos (by omega))
  · have scaleEq : roundingScale dividend 1 = scale := Nat.le_antisymm same coarse
    rw [scaleEq]
    apply Nat.mul_le_mul_right
    have near := (half_even_near dividend (Nat.two_pow_pos scale)).2
    unfold roundedCount
    rw [Nat.one_mul, scaleEq]
    by_contra below
    have less : 2 ^ scale * (roundHalfEven dividend (2 ^ scale) + 1) ≤ 2 ^ scale * count :=
      Nat.mul_le_mul_left _ (by omega)
    rw [Nat.mul_add, Nat.mul_one] at less
    rw [Nat.mul_comm] at above
    have positive := Nat.two_pow_pos scale
    omega

/-- From the middle on, numbers next to an odd one are rounded up. -/
theorem le_magnitude_round_of_middle (finite : (round dividend 1).isFinite = true)
    (normal : 2 ^ 52 ≤ count) (fits : count < 2 ^ 53) (odd : count % 2 = 1)
    (above : (2 * count + 1) * 2 ^ scale ≤ 2 * dividend) :
    (count + 1) * 2 ^ scale ≤ (round dividend 1).magnitude := by
  rcases Nat.lt_or_ge dividend ((count + 1) * 2 ^ scale) with below | beyond
  · have positive := Nat.two_pow_pos scale
    have large : 2 ^ (52 + scale) ≤ dividend := by
      rw [Nat.pow_add]
      have least : 2 ^ 52 * 2 ^ scale ≤ count * 2 ^ scale := Nat.mul_le_mul_right _ normal
      rw [Nat.add_mul, Nat.one_mul, Nat.mul_assoc] at above
      omega
    have scaleEq : roundingScale dividend 1 = scale := by
      apply Nat.le_antisymm _ (le_rounding_scale large)
      have most : (count + 1) * 2 ^ scale ≤ 2 ^ 53 * 2 ^ scale := Nat.mul_le_mul_right _ fits
      have fits : dividend < 2 ^ (53 + scale) := by
        rw [Nat.pow_add]
        omega
      have log := log_lt (by omega) fits
      unfold roundingScale
      rw [Nat.div_one]
      omega
    have quotient : dividend / 2 ^ scale = count := by
      apply Nat.div_eq_of_lt_le
      · rw [Nat.add_mul, Nat.one_mul, Nat.mul_assoc] at above
        omega
      · exact below
    have rest := Nat.div_add_mod dividend (2 ^ scale)
    have rounded : roundHalfEven dividend (2 ^ scale) = count + 1 := by
      rw [quotient, Nat.mul_comm] at rest
      rw [Nat.add_mul, Nat.one_mul, Nat.mul_assoc] at above
      unfold roundHalfEven
      dsimp only
      rw [if_neg (by omega), quotient]
      split
      · rfl
      · rw [if_neg (by omega)]
    rw [magnitude_round Nat.one_pos finite, scaleEq]
    unfold roundedCount
    rw [Nat.one_mul, scaleEq, rounded]
  · exact le_magnitude_round finite (by omega) fits beyond

/-- A finite number of this size or more is a multiple of 2 to the power of the scale. -/
theorem magnitude_lt_next (number : Binary64) (below : number.magnitude < 2 ^ (53 + scale)) :
    number.magnitude ≤ (2 ^ 53 - 1) * 2 ^ scale := by
  have fits := number.significand_lt
  unfold magnitude at below ⊢
  simp only [Nat.pow_eq] at below ⊢
  rcases Nat.lt_or_ge scale number.scale with finer | coarser
  · exfalso
    have field : number.exponentField ≠ 0 := by
      intro zero
      rw [Binary64.scale, zero] at finer
      omega
    have leading : 2 ^ 52 ≤ number.significand := by
      unfold significand
      rw [if_neg field, Nat.pow_eq]
      exact Nat.le_add_left _ _
    have least : 2 ^ (53 + scale) ≤ number.significand * 2 ^ number.scale :=
      calc 2 ^ (53 + scale) = 2 ^ 52 * 2 ^ (scale + 1) := by ring
        _ ≤ 2 ^ 52 * 2 ^ number.scale :=
          Nat.mul_le_mul_left _ (Nat.pow_le_pow_right Nat.two_pos finer)
        _ ≤ _ := Nat.mul_le_mul_right _ leading
    omega
  · exact Nat.mul_le_mul (by omega) (Nat.pow_le_pow_right Nat.two_pos coarser)

/-- A positive number with the magnitude of one is one. -/
theorem eq_one_of_magnitude {number : Binary64} (positive : number.isNegative = false)
    (same : number.magnitude = unit) : number = one := by
  obtain ⟨exponent, exponentEq, unitEq⟩ := unit_power
  have fits := number.significand_lt
  unfold magnitude at same
  rw [unitEq, Nat.pow_eq] at same
  have field : number.exponentField ≠ 0 := by
    intro zero
    rw [Binary64.scale, zero, Nat.zero_sub, Nat.pow_zero, Nat.mul_one] at same
    have large : 2 ^ 53 ≤ 2 ^ exponent := Nat.pow_le_pow_right Nat.two_pos (by omega)
    omega
  have leading : 2 ^ 52 ≤ number.significand := by
    unfold significand
    rw [if_neg field, Nat.pow_eq]
    exact Nat.le_add_left _ _
  have scaleEq : number.scale + 52 = exponent := by
    apply Nat.le_antisymm
    · apply (Nat.pow_le_pow_iff_right (by decide : 1 < 2)).mp
      rw [Nat.add_comm, Nat.pow_add, ← same]
      exact Nat.mul_le_mul_right _ leading
    · apply Nat.le_of_lt_succ
      apply (Nat.pow_lt_pow_iff_right (by decide : 1 < 2)).mp
      rw [← same, Nat.succ_eq_add_one, Nat.add_assoc, Nat.add_comm, Nat.pow_add]
      exact Nat.mul_lt_mul_of_pos_right fits (Nat.two_pow_pos _)
  have significandEq : number.significand = 2 ^ 52 := by
    rw [← scaleEq, Nat.pow_add, Nat.mul_comm] at same
    exact Nat.eq_of_mul_eq_mul_left (Nat.two_pow_pos _) same
  have noFraction : number.fraction = 0 := by
    unfold significand at significandEq
    rw [if_neg field, Nat.pow_eq] at significandEq
    omega
  have small : number.word < 2 ^ 63 := by
    unfold isNegative at positive
    simpa using positive
  have spelled : number.word = 1023 * 2 ^ 52 := by
    unfold Binary64.scale exponentField at scaleEq
    unfold fraction at noFraction
    unfold exponentField at field
    simp only [Nat.pow_eq] at scaleEq noFraction field
    clear same unitEq
    omega
  have bits : number.bits = one.bits := UInt64.toNat_inj.mp spelled
  exact congrArg Binary64.mk bits

theorem magnitude_one : one.magnitude = unit := by
  obtain ⟨exponent, exponentEq, unitEq⟩ := unit_power
  have fields : one.significand = 2 ^ 52 ∧ one.scale = 1022 := by decide
  have exponents : 52 + one.scale = exponent := by rw [fields.2, exponentEq]
  unfold magnitude
  rw [fields.1, unitEq, Nat.pow_eq, ← Nat.pow_add, exponents]

end Binary64

namespace Duration

open Binary64 (unit unit_positive)

variable (duration : Duration)

/-- So many whole seconds are rounded to 2^64. -/
def longestSeconds : Nat := 2 ^ 64 - 1024

theorem finite_whole_part : (Binary64.ofNat duration.seconds).isFinite = true := by
  obtain ⟨scale, scaleEq, unitEq⟩ := Binary64.unit_power
  apply Binary64.finite_round (64 + scale) Nat.one_pos _ (by omega)
  rw [Nat.one_mul, Nat.pow_add, unitEq]
  exact Nat.mul_lt_mul_of_pos_right duration.seconds_lt (Nat.two_pow_pos scale)

theorem subsecond_part_lt : duration.subsecondPart < unit := by
  have rest := duration.subsecond_part_le
  have subsecond : (duration.subsecondNanos + 1) * unit ≤ nanosPerSecond * unit :=
    Nat.mul_le_mul_right unit duration.subsecond_lt
  have positive := unit_positive
  rw [Nat.add_one_mul] at subsecond
  unfold nanosPerSecond at rest subsecond
  generalize duration.subsecondNanos * unit = nanos at *
  generalize unit = one at *
  omega

theorem whole_part_of_long (long : longestSeconds ≤ duration.seconds) :
    2 ^ 64 * unit ≤ duration.wholePart := by
  obtain ⟨scale, scaleEq, unitEq⟩ := Binary64.unit_power
  have finite := duration.finite_whole_part
  unfold wholePart Binary64.ofNat at *
  rw [unitEq] at finite ⊢
  have above : (2 * (2 ^ 53 - 1) + 1) * 2 ^ (11 + scale) ≤ 2 * (duration.seconds * 2 ^ scale) := by
    rw [Nat.pow_add, ← Nat.mul_assoc, ← Nat.mul_assoc]
    apply Nat.mul_le_mul_right
    unfold longestSeconds at long
    omega
  have middle :=
    Binary64.le_magnitude_round_of_middle finite (by decide) (by decide) (by decide) above
  rw [Nat.pow_add, ← Nat.mul_assoc] at middle
  exact middle

theorem whole_part_of_short (short : duration.seconds < longestSeconds) :
    duration.wholePart ≤ (2 ^ 64 - 2048) * unit := by
  obtain ⟨scale, scaleEq, unitEq⟩ := Binary64.unit_power
  have finite := duration.finite_whole_part
  unfold wholePart Binary64.ofNat at *
  rw [unitEq] at finite ⊢
  have below : 2 * (duration.seconds * 2 ^ scale) < (2 * (2 ^ 53 - 1) + 1) * 2 ^ (11 + scale) := by
    rw [Nat.pow_add, ← Nat.mul_assoc, ← Nat.mul_assoc]
    apply Nat.mul_lt_mul_of_pos_right _ (Nat.two_pow_pos scale)
    unfold longestSeconds at short
    omega
  have middle := Binary64.magnitude_round_le_of_lt_middle finite (by decide) (by decide) below
  rw [Nat.pow_add, ← Nat.mul_assoc] at middle
  exact middle

theorem to_seconds_of_long (long : longestSeconds ≤ duration.seconds) :
    duration.toSeconds.magnitude = 2 ^ 64 * unit := by
  obtain ⟨scale, scaleEq, unitEq⟩ := Binary64.unit_power
  have finite := duration.to_seconds_finite
  have least := duration.whole_part_of_long long
  have power : 2 ^ 52 * 2 ^ (12 + scale) = 2 ^ 64 * unit := by
    rw [unitEq, ← Nat.pow_add, ← Nat.pow_add, ← Nat.add_assoc]
  have most : duration.wholePart ≤ 2 ^ 64 * unit := by
    have finiteWhole := duration.finite_whole_part
    have fits := duration.seconds_lt
    rw [← power]
    apply Binary64.magnitude_round_le Nat.one_pos finiteWhole (by decide)
    rw [Nat.one_mul, power]
    exact Nat.mul_le_mul_right _ fits.le
  have rest := duration.subsecond_part_lt
  rw [← power] at least most ⊢
  apply Nat.le_antisymm
  · apply Binary64.magnitude_round_le_of_lt_middle finite (by decide) (by decide)
    have step : unit * 2 ≤ 2 ^ (12 + scale) := by
      rw [unitEq, ← Nat.pow_succ]
      exact Nat.pow_le_pow_right Nat.two_pos (by omega)
    rw [Nat.add_mul, Nat.one_mul, Nat.mul_assoc]
    omega
  · exact Binary64.le_magnitude_round finite (by decide) (by decide)
      (Nat.le_trans least (Nat.le_add_right _ _))

theorem to_seconds_of_short (short : duration.seconds < longestSeconds) :
    duration.toSeconds.magnitude < 2 ^ 64 * unit := by
  obtain ⟨scale, scaleEq, unitEq⟩ := Binary64.unit_power
  have finite := duration.to_seconds_finite
  have most := duration.whole_part_of_short short
  have rest := duration.subsecond_part_lt
  have positive := unit_positive
  have below : 2 * (duration.wholePart + duration.subsecondPart) <
      (2 * (2 ^ 53 - 1) + 1) * 2 ^ (11 + scale) := by
    rw [Nat.pow_add, ← unitEq, ← Nat.mul_assoc]
    generalize unit = one at *
    omega
  have middle := Binary64.magnitude_round_le_of_lt_middle finite (by decide) (by decide) below
  rw [Nat.pow_add, ← unitEq, ← Nat.mul_assoc] at middle
  apply Nat.lt_of_le_of_lt middle
  exact Nat.mul_lt_mul_of_pos_right (by decide) positive

variable {duration} {share : Binary64}

theorem proper_share_parts (proper : share.isProperShare = true) :
    share.isNegative = false ∧ share.magnitude ≤ unit := by
  unfold Binary64.isProperShare at proper
  simp only [Bool.and_eq_true, Bool.not_eq_true', decide_eq_true_eq] at proper
  exact ⟨proper.1.1.2, proper.2⟩

theorem to_seconds_le (duration : Duration) :
    duration.toSeconds.magnitude ≤ 2 ^ 64 * unit := by
  rcases Nat.lt_or_ge duration.seconds longestSeconds with short | long
  · exact (duration.to_seconds_of_short short).le
  · exact (duration.to_seconds_of_long long).le

theorem finite_share (proper : share.isProperShare = true) :
    (share.mul duration.toSeconds).isFinite = true := by
  obtain ⟨scale, scaleEq, unitEq⟩ := Binary64.unit_power
  have atMostOne := (proper_share_parts proper).2
  have seconds := duration.to_seconds_le
  have positive := unit_positive
  apply Binary64.finite_round (65 + scale) positive _ (by omega)
  apply Nat.lt_of_le_of_lt (Nat.mul_le_mul atMostOne seconds)
  apply Nat.mul_lt_mul_of_pos_left _ positive
  rw [Nat.pow_add, ← unitEq]
  exact Nat.mul_lt_mul_of_pos_right (by decide) positive

/-- The product of a share and a number of seconds reaches 2^64 seconds only if both are as
large as they can be. -/
theorem share_overflows_iff (proper : share.isProperShare = true) :
    2 ^ 64 * unit ≤ (share.mul duration.toSeconds).magnitude ↔
      share = Binary64.one ∧ longestSeconds ≤ duration.seconds := by
  have finite : (share.mul duration.toSeconds).isFinite = true := finite_share proper
  obtain ⟨positive, atMostOne⟩ := proper_share_parts proper
  rcases Nat.lt_or_ge duration.seconds longestSeconds with short | long
  · have below := Nat.lt_of_le_of_lt (share_le_seconds proper finite)
      (duration.to_seconds_of_short short)
    constructor
    · intro above
      omega
    · rintro ⟨_, long⟩
      omega
  · -- The number of seconds is a power of two, so the product is exact.
    have product : (share.mul duration.toSeconds).magnitude =
        share.significand * 2 ^ (64 + share.scale) := by
      apply Binary64.magnitude_round_exact unit_positive _ share.significand_lt finite
      rw [duration.to_seconds_of_long long]
      unfold Binary64.magnitude
      rw [Nat.pow_eq, Nat.pow_add]
      ring
    have scaled : (share.mul duration.toSeconds).magnitude = 2 ^ 64 * share.magnitude := by
      rw [product]
      unfold Binary64.magnitude
      rw [Nat.pow_eq, Nat.pow_add]
      ring
    rw [scaled]
    constructor
    · intro above
      have whole : unit ≤ share.magnitude :=
        Nat.le_of_mul_le_mul_left above (Nat.two_pow_pos 64)
      exact ⟨Binary64.eq_one_of_magnitude positive (Nat.le_antisymm atMostOne whole), long⟩
    · rintro ⟨rfl, _⟩
      exact Nat.mul_le_mul_left _ (Nat.le_of_eq Binary64.magnitude_one.symm)

/-- Numbers of seconds below 2^64 are so far below that rounding them to nanoseconds gives a
duration. -/
theorem of_nanos_below {number : Binary64} (below : number.magnitude < 2 ^ 64 * unit) :
    (ofNanos? (roundHalfEven (number.magnitude * nanosPerSecond) unit)).isSome = true := by
  obtain ⟨scale, scaleEq, unitEq⟩ := Binary64.unit_power
  have next : number.magnitude ≤ (2 ^ 64 - 2048) * unit := by
    have power : 2 ^ 64 * unit = 2 ^ (53 + (11 + scale)) := by
      rw [unitEq, ← Nat.pow_add, ← Nat.add_assoc]
    rw [power] at below
    have least := number.magnitude_lt_next below
    have count : (2 ^ 53 - 1) * 2 ^ 11 = 2 ^ 64 - 2048 := by decide
    rwa [Nat.pow_add 2 11, ← Nat.mul_assoc, count, ← unitEq] at least
  have nanos : roundHalfEven (number.magnitude * nanosPerSecond) unit ≤
      (2 ^ 64 - 2048) * nanosPerSecond := by
    apply half_even_le unit_positive
    calc number.magnitude * nanosPerSecond ≤ (2 ^ 64 - 2048) * unit * nanosPerSecond :=
        Nat.mul_le_mul_right _ next
      _ = _ := by ring
  unfold ofNanos?
  rw [dif_pos (Nat.lt_of_le_of_lt nanos (by decide))]
  rfl

/-- A proper share of a duration is a duration again, except for the whole of one whose
seconds are rounded to 2^64. -/
theorem scale_eq_none_iff (proper : share.isProperShare = true) :
    duration.scale? share = none ↔
      share = Binary64.one ∧ longestSeconds ≤ duration.seconds := by
  have finite : (share.mul duration.toSeconds).isFinite = true := finite_share proper
  rw [← share_overflows_iff proper]
  unfold scale? ofSeconds?
  simp only [Nat.pow_eq, finite, true_and]
  constructor
  · intro fails
    by_contra below
    rw [if_pos (by omega)] at fails
    exact absurd fails (Option.isSome_iff_ne_none.mp (of_nanos_below (by omega)))
  · intro above
    rw [if_neg (by omega)]

end Duration

end TokenPersistence
