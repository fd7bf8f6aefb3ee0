import Mathlib.Tactic.Linarith
import TokenPersistence.Number.Seconds
import TokenPersistence.Proofs.Number.Rounding

/-!
# Shares of durations

A share of a duration is computed with a binary number of seconds, so a share of at most
one may come out longer than the duration itself. It does so only where a nanosecond is
too fine for the number of seconds: not below 2^23 seconds, and above that by no more
than a 2^52th of the duration.
-/

namespace TokenPersistence

set_option autoImplicit false

namespace Duration

open Binary64 (unit unit_positive)

variable (duration : Duration)

theorem nanos_eq :
    duration.nanos = duration.seconds * nanosPerSecond + duration.subsecondNanos := by
  unfold seconds subsecondNanos
  rw [Nat.mul_comm]
  exact (Nat.div_add_mod _ _).symm

theorem seconds_lt : duration.seconds < 2 ^ 64 := by
  apply Nat.div_lt_of_lt_mul
  rw [Nat.mul_comm]
  exact duration.inRange

theorem subsecond_lt : duration.subsecondNanos < nanosPerSecond :=
  Nat.mod_lt _ (by decide)

def wholePart : Nat := (Binary64.ofNat duration.seconds).magnitude

def subsecondPart : Nat :=
  ((Binary64.ofNat duration.subsecondNanos).div (Binary64.ofNat nanosPerSecond)).magnitude

theorem whole_part_le :
    duration.wholePart * 2 ^ 53 ≤ duration.seconds * unit * 2 ^ 53 + duration.seconds * unit := by
  obtain ⟨scale, scaleEq, unitEq⟩ := Binary64.unit_power
  apply Binary64.magnitude_round_whole
  apply Binary64.finite_round (64 + scale) Nat.one_pos _ (by omega)
  rw [Nat.one_mul, Nat.pow_add, unitEq]
  exact Nat.mul_lt_mul_of_pos_right duration.seconds_lt (Nat.two_pow_pos scale)

theorem whole_part_eq (short : duration.seconds < 2 ^ 53) :
    duration.wholePart = duration.seconds * unit :=
  Binary64.magnitude_of_nat short

theorem subsecond_part_le :
    duration.subsecondPart * nanosPerSecond * 2 ^ 53 ≤
      duration.subsecondNanos * unit * 2 ^ 53 + duration.subsecondNanos * unit := by
  obtain ⟨scale, scaleEq, unitEq⟩ := Binary64.unit_power
  have unitPositive := unit_positive
  have subsecond := duration.subsecond_lt
  have divisorPositive : 0 < nanosPerSecond * unit := Nat.mul_pos (by decide) unitPositive
  have quotient : duration.subsecondNanos * unit * unit / (nanosPerSecond * unit) =
      duration.subsecondNanos * unit / nanosPerSecond :=
    Nat.mul_div_mul_right _ _ unitPositive
  have partEq : duration.subsecondPart =
      (Binary64.round (duration.subsecondNanos * unit * unit)
        (nanosPerSecond * unit)).magnitude := by
    unfold subsecondPart Binary64.div
    rw [Binary64.magnitude_of_nat (by unfold nanosPerSecond at subsecond; omega),
      Binary64.magnitude_of_nat (by decide)]
  have finite : (Binary64.round (duration.subsecondNanos * unit * unit)
      (nanosPerSecond * unit)).isFinite = true := by
    apply Binary64.finite_round scale divisorPositive _ (by omega)
    rw [← unitEq]
    apply Nat.mul_lt_mul_of_pos_right _ unitPositive
    exact Nat.mul_lt_mul_of_pos_right subsecond unitPositive
  rw [partEq]
  rcases Nat.eq_zero_or_pos duration.subsecondNanos with none | some
  · have vanishes : (Binary64.round (duration.subsecondNanos * unit * unit)
        (nanosPerSecond * unit)).magnitude ≤ 0 * 2 ^ 0 :=
      Binary64.magnitude_round_le divisorPositive finite (by decide) (by simp [none])
    rw [Nat.zero_mul] at vanishes
    rw [Nat.le_zero.mp vanishes, Nat.zero_mul, Nat.zero_mul]
    exact Nat.zero_le _
  · have large : 2 ^ 52 ≤ duration.subsecondNanos * unit * unit / (nanosPerSecond * unit) := by
      rw [quotient, Nat.le_div_iff_mul_le (by decide)]
      calc 2 ^ 52 * nanosPerSecond ≤ 2 ^ 82 := by decide
        _ ≤ 2 ^ scale := Nat.pow_le_pow_right Nat.two_pos (by omega)
        _ = unit := unitEq.symm
        _ ≤ duration.subsecondNanos * unit := Nat.le_mul_of_pos_left _ some
    have relative := Binary64.magnitude_round_relative divisorPositive finite large
    apply Nat.le_of_mul_le_mul_left _ unitPositive
    calc _ = _ := by ring
      _ ≤ _ := relative
      _ = _ := by ring

theorem parts_lt {scale : Nat} (unitEq : unit = 2 ^ scale) :
    duration.wholePart + duration.subsecondPart < 2 ^ (66 + scale) := by
  have whole := duration.whole_part_le
  have rest := duration.subsecond_part_le
  have seconds : duration.seconds * unit ≤ 2 ^ 64 * unit :=
    Nat.mul_le_mul_right unit duration.seconds_lt.le
  have subsecond : duration.subsecondNanos * unit ≤ nanosPerSecond * unit :=
    Nat.mul_le_mul_right unit duration.subsecond_lt.le
  rw [Nat.pow_add, ← unitEq]
  have positive := unit_positive
  unfold nanosPerSecond at rest subsecond
  generalize unit = one at *
  omega

theorem to_seconds_finite :
    (Binary64.round (duration.wholePart + duration.subsecondPart) 1).isFinite = true := by
  obtain ⟨scale, scaleEq, unitEq⟩ := Binary64.unit_power
  apply Binary64.finite_round (66 + scale) Nat.one_pos _ (by omega)
  rw [Nat.one_mul]
  exact duration.parts_lt unitEq

/-- The number of seconds exceeds the duration by a 2^52th of it at most, or slightly more. -/
theorem to_seconds_relative :
    duration.toSeconds.magnitude * nanosPerSecond * 2 ^ 106 ≤
      duration.nanos * unit * (2 ^ 106 + 2 ^ 54 + 1) := by
  have whole := duration.whole_part_le
  have rest := duration.subsecond_part_le
  have sum : duration.toSeconds.magnitude * 2 ^ 53 ≤
      (duration.wholePart + duration.subsecondPart) * 2 ^ 53 +
        (duration.wholePart + duration.subsecondPart) :=
    Binary64.magnitude_round_whole duration.to_seconds_finite
  have nanos : duration.nanos * unit =
      duration.seconds * unit * nanosPerSecond + duration.subsecondNanos * unit := by
    rw [duration.nanos_eq]
    ring
  rw [nanos]
  unfold nanosPerSecond at rest ⊢
  linarith

/-- Below 2^23 seconds it exceeds the duration by less than half a nanosecond. -/
theorem to_seconds_near (short : duration.nanos < 2 ^ 23 * nanosPerSecond) :
    2 * (duration.toSeconds.magnitude * nanosPerSecond) <
      2 * (duration.nanos * unit) + unit := by
  obtain ⟨scale, scaleEq, unitEq⟩ := Binary64.unit_power
  have few : duration.seconds < 2 ^ 23 := by
    apply Nat.div_lt_of_lt_mul
    rwa [Nat.mul_comm]
  have rest := duration.subsecond_part_le
  have subsecond : (duration.subsecondNanos + 1) * unit ≤ nanosPerSecond * unit :=
    Nat.mul_le_mul_right unit duration.subsecond_lt
  have seconds : (duration.seconds + 1) * unit ≤ 2 ^ 23 * unit := Nat.mul_le_mul_right unit few
  have whole := duration.whole_part_eq (few.trans (by decide))
  rw [Nat.add_one_mul] at subsecond seconds
  have positive := unit_positive
  have nanos : duration.nanos * unit =
      duration.seconds * unit * nanosPerSecond + duration.subsecondNanos * unit := by
    rw [duration.nanos_eq]
    ring
  -- The sum stays below 2^23 seconds, so its last binary place is worth 2^-30 of a second.
  have bounded : duration.wholePart + duration.subsecondPart < 2 ^ (23 + scale) := by
    rw [Nat.pow_add, ← unitEq, whole]
    unfold nanosPerSecond at rest subsecond
    generalize duration.seconds * unit = wholeSeconds at *
    generalize duration.subsecondNanos * unit = wholeNanos at *
    generalize unit = one at *
    omega
  have step : 2 ^ Binary64.roundingScale (duration.wholePart + duration.subsecondPart) 1 *
      2 ^ 30 ≤ unit := by
    rw [unitEq, ← Nat.pow_add]
    apply Nat.pow_le_pow_right Nat.two_pos
    have log := Binary64.log_lt (by omega) bounded
    unfold Binary64.roundingScale
    rw [Nat.div_one]
    omega
  have near : 2 * (1 * duration.toSeconds.magnitude) ≤
      2 * (duration.wholePart + duration.subsecondPart) +
        1 * 2 ^ Binary64.roundingScale (duration.wholePart + duration.subsecondPart) 1 :=
    Binary64.magnitude_round_near Nat.one_pos duration.to_seconds_finite
  rw [nanos]
  generalize 2 ^ Binary64.roundingScale (duration.wholePart + duration.subsecondPart) 1 =
    width at near step
  rw [whole] at near
  unfold nanosPerSecond at rest subsecond ⊢
  generalize duration.seconds * unit = wholeSeconds at *
  generalize duration.subsecondNanos * unit = wholeNanos at *
  generalize unit = one at *
  omega

variable {duration} {share : Binary64} {scaled : Duration}

/-- A proper share is rounded once more, but never beyond the number that it is a share of. -/
theorem share_le_seconds (proper : share.isProperShare = true)
    (finite : (share.mul duration.toSeconds).isFinite = true) :
    (share.mul duration.toSeconds).magnitude ≤ duration.toSeconds.magnitude := by
  have atMostOne : share.magnitude ≤ unit := by
    unfold Binary64.isProperShare at proper
    simp only [Bool.and_eq_true, decide_eq_true_eq] at proper
    exact proper.2
  exact Binary64.magnitude_round_le unit_positive finite
    (Binary64.significand_lt duration.toSeconds) (Nat.mul_le_mul_right _ atMostOne)

theorem scaled_eq (computed : duration.scale? share = some scaled) :
    (share.mul duration.toSeconds).isFinite = true ∧
      scaled.nanos =
        roundHalfEven ((share.mul duration.toSeconds).magnitude * nanosPerSecond) unit := by
  unfold scale? ofSeconds? at computed
  split at computed
  · next inRange =>
      refine ⟨inRange.1, ?_⟩
      unfold ofNanos? at computed
      split at computed
      · rw [← Option.some.inj computed]
      · cases computed
  · cases computed

theorem scaled_le_seconds (proper : share.isProperShare = true)
    (computed : duration.scale? share = some scaled) :
    2 * (unit * scaled.nanos) ≤
      2 * (duration.toSeconds.magnitude * nanosPerSecond) + unit := by
  obtain ⟨finite, nearest⟩ := scaled_eq computed
  have near := (half_even_near
    ((share.mul duration.toSeconds).magnitude * nanosPerSecond) unit_positive).1
  rw [← nearest] at near
  have less := Nat.mul_le_mul_right nanosPerSecond (share_le_seconds proper finite)
  linarith

/-- A share of a short duration is not longer than the duration. -/
theorem scaled_le_of_short (proper : share.isProperShare = true)
    (computed : duration.scale? share = some scaled)
    (short : duration.nanos < 2 ^ 23 * nanosPerSecond) : scaled.nanos ≤ duration.nanos := by
  have near := duration.to_seconds_near short
  have share := scaled_le_seconds proper computed
  by_contra longer
  have beyond : unit * (duration.nanos + 1) ≤ unit * scaled.nanos :=
    Nat.mul_le_mul_left unit (by omega)
  have next : unit * (duration.nanos + 1) = duration.nanos * unit + unit := by ring
  omega

/-- A share of any duration exceeds the duration by a 2^52th of it at most, rounded up to
whole nanoseconds. -/
theorem scaled_le (proper : share.isProperShare = true)
    (computed : duration.scale? share = some scaled) :
    scaled.nanos ≤ duration.nanos + duration.nanos / 2 ^ 52 + 1 := by
  have relative := duration.to_seconds_relative
  have share := scaled_le_seconds proper computed
  have inRange := duration.inRange
  have positive := unit_positive
  have bound : 2 * scaled.nanos * 2 ^ 106 ≤
      2 * (duration.nanos * (2 ^ 106 + 2 ^ 54 + 1)) + 2 ^ 106 := by
    apply Nat.le_of_mul_le_mul_left _ positive
    calc unit * (2 * scaled.nanos * 2 ^ 106) = 2 * (unit * scaled.nanos) * 2 ^ 106 := by ring
      _ ≤ (2 * (duration.toSeconds.magnitude * nanosPerSecond) + unit) * 2 ^ 106 :=
        Nat.mul_le_mul_right _ share
      _ = 2 * (duration.toSeconds.magnitude * nanosPerSecond * 2 ^ 106) + unit * 2 ^ 106 := by
        ring
      _ ≤ 2 * (duration.nanos * unit * (2 ^ 106 + 2 ^ 54 + 1)) + unit * 2 ^ 106 :=
        Nat.add_le_add_right (Nat.mul_le_mul_left 2 relative) _
      _ = _ := by ring
  unfold nanosPerSecond at inRange
  omega

end Duration

end TokenPersistence
