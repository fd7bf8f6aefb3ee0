import Mathlib.Tactic.Ring
import TokenPersistence.Number.Binary64

/-!
# Rounding to binary64

A rounded number is a whole multiple of a power of two, and of all such multiples one
that is nearest to the exact fraction. So rounding never passes a number of the format,
a fraction that is a number of the format stays what it is, and the error is at most
half a step, where a step is a 2^52th of the fraction or less.
-/

namespace TokenPersistence

set_option autoImplicit false

/-- The rounded quotient is at most one half away from the exact one. -/
theorem half_even_near (dividend : Nat) {divisor : Nat} (positive : 0 < divisor) :
    2 * (divisor * roundHalfEven dividend divisor) ≤ 2 * dividend + divisor ∧
      2 * dividend ≤ 2 * (divisor * roundHalfEven dividend divisor) + divisor := by
  have whole := Nat.div_add_mod dividend divisor
  have rest := Nat.mod_lt dividend positive
  have next : divisor * (dividend / divisor + 1) = divisor * (dividend / divisor) + divisor :=
    Nat.mul_succ _ _
  unfold roundHalfEven
  dsimp only
  split
  · omega
  · split
    · omega
    · split <;> omega

theorem half_even_le {dividend divisor bound : Nat} (positive : 0 < divisor)
    (below : dividend ≤ divisor * bound) : roundHalfEven dividend divisor ≤ bound := by
  have near := (half_even_near dividend positive).1
  by_contra above
  have beyond : divisor * (bound + 1) ≤ divisor * roundHalfEven dividend divisor :=
    Nat.mul_le_mul_left divisor (by omega)
  have next : divisor * (bound + 1) = divisor * bound + divisor := Nat.mul_succ _ _
  omega

theorem half_even_mul (quotient : Nat) {divisor : Nat} (positive : 0 < divisor) :
    roundHalfEven (divisor * quotient) divisor = quotient := by
  unfold roundHalfEven
  simp [Nat.mul_div_cancel_left quotient positive, positive]

namespace Binary64

theorem significand_lt (number : Binary64) : number.significand < 2 ^ 53 := by
  have fraction : number.fraction < 2 ^ 52 := Nat.mod_lt _ (by decide)
  unfold significand
  simp only [Nat.pow_eq]
  split <;> omega

/-- Rounding looks for a multiple of two to this power. -/
def roundingScale (dividend divisor : Nat) : Nat := Nat.log2 (dividend / divisor) - 52

/-- How many of these multiples a rounded number is. -/
def roundedCount (dividend divisor : Nat) : Nat :=
  roundHalfEven dividend (divisor * 2 ^ roundingScale dividend divisor)

variable {dividend divisor : Nat}

theorem rounded_count_le (positive : 0 < divisor) : roundedCount dividend divisor ≤ 2 ^ 53 := by
  apply half_even_le (Nat.mul_pos positive (Nat.two_pow_pos _))
  have below : dividend < divisor * (dividend / divisor + 1) :=
    Nat.lt_mul_div_succ dividend positive
  have log : dividend / divisor < _ := Nat.lt_log2_self
  have exponent : Nat.log2 (dividend / divisor) + 1 ≤ roundingScale dividend divisor + 53 := by
    unfold roundingScale
    omega
  calc dividend ≤ divisor * (dividend / divisor + 1) := below.le
    _ ≤ divisor * 2 ^ (roundingScale dividend divisor + 53) :=
        Nat.mul_le_mul_left divisor
          (Nat.le_trans log (Nat.pow_le_pow_right Nat.two_pos exponent))
    _ = divisor * 2 ^ roundingScale dividend divisor * 2 ^ 53 := by rw [Nat.pow_add, Nat.mul_assoc]

theorem step_le (large : 2 ^ 52 ≤ dividend / divisor) :
    divisor * 2 ^ roundingScale dividend divisor * 2 ^ 52 ≤ dividend := by
  have nonzero : dividend / divisor ≠ 0 := by omega
  have log := Nat.log2_self_le nonzero
  have exponent : roundingScale dividend divisor + 52 = Nat.log2 (dividend / divisor) := by
    have least := (Nat.le_log2 nonzero).mpr large
    unfold roundingScale
    omega
  calc divisor * 2 ^ roundingScale dividend divisor * 2 ^ 52
      = divisor * 2 ^ Nat.log2 (dividend / divisor) := by
        rw [Nat.mul_assoc, ← Nat.pow_add, exponent]
    _ ≤ divisor * (dividend / divisor) := Nat.mul_le_mul_left divisor log
    _ ≤ dividend := Nat.mul_div_le dividend divisor

theorem large_of_scale (scaled : 0 < roundingScale dividend divisor) :
    2 ^ 52 ≤ dividend / divisor := by
  unfold roundingScale at scaled
  have nonzero : dividend / divisor ≠ 0 := by
    intro zero
    simp [zero] at scaled
  exact (Nat.le_log2 nonzero).mp (by omega)

theorem le_rounded_count (positive : 0 < divisor) (scaled : 0 < roundingScale dividend divisor) :
    2 ^ 52 ≤ roundedCount dividend divisor := by
  have stepPositive : 0 < divisor * 2 ^ roundingScale dividend divisor :=
    Nat.mul_pos positive (Nat.two_pow_pos _)
  have near := (half_even_near dividend stepPositive).2
  have step := step_le (large_of_scale scaled)
  have enough : divisor * 2 ^ roundingScale dividend divisor * (2 * 2 ^ 52) ≤
      divisor * 2 ^ roundingScale dividend divisor *
        (2 * roundedCount dividend divisor + 1) := by
    unfold roundedCount
    calc divisor * 2 ^ roundingScale dividend divisor * (2 * 2 ^ 52)
        = 2 * (divisor * 2 ^ roundingScale dividend divisor * 2 ^ 52) := by ring
      _ ≤ 2 * dividend := Nat.mul_le_mul_left 2 step
      _ ≤ _ := near
      _ = _ := by ring
  have count := Nat.le_of_mul_le_mul_left enough stepPositive
  omega

/-- What bits spell, if they are a scale and a count that fits it. -/
theorem fields_of_bits {scale count : Nat} (least : 0 < scale → 2 ^ 52 ≤ count)
    (most : count ≤ 2 ^ 53) (inRange : scale * 2 ^ 52 + count < 2047 * 2 ^ 52) :
    (ofBits (scale * 2 ^ 52 + count)).isFinite = true ∧
      (ofBits (scale * 2 ^ 52 + count)).magnitude = count * 2 ^ scale := by
  have spelled : (ofBits (scale * 2 ^ 52 + count)).word = scale * 2 ^ 52 + count := by
    have fits : scale * 2 ^ 52 + count < UInt64.size := by
      unfold UInt64.size
      omega
    exact UInt64.toNat_ofNat_of_lt' fits
  have exponent : (ofBits (scale * 2 ^ 52 + count)).exponentField =
      (scale * 2 ^ 52 + count) / 2 ^ 52 := by
    unfold exponentField
    rw [spelled]
    simp only [Nat.pow_eq]
    omega
  have fraction : (ofBits (scale * 2 ^ 52 + count)).fraction = count % 2 ^ 52 := by
    unfold fraction
    rw [spelled]
    simp only [Nat.pow_eq]
    omega
  refine ⟨?_, ?_⟩
  · unfold isFinite
    rw [exponent]
    simp only [bne_iff_ne]
    omega
  · unfold magnitude significand Binary64.scale
    rw [exponent, fraction]
    simp only [Nat.pow_eq]
    rcases Nat.lt_or_ge count (2 ^ 52) with small | normal
    · have unscaled : scale = 0 := by omega
      have field : (scale * 2 ^ 52 + count) / 2 ^ 52 = 0 := by omega
      rw [field, if_pos rfl, Nat.mod_eq_of_lt small, unscaled]
    · rcases Nat.lt_or_ge count (2 ^ 53) with fits | spills
      · have field : (scale * 2 ^ 52 + count) / 2 ^ 52 = scale + 1 := by omega
        have rest : count % 2 ^ 52 + 2 ^ 52 = count := by omega
        rw [field, if_neg (Nat.succ_ne_zero scale), rest, Nat.add_sub_cancel]
      · have full : count = 2 ^ 53 := by omega
        have field : (scale * 2 ^ 52 + count) / 2 ^ 52 = scale + 1 + 1 := by omega
        have rest : count % 2 ^ 52 = 0 := by omega
        rw [field, if_neg (Nat.succ_ne_zero _), rest, Nat.add_sub_cancel, full, Nat.pow_succ]
        omega

theorem round_eq (dividend divisor : Nat) :
    round dividend divisor =
      if roundingScale dividend divisor * 2 ^ 52 + roundedCount dividend divisor < 2047 * 2 ^ 52
      then ofBits (roundingScale dividend divisor * 2 ^ 52 + roundedCount dividend divisor)
      else infinity := rfl

theorem infinity_not_finite : infinity.isFinite = false := by decide

/-- A rounded number that is finite is a multiple of the rounding step. -/
theorem magnitude_round (positive : 0 < divisor)
    (finite : (round dividend divisor).isFinite = true) :
    (round dividend divisor).magnitude =
      roundedCount dividend divisor * 2 ^ roundingScale dividend divisor := by
  rw [round_eq] at finite ⊢
  split
  · next inRange =>
      exact (fields_of_bits (le_rounded_count positive) (rounded_count_le positive) inRange).2
  · next outside =>
      rw [if_neg outside, infinity_not_finite] at finite
      cases finite

theorem log_lt {quotient limit : Nat} (some : 0 < limit) (below : quotient < 2 ^ limit) :
    Nat.log2 quotient < limit := by
  rcases Nat.eq_zero_or_pos quotient with zero | nonzero
  · rw [zero, Nat.log2_zero]
    exact some
  · exact (Nat.log2_lt nonzero.ne').mpr below

theorem finite_round (limit : Nat) (positive : 0 < divisor)
    (below : dividend < divisor * 2 ^ limit) (representable : limit ≤ 2096) :
    (round dividend divisor).isFinite = true := by
  have scale : roundingScale dividend divisor ≤ 2044 := by
    have log : Nat.log2 (dividend / divisor) < limit + 1 := by
      apply log_lt (Nat.succ_pos limit)
      apply Nat.lt_of_lt_of_le (Nat.div_lt_of_lt_mul below)
      exact Nat.pow_le_pow_right Nat.two_pos (Nat.le_succ limit)
    unfold roundingScale
    omega
  have count : roundedCount dividend divisor ≤ 2 ^ 53 := rounded_count_le positive
  have inRange : roundingScale dividend divisor * 2 ^ 52 + roundedCount dividend divisor <
      2047 * 2 ^ 52 := by omega
  rw [round_eq, if_pos inRange]
  exact (fields_of_bits (le_rounded_count positive) count inRange).1

theorem rounding_scale_le {count scale : Nat} (positive : 0 < divisor) (fits : count < 2 ^ 53)
    (below : dividend ≤ divisor * (count * 2 ^ scale)) :
    roundingScale dividend divisor ≤ scale := by
  have quotient : dividend / divisor < 2 ^ (53 + scale) := by
    apply Nat.div_lt_of_lt_mul
    rw [Nat.pow_add]
    apply Nat.lt_of_le_of_lt below
    apply Nat.mul_lt_mul_of_pos_left _ positive
    exact Nat.mul_lt_mul_of_pos_right fits (Nat.two_pow_pos scale)
  have log := log_lt (by omega) quotient
  unfold roundingScale
  omega

/-- A number of the format is a whole number of the steps of anything that it bounds. -/
theorem split_scale {scale : Nat} (count : Nat)
    (coarse : roundingScale dividend divisor ≤ scale) :
    count * 2 ^ scale = count * 2 ^ (scale - roundingScale dividend divisor) *
      2 ^ roundingScale dividend divisor := by
  rw [Nat.mul_assoc, ← Nat.pow_add, Nat.sub_add_cancel coarse]

/-- Rounding never passes a number that the format has. -/
theorem magnitude_round_le {count scale : Nat} (positive : 0 < divisor)
    (finite : (round dividend divisor).isFinite = true) (fits : count < 2 ^ 53)
    (below : dividend ≤ divisor * (count * 2 ^ scale)) :
    (round dividend divisor).magnitude ≤ count * 2 ^ scale := by
  have coarse := rounding_scale_le positive fits below
  rw [magnitude_round positive finite]
  rw [split_scale count coarse] at below ⊢
  apply Nat.mul_le_mul_right
  apply half_even_le (Nat.mul_pos positive (Nat.two_pow_pos _))
  calc dividend ≤ _ := below
    _ = _ := by ring

/-- What the format has stays what it is. -/
theorem magnitude_round_exact {count scale : Nat} (positive : 0 < divisor)
    (exact : dividend = divisor * (count * 2 ^ scale)) (fits : count < 2 ^ 53)
    (finite : (round dividend divisor).isFinite = true) :
    (round dividend divisor).magnitude = count * 2 ^ scale := by
  have coarse := rounding_scale_le positive fits exact.le
  have counted : roundedCount dividend divisor =
      count * 2 ^ (scale - roundingScale dividend divisor) := by
    have regrouped : dividend = divisor * 2 ^ roundingScale dividend divisor *
        (count * 2 ^ (scale - roundingScale dividend divisor)) := by
      calc dividend = divisor * (count * 2 ^ scale) := exact
        _ = _ := by
          rw [split_scale count coarse]
          ring
    have whole := half_even_mul (count * 2 ^ (scale - roundingScale dividend divisor))
      (Nat.mul_pos positive (Nat.two_pow_pos (roundingScale dividend divisor)))
    rw [← regrouped] at whole
    exact whole
  rw [magnitude_round positive finite, counted, ← split_scale count coarse]

/-- The error of rounding is at most half a step. -/
theorem magnitude_round_near (positive : 0 < divisor)
    (finite : (round dividend divisor).isFinite = true) :
    2 * (divisor * (round dividend divisor).magnitude) ≤
      2 * dividend + divisor * 2 ^ roundingScale dividend divisor := by
  have near := (half_even_near dividend
    (Nat.mul_pos positive (Nat.two_pow_pos (roundingScale dividend divisor)))).1
  rw [magnitude_round positive finite]
  unfold roundedCount
  calc _ = _ := by ring
    _ ≤ _ := near

theorem half_step_le {rounded step : Nat} (near : 2 * rounded ≤ 2 * dividend + step)
    (small : step * 2 ^ 52 ≤ dividend) : rounded * 2 ^ 53 ≤ dividend * 2 ^ 53 + dividend :=
  calc rounded * 2 ^ 53 = 2 * rounded * 2 ^ 52 := by ring
    _ ≤ (2 * dividend + step) * 2 ^ 52 := Nat.mul_le_mul_right _ near
    _ = dividend * 2 ^ 53 + step * 2 ^ 52 := by ring
    _ ≤ dividend * 2 ^ 53 + dividend := Nat.add_le_add_left small _

/-- Where the fraction has all its digits, a step is a 2^52th of it at most. -/
theorem magnitude_round_relative (positive : 0 < divisor)
    (finite : (round dividend divisor).isFinite = true) (large : 2 ^ 52 ≤ dividend / divisor) :
    divisor * (round dividend divisor).magnitude * 2 ^ 53 ≤ dividend * 2 ^ 53 + dividend :=
  half_step_le (magnitude_round_near positive finite) (step_le large)

/-- A whole number of smallest steps is rounded only if it has more digits than fit. -/
theorem magnitude_round_whole (finite : (round dividend 1).isFinite = true) :
    (round dividend 1).magnitude * 2 ^ 53 ≤ dividend * 2 ^ 53 + dividend := by
  rcases Nat.lt_or_ge dividend (2 ^ 52) with small | large
  · have exact : (round dividend 1).magnitude = dividend * 2 ^ 0 :=
      magnitude_round_exact Nat.one_pos (by omega) (by omega) finite
    rw [exact, Nat.pow_zero, Nat.mul_one]
    exact Nat.le_add_right _ _
  · have relative := magnitude_round_relative Nat.one_pos finite (by rwa [Nat.div_one])
    rwa [Nat.one_mul] at relative

/-- One is a power of two. The exponent is kept in a variable, so that nothing computes
the power. -/
theorem unit_power : ∃ scale, scale = 1074 ∧ unit = 2 ^ scale := by
  obtain ⟨scale, scaleEq⟩ : ∃ scale, scale = 1074 := ⟨_, rfl⟩
  unfold unit
  rw [← scaleEq]
  exact ⟨scale, rfl, Nat.pow_eq⟩

theorem unit_positive : 0 < unit := by
  obtain ⟨scale, _, unitEq⟩ := unit_power
  rw [unitEq]
  exact Nat.two_pow_pos scale

/-- Whole numbers below 2^53 are numbers of the format. -/
theorem magnitude_of_nat {number : Nat} (fits : number < 2 ^ 53) :
    (ofNat number).magnitude = number * unit := by
  obtain ⟨scale, scaleEq, unitEq⟩ := unit_power
  unfold ofNat
  rw [unitEq]
  have finite : (round (number * 2 ^ scale) 1).isFinite = true := by
    apply finite_round (53 + scale) Nat.one_pos _ (by omega)
    rw [Nat.one_mul, Nat.pow_add]
    exact Nat.mul_lt_mul_of_pos_right fits (Nat.two_pow_pos _)
  exact magnitude_round_exact Nat.one_pos (Nat.one_mul _).symm fits finite

end Binary64

end TokenPersistence
