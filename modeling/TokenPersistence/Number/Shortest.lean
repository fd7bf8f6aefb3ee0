import TokenPersistence.Number.Binary64

/-!
# The shortest decimal that reads back

A positive number of the binary format is the nearest one to every real in an
interval around it. Of the decimals with the fewest digits inside that interval
the one nearest to the number is its shortest decimal, and of two that are equally
near the greater one. The search looks at one digit, then at two, and so on;
seventeen digits are always enough. On each decimal grid only the two neighbours of
the number can be the answer.
-/

namespace TokenPersistence

set_option autoImplicit false

structure Decimal where
  digits : Nat
  exponent : Int
  deriving DecidableEq, Repr, Inhabited

namespace Decimal

/-- Drops the zeros at the end of the digits; `fuel` bounds their number. -/
def trim : Nat → Decimal → Decimal
  | 0, decimal => decimal
  | fuel + 1, decimal =>
      if decimal.digits ≠ 0 ∧ decimal.digits % 10 = 0 then
        trim fuel ⟨decimal.digits / 10, decimal.exponent + 1⟩
      else decimal

end Decimal

namespace Binary64

/-- The reals that round to a positive number, in halves of a smallest step. The
ends belong to them when the significand is even. -/
structure RoundingInterval where
  low : Nat
  middle : Nat
  high : Nat
  endsIncluded : Bool

/-- The gap below a power of two is half the gap above it. -/
def roundingInterval (number : Binary64) : RoundingInterval :=
  let step := Nat.pow 2 number.scale
  let below := if number.fraction = 0 ∧ 1 < number.exponentField then step / 2 else step
  { low := 2 * number.magnitude - below
    middle := 2 * number.magnitude
    high := 2 * number.magnitude + step
    endsIncluded := number.significand % 2 == 0 }

/-- The exponent of the leading decimal digit of `magnitude` smallest steps. -/
def decimalExponent (magnitude : Nat) : Int :=
  if unit ≤ magnitude then ((Nat.toDigits 10 (magnitude / unit)).length : Int) - 1
  else
    match (List.range 325).find? fun places => unit ≤ magnitude * Nat.pow 10 places with
    | some places => -(places : Int)
    | none => -324

/-- Multiplies by a power of ten whose exponent may be negative: the first factor
is for the digits of the grid, the second one for the interval. -/
def gridFactors (exponent : Int) : Nat × Nat :=
  if 0 ≤ exponent then (Nat.pow 10 exponent.toNat * (2 * unit), 1)
  else (2 * unit, Nat.pow 10 (-exponent).toNat)

def RoundingInterval.contains (interval : RoundingInterval) (grid : Nat × Nat)
    (digits : Nat) : Bool :=
  let point := digits * grid.1
  let low := interval.low * grid.2
  let high := interval.high * grid.2
  if interval.endsIncluded then decide (low ≤ point) && decide (point ≤ high)
  else decide (low < point) && decide (point < high)

/-- The better of the two neighbours of the number on one decimal grid. -/
def onGrid (interval : RoundingInterval) (exponent : Int) : Option Decimal :=
  let grid := gridFactors exponent
  let middle := interval.middle * grid.2
  let lower := middle / grid.1
  let upper := lower + 1
  match interval.contains grid lower, interval.contains grid upper with
  | true, true =>
      if middle - lower * grid.1 < upper * grid.1 - middle then some ⟨lower, exponent⟩
      else some ⟨upper, exponent⟩
  | true, false => some ⟨lower, exponent⟩
  | false, true => some ⟨upper, exponent⟩
  | false, false => none

/-- The shortest decimal of the absolute value of a finite number. -/
def shortest (number : Binary64) : Decimal :=
  if number.magnitude = 0 then ⟨0, 0⟩
  else
    let leading := decimalExponent number.magnitude
    let interval := number.roundingInterval
    ((List.range 17).findSome? fun (further : Nat) =>
      onGrid interval (leading - (further : Int))).elim ⟨0, 0⟩ (Decimal.trim 20)

end Binary64

end TokenPersistence
