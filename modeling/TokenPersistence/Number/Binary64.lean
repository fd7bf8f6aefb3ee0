/-!
# Binary64 numbers as exact fractions

A finite number of the 64-bit binary format is a whole multiple of 2^-1074, its
*magnitude* here, together with a sign. Sums, products and quotients of numbers
that are not negative are therefore computed exactly on natural numbers and
rounded once, to the nearest number of the format and on a tie to the one with an
even significand.
-/

namespace TokenPersistence

set_option autoImplicit false

/-- The whole number nearest to `dividend / divisor`, an even one on a tie. -/
def roundHalfEven (dividend divisor : Nat) : Nat :=
  let quotient := dividend / divisor
  let twice := 2 * (dividend % divisor)
  if twice < divisor then quotient
  else if divisor < twice then quotient + 1
  else if quotient % 2 = 0 then quotient else quotient + 1

structure Binary64 where
  bits : UInt64
  deriving DecidableEq, Repr, Inhabited

namespace Binary64

def unit : Nat := Nat.pow 2 1074

def ofBits (bits : Nat) : Binary64 := ⟨UInt64.ofNat bits⟩

def word (number : Binary64) : Nat := number.bits.toNat

def isNegative (number : Binary64) : Bool := Nat.pow 2 63 ≤ number.word

def exponentField (number : Binary64) : Nat := number.word / Nat.pow 2 52 % Nat.pow 2 11

def fraction (number : Binary64) : Nat := number.word % Nat.pow 2 52

def isFinite (number : Binary64) : Bool := number.exponentField != 2047

def isNaN (number : Binary64) : Bool := !number.isFinite && number.fraction != 0

/-- The significand, with the leading bit that normal numbers leave out. -/
def significand (number : Binary64) : Nat :=
  if number.exponentField = 0 then number.fraction else number.fraction + Nat.pow 2 52

/-- The significand counts steps of 2^`scale` smallest steps. -/
def scale (number : Binary64) : Nat := number.exponentField - 1

/-- The absolute value of a finite number, in smallest steps. -/
def magnitude (number : Binary64) : Nat := number.significand * Nat.pow 2 number.scale

def infinity : Binary64 := ofBits (2047 * Nat.pow 2 52)

def one : Binary64 := ofBits (1023 * Nat.pow 2 52)

def zero : Binary64 := ofBits 0

def negate (number : Binary64) : Binary64 := ⟨number.bits ^^^ 0x8000000000000000⟩

/-- The number nearest to `dividend / divisor` smallest steps. The significand
has 53 bits, or fewer where the scale cannot get smaller; a significand that is
rounded up to 54 bits spills into the exponent, where it is meant to go. -/
def round (dividend divisor : Nat) : Binary64 :=
  let scale := Nat.log2 (dividend / divisor) - 52
  let bits := scale * Nat.pow 2 52 + roundHalfEven dividend (divisor * Nat.pow 2 scale)
  if bits < 2047 * Nat.pow 2 52 then ofBits bits else infinity

def ofNat (number : Nat) : Binary64 := round (number * unit) 1

def add (left right : Binary64) : Binary64 :=
  round (left.magnitude + right.magnitude) 1

def mul (left right : Binary64) : Binary64 :=
  round (left.magnitude * right.magnitude) unit

/-- The quotient of two finite numbers that are not negative, the second one
greater than zero. -/
def div (left right : Binary64) : Binary64 :=
  round (left.magnitude * unit) right.magnitude

def isProperShare (number : Binary64) : Bool :=
  number.isFinite && !number.isNegative &&
    decide (0 < number.magnitude) && decide (number.magnitude ≤ unit)

end Binary64

end TokenPersistence
