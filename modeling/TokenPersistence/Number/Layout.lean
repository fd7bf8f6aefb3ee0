import TokenPersistence.Number.Shortest

/-!
# Writing numbers

A layout says how the shortest decimal of a number is written: from which size on
with an exponent, and whether a whole number keeps a decimal place.
-/

namespace TokenPersistence

set_option autoImplicit false

/-- `exponentBelow` and `exponentFrom` are compared with the position of the
decimal point relative to the first digit: 0.1 has position 0, and 1 has 1. -/
structure NumberLayout where
  exponentBelow : Option Int
  exponentFrom : Option Int
  keepsPlace : Bool

namespace NumberLayout

/-- Numbers in messages: never an exponent, and no place after a whole number. -/
def plain : NumberLayout := ⟨none, none, false⟩

/-- Numbers in descriptions of values: an exponent below 1e-4 and from 1e16 on,
and one decimal place after a whole number. -/
def descriptive : NumberLayout := ⟨some (-3), some 17, true⟩

def usesExponent (layout : NumberLayout) (point : Int) : Bool :=
  (layout.exponentBelow.any fun bound => decide (point < bound)) ||
    (layout.exponentFrom.any fun bound => decide (bound ≤ point))

def zeros (count : Nat) : String := String.ofList (List.replicate count '0')

def withExponent (digits : List Char) (point : Int) : String :=
  let fraction := digits.drop 1
  String.ofList (digits.take 1) ++
    (if fraction.isEmpty then "" else "." ++ String.ofList fraction) ++
    "e" ++ toString (point - 1)

def positional (layout : NumberLayout) (digits : List Char) (point : Int) : String :=
  if point ≤ 0 then "0." ++ zeros (-point).toNat ++ String.ofList digits
  else if (digits.length : Int) ≤ point then
    String.ofList digits ++ zeros (point.toNat - digits.length) ++
      (if layout.keepsPlace then ".0" else "")
  else
    String.ofList (digits.take point.toNat) ++ "." ++
      String.ofList (digits.drop point.toNat)

def ofMagnitude (layout : NumberLayout) (number : Binary64) : String :=
  if number.magnitude = 0 then (if layout.keepsPlace then "0.0" else "0")
  else
    let decimal := number.shortest
    let digits := Nat.toDigits 10 decimal.digits
    let point := (digits.length : Int) + decimal.exponent
    if layout.usesExponent point then withExponent digits point
    else layout.positional digits point

/-- A NaN has no sign; everything else shows a minus when it is negative, and so
does a zero. -/
def write (layout : NumberLayout) (number : Binary64) : String :=
  if number.isNaN then "NaN"
  else
    (if number.isNegative then "-" else "") ++
      (if number.isFinite then layout.ofMagnitude number else "inf")

end NumberLayout

end TokenPersistence
