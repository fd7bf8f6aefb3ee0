import TokenPersistence.Config.Lexical
import TokenPersistence.Number.Binary64

/-!
# Numbers in configuration text

A number without a fraction and without an exponent that fits 64 bits is kept whole;
every other number becomes a binary one. Digits are gathered in a 64-bit significand
as long as it can hold them, and the significand is then scaled by a power of ten in
one rounded step, or in several when the power itself would be out of range.
-/

namespace TokenPersistence.Config

set_option autoImplicit false

inductive Number where
  | natural (value : Nat)
  | negative (magnitude : Nat)
  | real (value : Binary64)
  deriving DecidableEq, Repr

def Number.toBinary64 : Number → Binary64
  | natural value => Binary64.ofNat value
  | negative magnitude => (Binary64.ofNat magnitude).negate
  | real value => value

def largestWord : Nat := Nat.pow 2 64 - 1

def largestExponent : Nat := Nat.pow 2 31 - 1

def appendDigit? (significand : Nat) (digit : Char) : Option Nat :=
  let longer := significand * 10 + digitValue digit
  if longer ≤ largestWord then some longer else none

/-- Gathers the digits before the decimal point. The second number counts the digits
from the first one on that did not fit. -/
def gatherWhole : Nat → List Char → Nat × Nat
  | significand, [] => (significand, 0)
  | significand, digit :: digits =>
      match appendDigit? significand digit with
      | some longer => gatherWhole longer digits
      | none => (significand, digits.length + 1)

/-- Gathers the digits after the decimal point. The second number counts the digits
that fitted; the others only say more precisely what is rounded anyway. -/
def gatherFraction : Nat → List Char → Nat × Nat
  | significand, [] => (significand, 0)
  | significand, digit :: digits =>
      match appendDigit? significand digit with
      | some longer =>
          let gathered := gatherFraction longer digits
          (gathered.1, gathered.2 + 1)
      | none => (significand, 0)

def scaleByTen : Nat → Binary64 → Int → Except Problem Binary64
  | 0, _, _ => .ok Binary64.zero
  | fuel + 1, number, exponent =>
      if exponent.natAbs ≤ 308 then
        let power := Binary64.ofNat (Nat.pow 10 exponent.natAbs)
        if 0 ≤ exponent then
          let scaled := number.mul power
          if scaled.isFinite then .ok scaled else .error .grammar
        else .ok (number.div power)
      else if number.magnitude = 0 then .ok number
      else if 0 ≤ exponent then .error .grammar
      else scaleByTen fuel (number.div (Binary64.ofNat (Nat.pow 10 308))) (exponent + 308)

def withSign (negative : Bool) (number : Binary64) : Binary64 :=
  if negative then number.negate else number

/-- The number `significand * 10 ^ exponent`. -/
def assemble (negative : Bool) (significand : Nat) (exponent : Int) : Except Problem Number := do
  let magnitude ← scaleByTen 8 (Binary64.ofNat significand) exponent
  .ok (.real (withSign negative magnitude))

/-- Exponents stop at the ends of their 32-bit range. -/
def saturate (exponent : Int) : Int :=
  max (-2147483648) (min exponent 2147483647)

/-- Gathers the digits of an exponent until they exceed the range of exponents. -/
def gatherExponent : Nat → List Char → Option Nat
  | exponent, [] => some exponent
  | exponent, digit :: digits =>
      let longer := exponent * 10 + digitValue digit
      if longer ≤ largestExponent then gatherExponent longer digits else none

def readExponent (negative : Bool) (significand : Nat) (before : Int) : Reader Number :=
  fun text =>
    let (lowers, digitsText) : Bool × List Char :=
      match text with
      | '+' :: rest => (false, rest)
      | '-' :: rest => (true, rest)
      | _ => (false, text)
    match digitsText with
    | [] => .error .ended
    | first :: _ =>
        if isDigit first then
          let digits := digitsText.takeWhile isDigit
          let rest := digitsText.dropWhile isDigit
          match gatherExponent 0 digits with
          | some exponent =>
              let total := saturate (if lowers then before - exponent else before + exponent)
              (assemble negative significand total).map fun number => (number, rest)
          | none =>
              if significand ≠ 0 ∧ !lowers then .error .grammar
              else .ok (.real (withSign negative Binary64.zero), rest)
        else .error .grammar

def readExponentIfAny (negative : Bool) (significand : Nat) (exponent : Int) :
    Reader Number := fun text =>
  match text with
  | 'e' :: rest => readExponent negative significand exponent rest
  | 'E' :: rest => readExponent negative significand exponent rest
  | _ => (assemble negative significand exponent).map fun number => (number, text)

def readFraction (negative : Bool) (significand : Nat) (dropped : Nat) : Reader Number :=
  fun text =>
    let digits := text.takeWhile isDigit
    let rest := text.dropWhile isDigit
    if digits.isEmpty then
      match text with
      | [] => .error .ended
      | _ :: _ => .error .grammar
    else
      let gathered := gatherFraction significand digits
      readExponentIfAny negative gathered.1 ((dropped : Int) - gathered.2) rest

/-- A whole number, unless it is a negative one that does not fit 64 bits, or a
negative zero. -/
def wholeNumber (negative : Bool) (significand : Nat) : Number :=
  if !negative then .natural significand
  else if significand ≠ 0 ∧ significand ≤ Nat.pow 2 63 then .negative significand
  else .real (Binary64.ofNat significand).negate

def readNumberEnd (negative : Bool) (significand dropped : Nat) : Reader Number := fun text =>
  match text with
  | '.' :: rest => readFraction negative significand dropped rest
  | 'e' :: _ => readExponentIfAny negative significand dropped text
  | 'E' :: _ => readExponentIfAny negative significand dropped text
  | _ =>
      if dropped = 0 then .ok (wholeNumber negative significand, text)
      else readExponentIfAny negative significand dropped text

/-- Reads a number after its sign. Only a zero may start with a zero. -/
def readUnsigned (negative : Bool) : Reader Number := fun text =>
  match text with
  | [] => .error .ended
  | '0' :: rest =>
      if (rest.head?.any isDigit) then .error .grammar
      else readNumberEnd negative 0 0 rest
  | first :: _ =>
      if isDigit first then
        let gathered := gatherWhole 0 (text.takeWhile isDigit)
        readNumberEnd negative gathered.1 gathered.2 (text.dropWhile isDigit)
      else .error .grammar

end TokenPersistence.Config
