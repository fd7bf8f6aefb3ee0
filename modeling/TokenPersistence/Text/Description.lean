import TokenPersistence.Number.Layout
import TokenPersistence.Text.Invisible
import TokenPersistence.Time

/-!
# Descriptions of values

Values are described for people who look into a running program: records with the
names of their fields, lists in brackets, texts in quotes with everything invisible
spelled out, durations in the largest unit that leaves a whole part. A record that
does not show all its fields ends in two dots.
-/

namespace TokenPersistence.Text

set_option autoImplicit false

def hexNumber (number : Nat) : String := String.ofList (Nat.toDigits 16 number)

def escape (character : Char) : String :=
  if character = '"' then "\\\""
  else if character = '\\' then "\\\\"
  else if character = '\n' then "\\n"
  else if character = '\r' then "\\r"
  else if character = '\t' then "\\t"
  else if character.toNat = 0 then "\\0"
  else if isInvisible character then
    "\\u\x7b" ++ hexNumber character.toNat ++ "\x7d"
  else character.toString

def quoted (text : String) : String :=
  "\"" ++ String.join (text.toList.map escape) ++ "\""

def bracketed (items : List String) : String := "[" ++ ", ".intercalate items ++ "]"

def optional : Option String → String
  | some value => "Some(" ++ value ++ ")"
  | none => "None"

def flag (value : Bool) : String := if value then "true" else "false"

def bytes (value : List UInt8) : String :=
  bracketed (value.map fun byte => toString byte.toNat)

def mapping (entries : List (String × String)) : String :=
  "\x7b" ++ ", ".intercalate (entries.map fun entry => quoted entry.1 ++ ": " ++ entry.2) ++ "\x7d"

def describeRecord (name : String) (fields : List (String × String)) (complete : Bool) : String :=
  let shown := (fields.map fun field => field.1 ++ ": " ++ field.2) ++
    if complete then [] else [".."]
  name ++ " \x7b " ++ ", ".intercalate shown ++ " \x7d"

def record (name : String) (fields : List (String × String)) : String :=
  describeRecord name fields true

def partialRecord (name : String) (fields : List (String × String)) : String :=
  describeRecord name fields false

/-- The digits of a fraction in the given number of places, without zeros at the
end; nothing at all is left of a fraction of zero. -/
def fractionText (places fraction : Nat) : String :=
  let digits := Nat.toDigits 10 fraction
  let padded := List.replicate (places - digits.length) '0' ++ digits
  let kept := (padded.reverse.dropWhile (· == '0')).reverse
  if kept.isEmpty then "" else "." ++ String.ofList kept

/-- A count of nanoseconds in units of 10^`places` of them. -/
def inUnits (places nanos : Nat) (unit : String) : String :=
  toString (nanos / Nat.pow 10 places) ++ fractionText places (nanos % Nat.pow 10 places) ++ unit

def duration (value : Duration) : String :=
  if Nat.pow 10 9 ≤ value.nanos then inUnits 9 value.nanos "s"
  else if Nat.pow 10 6 ≤ value.nanos then inUnits 6 value.nanos "ms"
  else if Nat.pow 10 3 ≤ value.nanos then inUnits 3 value.nanos "µs"
  else inUnits 0 value.nanos "ns"

/-- Whole seconds before or after the epoch, and the nanoseconds that follow them. -/
def timestamp (value : Timestamp) : String :=
  record "SystemTime"
    [("tv_sec", toString (value.nanos.fdiv 1000000000)),
      ("tv_nsec", toString (value.nanos.fmod 1000000000))]

def number (value : Binary64) : String := NumberLayout.descriptive.write value

end TokenPersistence.Text
