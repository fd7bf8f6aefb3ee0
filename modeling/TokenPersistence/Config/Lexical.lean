import TokenPersistence.Failure

/-!
# Reading configuration text

Configuration is written as JSON. A reader takes characters off the front of a text
and returns what it read with the rest, or the first problem that it met: the text
breaks the grammar, it ends too early, or it is a well-formed value that the field
cannot hold.
-/

namespace TokenPersistence.Config

set_option autoImplicit false

inductive Problem where
  | data
  | grammar
  | ended
  deriving DecidableEq, Repr

def Problem.name : Problem → String
  | data => "data"
  | grammar => "syntax"
  | ended => "eof"

abbrev Reader (α : Type) := List Char → Except Problem (α × List Char)

def isBlank (character : Char) : Bool :=
  character = ' ' || character = '\n' || character = '\t' || character = '\r'

def skipBlanks (text : List Char) : List Char := text.dropWhile isBlank

def isDigit (character : Char) : Bool := decide ('0' ≤ character) && decide (character ≤ '9')

def digitValue (character : Char) : Nat := character.toNat - '0'.toNat

def hexValue? (character : Char) : Option Nat :=
  if isDigit character then some (digitValue character)
  else if 'a' ≤ character ∧ character ≤ 'f' then some (character.toNat - 'a'.toNat + 10)
  else if 'A' ≤ character ∧ character ≤ 'F' then some (character.toNat - 'A'.toNat + 10)
  else none

def byteCount : List Char → Nat
  | [] => 0
  | character :: text => character.utf8Size + byteCount text

/-- Reads the rest of a word whose first letter has been recognised. -/
def readWord : List Char → List Char → Except Problem (List Char)
  | [], text => .ok text
  | _ :: _, [] => .error .ended
  | letter :: letters, character :: text =>
      if character = letter then readWord letters text else .error .grammar

/-- Reads the four hexadecimal digits of an escape. A text that has fewer than four
bytes left ends too early, whatever these bytes are. -/
def readUnit : Reader Nat := fun text =>
  if byteCount text < 4 then .error .ended
  else
    match text with
    | first :: second :: third :: fourth :: rest =>
        match hexValue? first, hexValue? second, hexValue? third, hexValue? fourth with
        | some a, some b, some c, some d => .ok (((a * 16 + b) * 16 + c) * 16 + d, rest)
        | _, _, _, _ => .error .grammar
    | _ => .error .grammar

def isLeadingUnit (number : Nat) : Bool := decide (0xd800 ≤ number) && decide (number < 0xdc00)

def isTrailingUnit (number : Nat) : Bool := decide (0xdc00 ≤ number) && decide (number < 0xe000)

/-- Reads the character that a numeric escape names; one beyond the first plane is
named by two escapes, and neither of them may stand alone. -/
def readEscapedCharacter : Reader Char := fun text => do
  let (number, rest) ← readUnit text
  if isTrailingUnit number then .error .grammar
  else if isLeadingUnit number then
    match rest with
    | [] => .error .ended
    | '\\' :: [] => .error .ended
    | '\\' :: 'u' :: rest => do
        let (trailing, rest) ← readUnit rest
        if isTrailingUnit trailing then
          .ok (Char.ofNat ((number - 0xd800) * 1024 + (trailing - 0xdc00) + 0x10000), rest)
        else .error .grammar
    | _ => .error .grammar
  else .ok (Char.ofNat number, rest)

def shortEscape? : Char → Option Char
  | '"' => some '"'
  | '\\' => some '\\'
  | '/' => some '/'
  | 'b' => some '\x08'
  | 'f' => some '\x0c'
  | 'n' => some '\n'
  | 'r' => some '\r'
  | 't' => some '\t'
  | _ => none

/-- Reads a text after its opening quote, with the characters read so far in
reverse. The fuel bounds the number of characters. -/
def readQuotedFrom : Nat → List Char → Reader String
  | 0, _, _ => .error .ended
  | _ + 1, _, [] => .error .ended
  | fuel + 1, read, character :: text =>
      if character = '"' then .ok (String.ofList read.reverse, text)
      else if character = '\\' then
        match text with
        | [] => .error .ended
        | 'u' :: rest =>
            match readEscapedCharacter rest with
            | .error problem => .error problem
            | .ok (escaped, rest) => readQuotedFrom fuel (escaped :: read) rest
        | letter :: rest =>
            match shortEscape? letter with
            | some escaped => readQuotedFrom fuel (escaped :: read) rest
            | none => .error .grammar
      else if character.toNat < 0x20 then .error .grammar
      else readQuotedFrom fuel (character :: read) text

def readQuoted : Reader String := fun text => readQuotedFrom (text.length + 1) [] text

end TokenPersistence.Config
