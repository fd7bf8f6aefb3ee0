import TokenPersistence.Config.Lexical

/-!
# Skipping values

The value of an unknown member is read over without being kept. A machine takes one
character after the other; its mode says what may come next, and a stack holds the
lists and objects that are still open, the innermost one first. Nothing limits how
deep they are nested.
-/

namespace TokenPersistence.Config

set_option autoImplicit false

inductive Frame where
  | list
  | object
  deriving DecidableEq, Repr

inductive Mode where
  | value
  | firstItem
  | firstKey
  | key
  | colon
  | after
  | word (letters : List Char)
  | minus
  | zero
  | digits
  | point
  | fraction
  | exponentMark
  | exponentSign
  | exponentDigits
  | quoted (isKey : Bool)
  | escape (isKey : Bool)
  | hex (isKey : Bool) (missing : Nat)
  deriving DecidableEq, Repr

/-- What one character leads to. A value may end with its last character, or in
front of a character that does not belong to it. -/
inductive Step where
  | next (mode : Mode) (stack : List Frame)
  | finished
  | finishedBefore
  deriving DecidableEq, Repr

/-- A value is complete: the innermost open frame goes on, if there is one. -/
def completed (stack : List Frame) : Step :=
  if stack.isEmpty then .finished else .next .after stack

def afterStep (stack : List Frame) (character : Char) : Except Problem Step :=
  if isBlank character then .ok (.next .after stack)
  else
    match stack, character with
    | .list :: _, ',' => .ok (.next .value stack)
    | .object :: _, ',' => .ok (.next .key stack)
    | .list :: outer, ']' => .ok (completed outer)
    | .object :: outer, '}' => .ok (completed outer)
    | _, _ => .error .grammar

/-- A number ends in front of the first character that cannot continue it. -/
def endNumber (stack : List Frame) (character : Char) : Except Problem Step :=
  if stack.isEmpty then .ok .finishedBefore else afterStep stack character

def valueStep (stack : List Frame) (character : Char) : Except Problem Step :=
  match character with
  | 'n' => .ok (.next (.word ['u', 'l', 'l']) stack)
  | 't' => .ok (.next (.word ['r', 'u', 'e']) stack)
  | 'f' => .ok (.next (.word ['a', 'l', 's', 'e']) stack)
  | '-' => .ok (.next .minus stack)
  | '0' => .ok (.next .zero stack)
  | '"' => .ok (.next (.quoted false) stack)
  | '[' => .ok (.next .firstItem (.list :: stack))
  | '{' => .ok (.next .firstKey (.object :: stack))
  | _ => if isDigit character then .ok (.next .digits stack) else .error .grammar

def isExponentMark (character : Char) : Bool := character = 'e' || character = 'E'

def step (mode : Mode) (stack : List Frame) (character : Char) : Except Problem Step :=
  match mode with
  | .value =>
      if isBlank character then .ok (.next .value stack) else valueStep stack character
  | .firstItem =>
      if isBlank character then .ok (.next .firstItem stack)
      else if character = ']' then .ok (completed stack.tail)
      else valueStep stack character
  | .firstKey =>
      if isBlank character then .ok (.next .firstKey stack)
      else if character = '}' then .ok (completed stack.tail)
      else if character = '"' then .ok (.next (.quoted true) stack)
      else .error .grammar
  | .key =>
      if isBlank character then .ok (.next .key stack)
      else if character = '"' then .ok (.next (.quoted true) stack)
      else .error .grammar
  | .colon =>
      if isBlank character then .ok (.next .colon stack)
      else if character = ':' then .ok (.next .value stack)
      else .error .grammar
  | .after => afterStep stack character
  | .word letters =>
      match letters with
      | [] => .error .grammar
      | letter :: more =>
          if character = letter then
            .ok (if more.isEmpty then completed stack else .next (.word more) stack)
          else .error .grammar
  | .minus =>
      if character = '0' then .ok (.next .zero stack)
      else if isDigit character then .ok (.next .digits stack)
      else .error .grammar
  | .zero =>
      if isDigit character then .error .grammar
      else if character = '.' then .ok (.next .point stack)
      else if isExponentMark character then .ok (.next .exponentMark stack)
      else endNumber stack character
  | .digits =>
      if isDigit character then .ok (.next .digits stack)
      else if character = '.' then .ok (.next .point stack)
      else if isExponentMark character then .ok (.next .exponentMark stack)
      else endNumber stack character
  | .point => if isDigit character then .ok (.next .fraction stack) else .error .grammar
  | .fraction =>
      if isDigit character then .ok (.next .fraction stack)
      else if isExponentMark character then .ok (.next .exponentMark stack)
      else endNumber stack character
  | .exponentMark =>
      if character = '+' || character = '-' then .ok (.next .exponentSign stack)
      else if isDigit character then .ok (.next .exponentDigits stack)
      else .error .grammar
  | .exponentSign =>
      if isDigit character then .ok (.next .exponentDigits stack) else .error .grammar
  | .exponentDigits =>
      if isDigit character then .ok (.next .exponentDigits stack)
      else endNumber stack character
  | .quoted isKey =>
      if character = '"' then .ok (if isKey then .next .colon stack else completed stack)
      else if character = '\\' then .ok (.next (.escape isKey) stack)
      else if character.toNat < 0x20 then .error .grammar
      else .ok (.next (.quoted isKey) stack)
  | .escape isKey =>
      if character = 'u' then .ok (.next (.hex isKey 4) stack)
      else if (shortEscape? character).isSome then .ok (.next (.quoted isKey) stack)
      else .error .grammar
  | .hex isKey missing =>
      if (hexValue? character).isSome then
        .ok (.next (if missing ≤ 1 then .quoted isKey else .hex isKey (missing - 1)) stack)
      else .error .grammar

/-- The text ends: a complete number may end with it, an incomplete one is no
number, and everything else ends too early. -/
def atEnd (mode : Mode) (stack : List Frame) : Except Problem (List Char) :=
  match mode with
  | .zero | .digits | .fraction | .exponentDigits =>
      if stack.isEmpty then .ok [] else .error .ended
  | .minus | .point | .exponentMark | .exponentSign => .error .grammar
  | _ => .error .ended

/-- Whether a numeric escape starts here that the text is too short for. -/
def endsInEscape (mode : Mode) (character : Char) (rest : List Char) : Bool :=
  match mode with
  | .escape _ => character = 'u' && decide (byteCount rest < 4)
  | _ => false

def skipFrom : Mode → List Frame → List Char → Except Problem (List Char)
  | mode, stack, [] => atEnd mode stack
  | mode, stack, character :: rest =>
      if endsInEscape mode character rest then .error .ended
      else
        match step mode stack character with
        | .error problem => .error problem
        | .ok (.next mode stack) => skipFrom mode stack rest
        | .ok .finished => .ok rest
        | .ok .finishedBefore => .ok (character :: rest)

def skipValue (text : List Char) : Except Problem (List Char) := skipFrom .value [] text

end TokenPersistence.Config
