import TokenPersistence.Config.Number
import TokenPersistence.Config.Skipping

/-!
# Reading records

A record is written as an object with named members, or as a list of its fields in
order. An open record skips members it does not know and keeps its defaults for the
fields that are not given; a closed one refuses unknown members and needs all its
fields. No field may be given twice.
-/

namespace TokenPersistence.Config

set_option autoImplicit false

variable {α ρ : Type}

/-- The problem of a value that starts here and is not of the wanted kind. A word, a
number or a text is read first and may itself be broken. -/
def wrongKind (text : List Char) : Problem :=
  let verdict (reading : Except Problem Unit) : Problem :=
    match reading with
    | .error problem => problem
    | .ok () => .data
  match text with
  | [] => .ended
  | 'n' :: rest => verdict ((readWord ['u', 'l', 'l'] rest).map fun _ => ())
  | 't' :: rest => verdict ((readWord ['r', 'u', 'e'] rest).map fun _ => ())
  | 'f' :: rest => verdict ((readWord ['a', 'l', 's', 'e'] rest).map fun _ => ())
  | '-' :: rest => verdict ((readUnsigned true rest).map fun _ => ())
  | '"' :: rest => verdict ((readQuoted rest).map fun _ => ())
  | '[' :: _ => .data
  | '{' :: _ => .data
  | first :: _ =>
      if isDigit first then verdict ((readUnsigned false text).map fun _ => ())
      else .grammar

def readFlag : Reader Bool := fun text =>
  match skipBlanks text with
  | [] => .error .ended
  | 't' :: rest => (readWord ['r', 'u', 'e'] rest).map fun rest => (true, rest)
  | 'f' :: rest => (readWord ['a', 'l', 's', 'e'] rest).map fun rest => (false, rest)
  | start => .error (wrongKind start)

def readNumber : Reader Number := fun text =>
  match skipBlanks text with
  | [] => .error .ended
  | '-' :: rest => readUnsigned true rest
  | first :: rest =>
      if isDigit first then readUnsigned false (first :: rest)
      else .error (wrongKind (first :: rest))

def readNatural (largest : Nat) : Reader Nat := fun text => do
  match ← readNumber text with
  | (.natural value, rest) => if value ≤ largest then .ok (value, rest) else .error .data
  | _ => .error .data

def readReal : Reader Binary64 := fun text =>
  (readNumber text).map fun reading => (reading.1.toBinary64, reading.2)

def readOptional (reader : Reader α) : Reader (Option α) := fun text =>
  match skipBlanks text with
  | 'n' :: rest => (readWord ['u', 'l', 'l'] rest).map fun rest => (none, rest)
  | start => (reader start).map fun reading => (some reading.1, reading.2)

/-- A field and how its value is read into the record. -/
structure Field (ρ : Type) where
  name : String
  read : ρ → Reader ρ

structure Schema (ρ : Type) where
  fields : List (Field ρ)
  isOpen : Bool

/-- Looks for the next member of an object: the text from its opening quote on, or
nothing in front of the closing brace. -/
def nextKey (isFirst : Bool) (text : List Char) : Except Problem (Option (List Char)) :=
  match skipBlanks text with
  | [] => .error .ended
  | '}' :: _ => .ok none
  | ',' :: rest =>
      if isFirst then .error .grammar
      else
        match skipBlanks rest with
        | [] => .error .ended
        | '"' :: rest => .ok (some rest)
        | _ => .error .grammar
  | '"' :: rest => if isFirst then .ok (some rest) else .error .grammar
  | _ => .error .grammar

def readColon (text : List Char) : Except Problem (List Char) :=
  match skipBlanks text with
  | [] => .error .ended
  | ':' :: rest => .ok rest
  | _ => .error .grammar

/-- Reads the members of an object up to its closing brace, which stays. The fuel
bounds their number. -/
def readMembers (schema : Schema ρ) : Nat → Bool → List String → ρ → Reader ρ
  | 0, _, _, _, _ => .error .ended
  | fuel + 1, isFirst, seen, record, text => do
      match ← nextKey isFirst text with
      | none => .ok (record, skipBlanks text)
      | some text => do
          let (name, text) ← readQuoted text
          match schema.fields.find? fun field => field.name == name with
          | some field =>
              if seen.contains name then .error .data
              else do
                let text ← readColon text
                let (record, text) ← field.read record text
                readMembers schema fuel false (name :: seen) record text
          | none =>
              if schema.isOpen then do
                let text ← readColon text
                let text ← skipValue text
                readMembers schema fuel false seen record text
              else .error .data

/-- Looks for the next item of a list: the text in front of it, or nothing in front
of the closing bracket. -/
def nextItem (isFirst : Bool) (text : List Char) : Except Problem (Option (List Char)) :=
  match skipBlanks text with
  | [] => .error .ended
  | ']' :: _ => .ok none
  | ',' :: rest =>
      if isFirst then .ok (some (',' :: rest))
      else
        match skipBlanks rest with
        | [] => .error .ended
        | ']' :: _ => .error .grammar
        | start => .ok (some start)
  | start => if isFirst then .ok (some start) else .error .grammar

def readItems (isOpen : Bool) : List (Field ρ) → Bool → ρ → Reader ρ
  | [], _, record, text => .ok (record, text)
  | field :: fields, isFirst, record, text => do
      match ← nextItem isFirst text with
      | some text => do
          let (record, text) ← field.read record text
          readItems isOpen fields false record text
      | none =>
          if isOpen then readItems isOpen fields isFirst record text else .error .data

def readClosing (closing : Char) (text : List Char) : Except Problem (List Char) :=
  match skipBlanks text with
  | [] => .error .ended
  | character :: rest => if character = closing then .ok rest else .error .grammar

/-- Reads a record. `finish` is given the fields that were read and may still refuse
them; its verdict comes before a missing end of the list or object is noticed. -/
def readRecord (schema : Schema ρ) (initial : ρ) (finish : ρ → Except Problem α) :
    Reader α := fun text =>
  match skipBlanks text with
  | [] => .error .ended
  | '[' :: rest => do
      let (record, rest) ← readItems schema.isOpen schema.fields true initial rest
      let value ← finish record
      let rest ← readClosing ']' rest
      .ok (value, rest)
  | '{' :: rest => do
      let (record, rest) ← readMembers schema (rest.length + 1) true [] initial rest
      let value ← finish record
      let rest ← readClosing '}' rest
      .ok (value, rest)
  | start => .error (wrongKind start)

/-- Reads a text that holds one value and nothing else. -/
def readWhole (reader : Reader α) (text : String) : Except Problem α := do
  let (value, rest) ← reader text.toList
  match skipBlanks rest with
  | [] => .ok value
  | _ :: _ => .error .grammar

end TokenPersistence.Config
