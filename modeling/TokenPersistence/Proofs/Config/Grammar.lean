import TokenPersistence.Config.Skipping

/-!
# Well-formed values

The grammar of JSON, with blanks wherever they mean nothing, and without a bound on how deep
values are nested. The machine that skips values reads over each of them and stops right
behind it.
-/

namespace TokenPersistence.Config

set_option autoImplicit false

def Blank (text : List Char) : Prop := ∀ character ∈ text, isBlank character = true

def Digits (text : List Char) : Prop := ∀ character ∈ text, isDigit character = true

/-- What may stand behind a value inside of a list or an object, or at the end of a text. -/
def Ends (rest : List Char) : Prop :=
  ∀ character ∈ rest.head?,
    isBlank character = true ∨ character = ',' ∨ character = ']' ∨ character = '}'

/-- The digits in front of a decimal point: only a zero starts with a zero. -/
def IsWhole (text : List Char) : Prop :=
  text = ['0'] ∨ ∃ first more, text = first :: more ∧ first ≠ '0' ∧ Digits text

/-- A decimal point with at least one digit, if there is a point at all. -/
def IsFraction (text : List Char) : Prop :=
  text = [] ∨ ∃ digits, text = '.' :: digits ∧ digits ≠ [] ∧ Digits digits

/-- A letter, perhaps a sign, and at least one digit, if there is an exponent at all. -/
def IsExponent (text : List Char) : Prop :=
  text = [] ∨ ∃ mark sign digits, text = mark :: (sign ++ digits) ∧
    isExponentMark mark = true ∧ (sign = [] ∨ sign = ['+'] ∨ sign = ['-']) ∧
    digits ≠ [] ∧ Digits digits

def IsNumber (text : List Char) : Prop :=
  ∃ sign whole fraction exponent, text = sign ++ (whole ++ (fraction ++ exponent)) ∧
    (sign = [] ∨ sign = ['-']) ∧ IsWhole whole ∧ IsFraction fraction ∧ IsExponent exponent

/-- What stands between quotes. A numeric escape may be any, also one that names half of a
character. -/
inductive IsQuoted : List Char → Prop where
  | nothing : IsQuoted []
  | plain {character : Char} {body : List Char} :
      character ≠ '"' → character ≠ '\\' → 0x20 ≤ character.toNat → IsQuoted body →
      IsQuoted (character :: body)
  | short {letter : Char} {body : List Char} :
      (shortEscape? letter).isSome = true → IsQuoted body → IsQuoted ('\\' :: letter :: body)
  | numeric {a b c d : Char} {body : List Char} :
      (hexValue? a).isSome = true → (hexValue? b).isSome = true →
      (hexValue? c).isSome = true → (hexValue? d).isSome = true → IsQuoted body →
      IsQuoted ('\\' :: 'u' :: a :: b :: c :: d :: body)

inductive Part where
  | value
  | items
  | members

/-- The text of a value, or of the items or members between its brackets. -/
inductive Spelled : Part → List Char → Prop where
  | null : Spelled .value ['n', 'u', 'l', 'l']
  | yes : Spelled .value ['t', 'r', 'u', 'e']
  | no : Spelled .value ['f', 'a', 'l', 's', 'e']
  | number {text : List Char} : IsNumber text → Spelled .value text
  | quoted {body : List Char} : IsQuoted body → Spelled .value ('"' :: (body ++ ['"']))
  | emptyList {space : List Char} : Blank space → Spelled .value ('[' :: (space ++ [']']))
  | list {items : List Char} : Spelled .items items → Spelled .value ('[' :: (items ++ [']']))
  | emptyObject {space : List Char} : Blank space → Spelled .value ('{' :: (space ++ ['}']))
  | object {members : List Char} :
      Spelled .members members → Spelled .value ('{' :: (members ++ ['}']))
  | item {before value after : List Char} :
      Blank before → Spelled .value value → Blank after →
      Spelled .items (before ++ (value ++ after))
  | nextItem {before value after items : List Char} :
      Blank before → Spelled .value value → Blank after → Spelled .items items →
      Spelled .items (before ++ (value ++ (after ++ ',' :: items)))
  | member {before name between space value after : List Char} :
      Blank before → IsQuoted name → Blank between → Blank space → Spelled .value value →
      Blank after →
      Spelled .members
        (before ++ '"' :: (name ++ '"' :: (between ++ ':' :: (space ++ (value ++ after)))))
  | nextMember {before name between space value after members : List Char} :
      Blank before → IsQuoted name → Blank between → Blank space → Spelled .value value →
      Blank after → Spelled .members members →
      Spelled .members
        (before ++ '"' :: (name ++ '"' :: (between ++ ':' ::
          (space ++ (value ++ (after ++ ',' :: members))))))

/-! ## Blanks and ends -/

theorem blank_nil : Blank [] := fun _ none => nomatch none

theorem blank_tail {character : Char} {text : List Char} (blank : Blank (character :: text)) :
    isBlank character = true ∧ Blank text :=
  List.forall_mem_cons.mp blank

theorem skip_blanks_append {space : List Char} (blank : Blank space) (text : List Char) :
    skipBlanks (space ++ text) = skipBlanks text :=
  List.dropWhile_append_of_pos blank

theorem ends_nil : Ends [] := fun _ none => nomatch none

theorem ends_append {space rest : List Char} (blank : Blank space) (ends : Ends rest) :
    Ends (space ++ rest) := by
  cases space with
  | nil => exact ends
  | cons character space =>
      intro first same
      obtain rfl : character = first := Option.some.inj same
      exact Or.inl (blank_tail blank).1

theorem ends_comma (rest : List Char) : Ends (',' :: rest) := by
  intro first same
  exact Or.inr (Or.inl (Option.some.inj same).symm)

theorem ends_bracket (rest : List Char) : Ends (']' :: rest) := by
  intro first same
  exact Or.inr (Or.inr (Or.inl (Option.some.inj same).symm))

theorem ends_brace (rest : List Char) : Ends ('}' :: rest) := by
  intro first same
  exact Or.inr (Or.inr (Or.inr (Option.some.inj same).symm))

theorem blank_cases {character : Char} (blank : isBlank character = true) :
    character = ' ' ∨ character = '\n' ∨ character = '\t' ∨ character = '\r' := by
  simpa [isBlank, or_assoc] using blank

theorem digit_not_blank {character : Char} (digital : isDigit character = true) :
    isBlank character = false := by
  cases blank : isBlank character with
  | false => rfl
  | true => rcases blank_cases blank with rfl | rfl | rfl | rfl <;> cases digital

theorem whole_head {text : List Char} (whole : IsWhole text) :
    ∃ first more, text = first :: more ∧ isDigit first = true ∧ Digits text := by
  rcases whole with rfl | ⟨first, more, rfl, _, all⟩
  · exact ⟨'0', [], rfl, rfl, List.forall_mem_singleton.mpr rfl⟩
  · exact ⟨first, more, rfl, (List.forall_mem_cons.mp all).1, all⟩

theorem ends_stops {character : Char} {rest : List Char} (ends : Ends (character :: rest)) :
    isDigit character = false ∧ character ≠ '.' ∧ isExponentMark character = false := by
  rcases ends character rfl with blank | rfl | rfl | rfl
  · rcases blank_cases blank with rfl | rfl | rfl | rfl <;> decide
  · decide
  · decide
  · decide

/-! ## One mode at a time -/

/-- What the machine makes of the rest once a value is complete. -/
def leave (stack : List Frame) (rest : List Char) : Except Problem (List Char) :=
  if stack.isEmpty then .ok rest else skipFrom .after stack rest

/-- The modes in which blanks mean nothing. -/
def Mode.isIdle : Mode → Bool
  | .value | .firstItem | .firstKey | .key | .colon | .after => true
  | _ => false

/-- The modes in which a number may end. -/
def Mode.isNumeric : Mode → Bool
  | .zero | .digits | .fraction | .exponentDigits => true
  | _ => false

variable {mode later : Mode} {stack outer : List Frame} {character : Char} {rest : List Char}

theorem skip_next (plain : endsInEscape mode character rest = false)
    (goesOn : step mode stack character = .ok (.next later outer)) :
    skipFrom mode stack (character :: rest) = skipFrom later outer rest := by
  rw [skipFrom, plain, goesOn]
  rfl

theorem skip_completed (plain : endsInEscape mode character rest = false)
    (last : step mode stack character = .ok (completed outer)) :
    skipFrom mode stack (character :: rest) = leave outer rest := by
  rw [skipFrom, plain, last]
  cases outer <;> rfl

/-! ## Blanks, words and numbers -/

theorem step_blank (idle : mode.isIdle = true) (blank : isBlank character = true) :
    step mode stack character = .ok (.next mode stack) := by
  cases mode <;> simp_all [Mode.isIdle, step, afterStep]

theorem skip_blank (idle : mode.isIdle = true) (blank : isBlank character = true) :
    skipFrom mode stack (character :: rest) = skipFrom mode stack rest := by
  have plain : endsInEscape mode character rest = false := by
    cases mode <;> first | rfl | cases idle
  exact skip_next plain (step_blank idle blank)

theorem skip_from_blanks (idle : mode.isIdle = true) (text : List Char) :
    skipFrom mode stack (skipBlanks text) = skipFrom mode stack text := by
  induction text with
  | nil => rfl
  | cons first text ih =>
      unfold skipBlanks at ih ⊢
      rw [List.dropWhile_cons]
      split
      · rw [ih, skip_blank idle ‹_›]
      · rfl

theorem skip_space (idle : mode.isIdle = true) {space : List Char} (blank : Blank space)
    (text : List Char) : skipFrom mode stack (space ++ text) = skipFrom mode stack text := by
  rw [← skip_from_blanks idle, skip_blanks_append blank, skip_from_blanks idle]

theorem skip_word (letters : List Char) (some : letters ≠ []) (rest : List Char) :
    skipFrom (.word letters) stack (letters ++ rest) = leave stack rest := by
  induction letters with
  | nil => exact absurd rfl some
  | cons letter letters ih =>
      cases letters with
      | nil => exact skip_completed rfl (by simp [step])
      | cons second letters =>
          have goesOn : step (.word (letter :: second :: letters)) stack letter =
              .ok (.next (.word (second :: letters)) stack) := by simp [step]
          rw [List.cons_append, skip_next rfl goesOn]
          exact ih (List.cons_ne_nil _ _)

theorem skip_digits (stays : ∀ digit, isDigit digit = true →
      step mode stack digit = .ok (.next mode stack))
    (plain : ∀ digit rest, endsInEscape mode digit rest = false) {digits : List Char}
    (all : Digits digits) (rest : List Char) :
    skipFrom mode stack (digits ++ rest) = skipFrom mode stack rest := by
  induction digits with
  | nil => rfl
  | cons digit digits ih =>
      obtain ⟨digital, more⟩ := List.forall_mem_cons.mp all
      rw [List.cons_append, skip_next (plain _ _) (stays digit digital)]
      exact ih more

theorem skip_number_end (numeric : mode.isNumeric = true)
    (stops : ∀ character ∈ rest.head?, step mode stack character = endNumber stack character) :
    skipFrom mode stack rest = leave stack rest := by
  cases rest with
  | nil => cases mode <;> cases numeric <;> cases stack <;> rfl
  | cons character rest =>
      have plain : endsInEscape mode character rest = false := by
        cases mode <;> first | rfl | cases numeric
      rw [skipFrom, plain, stops character rfl]
      cases stack with
      | nil => rfl
      | cons frame stack => rfl

theorem step_value_digit (digital : isDigit character = true) :
    step .value stack character = step .minus stack character := by
  simp only [step, digit_not_blank digital, digital, valueStep, if_true, Bool.false_eq_true, if_false]
  split <;> first | rfl | cases digital | simp_all

theorem skip_value_digit (digital : isDigit character = true) :
    skipFrom .value stack (character :: rest) = skipFrom .minus stack (character :: rest) := by
  rw [skipFrom, skipFrom, step_value_digit digital]
  rfl

theorem skip_whole {whole : List Char} (spelled : IsWhole whole) (rest : List Char) :
    ∃ mode, (mode = Mode.zero ∨ mode = Mode.digits) ∧
      skipFrom .minus stack (whole ++ rest) = skipFrom mode stack rest := by
  rcases spelled with rfl | ⟨first, more, rfl, nonzero, all⟩
  · exact ⟨.zero, Or.inl rfl, rfl⟩
  · obtain ⟨digital, onward⟩ := List.forall_mem_cons.mp all
    refine ⟨.digits, Or.inr rfl, ?_⟩
    have goesOn : step .minus stack first = .ok (.next .digits stack) := by
      simp [step, nonzero, digital]
    rw [List.cons_append, skip_next rfl goesOn]
    exact skip_digits (fun digit digital => by simp [step, digital]) (fun _ _ => rfl) onward rest

theorem skip_exponent_digits {digits : List Char} (some : digits ≠ []) (all : Digits digits)
    (taken : mode = .exponentMark ∨ mode = .exponentSign) (rest : List Char) :
    skipFrom mode stack (digits ++ rest) = skipFrom .exponentDigits stack rest := by
  cases digits with
  | nil => exact absurd rfl some
  | cons first more =>
      obtain ⟨digital, onward⟩ := List.forall_mem_cons.mp all
      have goesOn : step mode stack first = .ok (.next .exponentDigits stack) := by
        rcases taken with rfl | rfl
        · have unsigned : ¬(first = '+' ∨ first = '-') := by
            rintro (rfl | rfl) <;> cases digital
          simp [step, digital, unsigned]
        · simp [step, digital]
      have plain : endsInEscape mode first (more ++ rest) = false := by
        rcases taken with rfl | rfl <;> rfl
      rw [List.cons_append, skip_next plain goesOn]
      exact skip_digits (fun digit digital => by simp [step, digital]) (fun _ _ => rfl) onward rest

theorem ends_number (taken : mode.isNumeric = true) (ends : Ends rest) :
    skipFrom mode stack rest = leave stack rest := by
  apply skip_number_end taken
  intro character first
  cases rest with
  | nil => cases first
  | cons head rest =>
      obtain rfl : head = character := Option.some.inj first
      obtain ⟨digital, point, mark⟩ := ends_stops ends
      cases mode <;> cases taken <;> simp [step, digital, point, mark]

theorem skip_exponent {exponent : List Char} (spelled : IsExponent exponent)
    (taken : mode = .zero ∨ mode = .digits ∨ mode = .fraction) (ends : Ends rest) :
    skipFrom mode stack (exponent ++ rest) = leave stack rest := by
  rcases spelled with rfl | ⟨mark, sign, digits, rfl, marks, signs, some, all⟩
  · apply ends_number _ ends
    rcases taken with rfl | rfl | rfl <;> rfl
  · have marked : skipFrom mode stack (mark :: (sign ++ (digits ++ rest))) =
        skipFrom .exponentMark stack (sign ++ (digits ++ rest)) := by
      have letters : mark = 'e' ∨ mark = 'E' := by simpa [isExponentMark] using marks
      rcases taken with rfl | rfl | rfl <;> rcases letters with rfl | rfl <;> rfl
    have signed : skipFrom .exponentMark stack (sign ++ (digits ++ rest)) =
        skipFrom .exponentDigits stack rest := by
      rcases signs with rfl | rfl | rfl
      · exact skip_exponent_digits some all (Or.inl rfl) rest
      · exact skip_exponent_digits some all (Or.inr rfl) rest
      · exact skip_exponent_digits some all (Or.inr rfl) rest
    rw [List.cons_append, List.append_assoc, marked, signed]
    exact ends_number rfl ends

theorem skip_fraction {fraction exponent : List Char} (spelled : IsFraction fraction)
    (onward : IsExponent exponent) (taken : mode = .zero ∨ mode = .digits) (ends : Ends rest) :
    skipFrom mode stack (fraction ++ (exponent ++ rest)) = leave stack rest := by
  rcases spelled with rfl | ⟨digits, rfl, some, all⟩
  · apply skip_exponent onward _ ends
    rcases taken with rfl | rfl <;> simp
  · cases digits with
    | nil => exact absurd rfl some
    | cons first more =>
        obtain ⟨digital, further⟩ := List.forall_mem_cons.mp all
        have pointed : skipFrom mode stack ('.' :: first :: (more ++ (exponent ++ rest))) =
            skipFrom .point stack (first :: (more ++ (exponent ++ rest))) := by
          rcases taken with rfl | rfl <;> rfl
        have begun : step .point stack first = .ok (.next .fraction stack) := by
          simp [step, digital]
        rw [List.cons_append, List.cons_append, pointed, skip_next rfl begun]
        rw [skip_digits (fun digit digital => by simp [step, digital]) (fun _ _ => rfl) further]
        exact skip_exponent onward (Or.inr (Or.inr rfl)) ends

theorem skip_number {text : List Char} (spelled : IsNumber text) (ends : Ends rest) :
    skipFrom .value stack (text ++ rest) = leave stack rest := by
  obtain ⟨sign, whole, fraction, exponent, rfl, signs, digits, decimals, power⟩ := spelled
  have unsigned : skipFrom .minus stack (whole ++ (fraction ++ (exponent ++ rest))) =
      leave stack rest := by
    obtain ⟨mode, taken, reached⟩ := skip_whole digits (fraction ++ (exponent ++ rest))
    rw [reached]
    exact skip_fraction decimals power taken ends
  simp only [List.append_assoc]
  rcases signs with rfl | rfl
  · obtain ⟨first, more, rfl, digital, _⟩ := whole_head digits
    rw [List.nil_append, List.cons_append, skip_value_digit digital]
    exact unsigned
  · exact unsigned

/-! ## Texts between quotes -/

theorem skip_hex_digit (isKey : Bool) (missing : Nat)
    (digit : (hexValue? character).isSome = true) (rest : List Char) :
    skipFrom (.hex isKey missing) stack (character :: rest) =
      skipFrom (if missing ≤ 1 then .quoted isKey else .hex isKey (missing - 1)) stack rest := by
  have goesOn : step (.hex isKey missing) stack character =
      .ok (.next (if missing ≤ 1 then .quoted isKey else .hex isKey (missing - 1)) stack) := by
    simp [step, digit]
  exact skip_next rfl goesOn

theorem skip_hex (isKey : Bool) {a b c d : Char} (first : (hexValue? a).isSome = true)
    (second : (hexValue? b).isSome = true) (third : (hexValue? c).isSome = true)
    (fourth : (hexValue? d).isSome = true) (rest : List Char) :
    skipFrom (.hex isKey 4) stack (a :: b :: c :: d :: rest) =
      skipFrom (.quoted isKey) stack rest :=
  calc skipFrom (.hex isKey 4) stack (a :: b :: c :: d :: rest)
      = skipFrom (.hex isKey 3) stack (b :: c :: d :: rest) := skip_hex_digit isKey 4 first _
    _ = skipFrom (.hex isKey 2) stack (c :: d :: rest) := skip_hex_digit isKey 3 second _
    _ = skipFrom (.hex isKey 1) stack (d :: rest) := skip_hex_digit isKey 2 third _
    _ = skipFrom (.quoted isKey) stack rest := skip_hex_digit isKey 1 fourth _

theorem four_le_byte_count (a b c d : Char) (rest : List Char) :
    4 ≤ byteCount (a :: b :: c :: d :: rest) := by
  have first := a.utf8Size_pos
  have second := b.utf8Size_pos
  have third := c.utf8Size_pos
  have fourth := d.utf8Size_pos
  simp only [byteCount]
  omega

theorem skip_plain (isKey : Bool) (unquoted : character ≠ '"') (unescaped : character ≠ '\\')
    (printable : 0x20 ≤ character.toNat) (rest : List Char) :
    skipFrom (.quoted isKey) stack (character :: rest) = skipFrom (.quoted isKey) stack rest := by
  have goesOn : step (.quoted isKey) stack character = .ok (.next (.quoted isKey) stack) := by
    simp [step, unquoted, unescaped, Nat.not_lt.mpr printable]
  exact skip_next rfl goesOn

theorem skip_short (isKey : Bool) {letter : Char} (escapes : (shortEscape? letter).isSome = true)
    (rest : List Char) :
    skipFrom (.quoted isKey) stack ('\\' :: letter :: rest) =
      skipFrom (.quoted isKey) stack rest := by
  have other : letter ≠ 'u' := by
    rintro rfl
    cases escapes
  have goesOn : step (.escape isKey) stack letter = .ok (.next (.quoted isKey) stack) := by
    simp [step, other, escapes]
  rw [skip_next rfl rfl, skip_next (by simp [endsInEscape, other]) goesOn]

theorem skip_numeric (isKey : Bool) {a b c d : Char} (first : (hexValue? a).isSome = true)
    (second : (hexValue? b).isSome = true) (third : (hexValue? c).isSome = true)
    (fourth : (hexValue? d).isSome = true) (rest : List Char) :
    skipFrom (.quoted isKey) stack ('\\' :: 'u' :: a :: b :: c :: d :: rest) =
      skipFrom (.quoted isKey) stack rest := by
  have enough := four_le_byte_count a b c d rest
  have plain : endsInEscape (.escape isKey) 'u' (a :: b :: c :: d :: rest) = false := by
    simp [endsInEscape, enough]
  rw [skip_next rfl rfl, skip_next plain rfl, skip_hex isKey first second third fourth]

theorem skip_body (isKey : Bool) {body : List Char} (spelled : IsQuoted body)
    (rest : List Char) :
    skipFrom (.quoted isKey) stack (body ++ rest) = skipFrom (.quoted isKey) stack rest := by
  induction spelled with
  | nothing => rfl
  | plain unquoted unescaped printable _ ih =>
      exact (skip_plain isKey unquoted unescaped printable _).trans ih
  | short escapes _ ih => exact (skip_short isKey escapes _).trans ih
  | numeric first second third fourth _ ih =>
      exact (skip_numeric isKey first second third fourth _).trans ih

/-! ## Values -/

/-- A value does not start with a blank, nor with a bracket that ends a list. -/
theorem value_head {text : List Char} (spelled : Spelled .value text) :
    ∃ first more, text = first :: more ∧ isBlank first = false ∧ first ≠ ']' := by
  cases spelled with
  | null => exact ⟨_, _, rfl, rfl, by decide⟩
  | yes => exact ⟨_, _, rfl, rfl, by decide⟩
  | no => exact ⟨_, _, rfl, rfl, by decide⟩
  | quoted => exact ⟨_, _, rfl, rfl, by decide⟩
  | emptyList => exact ⟨_, _, rfl, rfl, by decide⟩
  | list => exact ⟨_, _, rfl, rfl, by decide⟩
  | emptyObject => exact ⟨_, _, rfl, rfl, by decide⟩
  | object => exact ⟨_, _, rfl, rfl, by decide⟩
  | number spelled =>
      obtain ⟨sign, whole, fraction, exponent, rfl, signs, digits, _, _⟩ := spelled
      rcases signs with rfl | rfl
      · obtain ⟨first, more, rfl, digital, _⟩ := whole_head digits
        refine ⟨first, _, rfl, digit_not_blank digital, ?_⟩
        rintro rfl
        cases digital
      · exact ⟨_, _, rfl, rfl, by decide⟩

theorem skip_first_item (visible : isBlank character = false) (unclosed : character ≠ ']')
    (rest : List Char) :
    skipFrom .firstItem stack (character :: rest) = skipFrom .value stack (character :: rest) := by
  rw [skipFrom, skipFrom]
  simp [endsInEscape, step, visible, unclosed]

/-- The machine reads over a value, over the items of a list up to and with its closing
bracket, or over the members of an object up to and with its closing brace. -/
def Skips : Part → List Char → Prop
  | .value, text =>
      ∀ stack rest, Ends rest → skipFrom .value stack (text ++ rest) = leave stack rest
  | .items, text =>
      ∀ stack rest, ∀ mode, mode = .value ∨ mode = .firstItem →
        skipFrom mode (.list :: stack) (text ++ ']' :: rest) = leave stack rest
  | .members, text =>
      ∀ stack rest, ∀ mode, mode = .key ∨ mode = .firstKey →
        skipFrom mode (.object :: stack) (text ++ '}' :: rest) = leave stack rest

theorem skip_item {before value : List Char} (blankBefore : Blank before)
    (spelled : Spelled .value value) (skips : Skips .value value)
    (taken : mode = .value ∨ mode = .firstItem) (ends : Ends rest) :
    skipFrom mode (.list :: stack) (before ++ (value ++ rest)) =
      skipFrom .after (.list :: stack) rest := by
  have idle : mode.isIdle = true := by rcases taken with rfl | rfl <;> rfl
  rw [skip_space idle blankBefore]
  rcases taken with rfl | rfl
  · exact skips _ _ ends
  · obtain ⟨first, more, rfl, visible, unclosed⟩ := value_head spelled
    rw [List.cons_append, skip_first_item visible unclosed]
    exact skips _ _ ends

theorem skip_member {before name between space value : List Char} (blankBefore : Blank before)
    (named : IsQuoted name) (blankBetween : Blank between) (blankSpace : Blank space)
    (skips : Skips .value value) (taken : mode = .key ∨ mode = .firstKey) (ends : Ends rest) :
    skipFrom mode (.object :: stack)
        (before ++ '"' :: (name ++ '"' :: (between ++ ':' :: (space ++ (value ++ rest))))) =
      skipFrom .after (.object :: stack) rest := by
  have idle : mode.isIdle = true := by rcases taken with rfl | rfl <;> rfl
  have opens (text : List Char) : skipFrom mode (.object :: stack) ('"' :: text) =
      skipFrom (.quoted true) (.object :: stack) text := by
    rcases taken with rfl | rfl <;> rfl
  rw [skip_space idle blankBefore, opens, skip_body true named, skip_next rfl rfl,
    skip_space rfl blankBetween, skip_next rfl rfl, skip_space rfl blankSpace]
  exact skips _ _ ends

theorem spelled_skips {part : Part} {text : List Char} (spelled : Spelled part text) :
    Skips part text := by
  induction spelled with
  | null => exact fun _ _ _ => (skip_next rfl rfl).trans (skip_word _ (by simp) _)
  | yes => exact fun _ _ _ => (skip_next rfl rfl).trans (skip_word _ (by simp) _)
  | no => exact fun _ _ _ => (skip_next rfl rfl).trans (skip_word _ (by simp) _)
  | number spelled => exact fun _ _ ends => skip_number spelled ends
  | quoted spelled =>
      intro stack rest _
      rw [List.cons_append, List.append_assoc, skip_next rfl rfl, skip_body false spelled]
      exact skip_completed rfl rfl
  | emptyList blank =>
      intro stack rest _
      rw [List.cons_append, List.append_assoc, skip_next rfl rfl, skip_space rfl blank]
      exact skip_completed rfl rfl
  | list _ ih =>
      intro stack rest _
      rw [List.cons_append, List.append_assoc, skip_next rfl rfl]
      exact ih stack rest .firstItem (Or.inr rfl)
  | emptyObject blank =>
      intro stack rest _
      rw [List.cons_append, List.append_assoc, skip_next rfl rfl, skip_space rfl blank]
      exact skip_completed rfl rfl
  | object _ ih =>
      intro stack rest _
      rw [List.cons_append, List.append_assoc, skip_next rfl rfl]
      exact ih stack rest .firstKey (Or.inr rfl)
  | item blankBefore spelled blankAfter ih =>
      intro stack rest mode taken
      simp only [List.append_assoc]
      rw [skip_item blankBefore spelled ih taken (ends_append blankAfter (ends_bracket rest)),
        skip_space rfl blankAfter]
      exact skip_completed rfl rfl
  | nextItem blankBefore spelled blankAfter _ ih more =>
      intro stack rest mode taken
      simp only [List.append_assoc, List.cons_append]
      rw [skip_item blankBefore spelled ih taken (ends_append blankAfter (ends_comma _)),
        skip_space rfl blankAfter]
      exact (skip_next rfl rfl).trans (more stack rest .value (Or.inl rfl))
  | member blankBefore named blankBetween blankSpace _ blankAfter ih =>
      intro stack rest mode taken
      simp only [List.append_assoc, List.cons_append]
      rw [skip_member blankBefore named blankBetween blankSpace ih taken
          (ends_append blankAfter (ends_brace rest)),
        skip_space rfl blankAfter]
      exact skip_completed rfl rfl
  | nextMember blankBefore named blankBetween blankSpace _ blankAfter _ ih more =>
      intro stack rest mode taken
      simp only [List.append_assoc, List.cons_append]
      rw [skip_member blankBefore named blankBetween blankSpace ih taken
          (ends_append blankAfter (ends_comma _)),
        skip_space rfl blankAfter]
      exact (skip_next rfl rfl).trans (more stack rest .key (Or.inl rfl))

theorem skip_value_spelled {space value : List Char} (blank : Blank space)
    (spelled : Spelled .value value) (ends : Ends rest) :
    skipValue (space ++ (value ++ rest)) = .ok rest := by
  unfold skipValue
  rw [skip_space rfl blank]
  exact spelled_skips spelled [] rest ends

end TokenPersistence.Config
