import TokenPersistence.Config.Options
import TokenPersistence.Proofs.Config.Grammar

/-!
# Texts of values

How names, flags, whole numbers and optional values are written in configuration text, and
that readers give back what was written, however it was written.
-/

namespace TokenPersistence.Config

set_option autoImplicit false

variable {α β : Type}

/-- The reader takes exactly this text, with blanks in front of it, for this value. -/
def Reads (reader : Reader α) (text : List Char) (value : α) : Prop :=
  ∀ ⦃space rest : List Char⦄, Blank space → Ends rest →
    reader (space ++ (text ++ rest)) = .ok (value, rest)

/-- The text starts with a visible character that does not start a word for nothing. -/
def Visible (text : List Char) : Prop :=
  ∃ first more, text = first :: more ∧ isBlank first = false ∧ first ≠ 'n'

theorem Reads.map {reader : Reader α} {text : List Char} {value : α}
    (reads : Reads reader text value) (use : α → β) :
    Reads (fun text => (reader text).map fun reading => (use reading.1, reading.2)) text
      (use value) := by
  intro space rest blank ends
  dsimp only
  rw [reads blank ends]
  rfl

theorem skip_blanks_visible {space : List Char} (blank : Blank space) {first : Char}
    (visible : isBlank first = false) (text : List Char) :
    skipBlanks (space ++ first :: text) = first :: text := by
  rw [skip_blanks_append blank, skipBlanks, List.dropWhile_cons, visible]
  rfl

/-! ## Names -/

/-- The four digits of a numeric escape and the number that they stand for. -/
def IsUnit (digits : List Char) (unit : Nat) : Prop :=
  ∃ a b c d w x y z, digits = [a, b, c, d] ∧ hexValue? a = some w ∧ hexValue? b = some x ∧
    hexValue? c = some y ∧ hexValue? d = some z ∧ unit = ((w * 16 + x) * 16 + y) * 16 + z

/-- What stands between quotes, and the characters that it is written for. Half of a character
that is not followed by the other half stands for none. -/
inductive Writes : List Char → List Char → Prop where
  | nothing : Writes [] []
  | plain {character : Char} {body name : List Char} :
      character ≠ '"' → character ≠ '\\' → 0x20 ≤ character.toNat → Writes body name →
      Writes (character :: body) (character :: name)
  | short {letter escaped : Char} {body name : List Char} :
      shortEscape? letter = some escaped → Writes body name →
      Writes ('\\' :: letter :: body) (escaped :: name)
  | numeric {digits body name : List Char} {unit : Nat} :
      IsUnit digits unit → isLeadingUnit unit = false → isTrailingUnit unit = false →
      Writes body name → Writes ('\\' :: 'u' :: (digits ++ body)) (Char.ofNat unit :: name)
  | pair {first second body name : List Char} {leading trailing : Nat} :
      IsUnit first leading → IsUnit second trailing → isLeadingUnit leading = true →
      isTrailingUnit trailing = true → Writes body name →
      Writes ('\\' :: 'u' :: (first ++ '\\' :: 'u' :: (second ++ body)))
        (Char.ofNat ((leading - 0xd800) * 1024 + (trailing - 0xdc00) + 0x10000) :: name)

theorem read_unit {digits : List Char} {unit : Nat} (written : IsUnit digits unit)
    (rest : List Char) : readUnit (digits ++ rest) = .ok (unit, rest) := by
  obtain ⟨a, b, c, d, w, x, y, z, rfl, first, second, third, fourth, rfl⟩ := written
  have enough : ¬ byteCount (a :: b :: c :: d :: rest) < 4 :=
    Nat.not_lt.mpr (four_le_byte_count a b c d rest)
  simp only [List.cons_append, List.nil_append]
  unfold readUnit
  rw [if_neg enough]
  simp only [first, second, third, fourth]

theorem leading_not_trailing {unit : Nat} (leading : isLeadingUnit unit = true) :
    isTrailingUnit unit = false := by
  simp only [isLeadingUnit, isTrailingUnit, Bool.and_eq_true, decide_eq_true_eq,
    Bool.and_eq_false_iff, decide_eq_false_iff_not] at *
  omega

theorem read_escaped_numeric {digits : List Char} {unit : Nat} (written : IsUnit digits unit)
    (notLeading : isLeadingUnit unit = false) (notTrailing : isTrailingUnit unit = false)
    (rest : List Char) :
    readEscapedCharacter (digits ++ rest) = .ok (Char.ofNat unit, rest) := by
  unfold readEscapedCharacter
  rw [read_unit written]
  change (if isTrailingUnit unit then _ else if isLeadingUnit unit then _ else _) = _
  rw [notTrailing, notLeading]
  rfl

theorem read_escaped_pair {first second : List Char} {leading trailing : Nat}
    (former : IsUnit first leading) (latter : IsUnit second trailing)
    (leads : isLeadingUnit leading = true) (trails : isTrailingUnit trailing = true)
    (rest : List Char) :
    readEscapedCharacter (first ++ '\\' :: 'u' :: (second ++ rest)) =
      .ok (Char.ofNat ((leading - 0xd800) * 1024 + (trailing - 0xdc00) + 0x10000), rest) := by
  unfold readEscapedCharacter
  rw [read_unit former]
  change (if isTrailingUnit leading then _ else if isLeadingUnit leading then
    readUnit (second ++ rest) >>= _ else _) = _
  rw [leading_not_trailing leads, leads, read_unit latter]
  change (if isTrailingUnit trailing then _ else _) = _
  rw [trails]
  rfl

theorem length_of_writes {body name : List Char} (written : Writes body name) :
    name.length ≤ body.length := by
  induction written with
  | nothing => exact Nat.le_refl 0
  | plain _ _ _ _ ih => simpa using ih
  | short _ _ ih =>
      simp only [List.length_cons]
      omega
  | numeric _ _ _ _ ih =>
      simp only [List.length_cons, List.length_append]
      omega
  | pair _ _ _ _ _ ih =>
      simp only [List.length_cons, List.length_append]
      omega

theorem read_quoted_from {body name : List Char} (written : Writes body name)
    (rest : List Char) {fuel : Nat} (enough : name.length < fuel) (before : List Char) :
    readQuotedFrom fuel before (body ++ '"' :: rest) =
      .ok (String.ofList (before.reverse ++ name), rest) := by
  induction written generalizing fuel before with
  | nothing =>
      obtain ⟨fuel, rfl⟩ := Nat.exists_eq_succ_of_ne_zero (Nat.ne_of_gt enough)
      simp [readQuotedFrom]
  | @plain character body name unquoted unescaped printable _ ih =>
      obtain ⟨fuel, rfl⟩ := Nat.exists_eq_succ_of_ne_zero (Nat.ne_zero_of_lt enough)
      have onward := ih (Nat.lt_of_succ_lt_succ enough) (character :: before)
      rw [List.cons_append, readQuotedFrom.eq_def]
      simp only [unquoted, unescaped, Nat.not_lt.mpr printable, if_false]
      rw [onward, List.reverse_cons, List.append_assoc]
      rfl
  | @short letter escaped body name escapes _ ih =>
      obtain ⟨fuel, rfl⟩ := Nat.exists_eq_succ_of_ne_zero (Nat.ne_zero_of_lt enough)
      have onward := ih (Nat.lt_of_succ_lt_succ enough) (escaped :: before)
      have other : letter ≠ 'u' := by
        rintro rfl
        cases escapes
      rw [List.cons_append, List.cons_append, readQuotedFrom.eq_def]
      dsimp only
      rw [if_neg (by decide), if_pos rfl]
      split
      · next start => cases start
      · next start => exact absurd (List.cons.inj start).1 other
      · next start =>
          obtain ⟨rfl, rfl⟩ := List.cons.inj start
          rw [escapes]
          simpa using onward
  | @numeric digits body name unit given notLeading notTrailing _ ih =>
      obtain ⟨fuel, rfl⟩ := Nat.exists_eq_succ_of_ne_zero (Nat.ne_zero_of_lt enough)
      have onward := ih (Nat.lt_of_succ_lt_succ enough) (Char.ofNat unit :: before)
      simp only [List.cons_append, List.append_assoc]
      rw [readQuotedFrom.eq_def]
      simp [read_escaped_numeric given notLeading notTrailing, onward]
  | @pair first second body name leading trailing former latter leads trails _ ih =>
      obtain ⟨fuel, rfl⟩ := Nat.exists_eq_succ_of_ne_zero (Nat.ne_zero_of_lt enough)
      have onward := ih (Nat.lt_of_succ_lt_succ enough) (Char.ofNat
        ((leading - 0xd800) * 1024 + (trailing - 0xdc00) + 0x10000) :: before)
      simp only [List.cons_append, List.append_assoc]
      rw [readQuotedFrom.eq_def]
      simp [read_escaped_pair former latter leads trails, onward]

theorem read_quoted {body : List Char} {name : String} (written : Writes body name.toList)
    (rest : List Char) : readQuoted (body ++ '"' :: rest) = .ok (name, rest) := by
  have enough : name.toList.length < (body ++ '"' :: rest).length + 1 := by
    have bound := length_of_writes written
    simp only [List.length_append]
    omega
  rw [readQuoted, read_quoted_from written rest enough [], List.reverse_nil, List.nil_append,
    String.ofList_toList]

theorem control_unit {unit : Nat} (control : unit < 0x20) :
    IsUnit ['0', '0', Nat.digitChar (unit / 16), Nat.digitChar (unit % 16)] unit ∧
      isLeadingUnit unit = false ∧ isTrailingUnit unit = false := by
  have digit : ∀ value < 16, hexValue? (Nat.digitChar value) = some value := by decide
  refine ⟨⟨'0', '0', _, _, 0, 0, unit / 16, unit % 16, rfl, rfl, rfl,
    digit _ (by omega), digit _ (Nat.mod_lt _ (by decide)), by omega⟩, ?_, ?_⟩
  · simp only [isLeadingUnit, Bool.and_eq_false_iff, decide_eq_false_iff_not]
    omega
  · simp only [isTrailingUnit, Bool.and_eq_false_iff, decide_eq_false_iff_not]
    omega

theorem writes_plain {name : List Char} (plain : ∀ character ∈ name,
    character ≠ '"' ∧ character ≠ '\\' ∧ 0x20 ≤ character.toNat) : Writes name name := by
  induction name with
  | nil => exact .nothing
  | cons character name ih =>
      obtain ⟨⟨unquoted, unescaped, printable⟩, others⟩ := List.forall_mem_cons.mp plain
      exact .plain unquoted unescaped printable (ih others)

theorem exists_writes (name : List Char) : ∃ body, Writes body name := by
  induction name with
  | nil => exact ⟨[], .nothing⟩
  | cons character name ih =>
      obtain ⟨body, written⟩ := ih
      by_cases quote : character = '"'
      · subst character
        have escapes : shortEscape? '"' = some '"' := rfl
        exact ⟨_, .short escapes written⟩
      · by_cases backslash : character = '\\'
        · subst character
          have escapes : shortEscape? '\\' = some '\\' := rfl
          exact ⟨_, .short escapes written⟩
        · rcases Nat.lt_or_ge character.toNat 0x20 with control | printable
          · obtain ⟨digits, notLeading, notTrailing⟩ := control_unit control
            have escaped := Writes.numeric digits notLeading notTrailing written
            rw [Char.ofNat_toNat] at escaped
            exact ⟨_, escaped⟩
          · exact ⟨_, .plain quote backslash printable written⟩

/-! ## Flags, whole numbers and optional values -/

def SpellsFlag : Bool → List Char → Prop
  | true, text => text = ['t', 'r', 'u', 'e']
  | false, text => text = ['f', 'a', 'l', 's', 'e']

/-- Decimal digits of the number, without zeros in front of them. -/
def SpellsNatural (number : Nat) (text : List Char) : Prop :=
  IsWhole text ∧ Nat.ofDigitChars 10 text 0 = number

def SpellsWord (word : UInt64) (text : List Char) : Prop := SpellsNatural word.toNat text

/-- A value that is not there is written as a word of its own. -/
def SpellsOptional (Spells : α → List Char → Prop) : Option α → List Char → Prop
  | none, text => text = ['n', 'u', 'l', 'l']
  | some value, text => Spells value text

theorem exists_flag (flag : Bool) : ∃ text, SpellsFlag flag text := by
  cases flag <;> exact ⟨_, rfl⟩

theorem to_digits_head {number : Nat} (positive : 0 < number) :
    ∃ first more, Nat.toDigits 10 number = first :: more ∧ first ≠ '0' := by
  induction number using Nat.strongRecOn with
  | ind number ih =>
      rcases Nat.lt_or_ge number 10 with single | several
      · have nonzero : ∀ digit < 10, 0 < digit → Nat.digitChar digit ≠ '0' := by decide
        exact ⟨_, [], Nat.toDigits_of_lt_base single, nonzero number single positive⟩
      · obtain ⟨first, more, digits, nonzero⟩ := ih (number / 10) (by omega) (by omega)
        refine ⟨first, more ++ [Nat.digitChar (number % 10)], ?_, nonzero⟩
        rw [Nat.toDigits_of_base_le (by decide) several, digits]
        rfl

theorem exists_natural (number : Nat) : ∃ text, SpellsNatural number text := by
  refine ⟨Nat.toDigits 10 number, ?_, Nat.ofDigitChars_toDigits (by decide) (by decide)⟩
  rcases Nat.eq_zero_or_pos number with rfl | positive
  · exact Or.inl rfl
  · obtain ⟨first, more, digits, nonzero⟩ := to_digits_head positive
    refine Or.inr ⟨first, more, digits, nonzero, ?_⟩
    intro character inside
    have digital := Nat.isDigit_of_mem_toDigits (by decide) (by decide) inside
    simpa [Char.isDigit, isDigit, Char.le_def] using digital

theorem exists_optional {Spells : α → List Char → Prop} {value : Option α}
    (spelled : ∀ present ∈ value, ∃ text, Spells present text) :
    ∃ text, SpellsOptional Spells value text := by
  cases value with
  | none => exact ⟨_, rfl⟩
  | some present => exact spelled present rfl

theorem read_word_append (letters rest : List Char) :
    readWord letters (letters ++ rest) = .ok rest := by
  induction letters with
  | nil => rfl
  | cons letter letters ih => rw [List.cons_append, readWord, if_pos rfl, ih]

theorem reads_flag {flag : Bool} {text : List Char} (spelled : SpellsFlag flag text) :
    Reads readFlag text flag := by
  intro space rest blank _
  unfold readFlag
  cases flag with
  | true =>
      obtain rfl := spelled
      rw [List.cons_append, skip_blanks_visible blank rfl]
      change (readWord ['r', 'u', 'e'] (['r', 'u', 'e'] ++ rest)).map _ = _
      rw [read_word_append]
      rfl
  | false =>
      obtain rfl := spelled
      rw [List.cons_append, skip_blanks_visible blank rfl]
      change (readWord ['a', 'l', 's', 'e'] (['a', 'l', 's', 'e'] ++ rest)).map _ = _
      rw [read_word_append]
      rfl

theorem reads_optional {reader : Reader α} {Spells : α → List Char → Prop}
    (reads : ∀ value text, Spells value text → Reads reader text value ∧ Visible text)
    {value : Option α} {text : List Char} (spelled : SpellsOptional Spells value text) :
    Reads (readOptional reader) text value := by
  intro space rest blank ends
  unfold readOptional
  cases value with
  | none =>
      obtain rfl := spelled
      rw [List.cons_append, skip_blanks_visible blank rfl]
      change (readWord ['u', 'l', 'l'] (['u', 'l', 'l'] ++ rest)).map _ = _
      rw [read_word_append]
      rfl
  | some value =>
      obtain ⟨reading, first, more, rfl, visible, other⟩ := reads value text spelled
      have read := reading blank_nil ends
      rw [List.nil_append] at read
      rw [List.cons_append, skip_blanks_visible blank visible] at *
      split
      · next word => exact absurd (List.cons.inj word).1 other
      · rw [read]
        rfl

theorem natural_visible {number : Nat} {text : List Char} (spelled : SpellsNatural number text) :
    Visible text := by
  obtain ⟨first, more, rfl, digital, _⟩ := whole_head spelled.1
  refine ⟨first, more, rfl, digit_not_blank digital, ?_⟩
  rintro rfl
  cases digital

theorem le_of_digit_chars (digits : List Char) (significand : Nat) :
    significand ≤ Nat.ofDigitChars 10 digits significand := by
  induction digits generalizing significand with
  | nil => exact Nat.le_refl _
  | cons digit digits ih =>
      rw [Nat.ofDigitChars_cons]
      have further := ih (10 * significand + (digit.toNat - '0'.toNat))
      omega

theorem append_digit_fitting {significand : Nat} {digit : Char}
    (fits : 10 * significand + (digit.toNat - '0'.toNat) ≤ largestWord) :
    appendDigit? significand digit = some (10 * significand + (digit.toNat - '0'.toNat)) := by
  unfold appendDigit? digitValue
  dsimp only
  rw [Nat.mul_comm significand, if_pos fits]

theorem gather_whole_cons (significand : Nat) (digit : Char) (digits : List Char) :
    gatherWhole significand (digit :: digits) =
      match appendDigit? significand digit with
      | some longer => gatherWhole longer digits
      | none => (significand, digits.length + 1) :=
  (rfl)

theorem gather_whole_fitting (digits : List Char) (significand : Nat)
    (fits : Nat.ofDigitChars 10 digits significand ≤ largestWord) :
    gatherWhole significand digits = (Nat.ofDigitChars 10 digits significand, 0) := by
  induction digits generalizing significand with
  | nil => rfl
  | cons digit digits ih =>
      rw [Nat.ofDigitChars_cons] at fits
      have appended := append_digit_fitting (Nat.le_trans (le_of_digit_chars digits _) fits)
      rw [Nat.ofDigitChars_cons, gather_whole_cons, appended]
      exact ih _ fits

theorem take_digits {digits rest : List Char} (all : Digits digits)
    (behind : ∀ character ∈ rest.head?, isDigit character = false) :
    (digits ++ rest).takeWhile isDigit = digits ∧ (digits ++ rest).dropWhile isDigit = rest := by
  rw [List.takeWhile_append_of_pos all, List.dropWhile_append_of_pos all]
  cases rest with
  | nil => exact ⟨List.append_nil _, rfl⟩
  | cons first rest =>
      rw [List.takeWhile_cons, List.dropWhile_cons, behind first rfl]
      exact ⟨List.append_nil _, rfl⟩

theorem digit_behind {rest : List Char} (ends : Ends rest) :
    ∀ character ∈ rest.head?, isDigit character = false := by
  intro character first
  cases rest with
  | nil => cases first
  | cons head rest =>
      obtain rfl : head = character := Option.some.inj first
      exact (ends_stops ends).1

theorem read_number_end_whole {rest : List Char} (ends : Ends rest) (significand : Nat) :
    readNumberEnd false significand 0 rest = .ok (.natural significand, rest) := by
  unfold readNumberEnd
  split
  · exact absurd rfl (ends_stops ends).2.1
  · cases (ends_stops ends).2.2
  · cases (ends_stops ends).2.2
  · rfl

theorem read_unsigned_whole {text : List Char} (whole : IsWhole text)
    (fits : Nat.ofDigitChars 10 text 0 ≤ largestWord) {rest : List Char}
    (behind : ∀ character ∈ rest.head?, isDigit character = false) :
    readUnsigned false (text ++ rest) =
      readNumberEnd false (Nat.ofDigitChars 10 text 0) 0 rest := by
  rcases whole with rfl | ⟨first, more, rfl, nonzero, all⟩
  · have unspoilt : rest.head?.any isDigit = false := by
      cases head : rest.head? with
      | none => rfl
      | some character => simpa using behind character head
    change (if rest.head?.any isDigit then _ else readNumberEnd false 0 0 rest) = _
    rw [unspoilt]
    rfl
  · obtain ⟨taken, left⟩ := take_digits all behind
    have digital := (List.forall_mem_cons.mp all).1
    rw [List.cons_append] at taken left ⊢
    unfold readUnsigned
    split
    · next start => cases start
    · next start => exact absurd (List.cons.inj start).1 nonzero
    · next start =>
        obtain ⟨rfl, rfl⟩ := List.cons.inj start
        rw [if_pos digital, taken, left, gather_whole_fitting _ _ fits]

theorem read_number_whole {text : List Char} (whole : IsWhole text) {space rest : List Char}
    (blank : Blank space) :
    readNumber (space ++ (text ++ rest)) = readUnsigned false (text ++ rest) := by
  obtain ⟨first, more, rfl, digital, _⟩ := whole_head whole
  have unsigned : first ≠ '-' := by
    rintro rfl
    cases digital
  unfold readNumber
  rw [List.cons_append, skip_blanks_visible blank (digit_not_blank digital)]
  split
  · next start => cases start
  · next start => exact absurd (List.cons.inj start).1 unsigned
  · next start =>
      obtain ⟨rfl, rfl⟩ := List.cons.inj start
      rw [if_pos digital]

theorem reads_natural {number largest : Nat} {text : List Char}
    (spelled : SpellsNatural number text) (fits : number ≤ largest)
    (narrow : largest ≤ largestWord) : Reads (readNatural largest) text number := by
  intro space rest blank ends
  obtain ⟨whole, rfl⟩ := spelled
  unfold readNatural
  rw [read_number_whole whole blank,
    read_unsigned_whole whole (Nat.le_trans fits narrow) (digit_behind ends),
    read_number_end_whole ends]
  exact if_pos fits

theorem reads_word {word : UInt64} {text : List Char} (spelled : SpellsWord word text) :
    Reads readWord64 text word := by
  have reading := (reads_natural spelled (Nat.le_sub_one_of_lt word.toNat_lt) (Nat.le_refl _)).map
    UInt64.ofNat
  rw [UInt64.ofNat_toNat] at reading
  exact reading

end TokenPersistence.Config
