import TokenPersistence.Config.Options
import TokenPersistence.Proofs.Config.Grammar

/-!
# What readers take

A reader that accepts a value has taken all of it: it stops where the machine that skips
values stops. How much of a text a reader takes is therefore not decided by the kind of
value that it wants, only whether it accepts what it finds.
-/

namespace TokenPersistence.Config

set_option autoImplicit false

variable {α β ρ : Type}

theorem ok_of_bind {first : Except Problem α} {next : α → Except Problem β} {result : β}
    (ran : first >>= next = .ok result) :
    ∃ value, first = .ok value ∧ next value = .ok result := by
  cases first with
  | error problem => cases ran
  | ok value => exact ⟨value, rfl, ran⟩

theorem ok_of_map {first : Except Problem α} {use : α → β} {result : β}
    (ran : first.map use = .ok result) : ∃ value, first = .ok value ∧ use value = result := by
  cases first with
  | error problem => cases ran
  | ok value => exact ⟨value, rfl, Except.ok.inj ran⟩

/-- The reader takes one value off the text, with the blanks in front of it. -/
def TakesValue (reader : Reader α) : Prop :=
  ∀ ⦃text : List Char⦄ ⦃value : α⦄ ⦃rest : List Char⦄, reader text = .ok (value, rest) →
    ∀ stack, skipFrom .value stack text = leave stack rest

theorem TakesValue.map {reader : Reader α} (takes : TakesValue reader) (use : α → β) :
    TakesValue fun text => (reader text).map fun reading => (use reading.1, reading.2) := by
  intro text value rest read stack
  obtain ⟨reached, reading, same⟩ := ok_of_map read
  cases same
  exact takes reading stack

theorem TakesValue.check {reader : Reader α} (takes : TakesValue reader)
    {verdict : α × List Char → Except Problem (β × List Char)}
    (keeps : ∀ reading result, verdict reading = .ok result → result.2 = reading.2) :
    TakesValue fun text => reader text >>= verdict := by
  intro text value rest read stack
  obtain ⟨reached, reading, passed⟩ := ok_of_bind read
  rw [show rest = reached.2 from keeps reached (value, rest) passed]
  exact takes reading stack

variable {mode : Mode} {stack : List Frame} {text rest : List Char}

/-! ## Words -/

theorem read_word_ok {letters : List Char} (read : readWord letters text = .ok rest) :
    text = letters ++ rest := by
  induction letters generalizing text with
  | nil => exact Except.ok.inj read
  | cons letter letters ih =>
      cases text with
      | nil => cases read
      | cons character text =>
          rw [readWord] at read
          split at read
          · subst character
            rw [ih read]
            rfl
          · cases read

theorem takes_word {letters : List Char} {value : α} {result : α × List Char}
    (some : letters ≠ [])
    (read : (readWord letters text).map (fun rest => (value, rest)) = .ok result) :
    skipFrom (.word letters) stack text = leave stack result.2 := by
  obtain ⟨behind, reading, rfl⟩ := ok_of_map read
  rw [read_word_ok reading]
  exact skip_word letters some behind

theorem flag_takes_value : TakesValue readFlag := by
  intro text value rest read stack
  rw [← skip_from_blanks rfl]
  unfold readFlag at read
  split at read
  · cases read
  · next start =>
      rw [start, skip_next rfl rfl]
      exact takes_word (by simp) read
  · next start =>
      rw [start, skip_next rfl rfl]
      exact takes_word (by simp) read
  · cases read

theorem TakesValue.optional {reader : Reader α} (takes : TakesValue reader) :
    TakesValue (readOptional reader) := by
  intro text value rest read stack
  rw [← skip_from_blanks rfl]
  unfold readOptional at read
  split at read
  · next start =>
      rw [start, skip_next rfl rfl]
      exact takes_word (by simp) read
  · exact takes.map some read stack

/-! ## Numbers -/

theorem digits_of_take_while (text : List Char) : Digits (text.takeWhile isDigit) :=
  List.all_eq_true.mp List.all_takeWhile

theorem head_of_drop_while (text : List Char) :
    ∀ character ∈ (text.dropWhile isDigit).head?, isDigit character = false := by
  intro character first
  have stopped := List.head?_dropWhile_not isDigit text
  rw [first] at stopped
  simpa using stopped

theorem skip_digits_while (stays : ∀ digit, isDigit digit = true →
      step mode stack digit = .ok (.next mode stack))
    (plain : ∀ digit rest, endsInEscape mode digit rest = false) (text : List Char) :
    skipFrom mode stack text = skipFrom mode stack (text.dropWhile isDigit) := by
  have skipped : skipFrom mode stack _ = skipFrom mode stack _ :=
    skip_digits stays plain (digits_of_take_while text) (text.dropWhile isDigit)
  rwa [List.takeWhile_append_dropWhile] at skipped

theorem unmarked_head (small : ∀ more, text ≠ 'e' :: more) (large : ∀ more, text ≠ 'E' :: more) :
    ∀ character ∈ text.head?, isExponentMark character = false := by
  intro character first
  cases text with
  | nil => cases first
  | cons head more =>
      obtain rfl : head = character := Option.some.inj first
      have notSmall : head ≠ 'e' := fun same => small more (same ▸ rfl)
      have notLarge : head ≠ 'E' := fun same => large more (same ▸ rfl)
      simp [isExponentMark, notSmall, notLarge]

theorem skip_exponent_digits_while (taken : mode = .exponentMark ∨ mode = .exponentSign)
    {first : Char} (digital : isDigit first = true) :
    skipFrom mode stack (first :: text) = leave stack ((first :: text).dropWhile isDigit) := by
  have alone : Digits [first] := List.forall_mem_singleton.mpr digital
  have begun : skipFrom mode stack (first :: text) = skipFrom .exponentDigits stack text :=
    skip_exponent_digits (List.cons_ne_nil first []) alone taken text
  rw [begun, skip_digits_while (fun digit digital => by simp [step, digital]) (fun _ _ => rfl),
    List.dropWhile_cons, if_pos digital]
  apply skip_number_end rfl
  intro character behind
  simp [step, head_of_drop_while _ _ behind]

variable {negative : Bool} {significand dropped : Nat} {exponent : Int} {number : Number}

theorem takes_exponent
    (read : readExponent negative significand exponent text = .ok (number, rest)) :
    skipFrom .exponentMark stack text = leave stack rest := by
  unfold readExponent at read
  split at read
  next lowers digitsText start =>
    obtain ⟨first, more, rfl, digital, rfl⟩ : ∃ first more, digitsText = first :: more ∧
        isDigit first = true ∧ rest = digitsText.dropWhile isDigit := by
      cases digitsText with
      | nil => cases read
      | cons first more =>
          dsimp only at read
          split at read
          · next digital =>
              refine ⟨first, more, rfl, digital, ?_⟩
              split at read
              · obtain ⟨_, _, same⟩ := ok_of_map read
                exact (Prod.mk.inj same).2.symm
              · split at read
                · cases read
                · exact (Prod.mk.inj (Except.ok.inj read)).2.symm
          · cases read
    split at start
    · cases start
      rw [skip_next rfl rfl]
      exact skip_exponent_digits_while (Or.inr rfl) digital
    · cases start
      rw [skip_next rfl rfl]
      exact skip_exponent_digits_while (Or.inr rfl) digital
    · cases start
      exact skip_exponent_digits_while (Or.inl rfl) digital

theorem takes_exponent_if_any (taken : mode = .zero ∨ mode = .digits ∨ mode = .fraction)
    (stops : ∀ character ∈ text.head?, isExponentMark character = false →
      step mode stack character = endNumber stack character)
    (read : readExponentIfAny negative significand exponent text = .ok (number, rest)) :
    skipFrom mode stack text = leave stack rest := by
  have marked {mark : Char} {more : List Char} (marks : mark = 'e' ∨ mark = 'E') :
      skipFrom mode stack (mark :: more) = skipFrom .exponentMark stack more := by
    rcases taken with rfl | rfl | rfl <;> rcases marks with rfl | rfl <;> rfl
  unfold readExponentIfAny at read
  split at read
  · rw [marked (Or.inl rfl)]
    exact takes_exponent read
  · rw [marked (Or.inr rfl)]
    exact takes_exponent read
  · next small large =>
      obtain ⟨_, _, same⟩ := ok_of_map read
      obtain rfl := (Prod.mk.inj same).2
      apply skip_number_end (by rcases taken with rfl | rfl | rfl <;> rfl)
      intro character first
      exact stops character first (unmarked_head (fun _ => small _) (fun _ => large _) _ first)

theorem takes_fraction
    (read : readFraction negative significand dropped text = .ok (number, rest)) :
    skipFrom .point stack text = leave stack rest := by
  unfold readFraction at read
  dsimp only at read
  split at read
  · split at read <;> cases read
  · next some =>
      cases text with
      | nil => exact absurd rfl some
      | cons first more =>
          have digital : isDigit first = true := by
            rw [List.takeWhile_cons] at some
            cases digital : isDigit first with
            | true => rfl
            | false => simp [digital] at some
          have begun : step .point stack first = .ok (.next .fraction stack) := by
            simp [step, digital]
          rw [List.dropWhile_cons, if_pos digital] at read
          rw [skip_next rfl begun,
            skip_digits_while (fun digit digital => by simp [step, digital]) (fun _ _ => rfl)]
          apply takes_exponent_if_any (Or.inr (Or.inr rfl)) _ read
          intro character behind unmarked
          simp [step, head_of_drop_while more _ behind, unmarked]

theorem takes_number_end (taken : mode = .zero ∨ mode = .digits)
    (behind : ∀ character ∈ text.head?, isDigit character = false)
    (read : readNumberEnd negative significand dropped text = .ok (number, rest)) :
    skipFrom mode stack text = leave stack rest := by
  have exponential : mode = .zero ∨ mode = .digits ∨ mode = .fraction := by
    rcases taken with rfl | rfl <;> simp
  have stops (whole : ∀ more, text ≠ '.' :: more) : ∀ character ∈ text.head?,
      isExponentMark character = false →
        step mode stack character = endNumber stack character := by
    intro character first unmarked
    have digital := behind character first
    cases text with
    | nil => cases first
    | cons head more =>
        obtain rfl : head = character := Option.some.inj first
        have notPoint : head ≠ '.' := fun same => whole more (same ▸ rfl)
        rcases taken with rfl | rfl <;> simp [step, digital, notPoint, unmarked]
  unfold readNumberEnd at read
  split at read
  · have pointed (more : List Char) :
        skipFrom mode stack ('.' :: more) = skipFrom .point stack more := by
      rcases taken with rfl | rfl <;> rfl
    rw [pointed]
    exact takes_fraction read
  · exact takes_exponent_if_any exponential (stops (by simp)) read
  · exact takes_exponent_if_any exponential (stops (by simp)) read
  · next point small large =>
      have unstopped := stops fun more same => point more same
      split at read
      · obtain ⟨_, rfl⟩ := Prod.mk.inj (Except.ok.inj read)
        apply skip_number_end (by rcases taken with rfl | rfl <;> rfl)
        intro character first
        exact unstopped character first
          (unmarked_head (fun _ => small _) (fun _ => large _) _ first)
      · exact takes_exponent_if_any exponential unstopped read

theorem takes_unsigned (read : readUnsigned negative text = .ok (number, rest)) :
    skipFrom .minus stack text = leave stack rest := by
  unfold readUnsigned at read
  split at read
  · cases read
  · next more =>
      split at read
      · cases read
      · next behind =>
          rw [skip_next rfl rfl]
          apply takes_number_end (Or.inl rfl) _ read
          intro character first
          rw [first] at behind
          simpa using behind
  · next first more nonzero =>
      split at read
      · next digital =>
          have begun : step .minus stack first = .ok (.next .digits stack) := by
            simp [step, digital, show first ≠ '0' from nonzero]
          rw [List.dropWhile_cons, if_pos digital] at read
          rw [skip_next rfl begun,
            skip_digits_while (fun digit digital => by simp [step, digital]) (fun _ _ => rfl)]
          exact takes_number_end (Or.inr rfl) (head_of_drop_while more) read
      · cases read

theorem number_takes_value : TakesValue readNumber := by
  intro text number rest read stack
  rw [← skip_from_blanks rfl]
  unfold readNumber at read
  split at read
  · cases read
  · next start =>
      rw [start, skip_next rfl rfl]
      exact takes_unsigned read
  · next start =>
      rw [start]
      split at read
      · next digital =>
          rw [skip_value_digit digital]
          exact takes_unsigned read
      · cases read

theorem real_takes_value : TakesValue readReal :=
  number_takes_value.map Number.toBinary64

theorem natural_takes_value (largest : Nat) : TakesValue (readNatural largest) := by
  apply number_takes_value.check
  intro reading result passed
  split at passed
  · split at passed
    · cases passed
      rfl
    · cases passed
  · cases passed

theorem word_takes_value : TakesValue readWord64 :=
  (natural_takes_value _).map UInt64.ofNat

/-! ## Texts between quotes -/

theorem skip_read_unit {unit : Nat} (isKey : Bool) (read : readUnit text = .ok (unit, rest)) :
    skipFrom (.quoted isKey) stack ('\\' :: 'u' :: text) =
      skipFrom (.quoted isKey) stack rest := by
  unfold readUnit at read
  split at read
  · cases read
  · split at read
    · split at read
      · next first second third fourth =>
          obtain ⟨_, rfl⟩ := Prod.mk.inj (Except.ok.inj read)
          exact skip_numeric isKey (Option.isSome_of_eq_some first)
            (Option.isSome_of_eq_some second) (Option.isSome_of_eq_some third)
            (Option.isSome_of_eq_some fourth) _
      · cases read
    · cases read

theorem skip_read_escape {escaped : Char} (isKey : Bool)
    (read : readEscapedCharacter text = .ok (escaped, rest)) :
    skipFrom (.quoted isKey) stack ('\\' :: 'u' :: text) =
      skipFrom (.quoted isKey) stack rest := by
  obtain ⟨⟨unit, behind⟩, first, read⟩ := ok_of_bind read
  rw [skip_read_unit isKey first]
  dsimp only at read
  split at read
  · cases read
  · split at read
    · split at read
      · cases read
      · cases read
      · obtain ⟨⟨trailing, last⟩, second, read⟩ := ok_of_bind read
        rw [skip_read_unit isKey second]
        dsimp only at read
        split at read
        · rw [(Prod.mk.inj (Except.ok.inj read)).2]
        · cases read
      · cases read
    · rw [(Prod.mk.inj (Except.ok.inj read)).2]

/-- A text that was read up to its closing quote is skipped up to it. -/
theorem skip_read_quoted {body : String} (isKey : Bool)
    (read : readQuoted text = .ok (body, rest)) :
    skipFrom (.quoted isKey) stack text = skipFrom (.quoted isKey) stack ('"' :: rest) := by
  have along : ∀ fuel (before text : List Char),
      readQuotedFrom fuel before text = .ok (body, rest) →
      skipFrom (.quoted isKey) stack text =
        skipFrom (.quoted isKey) stack ('"' :: rest) := by
    intro fuel
    induction fuel with
    | zero =>
        intro before text read
        cases read
    | succ fuel ih =>
        intro before text read
        cases text with
        | nil => cases read
        | cons character text =>
            unfold readQuotedFrom at read
            split at read
            · next quote =>
                rw [quote, (Prod.mk.inj (Except.ok.inj read)).2]
            · next unquoted =>
                split at read
                · next backslash =>
                    rw [backslash]
                    split at read
                    · cases read
                    · split at read
                      · cases read
                      · next escaped =>
                          rw [skip_read_escape isKey escaped]
                          exact ih _ _ read
                    · split at read
                      · next escaped =>
                          rw [skip_short isKey (Option.isSome_of_eq_some escaped)]
                          exact ih _ _ read
                      · cases read
                · next unescaped =>
                    split at read
                    · cases read
                    · next printable =>
                        rw [skip_plain isKey unquoted unescaped (Nat.not_lt.mp printable)]
                        exact ih _ _ read
  exact along _ _ _ read

/-! ## Records -/

/-- Where the machine stands in an object when the next member is looked for. -/
def keyMode (isFirst : Bool) : Mode := if isFirst then .firstKey else .after

/-- Where it stands in a list when the next item is looked for. -/
def itemMode (isFirst : Bool) : Mode := if isFirst then .firstItem else .after

theorem key_mode_idle (isFirst : Bool) : (keyMode isFirst).isIdle = true := by
  cases isFirst <;> rfl

theorem item_mode_idle (isFirst : Bool) : (itemMode isFirst).isIdle = true := by
  cases isFirst <;> rfl

variable {isFirst : Bool}

theorem skip_next_key {body : List Char} (found : nextKey isFirst text = .ok (some body)) :
    skipFrom (keyMode isFirst) (.object :: stack) text =
      skipFrom (.quoted true) (.object :: stack) body := by
  rw [← skip_from_blanks (key_mode_idle isFirst)]
  unfold nextKey at found
  split at found
  · cases found
  · cases found
  · next start =>
      rw [start]
      cases isFirst with
      | true => cases found
      | false =>
          rw [show keyMode false = .after from rfl, skip_next rfl rfl, ← skip_from_blanks rfl]
          rw [if_neg Bool.false_ne_true] at found
          split at found
          · cases found
          · next start =>
              rw [start, skip_next rfl rfl, Option.some.inj (Except.ok.inj found)]
          · cases found
  · next start =>
      rw [start]
      cases isFirst with
      | true => rw [show keyMode true = .firstKey from rfl, skip_next rfl rfl,
          Option.some.inj (Except.ok.inj found)]
      | false => cases found
  · cases found

theorem skip_last_key (found : nextKey isFirst text = .ok none) :
    ∃ behind, skipBlanks text = '}' :: behind ∧
      skipFrom (keyMode isFirst) (.object :: stack) text = leave stack behind := by
  rw [← skip_from_blanks (key_mode_idle isFirst)]
  unfold nextKey at found
  split at found
  · cases found
  · next behind start =>
      refine ⟨behind, start, ?_⟩
      rw [start]
      cases isFirst <;> exact skip_completed rfl rfl
  · split at found
    · cases found
    · split at found <;> cases found
  · split at found <;> cases found
  · cases found

theorem skip_read_colon (read : readColon text = .ok rest) :
    skipFrom .colon stack text = skipFrom .value stack rest := by
  rw [← skip_from_blanks rfl]
  unfold readColon at read
  split at read
  · cases read
  · next start =>
      rw [start, skip_next rfl rfl, Except.ok.inj read]
  · cases read

theorem visible_of_skip_blanks {character : Char} {more : List Char}
    (start : skipBlanks text = character :: more) : isBlank character = false := by
  have stopped := List.head?_dropWhile_not isBlank text
  rw [show text.dropWhile isBlank = character :: more from start] at stopped
  simpa using stopped

theorem skip_next_item {start : List Char} (found : nextItem isFirst text = .ok (some start)) :
    skipFrom (itemMode isFirst) (.list :: stack) text = skipFrom .value (.list :: stack) start := by
  rw [← skip_from_blanks (item_mode_idle isFirst)]
  have first_item {character : Char} {more : List Char} (unclosed : character ≠ ']')
      (begun : skipBlanks text = character :: more) :
      skipFrom (itemMode true) (.list :: stack) (skipBlanks text) =
        skipFrom .value (.list :: stack) (character :: more) := by
    rw [begun]
    exact skip_first_item (visible_of_skip_blanks begun) unclosed more
  unfold nextItem at found
  split at found
  · cases found
  · cases found
  · next behind begun =>
      cases isFirst with
      | true =>
          obtain rfl := Option.some.inj (Except.ok.inj found)
          exact first_item (by decide) begun
      | false =>
          rw [begun, show itemMode false = .after from rfl, skip_next rfl rfl,
            ← skip_from_blanks rfl]
          rw [if_neg Bool.false_ne_true] at found
          split at found
          · cases found
          · cases found
          · rw [Option.some.inj (Except.ok.inj found)]
  · next filled unclosed _ =>
      cases isFirst with
      | true =>
          obtain rfl := Option.some.inj (Except.ok.inj found)
          cases begun : skipBlanks text with
          | nil => exact absurd begun filled
          | cons character more =>
              have other : character ≠ ']' := fun same => unclosed more (same ▸ begun)
              rw [← begun, first_item other begun, begun]
      | false => cases found

theorem skip_read_closing (closes : readClosing ']' text = .ok rest) :
    skipFrom (itemMode isFirst) (.list :: stack) text = leave stack rest := by
  rw [← skip_from_blanks (item_mode_idle isFirst)]
  unfold readClosing at closes
  split at closes
  · cases closes
  · next character behind start =>
      rw [start]
      split at closes
      · next bracket =>
          obtain rfl := Except.ok.inj closes
          rw [bracket]
          cases isFirst <;> exact skip_completed rfl rfl
      · cases closes

/-- Every field of the record takes one value. -/
def Schema.TakesValues (schema : Schema ρ) : Prop :=
  ∀ field ∈ schema.fields, ∀ record, TakesValue (field.read record)

variable {schema : Schema ρ} {record result : ρ}

theorem takes_members (takes : schema.TakesValues) (closed : schema.isOpen = false) {fuel : Nat}
    {seen : List String}
    (read : readMembers schema fuel isFirst seen record text = .ok (result, rest)) :
    ∃ behind, rest = '}' :: behind ∧
      skipFrom (keyMode isFirst) (.object :: stack) text = leave stack behind := by
  induction fuel generalizing isFirst seen record text with
  | zero => cases read
  | succ fuel ih =>
      obtain ⟨key, found, read⟩ := ok_of_bind read
      cases key with
      | none =>
          obtain ⟨behind, start, skipped⟩ := skip_last_key found
          obtain ⟨_, rfl⟩ := Prod.mk.inj (Except.ok.inj read)
          exact ⟨behind, start, skipped⟩
      | some body =>
          obtain ⟨⟨name, afterName⟩, named, read⟩ := ok_of_bind read
          dsimp only at read
          split at read
          · next field known =>
              split at read
              · cases read
              · obtain ⟨afterColon, colon, read⟩ := ok_of_bind read
                obtain ⟨⟨later, afterValue⟩, valued, read⟩ := ok_of_bind read
                obtain ⟨behind, same, skipped⟩ := ih read
                refine ⟨behind, same, ?_⟩
                have inside := List.mem_of_find?_eq_some known
                rw [skip_next_key found, skip_read_quoted true named, skip_next rfl rfl,
                  skip_read_colon colon, takes field inside record valued]
                exact skipped
          · rw [closed] at read
            cases read

theorem takes_items (takes : schema.TakesValues) {fields : List (Field ρ)}
    (among : ∀ field ∈ fields, field ∈ schema.fields)
    (read : readItems false fields isFirst record text = .ok (result, rest)) {behind : List Char}
    (closes : readClosing ']' rest = .ok behind) :
    skipFrom (itemMode isFirst) (.list :: stack) text = leave stack behind := by
  induction fields generalizing isFirst record text with
  | nil =>
      obtain ⟨_, rfl⟩ := Prod.mk.inj (Except.ok.inj read)
      exact skip_read_closing closes
  | cons field fields ih =>
      obtain ⟨item, found, read⟩ := ok_of_bind read
      cases item with
      | none => cases read
      | some start =>
          obtain ⟨⟨later, afterValue⟩, valued, read⟩ := ok_of_bind read
          rw [skip_next_item found, takes field (among field List.mem_cons_self) record valued]
          exact ih (fun field inside => among field (List.mem_cons_of_mem _ inside)) read

theorem record_takes_value (takes : schema.TakesValues) (closed : schema.isOpen = false)
    (initial : ρ) (finish : ρ → Except Problem α) :
    TakesValue (readRecord schema initial finish) := by
  intro text value rest read stack
  rw [← skip_from_blanks rfl]
  unfold readRecord at read
  split at read
  · cases read
  · next start =>
      obtain ⟨⟨record, behind⟩, items, read⟩ := ok_of_bind read
      obtain ⟨_, _, read⟩ := ok_of_bind read
      obtain ⟨_, closes, read⟩ := ok_of_bind read
      obtain ⟨_, rfl⟩ := Prod.mk.inj (Except.ok.inj read)
      rw [closed] at items
      rw [start, skip_next rfl rfl]
      exact takes_items takes (fun _ inside => inside) items closes
  · next start =>
      obtain ⟨⟨record, behind⟩, members, read⟩ := ok_of_bind read
      obtain ⟨_, _, read⟩ := ok_of_bind read
      obtain ⟨_, closes, read⟩ := ok_of_bind read
      obtain ⟨_, rfl⟩ := Prod.mk.inj (Except.ok.inj read)
      obtain ⟨last, rfl, skipped⟩ := takes_members takes closed members
      obtain rfl := Except.ok.inj closes
      rw [start, skip_next rfl rfl]
      exact skipped
  · cases read

/-! ## The options -/

theorem span_takes_value (secondsName nanosName : String) :
    TakesValue (readSpan secondsName nanosName) := by
  apply record_takes_value _ rfl
  intro field inside span
  rcases List.mem_cons.mp inside with rfl | inside
  · exact (natural_takes_value _).map fun seconds => { span with seconds := some seconds }
  · obtain rfl := List.mem_singleton.mp inside
    exact (natural_takes_value _).map fun nanos => { span with nanos := some nanos }

theorem duration_takes_value : TakesValue readDuration := span_takes_value _ _

theorem read_timestamp_ok_iff {timestamp : Timestamp} :
    readTimestamp text = .ok (timestamp, rest) ↔
      ∃ sinceEpoch, readSpan "secs_since_epoch" "nanos_since_epoch" text = .ok (sinceEpoch, rest) ∧
        Timestamp.ofNanos? sinceEpoch.nanos = some timestamp := by
  -- The bounds of points in time must not be computed with, so any conversion is taken.
  obtain ⟨convert, same⟩ : ∃ convert, convert = Timestamp.ofNanos? := ⟨_, rfl⟩
  unfold readTimestamp
  rw [← same]
  constructor
  · intro read
    obtain ⟨⟨sinceEpoch, behind⟩, reading, read⟩ := ok_of_bind read
    dsimp only at read
    split at read
    · next converted =>
        obtain ⟨rfl, rfl⟩ := Prod.mk.inj (Except.ok.inj read)
        exact ⟨sinceEpoch, reading, converted⟩
    · cases read
  · rintro ⟨sinceEpoch, reading, converted⟩
    rw [reading]
    dsimp only [bind, Except.bind]
    rw [converted]

theorem timestamp_takes_value : TakesValue readTimestamp := by
  intro text timestamp rest read
  obtain ⟨sinceEpoch, reading, _⟩ := read_timestamp_ok_iff.mp read
  exact span_takes_value _ _ reading

theorem field_takes_value (name : String) {reader : Reader α} (takes : TakesValue reader)
    (store : α → ρ → ρ) (record : ρ) : TakesValue ((field name reader store).read record) :=
  takes.map fun value => store value record

theorem memory_options_take_values : memorySchema.TakesValues := by
  intro field inside record
  rcases List.mem_cons.mp inside with rfl | inside
  · exact field_takes_value _ duration_takes_value _ _
  · obtain rfl := List.mem_singleton.mp inside
    exact field_takes_value _ word_takes_value.optional _ _

theorem tiered_options_take_values : tieredSchema.TakesValues := by
  intro field inside record
  simp only [tieredSchema, List.mem_cons, List.not_mem_nil, or_false] at inside
  rcases inside with rfl | rfl | rfl | rfl | rfl | rfl | rfl
  · exact field_takes_value _ flag_takes_value _ _
  · exact field_takes_value _ word_takes_value _ _
  · exact field_takes_value _ real_takes_value _ _
  · exact field_takes_value _ timestamp_takes_value.optional _ _
  · exact field_takes_value _ duration_takes_value.optional _ _
  · exact field_takes_value _ duration_takes_value.optional _ _
  · exact field_takes_value _ flag_takes_value _ _

end TokenPersistence.Config
