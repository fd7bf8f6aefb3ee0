import TokenPersistence.Proofs.Config.Amounts

/-!
# Options and the texts that describe them

A text describes options if it is an object that gives every field that differs from the
standard options, each field at most once and with a text of its value, in any order and
among members of any other names. Such a text is read back as those options. A text that
gives a field twice is refused.
-/

namespace TokenPersistence.Config

set_option autoImplicit false

variable {α ρ : Type}

/-- A field of a record with the texts of its values. -/
structure Slot (ρ : Type) where
  name : String
  {Value : Type}
  value : ρ → Value
  Spells : Value → List Char → Prop

/-- A field is given a text of its value, and any other name any well-formed value. -/
def Gives (slots : List (Slot ρ)) (options : ρ) (name : String) (text : List Char) : Prop :=
  (∃ slot ∈ slots, slot.name = name ∧ slot.Spells (slot.value options) text) ∨
    (∀ slot ∈ slots, slot.name ≠ name) ∧ Spelled .value text

/-- The names are those of fields that may describe the options: none is there twice, and every
field that is left out has its standard value. -/
structure Covers (slots : List (Slot ρ)) (standard options : ρ) (names : List String) : Prop where
  single : ∀ slot ∈ slots, names.count slot.name ≤ 1
  standardElsewhere : ∀ slot ∈ slots, slot.name ∉ names → slot.value options = slot.value standard

/-- An object with members of these names, with blanks around it. -/
def IsDocument (Gives : String → List Char → Prop) (names : List String) (text : String) : Prop :=
  ∃ before object after, text.toList = before ++ (object ++ after) ∧ Blank before ∧ Blank after ∧
    IsObject Gives names object

theorem document_without_blanks {Gives : String → List Char → Prop} {names : List String}
    {object : List Char} (listed : IsObject Gives names object) {text : String}
    (same : text.toList = object) : IsDocument Gives names text := by
  refine ⟨[], object, [], ?_, blank_nil, blank_nil, listed⟩
  rw [same, List.nil_append, List.append_nil]

def memorySlots : List (Slot MemoryOptions) :=
  [⟨"absolute_expiration_relative_to_now", (·.expiration), SpellsDuration⟩,
    ⟨"size_limit_bytes", (·.sizeLimit), SpellsOptional SpellsWord⟩]

/-- The share is written only if it is the whole. -/
def SpellsShare (share : Binary64) (text : List Char) : Prop :=
  share = Binary64.one ∧ SpellsOne text

/-- The fields that can be configured; a retry predicate is none of them. -/
def tieredSlots : List (Slot TieredOptions) :=
  [⟨"disable_l1_cache", (·.l1Disabled), SpellsFlag⟩,
    ⟨"l1_size_limit_bytes", (·.l1SizeLimit), SpellsWord⟩,
    ⟨"l1_expiration_time_ratio", (·.l1Share), SpellsShare⟩,
    ⟨"absolute_expiration", (·.absolute), SpellsOptional SpellsTimestamp⟩,
    ⟨"absolute_expiration_relative_to_now", (·.relative), SpellsOptional SpellsDuration⟩,
    ⟨"sliding_expiration", (·.sliding), SpellsOptional SpellsDuration⟩,
    ⟨"enable_async_l2_write", (·.asyncWrites), SpellsFlag⟩]

/-! ## Whole documents -/

theorem read_whole_of_reads {reader : Reader α} {object before after : List Char} {value : α}
    (reads : Reads reader object value) (blankBefore : Blank before) (blankAfter : Blank after)
    {text : String} (parts : text.toList = before ++ (object ++ after)) :
    readWhole reader text = .ok value := by
  have ends : Ends after := by
    have last := ends_append blankAfter ends_nil
    rwa [List.append_nil] at last
  have nothing : skipBlanks after = [] := by
    have skipped := skip_blanks_append blankAfter []
    rwa [List.append_nil] at skipped
  unfold readWhole
  rw [parts, reads blankBefore ends]
  dsimp only [bind, Except.bind]
  rw [nothing]

theorem reads_field {name : String} {reader : Reader α} {store : α → ρ → ρ} {found : Field ρ}
    (known : some (field name reader store) = some found) {text : List Char} {value : α}
    (reads : Reads reader text value) {record later : ρ} (stored : store value record = later) :
    Reads (found.read record) text later := by
  rw [← Option.some.inj known, ← stored]
  exact reads.map fun value => store value record

theorem span_visible {secondsName nanosName : String} {total : Nat} {text : List Char}
    (spelled : SpellsSpan secondsName nanosName total text) : Visible text := by
  obtain ⟨_, _, _, _, _, _, _, listed⟩ := spelled
  cases listed with
  | empty => exact ⟨'{', _, rfl, rfl, by decide⟩
  | filled => exact ⟨'{', _, rfl, rfl, by decide⟩

theorem reads_optional_duration {duration : Option Duration} {text : List Char}
    (spelled : SpellsOptional SpellsDuration duration text) :
    Reads (readOptional readDuration) text duration :=
  reads_optional (fun _ _ spelled => ⟨reads_duration spelled, span_visible spelled⟩) spelled

theorem reads_optional_timestamp {timestamp : Option Timestamp} {text : List Char}
    (spelled : SpellsOptional SpellsTimestamp timestamp text) :
    Reads (readOptional readTimestamp) text timestamp :=
  reads_optional (fun _ _ spelled => ⟨reads_timestamp spelled, by
    obtain ⟨_, _, spelled⟩ := spelled
    exact span_visible spelled⟩) spelled

theorem reads_optional_word {word : Option UInt64} {text : List Char}
    (spelled : SpellsOptional SpellsWord word text) :
    Reads (readOptional readWord64) text word :=
  reads_optional (fun _ _ spelled => ⟨reads_word spelled, natural_visible spelled⟩) spelled

/-! ## The options -/

/-- The standard options with those values of `options` whose names were met. -/
def memoryProgress (options : MemoryOptions) (seen : List String) : MemoryOptions where
  expiration :=
    if "absolute_expiration_relative_to_now" ∈ seen then options.expiration
    else MemoryOptions.standard.expiration
  sizeLimit :=
    if "size_limit_bytes" ∈ seen then options.sizeLimit else MemoryOptions.standard.sizeLimit

def tieredProgress (options : TieredOptions) (seen : List String) : TieredOptions where
  l1Disabled :=
    if "disable_l1_cache" ∈ seen then options.l1Disabled else TieredOptions.standard.l1Disabled
  l1SizeLimit :=
    if "l1_size_limit_bytes" ∈ seen then options.l1SizeLimit
    else TieredOptions.standard.l1SizeLimit
  l1Share :=
    if "l1_expiration_time_ratio" ∈ seen then options.l1Share else TieredOptions.standard.l1Share
  absolute :=
    if "absolute_expiration" ∈ seen then options.absolute else TieredOptions.standard.absolute
  relative :=
    if "absolute_expiration_relative_to_now" ∈ seen then options.relative
    else TieredOptions.standard.relative
  sliding :=
    if "sliding_expiration" ∈ seen then options.sliding else TieredOptions.standard.sliding
  asyncWrites :=
    if "enable_async_l2_write" ∈ seen then options.asyncWrites
    else TieredOptions.standard.asyncWrites

section Slots

variable {schema : Schema ρ} {slots : List (Slot ρ)}

theorem knows_iff_slot (same : slots.map (·.name) = schema.fields.map (·.name)) (name : String) :
    schema.knows name = true ↔ ∃ slot ∈ slots, slot.name = name := by
  have among : schema.knows name = true ↔ name ∈ schema.fields.map (·.name) := by
    simp [Schema.knows, Schema.field?]
  rw [among, ← same, List.mem_map]

theorem progresses_of_slots (same : slots.map (·.name) = schema.fields.map (·.name))
    (tolerant : schema.isOpen = true) {options : ρ} {progress : List String → ρ}
    (reads : ∀ slot ∈ slots, ∀ {field : Field ρ} {seen : List String} {text : List Char},
      schema.field? slot.name = some field → slot.Spells (slot.value options) text →
        Reads (field.read (progress seen)) text (progress (slot.name :: seen))) :
    Progresses schema (Gives slots options) progress where
  known := by
    intro seen name value field given known _
    rcases given with ⟨slot, inside, rfl, spelled⟩ | ⟨other, _⟩
    · exact reads slot inside known spelled
    · have knows : schema.knows name = true := by simp [Schema.knows, known]
      obtain ⟨slot, inside, named⟩ := (knows_iff_slot same name).mp knows
      exact absurd named (other slot inside)
  unknown := by
    intro name value given unknown
    refine ⟨tolerant, ?_⟩
    rcases given with ⟨slot, inside, named, _⟩ | ⟨_, spelled⟩
    · have knows := (knows_iff_slot same name).mpr ⟨slot, inside, named⟩
      simp [Schema.knows, unknown] at knows
    · exact spelled

theorem known_once (same : slots.map (·.name) = schema.fields.map (·.name)) (names : List String) :
    (names.filter schema.knows).Nodup ↔ ∀ slot ∈ slots, names.count slot.name ≤ 1 := by
  rw [List.nodup_iff_count]
  constructor
  · intro once slot inside
    have knows := (knows_iff_slot same slot.name).mpr ⟨slot, inside, rfl⟩
    rw [← List.count_filter knows]
    exact once slot.name
  · intro single name
    cases knows : schema.knows name with
    | true =>
        obtain ⟨slot, inside, rfl⟩ := (knows_iff_slot same name).mp knows
        rw [List.count_filter knows]
        exact single slot inside
    | false =>
        have absent : name ∉ names.filter schema.knows := by simp [knows]
        rw [List.count_eq_zero_of_not_mem absent]
        exact Nat.zero_le 1

theorem value_after (same : slots.map (·.name) = schema.fields.map (·.name)) {standard options : ρ}
    {names : List String} (covers : Covers slots standard options names) {slot : Slot ρ}
    (inside : slot ∈ slots) :
    (if slot.name ∈ schema.seenAfter [] names then slot.value options else slot.value standard) =
      slot.value options := by
  have knows := (knows_iff_slot same slot.name).mpr ⟨slot, inside, rfl⟩
  split
  · rfl
  · next unmet =>
      refine (covers.standardElsewhere slot inside fun met => unmet ?_).symm
      exact (mem_seen_after names [] slot.name).mpr (Or.inr ⟨knows, met⟩)

/-- A document whose members are read step by step towards the options is read as them. -/
theorem document_read (same : slots.map (·.name) = schema.fields.map (·.name))
    {standard options : ρ} {progress : List String → ρ}
    (progresses : Progresses schema (Gives slots options) progress)
    (start : progress [] = standard) {names : List String}
    (covers : Covers slots standard options names)
    (finish : progress (schema.seenAfter [] names) = options) {text : String}
    (document : IsDocument (Gives slots options) names text) :
    readWhole (readRecord schema standard .ok) text = .ok options := by
  obtain ⟨before, object, after, parts, blankBefore, blankAfter, listed⟩ := document
  have single := (known_once same names).mpr covers.single
  rw [← start]
  exact read_whole_of_reads (progresses.object listed single (congrArg _ finish)) blankBefore
    blankAfter parts

theorem document_refused (same : slots.map (·.name) = schema.fields.map (·.name))
    (takes : schema.TakesValues) (tolerant : schema.isOpen = true) (standard : ρ)
    {names : List String} {text : String} (document : IsDocument AnyValue names text)
    {slot : Slot ρ} (inside : slot ∈ slots) (twice : 2 ≤ names.count slot.name) :
    ∃ problem, readWhole (readRecord schema standard .ok) text = .error problem := by
  obtain ⟨before, object, after, parts, blankBefore, _, listed⟩ := document
  have repeated : ¬ (names.filter schema.knows).Nodup := by
    intro once
    have single := (known_once same names).mp once slot inside
    omega
  obtain ⟨problem, refused⟩ :=
    repeated_name_refused takes tolerant listed repeated blankBefore standard .ok after
  refine ⟨problem, ?_⟩
  unfold readWhole
  rw [parts, refused]
  rfl

theorem exists_document {options : ρ}
    (spelled : ∀ slot ∈ slots, ∃ text, slot.Spells (slot.value options) text)
    (names : List String) : ∃ text, IsDocument (Gives slots options) names text := by
  have given : ∀ name ∈ names, ∃ text, Gives slots options name text := by
    intro name _
    by_cases known : ∃ slot ∈ slots, slot.name = name
    · obtain ⟨slot, inside, named⟩ := known
      obtain ⟨text, spelled⟩ := spelled slot inside
      exact ⟨text, Or.inl ⟨slot, inside, named, spelled⟩⟩
    · exact ⟨_, Or.inr ⟨fun slot inside named => known ⟨slot, inside, named⟩, .null⟩⟩
  obtain ⟨object, listed⟩ := exists_object names given
  exact ⟨String.ofList object, document_without_blanks listed String.toList_ofList⟩

end Slots

theorem memory_progresses (options : MemoryOptions) :
    Progresses memorySchema (Gives memorySlots options) (memoryProgress options) := by
  apply progresses_of_slots rfl rfl
  intro slot inside field seen text known spelled
  simp only [memorySlots, List.mem_cons, List.not_mem_nil, or_false] at inside
  rcases inside with rfl | rfl
  · apply reads_field known (reads_duration spelled)
    simp [memoryProgress]
  · apply reads_field known (reads_optional_word spelled)
    simp [memoryProgress]

theorem memory_progress_all {options : MemoryOptions} {names : List String}
    (covers : Covers memorySlots MemoryOptions.standard options names) :
    memoryProgress options (memorySchema.seenAfter [] names) = options := by
  have value (index : Nat) (inside : index < memorySlots.length) :
      (if memorySlots[index].name ∈ memorySchema.seenAfter [] names
        then memorySlots[index].value options
        else memorySlots[index].value MemoryOptions.standard) = memorySlots[index].value options :=
    value_after rfl covers (List.getElem_mem inside)
  unfold memoryProgress
  congr 1
  · exact value 0 (by decide)
  · exact value 1 (by decide)

theorem tiered_progresses (options : TieredOptions) :
    Progresses tieredSchema (Gives tieredSlots options) (tieredProgress options) := by
  apply progresses_of_slots rfl rfl
  intro slot inside field seen text known spelled
  simp only [tieredSlots, List.mem_cons, List.not_mem_nil, or_false] at inside
  rcases inside with rfl | rfl | rfl | rfl | rfl | rfl | rfl
  · apply reads_field known (reads_flag spelled)
    simp [tieredProgress]
  · apply reads_field known (reads_word spelled)
    simp [tieredProgress]
  · obtain ⟨whole, spelled⟩ := spelled
    apply reads_field known (reads_one spelled)
    simp [tieredProgress, show options.l1Share = Binary64.one from whole]
  · apply reads_field known (reads_optional_timestamp spelled)
    simp [tieredProgress]
  · apply reads_field known (reads_optional_duration spelled)
    simp [tieredProgress]
  · apply reads_field known (reads_optional_duration spelled)
    simp [tieredProgress]
  · apply reads_field known (reads_flag spelled)
    simp [tieredProgress]

theorem tiered_progress_all {options : TieredOptions} {names : List String}
    (covers : Covers tieredSlots TieredOptions.standard options names) :
    tieredProgress options (tieredSchema.seenAfter [] names) = options := by
  have value (index : Nat) (inside : index < tieredSlots.length) :
      (if tieredSlots[index].name ∈ tieredSchema.seenAfter [] names
        then tieredSlots[index].value options
        else tieredSlots[index].value TieredOptions.standard) = tieredSlots[index].value options :=
    value_after rfl covers (List.getElem_mem inside)
  unfold tieredProgress
  congr 1
  · exact value 0 (by decide)
  · exact value 1 (by decide)
  · exact value 2 (by decide)
  · exact value 3 (by decide)
  · exact value 4 (by decide)
  · exact value 5 (by decide)
  · exact value 6 (by decide)

theorem memory_values_spelled (options : MemoryOptions) :
    ∀ slot ∈ memorySlots, ∃ text, slot.Spells (slot.value options) text := by
  intro slot inside
  simp only [memorySlots, List.mem_cons, List.not_mem_nil, or_false] at inside
  rcases inside with rfl | rfl
  · exact exists_duration options.expiration
  · exact exists_optional fun limit _ => exists_natural limit.toNat

theorem tiered_values_spelled {options : TieredOptions}
    (whole : options.l1Share = Binary64.one)
    (sinceEpoch : ∀ absolute ∈ options.absolute, 0 ≤ absolute.nanos) :
    ∀ slot ∈ tieredSlots, ∃ text, slot.Spells (slot.value options) text := by
  intro slot inside
  simp only [tieredSlots, List.mem_cons, List.not_mem_nil, or_false] at inside
  rcases inside with rfl | rfl | rfl | rfl | rfl | rfl | rfl
  · exact exists_flag options.l1Disabled
  · exact exists_natural options.l1SizeLimit.toNat
  · exact ⟨['1'], whole, [], [], rfl, Or.inl rfl, Or.inl rfl⟩
  · exact exists_optional fun absolute present =>
      exists_timestamp (sinceEpoch absolute present)
  · exact exists_optional fun relative _ => exists_duration relative
  · exact exists_optional fun sliding _ => exists_duration sliding
  · exact exists_flag options.asyncWrites

/-- For any names that cover the options there is a document with members of these names, in
this order, that gives the values of the options; and every such document, whatever its blanks
and its other members, is read as those options. A document that gives a field of the options
twice is refused. -/
theorem configuration_text_round_trips :
    (∀ (options : MemoryOptions) (names : List String),
      Covers memorySlots MemoryOptions.standard options names →
        (∃ text, IsDocument (Gives memorySlots options) names text) ∧
        ∀ text, IsDocument (Gives memorySlots options) names text →
          memoryOptions text = .ok options) ∧
    (∀ (options : TieredOptions) (names : List String),
      options.l1Share = Binary64.one →
      (∀ absolute ∈ options.absolute, 0 ≤ absolute.nanos) →
      Covers tieredSlots TieredOptions.standard options names →
        (∃ text, IsDocument (Gives tieredSlots options) names text) ∧
        ∀ text, IsDocument (Gives tieredSlots options) names text →
          tieredOptions text = .ok options) ∧
    ∀ (names : List String) (text : String), IsDocument AnyValue names text →
      ((∃ slot ∈ memorySlots, 2 ≤ names.count slot.name) →
        ∃ problem, memoryOptions text = .error problem) ∧
      ((∃ slot ∈ tieredSlots, 2 ≤ names.count slot.name) →
        ∃ problem, tieredOptions text = .error problem) := by
  refine ⟨?_, ?_, ?_⟩
  · intro options names covers
    refine ⟨exists_document (memory_values_spelled options) names, ?_⟩
    intro text document
    exact document_read rfl (memory_progresses options) (by simp [memoryProgress]) covers
      (memory_progress_all covers) document
  · intro options names whole sinceEpoch covers
    refine ⟨exists_document (tiered_values_spelled whole sinceEpoch) names, ?_⟩
    intro text document
    exact document_read rfl (tiered_progresses options) (by simp [tieredProgress]) covers
      (tiered_progress_all covers) document
  · intro names text document
    refine ⟨?_, ?_⟩
    · rintro ⟨slot, inside, twice⟩
      exact document_refused rfl memory_options_take_values rfl _ document inside twice
    · rintro ⟨slot, inside, twice⟩
      exact document_refused rfl tiered_options_take_values rfl _ document inside twice

theorem digit_spells_natural {digit : Char} (digital : isDigit digit = true) :
    SpellsNatural (digitValue digit) [digit] := by
  refine ⟨?_, by simp [Nat.ofDigitChars_cons, digitValue]⟩
  by_cases zero : digit = '0'
  · exact Or.inl (by rw [zero])
  · exact Or.inr ⟨digit, [], rfl, zero, List.forall_mem_singleton.mpr digital⟩

/-- A document with an unknown member, one with a nested object, and one that gives a field
twice. -/
theorem short_documents_round_trip :
    memoryOptions "\x7b\"note\":[],\"size_limit_bytes\":7\x7d" =
        .ok { MemoryOptions.standard with sizeLimit := some 7 } ∧
      tieredOptions "\x7b\"sliding_expiration\":\x7b\"nanos\":5,\"secs\":0\x7d\x7d" =
        .ok { TieredOptions.standard with sliding := some ⟨5, by decide⟩ } ∧
      ∃ problem, memoryOptions "\x7b\"size_limit_bytes\":7,\"size_limit_bytes\":8\x7d" =
        .error problem := by
  obtain ⟨memory, tiered, twice⟩ := configuration_text_round_trips
  have member {Gives : String → List Char → Prop} (name : String) (value : List Char)
      (plain : ∀ character ∈ name.toList,
        character ≠ '"' ∧ character ≠ '\\' ∧ 0x20 ≤ character.toNat) (given : Gives name value) :
      IsMember Gives name ('"' :: (name.toList ++ '"' :: ':' :: value)) :=
    member_without_blanks (writes_plain plain) given
  have seven : SpellsNatural 7 ['7'] := digit_spells_natural rfl
  refine ⟨?_, ?_, ?_⟩
  · let options : MemoryOptions := { MemoryOptions.standard with sizeLimit := some 7 }
    have note : IsMember (Gives memorySlots options) "note" _ :=
      member "note" ['[', ']'] (by simp) (Or.inr ⟨by simp [memorySlots], .emptyList blank_nil⟩)
    have limit : IsMember (Gives memorySlots options) "size_limit_bytes" _ :=
      member "size_limit_bytes" ['7'] (by simp)
        (Or.inl ⟨memorySlots[1], List.getElem_mem (by decide), rfl, seven⟩)
    apply (memory options _ ⟨?_, ?_⟩).2 _
      (document_without_blanks (.filled (.more note (.last limit))) rfl)
    · simp [memorySlots]
    · simp [memorySlots, options]
  · let options : TieredOptions := { TieredOptions.standard with sliding := some ⟨5, by decide⟩ }
    have nanos : IsMember (GivesSpan "secs" "nanos" 0 5) "nanos" _ :=
      member "nanos" ['5'] (by simp) (Or.inr ⟨rfl, digit_spells_natural rfl⟩)
    have seconds : IsMember (GivesSpan "secs" "nanos" 0 5) "secs" _ :=
      member "secs" ['0'] (by simp) (Or.inl ⟨rfl, digit_spells_natural rfl⟩)
    have span : SpellsSpan "secs" "nanos" 5 _ :=
      ⟨0, 5, _, by decide, by decide, rfl, List.Perm.swap _ _ _,
        .filled (.more nanos (.last seconds))⟩
    have sliding : IsMember (Gives tieredSlots options) "sliding_expiration" _ :=
      member "sliding_expiration" _ (by simp)
        (Or.inl ⟨tieredSlots[5], List.getElem_mem (by decide), rfl, span⟩)
    apply (tiered options _ rfl ?_ ⟨?_, ?_⟩).2 _
      (document_without_blanks (.filled (.last sliding)) rfl)
    · intro absolute present
      cases present
    · simp [tieredSlots]
    · simp [tieredSlots, options]
  · have seven : Spelled .value ['7'] :=
      .number ⟨[], ['7'], [], [], rfl, Or.inl rfl, seven.1, Or.inl rfl, Or.inl rfl⟩
    have eight : Spelled .value ['8'] :=
      .number ⟨[], ['8'], [], [], rfl, Or.inl rfl,
        (digit_spells_natural (rfl : isDigit '8' = true)).1, Or.inl rfl, Or.inl rfl⟩
    have first : IsMember AnyValue "size_limit_bytes" _ :=
      member "size_limit_bytes" ['7'] (by simp) seven
    have second : IsMember AnyValue "size_limit_bytes" _ :=
      member "size_limit_bytes" ['8'] (by simp) eight
    apply (twice _ _ (document_without_blanks (.filled (.more first (.last second))) rfl)).1
    exact ⟨memorySlots[1], List.getElem_mem (by decide), by decide⟩

end TokenPersistence.Config
