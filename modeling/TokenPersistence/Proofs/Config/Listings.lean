import TokenPersistence.Proofs.Config.Spellings
import TokenPersistence.Proofs.Config.Takes

/-!
# Members of an object

An object lists members in some order, with blanks wherever they mean nothing. A record is
read off it member by member: each known name must be new, and what has been read so far
depends on the names that were met and on nothing else.
-/

namespace TokenPersistence.Config

set_option autoImplicit false

variable {α ρ : Type}

/-- The text of one member: a name in quotes, a colon and the text that is given for it. -/
inductive IsMember (Gives : String → List Char → Prop) : String → List Char → Prop where
  | intro {name : String} {before body between space value after : List Char} :
      Blank before → Writes body name.toList → Blank between → Blank space → Gives name value →
      Blank after →
      IsMember Gives name
        (before ++ '"' :: (body ++ '"' :: (between ++ ':' :: (space ++ (value ++ after)))))

/-- The text of the members of these names, in this order. -/
inductive Lists (Gives : String → List Char → Prop) : List String → List Char → Prop where
  | last {name : String} {member : List Char} :
      IsMember Gives name member → Lists Gives [name] member
  | more {name : String} {names : List String} {member members : List Char} :
      IsMember Gives name member → Lists Gives names members →
      Lists Gives (name :: names) (member ++ ',' :: members)

/-- The text of an object with members of these names, in this order. -/
inductive IsObject (Gives : String → List Char → Prop) : List String → List Char → Prop where
  | empty {space : List Char} : Blank space → IsObject Gives [] ('{' :: (space ++ ['}']))
  | filled {names : List String} {members : List Char} :
      Lists Gives names members → IsObject Gives names ('{' :: (members ++ ['}']))

theorem member_without_blanks {Gives : String → List Char → Prop} {name : String}
    {body value : List Char} (written : Writes body name.toList) (given : Gives name value) :
    IsMember Gives name ('"' :: (body ++ '"' :: ':' :: value)) := by
  have member := IsMember.intro blank_nil written blank_nil blank_nil given blank_nil
  rwa [List.append_nil] at member

theorem exists_object {Gives : String → List Char → Prop} (names : List String)
    (given : ∀ name ∈ names, ∃ value, Gives name value) :
    ∃ object, IsObject Gives names object := by
  have listed (first : String) (names : List String)
      (given : ∀ name ∈ first :: names, ∃ value, Gives name value) :
      ∃ members, Lists Gives (first :: names) members := by
    induction names generalizing first with
    | nil =>
        obtain ⟨value, here⟩ := given first List.mem_cons_self
        obtain ⟨body, written⟩ := exists_writes first.toList
        exact ⟨_, .last (member_without_blanks written here)⟩
    | cons second names ih =>
        obtain ⟨value, here⟩ := given first List.mem_cons_self
        obtain ⟨body, written⟩ := exists_writes first.toList
        obtain ⟨members, onward⟩ :=
          ih second fun name inside => given name (List.mem_cons_of_mem _ inside)
        exact ⟨_, .more (member_without_blanks written here) onward⟩
  cases names with
  | nil => exact ⟨_, .empty blank_nil⟩
  | cons first names =>
      obtain ⟨members, listed⟩ := listed first names given
      exact ⟨_, .filled listed⟩

def Schema.field? (schema : Schema ρ) (name : String) : Option (Field ρ) :=
  schema.fields.find? fun field => field.name == name

def Schema.knows (schema : Schema ρ) (name : String) : Bool := (schema.field? name).isSome

def lead (isFirst : Bool) : List Char := if isFirst then [] else [',']

variable {schema : Schema ρ} {Gives : String → List Char → Prop} {isFirst : Bool}

theorem next_key_lead {before : List Char} (blank : Blank before) (rest : List Char) :
    nextKey isFirst (lead isFirst ++ (before ++ '"' :: rest)) = .ok (some rest) := by
  unfold nextKey
  cases isFirst with
  | true =>
      rw [show lead true = [] from rfl, List.nil_append, skip_blanks_visible blank rfl]
      rfl
  | false =>
      have comma : skipBlanks (lead false ++ (before ++ '"' :: rest)) =
          ',' :: (before ++ '"' :: rest) := rfl
      have quote : skipBlanks (before ++ '"' :: rest) = '"' :: rest :=
        skip_blanks_visible blank rfl rest
      simp [comma, quote]

theorem read_colon {between : List Char} (blank : Blank between) (rest : List Char) :
    readColon (between ++ ':' :: rest) = .ok rest := by
  unfold readColon
  rw [skip_blanks_visible blank rfl]
  rfl

theorem read_known_member {name : String} {field : Field ρ}
    (known : schema.field? name = some field) {before body between : List Char}
    (blankBefore : Blank before) (written : Writes body name.toList)
    (blankBetween : Blank between) {fuel : Nat} {seen : List String} {record : ρ}
    (text : List Char) :
    readMembers schema (fuel + 1) isFirst seen record
        (lead isFirst ++ (before ++ '"' :: (body ++ '"' :: (between ++ ':' :: text)))) =
      if seen.contains name then .error .data
      else field.read record text >>= fun reading =>
        readMembers schema fuel false (name :: seen) reading.1 reading.2 := by
  rw [readMembers, next_key_lead blankBefore]
  change (readQuoted (body ++ '"' :: (between ++ ':' :: text)) >>= fun reading => _) = _
  rw [read_quoted written]
  unfold Schema.field? at known
  dsimp only [bind, Except.bind]
  rw [known, read_colon blankBetween]

theorem read_unknown_member {name : String} (unknown : schema.field? name = none)
    (tolerant : schema.isOpen = true) {before body between : List Char}
    (blankBefore : Blank before) (written : Writes body name.toList)
    (blankBetween : Blank between) {fuel : Nat} {seen : List String} {record : ρ}
    (text : List Char) :
    readMembers schema (fuel + 1) isFirst seen record
        (lead isFirst ++ (before ++ '"' :: (body ++ '"' :: (between ++ ':' :: text)))) =
      skipValue text >>= readMembers schema fuel false seen record := by
  rw [readMembers, next_key_lead blankBefore]
  change (readQuoted (body ++ '"' :: (between ++ ':' :: text)) >>= fun reading => _) = _
  rw [read_quoted written]
  unfold Schema.field? at unknown
  dsimp only [bind, Except.bind]
  rw [unknown, tolerant, read_colon blankBetween]
  rfl

theorem read_members_blanks {space : List Char} (blank : Blank space) (fuel : Nat)
    (seen : List String) (record : ρ) (text : List Char) :
    readMembers schema fuel isFirst seen record (space ++ text) =
      readMembers schema fuel isFirst seen record text := by
  cases fuel with
  | zero => rfl
  | succ fuel =>
      have sameKey : nextKey isFirst (space ++ text) = nextKey isFirst text := by
        unfold nextKey
        rw [skip_blanks_append blank]
      rw [readMembers, readMembers, sameKey, skip_blanks_append blank]

theorem read_members_end {fuel : Nat} {seen : List String} {record : ρ} (rest : List Char) :
    readMembers schema (fuel + 1) isFirst seen record ('}' :: rest) = .ok (record, '}' :: rest) :=
  rfl

/-- The known names among those that were met, the last one first. -/
def Schema.seenAfter (schema : Schema ρ) : List String → List String → List String
  | seen, [] => seen
  | seen, name :: names =>
      schema.seenAfter (if schema.knows name then name :: seen else seen) names

theorem mem_seen_after (names seen : List String) (name : String) :
    name ∈ schema.seenAfter seen names ↔ name ∈ seen ∨ schema.knows name = true ∧ name ∈ names := by
  induction names generalizing seen with
  | nil => simp [Schema.seenAfter]
  | cons first names ih =>
      rw [Schema.seenAfter, ih]
      cases known : schema.knows first with
      | true =>
          by_cases same : name = first
          · subst same
            simp [known]
          · simp [same]
      | false =>
          by_cases same : name = first
          · subst same
            simp [known]
          · simp [same]

/-- What has been read of a record depends on the names that were met: a field that is given
adds its name, and what stands under other names is well-formed. -/
structure Progresses (schema : Schema ρ) (Gives : String → List Char → Prop)
    (progress : List String → ρ) : Prop where
  known : ∀ {seen : List String} {name : String} {value : List Char} {field : Field ρ},
    Gives name value → schema.field? name = some field → name ∉ seen →
      Reads (field.read (progress seen)) value (progress (name :: seen))
  unknown : ∀ {name : String} {value : List Char}, Gives name value →
    schema.field? name = none → schema.isOpen = true ∧ Spelled .value value

variable {progress : List String → ρ}

theorem Progresses.member (progresses : Progresses schema Gives progress) {name : String}
    {member : List Char} (given : IsMember Gives name member) {seen : List String}
    (fresh : schema.knows name = true → name ∉ seen) {rest : List Char} (ends : Ends rest)
    (fuel : Nat) :
    readMembers schema (fuel + 1) isFirst seen (progress seen)
        (lead isFirst ++ (member ++ rest)) =
      readMembers schema fuel false (schema.seenAfter seen [name])
        (progress (schema.seenAfter seen [name])) rest := by
  obtain ⟨blankBefore, written, blankBetween, blankSpace, value, blankAfter⟩ := given
  simp only [List.append_assoc, List.cons_append]
  rw [Schema.seenAfter, Schema.seenAfter]
  cases known : schema.field? name with
  | some field =>
      have knows : schema.knows name = true := by simp [Schema.knows, known]
      have new : seen.contains name = false := by simpa using fresh knows
      rw [read_known_member known blankBefore written blankBetween, new,
        progresses.known value known (fresh knows) blankSpace (ends_append blankAfter ends), knows]
      exact read_members_blanks blankAfter fuel _ _ rest
  | none =>
      have unknown : schema.knows name = false := by simp [Schema.knows, known]
      obtain ⟨tolerant, spelled⟩ := progresses.unknown value known
      rw [read_unknown_member known tolerant blankBefore written blankBetween,
        skip_value_spelled blankSpace spelled (ends_append blankAfter ends), unknown]
      exact read_members_blanks blankAfter fuel _ _ rest

theorem fresh_onward {name : String} {names seen : List String}
    (single : ((name :: names).filter schema.knows).Nodup)
    (fresh : ∀ other ∈ name :: names, schema.knows other = true → other ∉ seen) :
    (names.filter schema.knows).Nodup ∧
      ∀ other ∈ names, schema.knows other = true → other ∉ schema.seenAfter seen [name] := by
  have rest : (names.filter schema.knows).Nodup := by
    rw [List.filter_cons] at single
    split at single
    · exact (List.nodup_cons.mp single).2
    · exact single
  refine ⟨rest, ?_⟩
  intro other inside known met
  rcases (mem_seen_after [name] seen other).mp met with before | ⟨_, now⟩
  · exact fresh other (List.mem_cons_of_mem _ inside) known before
  · obtain rfl := List.mem_singleton.mp now
    rw [List.filter_cons, if_pos known] at single
    exact (List.nodup_cons.mp single).1 (List.mem_filter.mpr ⟨inside, known⟩)

theorem Progresses.members (progresses : Progresses schema Gives progress)
    {names : List String} {members : List Char} (listed : Lists Gives names members)
    (single : (names.filter schema.knows).Nodup) {seen : List String}
    (fresh : ∀ name ∈ names, schema.knows name = true → name ∉ seen) (rest : List Char)
    {fuel : Nat} (enough : names.length < fuel) :
    readMembers schema fuel isFirst seen (progress seen)
        (lead isFirst ++ (members ++ '}' :: rest)) =
      .ok (progress (schema.seenAfter seen names), '}' :: rest) := by
  induction listed generalizing isFirst seen fuel with
  | @last name member given =>
      obtain ⟨fuel, rfl⟩ := Nat.exists_eq_add_of_le' (show 2 ≤ fuel from enough)
      rw [progresses.member given (fresh name List.mem_cons_self) (ends_brace rest)]
      exact read_members_end rest
  | @more name names member members given _ ih =>
      obtain ⟨onceOnward, freshOnward⟩ := fresh_onward single fresh
      obtain ⟨fuel, rfl⟩ := Nat.exists_eq_succ_of_ne_zero (Nat.ne_zero_of_lt enough)
      rw [List.append_assoc, List.cons_append,
        progresses.member given (fresh name List.mem_cons_self) (ends_comma _)]
      exact ih onceOnward freshOnward (Nat.lt_of_succ_lt_succ enough)

theorem length_of_lists {names : List String} {members : List Char}
    (listed : Lists Gives names members) : names.length ≤ members.length := by
  induction listed with
  | last given =>
      obtain ⟨_, _, _, _, _, _⟩ := given
      simp only [List.length_append, List.length_cons, List.length_nil]
      omega
  | more _ _ ih =>
      simp only [List.length_append, List.length_cons]
      omega

theorem read_record_object {space : List Char} (blank : Blank space) (initial : ρ)
    (finish : ρ → Except Problem α) (text : List Char) :
    readRecord schema initial finish (space ++ '{' :: text) =
      readMembers schema (text.length + 1) true [] initial text >>= fun reading =>
        finish reading.1 >>= fun value =>
          readClosing '}' reading.2 >>= fun rest => .ok (value, rest) := by
  unfold readRecord
  rw [skip_blanks_visible blank rfl]
  rfl

/-- A record is read off an object that gives no known name twice. -/
theorem Progresses.object (progresses : Progresses schema Gives progress)
    {names : List String} {object : List Char} (listed : IsObject Gives names object)
    (single : (names.filter schema.knows).Nodup) {finish : ρ → Except Problem α} {result : α}
    (finished : finish (progress (schema.seenAfter [] names)) = .ok result) :
    Reads (readRecord schema (progress []) finish) object result := by
  intro space rest blank _
  have closed {text : List Char} (read : readMembers schema (text.length + 1) true []
      (progress []) text = .ok (progress (schema.seenAfter [] names), '}' :: rest)) :
      readRecord schema (progress []) finish (space ++ '{' :: text) = .ok (result, rest) := by
    rw [read_record_object blank, read]
    change finish _ >>= _ = _
    rw [finished]
    rfl
  cases listed with
  | empty blankInside =>
      rw [List.cons_append, List.append_assoc]
      apply closed
      rw [read_members_blanks blankInside]
      exact read_members_end rest
  | @filled _ members listed =>
      rw [List.cons_append, List.append_assoc]
      apply closed
      have bound := length_of_lists listed
      have enough : names.length < (members ++ '}' :: rest).length + 1 := by
        simp only [List.length_append]
        omega
      exact progresses.members listed single (fun _ _ _ => List.not_mem_nil) rest enough

/-! ## Names that are given twice -/

def AnyValue : String → List Char → Prop := fun _ => Spelled .value

theorem TakesValue.exact {reader : Reader α} (takes : TakesValue reader) {space value : List Char}
    (blank : Blank space) (spelled : Spelled .value value) {rest : List Char} (ends : Ends rest)
    {result : α × List Char} (read : reader (space ++ (value ++ rest)) = .ok result) :
    result.2 = rest := by
  have taken := takes read []
  have skipped : skipFrom .value [] (space ++ (value ++ rest)) = .ok rest :=
    skip_value_spelled blank spelled ends
  rw [skipped] at taken
  exact (Except.ok.inj taken).symm

theorem read_member_new (takes : schema.TakesValues) (tolerant : schema.isOpen = true)
    {name : String} {member : List Char} (given : IsMember AnyValue name member)
    {seen : List String} {record : ρ} {rest : List Char} (ends : Ends rest) {fuel : Nat}
    {result : ρ × List Char}
    (read : readMembers schema (fuel + 1) isFirst seen record
      (lead isFirst ++ (member ++ rest)) = .ok result) :
    (schema.knows name = true → name ∉ seen) ∧
      ∃ later, readMembers schema fuel false (schema.seenAfter seen [name]) later rest =
        .ok result := by
  obtain ⟨blankBefore, written, blankBetween, blankSpace, value, blankAfter⟩ := given
  have endsAfter := ends_append blankAfter ends
  simp only [List.append_assoc, List.cons_append] at read
  rw [Schema.seenAfter, Schema.seenAfter]
  cases known : schema.field? name with
  | some field =>
      have knows : schema.knows name = true := by simp [Schema.knows, known]
      rw [read_known_member known blankBefore written blankBetween] at read
      split at read
      · cases read
      · next new =>
          obtain ⟨⟨later, behind⟩, reading, read⟩ := ok_of_bind read
          have inside := List.mem_of_find?_eq_some known
          obtain rfl := (takes field inside record).exact blankSpace value endsAfter reading
          rw [read_members_blanks blankAfter] at read
          rw [if_pos knows]
          exact ⟨fun _ => (by simpa using new), later, read⟩
  | none =>
      have unknown : schema.knows name = false := by simp [Schema.knows, known]
      rw [read_unknown_member known tolerant blankBefore written blankBetween,
        skip_value_spelled blankSpace value endsAfter] at read
      change readMembers _ _ _ _ _ _ = _ at read
      rw [read_members_blanks blankAfter] at read
      rw [unknown]
      exact ⟨fun knows => (nomatch knows), record, read⟩

theorem read_members_single (takes : schema.TakesValues) (tolerant : schema.isOpen = true)
    {names : List String} {members : List Char} (listed : Lists AnyValue names members)
    {seen : List String} {record : ρ} {rest : List Char} {fuel : Nat} {result : ρ × List Char}
    (read : readMembers schema fuel isFirst seen record
      (lead isFirst ++ (members ++ '}' :: rest)) = .ok result) :
    (names.filter schema.knows).Nodup ∧
      ∀ name ∈ names, schema.knows name = true → name ∉ seen := by
  induction listed generalizing isFirst seen record fuel with
  | @last name member given =>
      cases fuel with
      | zero => cases read
      | succ fuel =>
          obtain ⟨new, _⟩ := read_member_new takes tolerant given (ends_brace rest) read
          refine ⟨List.Pairwise.filter _ (List.pairwise_singleton _ name), ?_⟩
          intro other inside
          rw [List.mem_singleton.mp inside]
          exact new
  | @more name names member members given _ ih =>
      cases fuel with
      | zero => cases read
      | succ fuel =>
          rw [List.append_assoc, List.cons_append] at read
          obtain ⟨new, later, read⟩ := read_member_new takes tolerant given (ends_comma _) read
          obtain ⟨single, fresh⟩ := ih read
          refine ⟨?_, ?_⟩
          · rw [List.filter_cons]
            split
            · next known =>
                refine List.nodup_cons.mpr ⟨?_, single⟩
                intro again
                obtain ⟨inside, _⟩ := List.mem_filter.mp again
                exact fresh name inside known
                  ((mem_seen_after [name] seen name).mpr (Or.inr ⟨known, List.mem_cons_self⟩))
            · exact single
          · intro other inside known met
            rcases List.mem_cons.mp inside with rfl | inside
            · exact new known met
            · exact fresh other inside known
                ((mem_seen_after [name] seen other).mpr (Or.inl met))

/-- An object that gives a known name twice is refused, whatever it gives for its names. -/
theorem repeated_name_refused (takes : schema.TakesValues) (tolerant : schema.isOpen = true)
    {names : List String} {object : List Char} (listed : IsObject AnyValue names object)
    (repeated : ¬ (names.filter schema.knows).Nodup) {space : List Char} (blank : Blank space)
    (initial : ρ) (finish : ρ → Except Problem α) (rest : List Char) :
    ∃ problem, readRecord schema initial finish (space ++ (object ++ rest)) = .error problem := by
  cases listed with
  | empty => exact absurd List.nodup_nil repeated
  | @filled _ members listed =>
      rw [List.cons_append, List.append_assoc, read_record_object blank]
      cases read : readMembers schema ((members ++ (['}'] ++ rest)).length + 1) true [] initial
          (members ++ (['}'] ++ rest)) with
      | error problem => exact ⟨problem, rfl⟩
      | ok result => exact absurd (read_members_single takes tolerant listed read).1 repeated

end TokenPersistence.Config
