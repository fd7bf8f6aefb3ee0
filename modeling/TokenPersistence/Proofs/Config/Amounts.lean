import TokenPersistence.Proofs.Config.Listings

/-!
# Durations, points in time and the whole share

Durations and points in time are objects of whole seconds and nanoseconds, in either order.
The whole share is the number one, with any number of zeros behind the decimal point or in
an exponent.
-/

namespace TokenPersistence.Config

set_option autoImplicit false

/-! ## The number one -/

def Zeros (text : List Char) : Prop := ∀ character ∈ text, character = '0'

/-- An exponent of zeros, if there is an exponent at all. -/
def ZeroExponent (text : List Char) : Prop :=
  text = [] ∨ ∃ mark sign zeros, text = mark :: (sign ++ zeros) ∧
    (mark = 'e' ∨ mark = 'E') ∧ (sign = [] ∨ sign = ['+'] ∨ sign = ['-']) ∧
    zeros ≠ [] ∧ Zeros zeros

def SpellsOne (text : List Char) : Prop :=
  ∃ fraction exponent, text = '1' :: (fraction ++ exponent) ∧
    (fraction = [] ∨ ∃ zeros, fraction = '.' :: zeros ∧ zeros ≠ [] ∧ Zeros zeros) ∧
    ZeroExponent exponent

theorem zeros_digits {text : List Char} (zeros : Zeros text) : Digits text := by
  intro character inside
  rw [zeros character inside]
  rfl

theorem gather_fraction_cons (significand : Nat) (digit : Char) (digits : List Char) :
    gatherFraction significand (digit :: digits) =
      match appendDigit? significand digit with
      | some longer => ((gatherFraction longer digits).1, (gatherFraction longer digits).2 + 1)
      | none => (significand, 0) :=
  (rfl)

theorem gather_fraction_zeros {zeros : List Char} (all : Zeros zeros) {power : Nat}
    (fits : power ≤ 19) :
    ∃ more, gatherFraction (Nat.pow 10 power) zeros = (Nat.pow 10 (power + more), more) ∧
      power + more ≤ 19 := by
  have appended : ∀ power < 19,
      appendDigit? (Nat.pow 10 power) '0' = some (Nat.pow 10 (power + 1)) := by decide
  have full : appendDigit? (Nat.pow 10 19) '0' = none := by decide
  induction zeros generalizing power with
  | nil => exact ⟨0, rfl, fits⟩
  | cons zero zeros ih =>
      obtain ⟨rfl, others⟩ := List.forall_mem_cons.mp all
      rw [gather_fraction_cons]
      rcases Nat.lt_or_eq_of_le fits with room | rfl
      · obtain ⟨more, gathered, bound⟩ := ih others room
        rw [appended power room]
        refine ⟨more + 1, ?_, by omega⟩
        simp only [gathered]
        rw [show power + (more + 1) = power + 1 + more by omega]
      · rw [full]
        exact ⟨0, rfl, fits⟩

theorem gather_exponent_zeros {zeros : List Char} (all : Zeros zeros) :
    gatherExponent 0 zeros = some 0 := by
  induction zeros with
  | nil => rfl
  | cons zero zeros ih =>
      obtain ⟨rfl, others⟩ := List.forall_mem_cons.mp all
      exact ih others

theorem assemble_one {power : Nat} (fits : power ≤ 19) :
    assemble false (Nat.pow 10 power) (-(power : Int)) = .ok (.real Binary64.one) := by
  have evaluated : ∀ power : Nat, power < 20 →
      (assemble false (Nat.pow 10 power) (-(power : Int))).toOption =
        some (.real Binary64.one) := by decide +kernel
  have same := evaluated power (Nat.lt_succ_of_le fits)
  cases assembled : assemble false (Nat.pow 10 power) (-(power : Int)) with
  | error problem =>
      rw [assembled] at same
      cases same
  | ok number =>
      rw [assembled] at same
      rw [Option.some.inj same]

theorem read_exponent_zeros {sign zeros : List Char}
    (signs : sign = [] ∨ sign = ['+'] ∨ sign = ['-']) (some : zeros ≠ []) (all : Zeros zeros)
    (negative : Bool) (significand : Nat) {scale : Int} (kept : saturate scale = scale)
    {rest : List Char} (ends : Ends rest) :
    readExponent negative significand scale (sign ++ (zeros ++ rest)) =
      (assemble negative significand scale).map fun number => (number, rest) := by
  obtain ⟨taken, left⟩ := take_digits (zeros_digits all) (digit_behind ends)
  cases zeros with
  | nil => exact absurd rfl some
  | cons zero zeros =>
      obtain rfl := all zero List.mem_cons_self
      rw [List.cons_append] at taken left ⊢
      unfold readExponent
      rcases signs with rfl | rfl | rfl <;>
        simp [taken, left, gather_exponent_zeros all, kept, isDigit]

theorem read_exponent_if_any_zeros {exponent : List Char} (spelled : ZeroExponent exponent)
    (negative : Bool) (significand : Nat) {scale : Int} (kept : saturate scale = scale)
    {rest : List Char} (ends : Ends rest) :
    readExponentIfAny negative significand scale (exponent ++ rest) =
      (assemble negative significand scale).map fun number => (number, rest) := by
  unfold readExponentIfAny
  rcases spelled with rfl | ⟨mark, sign, zeros, rfl, marks, signs, some, all⟩
  · rw [List.nil_append]
    split
    · cases (ends_stops ends).2.2
    · cases (ends_stops ends).2.2
    · rfl
  · rw [List.cons_append, List.append_assoc]
    have reading := read_exponent_zeros signs some all negative significand kept ends
    rcases marks with rfl | rfl <;> exact reading

theorem read_behind_power {exponent : List Char} (spelled : ZeroExponent exponent)
    {power : Nat} (fits : power ≤ 19) {rest : List Char} (ends : Ends rest) :
    readExponentIfAny false (Nat.pow 10 power) (-(power : Int)) (exponent ++ rest) =
      .ok (.real Binary64.one, rest) := by
  have kept : saturate (-(power : Int)) = -(power : Int) := by
    unfold saturate
    omega
  rw [read_exponent_if_any_zeros spelled false (Nat.pow 10 power) kept ends, assemble_one fits]
  rfl

theorem behind_zero_exponent {exponent rest : List Char} (spelled : ZeroExponent exponent)
    (ends : Ends rest) : ∀ character ∈ (exponent ++ rest).head?, isDigit character = false := by
  rcases spelled with rfl | ⟨mark, sign, zeros, rfl, marks, _⟩
  · exact digit_behind ends
  · intro character first
    obtain rfl : mark = character := Option.some.inj first
    rcases marks with rfl | rfl <;> rfl

theorem read_one_end {fraction exponent : List Char}
    (decimals : fraction = [] ∨ ∃ zeros, fraction = '.' :: zeros ∧ zeros ≠ [] ∧ Zeros zeros)
    (spelled : ZeroExponent exponent) {rest : List Char} (ends : Ends rest) :
    (readNumberEnd false 1 0 (fraction ++ (exponent ++ rest))).map
        (fun reading => (reading.1.toBinary64, reading.2)) = .ok (Binary64.one, rest) := by
  rcases decimals with rfl | ⟨zeros, rfl, some, all⟩
  · rw [List.nil_append]
    have marked := read_behind_power spelled (Nat.zero_le 19) ends
    rcases spelled with rfl | ⟨mark, sign, zeros, rfl, rfl | rfl, _⟩
    · have whole : Binary64.ofNat 1 = Binary64.one := by decide +kernel
      rw [List.nil_append, read_number_end_whole ends]
      change Except.ok (Binary64.ofNat 1, rest) = _
      rw [whole]
    · exact congrArg (Except.map _) marked
    · exact congrArg (Except.map _) marked
  · obtain ⟨more, gathered, bound⟩ := gather_fraction_zeros all (Nat.zero_le 19)
    obtain ⟨taken, left⟩ := take_digits (zeros_digits all) (behind_zero_exponent spelled ends)
    have filled : zeros.isEmpty = false := by
      cases zeros with
      | nil => exact absurd rfl some
      | cons zero zeros => rfl
    rw [Nat.zero_add] at gathered bound
    have reading := read_behind_power spelled bound ends
    change (readFraction false 1 0 (zeros ++ (exponent ++ rest))).map _ = _
    unfold readFraction
    dsimp only
    rw [taken, left, filled, show gatherFraction 1 zeros = _ from gathered]
    dsimp only
    rw [show ((0 : Nat) : Int) - (more : Int) = -(more : Int) by omega]
    exact congrArg (Except.map _) reading

theorem reads_one {text : List Char} (spelled : SpellsOne text) :
    Reads readReal text Binary64.one := by
  intro space rest blank ends
  obtain ⟨fraction, exponent, rfl, decimals, powers⟩ := spelled
  have behind : ∀ character ∈ (fraction ++ (exponent ++ rest)).head?,
      isDigit character = false := by
    rcases decimals with rfl | ⟨zeros, rfl, _⟩
    · rw [List.nil_append]
      exact behind_zero_exponent powers ends
    · intro character first
      rw [← Option.some.inj first]
      rfl
  have whole : IsWhole ['1'] := by
    exact Or.inr ⟨'1', [], rfl, by decide, List.forall_mem_singleton.mpr rfl⟩
  have unsigned : readNumber (space ++ (['1'] ++ (fraction ++ (exponent ++ rest)))) =
      readNumberEnd false 1 0 (fraction ++ (exponent ++ rest)) := by
    rw [read_number_whole whole blank]
    exact read_unsigned_whole whole (by decide) behind
  unfold readReal
  rw [List.cons_append, List.append_assoc]
  change (readNumber (space ++ (['1'] ++ (fraction ++ (exponent ++ rest))))).map _ = _
  rw [unsigned]
  exact read_one_end decimals powers ends

/-! ## Seconds and nanoseconds -/

def GivesSpan (secondsName nanosName : String) (seconds nanos : Nat) (name : String)
    (text : List Char) : Prop :=
  name = secondsName ∧ SpellsNatural seconds text ∨ name = nanosName ∧ SpellsNatural nanos text

/-- An object of seconds and nanoseconds, in either order. There may be full seconds among the
nanoseconds. -/
def SpellsSpan (secondsName nanosName : String) (total : Nat) (text : List Char) : Prop :=
  ∃ seconds nanos names, seconds < Nat.pow 2 64 ∧ nanos < Nat.pow 2 32 ∧
    seconds * nanosPerSecond + nanos = total ∧ names.Perm [secondsName, nanosName] ∧
    IsObject (GivesSpan secondsName nanosName seconds nanos) names text

def SpellsDuration (duration : Duration) (text : List Char) : Prop :=
  SpellsSpan "secs" "nanos" duration.nanos text

/-- Points in time before the epoch are not written. -/
def SpellsTimestamp (timestamp : Timestamp) (text : List Char) : Prop :=
  ∃ total : Nat, timestamp.nanos = total ∧
    SpellsSpan "secs_since_epoch" "nanos_since_epoch" total text

variable {secondsName nanosName : String} {seconds nanos : Nat}

theorem exists_span {total : Nat} (inRange : total < 18446744073709551616 * nanosPerSecond) :
    ∃ text, SpellsSpan secondsName nanosName total text := by
  have parts := Nat.div_add_mod total nanosPerSecond
  have below := Nat.mod_lt total (show 0 < nanosPerSecond by decide)
  have given : ∀ name ∈ [secondsName, nanosName], ∃ text, GivesSpan secondsName nanosName
      (total / nanosPerSecond) (total % nanosPerSecond) name text := by
    intro name inside
    rcases List.mem_cons.mp inside with rfl | inside
    · obtain ⟨text, spelled⟩ := exists_natural (total / nanosPerSecond)
      exact ⟨text, Or.inl ⟨rfl, spelled⟩⟩
    · obtain ⟨text, spelled⟩ := exists_natural (total % nanosPerSecond)
      exact ⟨text, Or.inr ⟨List.mem_singleton.mp inside, spelled⟩⟩
  obtain ⟨text, listed⟩ := exists_object [secondsName, nanosName] given
  refine ⟨text, total / nanosPerSecond, total % nanosPerSecond, _, ?_, ?_, ?_,
    List.Perm.refl _, listed⟩
  · exact Nat.div_lt_of_lt_mul (by rwa [Nat.mul_comm])
  · exact Nat.lt_trans below (by decide)
  · rwa [Nat.mul_comm]

theorem exists_duration (duration : Duration) : ∃ text, SpellsDuration duration text :=
  exists_span duration.inRange

theorem exists_timestamp {timestamp : Timestamp} (sinceEpoch : 0 ≤ timestamp.nanos) :
    ∃ text, SpellsTimestamp timestamp text := by
  have inRange : timestamp.nanos.toNat < 18446744073709551616 * nanosPerSecond := by
    have bound := timestamp.notAfter
    simp only [nanosPerSecond]
    omega
  obtain ⟨text, spelled⟩ := exists_span inRange
  exact ⟨text, timestamp.nanos.toNat, (Int.toNat_of_nonneg sinceEpoch).symm, spelled⟩

/-- The parts of a span whose names were met. -/
def spanProgress (secondsName nanosName : String) (seconds nanos : Nat) (seen : List String) :
    Span :=
  ⟨if secondsName ∈ seen then some seconds else none, if nanosName ∈ seen then some nanos else none⟩

theorem span_progresses (differ : secondsName ≠ nanosName) (secondsFit : seconds < Nat.pow 2 64)
    (nanosFit : nanos < Nat.pow 2 32) :
    Progresses (spanSchema secondsName nanosName) (GivesSpan secondsName nanosName seconds nanos)
      (spanProgress secondsName nanosName seconds nanos) where
  known := by
    intro seen name value field given known fresh
    rcases given with ⟨rfl, spelled⟩ | ⟨rfl, spelled⟩
    · have fits : seconds ≤ Nat.pow 2 64 - 1 := Nat.le_sub_one_of_lt secondsFit
      have other : (nanosName = name) = False := eq_false (Ne.symm differ)
      obtain rfl : _ = field := by simpa [spanSchema, Schema.field?] using known
      have stored : { spanProgress name nanosName seconds nanos seen with
          seconds := some seconds } = spanProgress name nanosName seconds nanos (name :: seen) := by
        simp [spanProgress, other]
      rw [← stored]
      exact (reads_natural spelled fits (Nat.le_refl _)).map fun value =>
        { spanProgress name nanosName seconds nanos seen with seconds := some value }
    · have fits : nanos ≤ Nat.pow 2 32 - 1 := Nat.le_sub_one_of_lt nanosFit
      obtain rfl : _ = field := by simpa [spanSchema, Schema.field?, differ] using known
      have stored : { spanProgress secondsName name seconds nanos seen with
          nanos := some nanos } = spanProgress secondsName name seconds nanos (name :: seen) := by
        simp [spanProgress, differ]
      rw [← stored]
      exact (reads_natural spelled fits (by decide)).map fun value =>
        { spanProgress secondsName name seconds nanos seen with nanos := some value }
  unknown := by
    intro name value given unknown
    rcases given with ⟨rfl, spelled⟩ | ⟨rfl, spelled⟩
    · simp [spanSchema, Schema.field?] at unknown
    · simp [spanSchema, Schema.field?] at unknown

theorem span_duration {span : Span} (first : span.seconds = some seconds)
    (second : span.nanos = some nanos) {duration : Duration}
    (same : duration.nanos = seconds * nanosPerSecond + nanos) :
    span.duration? = .ok duration := by
  have inRange : Duration.ofNanos? (seconds * nanosPerSecond + nanos) = some duration := by
    rw [← same]
    unfold Duration.ofNanos?
    rw [dif_pos duration.inRange]
  -- The bound of durations must not be computed with, so any conversion is taken.
  obtain ⟨convert, conversion⟩ : ∃ convert, convert = Duration.ofNanos? := ⟨_, rfl⟩
  rw [← conversion] at inRange
  unfold Span.duration?
  rw [← conversion, first, second]
  dsimp only
  rw [inRange]

theorem reads_span (differ : secondsName ≠ nanosName) {total : Nat} {text : List Char}
    (spelled : SpellsSpan secondsName nanosName total text) {duration : Duration}
    (same : duration.nanos = total) : Reads (readSpan secondsName nanosName) text duration := by
  obtain ⟨seconds, nanos, names, secondsFit, nanosFit, sum, order, listed⟩ := spelled
  have progresses := span_progresses differ secondsFit nanosFit
  have start : spanProgress secondsName nanosName seconds nanos [] = ⟨none, none⟩ := by
    simp [spanProgress]
  have single : (names.filter (spanSchema secondsName nanosName).knows).Nodup := by
    apply List.Pairwise.filter
    exact order.nodup_iff.mpr (by simp [differ])
  unfold readSpan
  rw [← start]
  apply progresses.object listed single
  have met {name : String} (known : (spanSchema secondsName nanosName).knows name = true)
      (inside : name ∈ [secondsName, nanosName]) :
      name ∈ (spanSchema secondsName nanosName).seenAfter [] names :=
    (mem_seen_after names [] name).mpr (Or.inr ⟨known, order.mem_iff.mpr inside⟩)
  have first : secondsName ∈ (spanSchema secondsName nanosName).seenAfter [] names :=
    met (by simp [Schema.knows, Schema.field?, spanSchema]) (by simp)
  have second : nanosName ∈ (spanSchema secondsName nanosName).seenAfter [] names :=
    met (by simp [Schema.knows, Schema.field?, spanSchema]) (by simp)
  exact span_duration (if_pos first) (if_pos second) (same.trans sum.symm)

theorem reads_duration {duration : Duration} {text : List Char}
    (spelled : SpellsDuration duration text) : Reads readDuration text duration :=
  reads_span (by decide) spelled rfl

theorem reads_timestamp {timestamp : Timestamp} {text : List Char}
    (spelled : SpellsTimestamp timestamp text) : Reads readTimestamp text timestamp := by
  intro space rest blank ends
  obtain ⟨total, same, spelled⟩ := spelled
  have inRange : total < 18446744073709551616 * nanosPerSecond := by
    have bound := timestamp.notAfter
    simp only [nanosPerSecond]
    omega
  have converted : Timestamp.ofNanos? ((total : Nat) : Int) = some timestamp := by
    rw [← same]
    unfold Timestamp.ofNanos?
    rw [dif_pos timestamp.notBefore, dif_pos timestamp.notAfter]
  exact read_timestamp_ok_iff.mpr
    ⟨⟨total, inRange⟩, reads_span (by decide) spelled rfl blank ends, converted⟩

end TokenPersistence.Config
