import Mathlib.Data.List.DropRight
import TokenPersistence.Proofs.Tiered.Conduct

/-!
# Histories of recording doubles

A double is asked for operations, and in between it is told what is to fail and when to
forget its record. All that it keeps can be read off this history, without following the
double: the predicate that was given last, the count that was given last less the operations
since, the operations since the record was last cleared, and the data at the beginning with
the changes that succeeded. A double that does so at every single occurrence does so over
every run.
-/

namespace TokenPersistence

set_option autoImplicit false

variable {σ τ ω β : Type}

namespace StoreCall

/-- What a call makes of the blobs under all keys. -/
def effect (blobs : String → Option Bytes) : StoreCall → String → Option Bytes
  | read _ => blobs
  | write key bytes => Function.update blobs key (some bytes)
  | remove key => Function.update blobs key none

def answer (blobs : String → Option Bytes) : StoreCall → Option Bytes
  | read key => blobs key
  | write .. => none
  | remove _ => none

end StoreCall

namespace Rehearsal

/-- The operations that a double writes down. Some are calls on its data, others leave the
data alone and answer nothing. -/
class Repertoire (ω : Type) where
  call? : ω → Option StoreCall
  failure : ω → Failure

inductive Occurrence (ω : Type) where
  | operation (asked : ω) (ending : Ending (Except Failure (Option Bytes)))
  | failWhen (predicate : ω → Bool)
  | failNext (count : Nat)
  | clearFailures
  | clearOperations

namespace Occurrence

def operation? : Occurrence ω → Option ω
  | operation asked _ => some asked
  | _ => none

def success? : Occurrence ω → Option ω
  | operation asked (.returned (.ok _)) => some asked
  | _ => none

def predicate? : Occurrence ω → Option (Option (ω → Bool))
  | failWhen predicate => some (some predicate)
  | clearFailures => some none
  | _ => none

def count? : Occurrence ω → Option Nat
  | failNext count => some count
  | clearFailures => some 0
  | _ => none

def forgets : Occurrence ω → Bool
  | clearOperations => true
  | _ => false

def latest (said : Occurrence ω → Option β) (history : List (Occurrence ω)) (initial : β) : β :=
  (history.reverse.findSome? said).getD initial

theorem latest_append_one (said : Occurrence ω → Option β) (history : List (Occurrence ω))
    (occurrence : Occurrence ω) (initial : β) :
    latest said (history ++ [occurrence]) initial =
      (said occurrence).getD (latest said history initial) := by
  unfold latest
  rw [List.reverse_append, List.reverse_singleton, List.singleton_append, List.findSome?_cons]
  cases said occurrence <;> rfl

def operations (history : List (Occurrence ω)) : List ω := history.filterMap operation?

theorem operations_append_one (history : List (Occurrence ω)) (occurrence : Occurrence ω) :
    operations (history ++ [occurrence]) =
      occurrence.operation?.elim (operations history) fun asked =>
        operations history ++ [asked] := by
  unfold operations
  rw [List.filterMap_append]
  cases occurrence with
  | operation asked ending => rfl
  | _ => exact List.append_nil _

/-- The operations since the last occurrence of a kind, or all of them. -/
def operationsSince (kind : Occurrence ω → Bool) (history : List (Occurrence ω)) : List ω :=
  operations (history.rtakeWhile fun occurrence => !kind occurrence)

theorem operations_since_append_one (kind : Occurrence ω → Bool)
    (history : List (Occurrence ω)) (occurrence : Occurrence ω) :
    operationsSince kind (history ++ [occurrence]) =
      if kind occurrence then []
      else
        occurrence.operation?.elim (operationsSince kind history) fun asked =>
          operationsSince kind history ++ [asked] := by
  unfold operationsSince
  rw [List.rtakeWhile_concat]
  cases kind occurrence with
  | true => rfl
  | false => exact operations_append_one _ _

end Occurrence

open Occurrence (latest operationsSince)

@[ext] structure Recording (ω : Type) where
  blobs : String → Option Bytes
  operations : List ω
  failsWhen : Option (ω → Bool)
  failNext : Nat

namespace Recording

variable [Repertoire ω]

/-- What a double keeps at the end of a history, if it kept this at the beginning. -/
def after (first : Recording ω) (history : List (Occurrence ω)) : Recording ω where
  blobs :=
    ((history.filterMap Occurrence.success?).filterMap Repertoire.call?).foldl StoreCall.effect
      first.blobs
  operations :=
    (if history.any Occurrence.forgets then [] else first.operations) ++
      operationsSince Occurrence.forgets history
  failsWhen := latest Occurrence.predicate? history first.failsWhen
  failNext :=
    latest Occurrence.count? history first.failNext -
      (operationsSince (fun occurrence => occurrence.count?.isSome) history).length

def Fails (recording : Recording ω) (asked : ω) : Prop :=
  (recording.failsWhen.any fun predicate => predicate asked) = true ∨ 0 < recording.failNext

instance (recording : Recording ω) (asked : ω) : Decidable (recording.Fails asked) :=
  inferInstanceAs (Decidable (_ ∨ _))

def outcome (recording : Recording ω) (asked : ω) : Except Failure (Option Bytes) :=
  if recording.Fails asked then .error (Repertoire.failure asked)
  else .ok ((Repertoire.call? asked).bind fun call => call.answer recording.blobs)

def next (recording : Recording ω) (occurrence : Occurrence ω) : Recording ω where
  blobs :=
    (occurrence.success?.bind Repertoire.call?).elim recording.blobs fun call =>
      call.effect recording.blobs
  operations :=
    if occurrence.forgets then []
    else
      occurrence.operation?.elim recording.operations fun asked => recording.operations ++ [asked]
  failsWhen := occurrence.predicate?.getD recording.failsWhen
  failNext :=
    occurrence.count?.getD
      (occurrence.operation?.elim recording.failNext fun _ => recording.failNext - 1)

@[simp] theorem after_nil (first : Recording ω) : first.after [] = first := by
  simp [after, latest, operationsSince, Occurrence.operations]

theorem blobs_after_append_one (first : Recording ω) (history : List (Occurrence ω))
    (occurrence : Occurrence ω) :
    (first.after (history ++ [occurrence])).blobs =
      ((first.after history).next occurrence).blobs := by
  simp only [after, next, List.filterMap_append, List.foldl_append]
  cases success : occurrence.success? with
  | none => simp [success]
  | some asked => cases called : Repertoire.call? asked <;> simp [success, called]

theorem operations_after_append_one (first : Recording ω) (history : List (Occurrence ω))
    (occurrence : Occurrence ω) :
    (first.after (history ++ [occurrence])).operations =
      ((first.after history).next occurrence).operations := by
  simp only [after, next, Occurrence.operations_since_append_one, List.any_append]
  cases forgets : occurrence.forgets with
  | true => simp [forgets]
  | false => cases occurrence.operation? <;> simp [forgets]

theorem fail_next_after_append_one (first : Recording ω) (history : List (Occurrence ω))
    (occurrence : Occurrence ω) :
    (first.after (history ++ [occurrence])).failNext =
      ((first.after history).next occurrence).failNext := by
  simp only [after, next, Occurrence.operations_since_append_one, Occurrence.latest_append_one]
  cases occurrence.count? with
  | some count => rfl
  | none =>
      cases occurrence.operation? with
      | none => rfl
      | some asked =>
          simp only [Option.isSome_none, Bool.false_eq_true, if_false, Option.elim_some,
            Option.getD_none, List.length_append, List.length_singleton]
          omega

/-- Reading a history off at once is the same as following it occurrence by occurrence. -/
theorem after_append_one (first : Recording ω) (history : List (Occurrence ω))
    (occurrence : Occurrence ω) :
    first.after (history ++ [occurrence]) = (first.after history).next occurrence :=
  Recording.ext (first.blobs_after_append_one history occurrence)
    (first.operations_after_append_one history occurrence)
    (Occurrence.latest_append_one _ _ _ _)
    (first.fail_next_after_append_one history occurrence)

theorem fail_next_after_count (first : Recording ω) (before between : List (Occurrence ω))
    (count : Nat) (untouched : ∀ occurrence ∈ between, occurrence.count? = none) :
    (first.after (before ++ .failNext count :: between)).failNext =
      count - (Occurrence.operations between).length := by
  induction between using List.reverseRecOn with
  | nil => exact congrArg failNext (first.after_append_one before (.failNext count))
  | append_singleton earlier last ih =>
      have kept := ih fun occurrence member => untouched occurrence (List.mem_append_left _ member)
      have unsaid := untouched last (List.mem_append_right _ (List.mem_singleton_self last))
      rw [← List.cons_append, ← List.append_assoc, fail_next_after_append_one,
        Occurrence.operations_append_one]
      simp only [next, unsaid, kept, Option.getD_none]
      cases last.operation? with
      | none => rfl
      | some asked =>
          simp only [Option.elim_some, List.length_append, List.length_singleton]
          omega

/-- An operation ends in a failure if and only if it is one that fails. -/
theorem outcome_eq_error_iff (recording : Recording ω) (asked : ω) :
    (∃ failure, recording.outcome asked = .error failure) ↔ recording.Fails asked := by
  unfold outcome
  split
  · next fails => simp [fails]
  · next succeeds => simp [succeeds]

end Recording

/-- A single occurrence leaves what it should, and an operation ends as it should. -/
structure Follows [Repertoire ω] (before : Recording ω) (occurrence : Occurrence ω)
    (later : Recording ω) : Prop where
  keeps : later = before.next occurrence
  ends : ∀ asked ending, occurrence = .operation asked ending →
    ending = .returned (before.outcome asked)

section Single

variable [Repertoire ω] {recording : Recording ω} {asked : ω}

theorem follows_failed (fails : recording.Fails asked) :
    Follows recording (.operation asked (.returned (.error (Repertoire.failure asked))))
      { recording with
        operations := recording.operations ++ [asked], failNext := recording.failNext - 1 } where
  keeps := rfl
  ends _ _ same := by
    cases same
    rw [Recording.outcome, if_pos fails]

theorem follows_succeeded (succeeds : ¬ recording.Fails asked)
    {blobs : String → Option Bytes} {answer : Option Bytes}
    (changes : blobs =
      (Repertoire.call? asked).elim recording.blobs fun call => call.effect recording.blobs)
    (answers : answer = (Repertoire.call? asked).bind fun call => call.answer recording.blobs) :
    Follows recording (.operation asked (.returned (.ok answer)))
      { recording with
        blobs
        operations := recording.operations ++ [asked]
        failNext := recording.failNext - 1 } where
  keeps := by
    subst changes
    rfl
  ends _ _ same := by
    cases same
    rw [Recording.outcome, if_neg succeeds, answers]

theorem follows_told {occurrence : Occurrence ω} (told : occurrence.operation? = none) :
    Follows recording occurrence (recording.next occurrence) where
  keeps := rfl
  ends _ _ same := by
    subst same
    cases told

/-- What the double is now is found in its cell. -/
theorem Follows.put {cell : Cell σ τ} (lawful : cell.Lawful) {view : τ → Recording ω}
    {occurrence : Occurrence ω} {double : τ}
    (follows : Follows recording occurrence (view double)) (data : σ) :
    Follows recording occurrence (view (cell.get (cell.put double data))) := by
  rw [lawful.get_put]
  exact follows

end Single

/-- What a double keeps after a history is what the history says, and every operation has
ended as the history before it says. -/
structure Replays [Repertoire ω] (first : Recording ω) (history : List (Occurrence ω))
    (last : Recording ω) : Prop where
  keeps : last = first.after history
  ends : ∀ before asked ending, before ++ [.operation asked ending] <+: history →
    ending = .returned ((first.after before).outcome asked)

/-- The runs of a double in a cell: one thing after another happens to it. Between them
anything may change but the double. -/
inductive Undergone (cell : Cell σ τ) (leads : Context σ → Occurrence ω → Context σ → Prop)
    (start : Context σ) : List (Occurrence ω) → Context σ → Prop where
  | start : Undergone cell leads start [] start
  | between {history : List (Occurrence ω)} {now : Context σ}
      (undergone : Undergone cell leads start history now) (later : Context σ)
      (spared : cell.get later.data = cell.get now.data) :
      Undergone cell leads start history later
  | next {history : List (Occurrence ω)} {now later : Context σ} {occurrence : Occurrence ω}
      (undergone : Undergone cell leads start history now)
      (step : leads now occurrence later) :
      Undergone cell leads start (history ++ [occurrence]) later

section Runs

variable {cell : Cell σ τ} {leads : Context σ → Occurrence ω → Context σ → Prop}
  {start now : Context σ} {history : List (Occurrence ω)}

theorem Undergone.earlier (undergone : Undergone cell leads start history now)
    {before : List (Occurrence ω)} (begun : before <+: history) :
    ∃ earlier, Undergone cell leads start before earlier := by
  induction undergone with
  | start =>
      rw [List.prefix_nil.mp begun]
      exact ⟨start, .start⟩
  | between undergone later spared ih => exact ih begun
  | next undergone step ih =>
      rcases List.prefix_concat_iff.mp begun with whole | earlier
      · rw [whole]
        exact ⟨_, undergone.next step⟩
      · exact ih earlier

variable [Repertoire ω]

theorem Replays.next {first last : Recording ω} {occurrence : Occurrence ω}
    {later : Recording ω} (replays : Replays first history last)
    (follows : Follows last occurrence later) :
    Replays first (history ++ [occurrence]) later where
  keeps := by rw [follows.keeps, replays.keeps, first.after_append_one]
  ends before asked ending begun := by
    rcases List.prefix_concat_iff.mp begun with whole | earlier
    · obtain ⟨rfl, same⟩ := List.append_inj' whole rfl
      rw [← replays.keeps]
      exact follows.ends asked ending (List.singleton_inj.mp same).symm
    · exact replays.ends before asked ending earlier

theorem Replays.failed_iff {first last : Recording ω} (replays : Replays first history last)
    {before : List (Occurrence ω)} {asked : ω} {ending : Ending (Except Failure (Option Bytes))}
    (begun : before ++ [.operation asked ending] <+: history) :
    (∃ failure, ending = .returned (.error failure)) ↔ (first.after before).Fails asked := by
  rw [replays.ends before asked ending begun]
  simp only [Ending.returned.injEq]
  exact (first.after before).outcome_eq_error_iff asked

theorem Replays.answered {first last : Recording ω} (replays : Replays first history last)
    {before : List (Occurrence ω)} {asked : ω} {answer : Option Bytes}
    (begun : before ++ [.operation asked (.returned (.ok answer))] <+: history) :
    answer = (Repertoire.call? asked).bind fun call => call.answer (first.after before).blobs := by
  have ended := Ending.returned.inj (replays.ends before asked _ begun)
  unfold Recording.outcome at ended
  split at ended
  · cases ended
  · exact Except.ok.inj ended

theorem Undergone.replays {view : τ → Recording ω}
    (faithful : ∀ {now later occurrence}, leads now occurrence later →
      Follows (view (cell.get now.data)) occurrence (view (cell.get later.data)))
    (undergone : Undergone cell leads start history now) :
    Replays (view (cell.get start.data)) history (view (cell.get now.data)) := by
  -- By induction on the run: an occurrence finds what the history so far has left.
  induction undergone with
  | start =>
      refine ⟨(Recording.after_nil _).symm, ?_⟩
      intro before asked ending begun
      simp at begun
  | between undergone later spared ih =>
      rw [spared]
      exact ih
  | next undergone step ih => exact ih.next (faithful step)

end Runs

end Rehearsal

end TokenPersistence
