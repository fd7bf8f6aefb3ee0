import TokenPersistence.Proofs.Rehearsal.Cells
import TokenPersistence.Proofs.Routine.Notes
import TokenPersistence.Proofs.Routine.Within
import TokenPersistence.Tiered.Store

/-!
# Attempts at the shared cache

An operation of a recording cache is attempted once, and a second time if the first attempt
fails and the retry predicate accepts its failure. How that goes is a function of what the
cache is about to do and of what the predicate keeps. The cache writes down each attempt, the
log reports each of them as done or failed and the retry between them, and the predicate
writes down what it is asked: all three are read off the course of the operation.
-/

namespace TokenPersistence

set_option autoImplicit false

open Rehearsal

variable {σ ρ α : Type}

inductive SharedNote where
  | done (operation : SharedOperation) (key : String) (retry : Bool)
  | failed (operation : SharedOperation) (retry : Bool) (failure : Failure)
  | retrying (operation : SharedOperation) (key : String)
  deriving DecidableEq

namespace SharedNote

def isAttempt : SharedNote → Bool
  | done .. | failed .. => true
  | retrying .. => false

@[simp] theorem is_attempt_retrying (operation : SharedOperation) (key : String) :
    (retrying operation key).isAttempt = false := rfl

end SharedNote

def LogEvent.sharedNote? : LogEvent → Option SharedNote
  | .sharedDone operation key _ retry _ => some (.done operation key retry)
  | .sharedFailed operation retry failure => some (.failed operation retry failure)
  | .sharedRetry operation key => some (.retrying operation key)
  | _ => none

/-- One attempt at an operation: whether it is the second one, and whether it fails. -/
structure SharedAttempt where
  call : SharedCall
  retry : Bool
  fails : Bool
  deriving DecidableEq

def SharedAttempt.note (attempt : SharedAttempt) : SharedNote :=
  if attempt.fails then
    .failed attempt.call.operation attempt.retry attempt.call.failure
  else .done attempt.call.operation attempt.call.key attempt.retry

@[simp] theorem SharedAttempt.is_attempt_note (attempt : SharedAttempt) :
    attempt.note.isAttempt = true := by
  unfold note
  split <;> rfl

/-- How an operation goes: whether the first attempt fails, and whether the second one does
if there is one. -/
structure Course where
  call : SharedCall
  failed : Bool
  again : Option Bool
  deriving DecidableEq

namespace Course

def first (course : Course) : SharedAttempt := ⟨course.call, false, course.failed⟩

def attempts (course : Course) : List SharedAttempt :=
  course.first :: (course.again.map fun fails => ⟨course.call, true, fails⟩).toList

def notes (course : Course) : List SharedNote :=
  course.first.note ::
    match course.again with
    | none => []
    | some fails =>
        [.retrying course.call.operation course.call.key,
          (SharedAttempt.mk course.call true fails).note]

def questions (course : Course) : List Failure :=
  if course.failed then [course.call.failure] else []

def gaveUp (course : Course) : Bool := course.again.getD course.failed

theorem filter_notes (course : Course) :
    course.notes.filter SharedNote.isAttempt = course.attempts.map SharedAttempt.note := by
  obtain ⟨call, failed, again⟩ := course
  cases again <;> simp [notes, attempts, first]

end Course

/-- What a retry predicate keeps: something of its own, and what it has been asked. -/
structure Questions (ρ : Type) where
  own : ρ
  asked : List Failure

/-- A verdict on a failure may depend on what was kept, and changes it. -/
abbrev Verdict (ρ : Type) := Failure → ρ → Bool × ρ

def Questions.toPredicate (cell : Cell σ (Questions ρ)) (verdict : Verdict ρ) :
    RetryPredicate σ := fun failure =>
  cell.step fun kept =>
    ((verdict failure kept.own).1, ⟨(verdict failure kept.own).2, kept.asked ++ [failure]⟩)

namespace Rehearsal.RecordingCache

def tried (cache : RecordingCache) (call : SharedCall) : RecordingCache :=
  { cache with operations := cache.operations ++ [call], failNext := cache.failNext - 1 }

/-- An operation of a recording cache in a cell. Those of the shared cache are of this kind. -/
def carriedOut (shared : Cell σ RecordingCache) (call : SharedCall)
    (effect : Table → α × Table) : Call σ α :=
  ExceptT.mk (shared.step fun cache => cache.perform call effect)

/-- How an operation goes if the predicate, if there is one, keeps this. -/
def course (verdict : Option (Verdict ρ)) (call : SharedCall) (cache : RecordingCache)
    (own : ρ) : Course where
  call
  failed := cache.fails call
  again :=
    if cache.fails call && verdict.any fun accepts => (accepts call.failure own).1 then
      some ((cache.tried call).fails call)
    else none

/-- A second attempt needs a first one that fails and a predicate that accepts its failure. -/
theorem length_attempts_course (verdict : Option (Verdict ρ)) (call : SharedCall)
    (cache : RecordingCache) (own : ρ) :
    (course verdict call cache own).attempts.length =
      if cache.fails call && verdict.any fun accepts => (accepts call.failure own).1 then 2
      else 1 := by
  simp only [course, Course.attempts]
  split <;> rfl

theorem operations_perform (cache : RecordingCache) (call : SharedCall)
    (effect : Table → α × Table) :
    (cache.perform call effect).2.operations = cache.operations ++ [call] := by
  unfold perform
  split <;> rfl

theorem perform_failing {cache : RecordingCache} {call : SharedCall}
    (fails : cache.fails call = true) (effect : Table → α × Table) :
    cache.perform call effect = (.error call.failure, cache.tried call) := by
  unfold perform
  rw [if_pos fails]
  rfl

theorem perform_done {cache : RecordingCache} {call : SharedCall}
    (done : cache.fails call = false) (effect : Table → α × Table) :
    (cache.perform call effect).1 = .ok (effect cache.data).1 := by
  unfold perform
  rw [if_neg (by simp [done])]

end Rehearsal.RecordingCache

/-- What an operation of this course leaves written down. -/
structure Heard (shared : Cell σ RecordingCache) (kept : Cell σ (Questions ρ))
    (verdict : Option (Verdict ρ)) (course : Course) (before after : Context σ) : Prop where
  operations : (shared.get after.data).operations =
    (shared.get before.data).operations ++ course.attempts.map SharedAttempt.call
  asked : (kept.get after.data).asked =
    (kept.get before.data).asked ++ if verdict.isSome then course.questions else []
  clock : after.clockIsBroken = before.clockIsBroken

namespace TieredStore

/-- The store is backed by a recording cache, writes to it at once, and asks a recording
predicate, if any. Neither of these parts lies within the other or within memory. -/
structure Overheard (store : TieredStore σ) (shared : Cell σ RecordingCache)
    (kept : Cell σ (Questions ρ)) (verdict : Option (Verdict ρ)) : Prop where
  behind : store.l2 = RecordingCache.toSharedCache shared
  asks : store.retry = verdict.map (Questions.toPredicate kept)
  waits : store.options.writesInBackground = false
  sharedLawful : shared.Lawful
  keptLawful : kept.Lawful
  sharedApart : shared.Spares kept
  keptApart : kept.Spares shared
  nearShared : ∀ l1, store.l1 = some l1 → l1.Spares shared
  nearKept : ∀ l1, store.l1 = some l1 → l1.Spares kept

variable {store : TieredStore σ} {shared : Cell σ RecordingCache} {kept : Cell σ (Questions ρ)}
  {verdict : Option (Verdict ρ)}

theorem notes_attempt_shared (shared : Cell σ RecordingCache) (call : SharedCall)
    (effect : Table → α × Table) (size : α → Nat) (retry : Bool) (now : Context σ)
    (clock : now.clockIsBroken = false) :
    (attemptShared call.operation call.key size retry
        (RecordingCache.carriedOut shared call effect)).Notes LogEvent.sharedNote? now
      ((shared.get now.data).perform call effect).1
      (shared.change ((shared.get now.data).perform call effect).2 now)
      [(SharedAttempt.mk call retry ((shared.get now.data).fails call)).note] := by
  have carried : (RecordingCache.carriedOut shared call effect).run.Notes
      LogEvent.sharedNote? now ((shared.get now.data).perform call effect).1
      (shared.change ((shared.get now.data).perform call effect).2 now) [] :=
    Routine.notes_step _ now
  have stillTicks : (shared.change ((shared.get now.data).perform call effect).2
      now).clockIsBroken = false := clock
  unfold attemptShared
  refine (carried.timed clock stillTicks).bind ?_ (List.nil_append _)
  have reported : ∀ {event : LogEvent} {note : SharedNote} (outcome : Except Failure α)
      (after : Context σ), event.sharedNote? = some note →
        (Routine.write event >>= fun _ => pure outcome).Notes LogEvent.sharedNote? after
          outcome after [note] :=
    fun outcome after shown =>
      (Routine.notes_write shown after).bind (Routine.notes_pure outcome after) rfl
  cases fails : (shared.get now.data).fails call with
  | true =>
      rw [RecordingCache.perform_failing fails]
      exact reported (.error call.failure) _ rfl
  | false =>
      rw [RecordingCache.perform_done fails]
      exact reported (.ok (effect (shared.get now.data).data).1) _ rfl

theorem Overheard.notes_should_retry (overheard : store.Overheard shared kept verdict)
    (failure : Failure) (now : Context σ) :
    ∃ after, (store.shouldRetry failure).Notes LogEvent.sharedNote? now
        (verdict.any fun accepts => (accepts failure (kept.get now.data).own).1) after [] ∧
      shared.get after.data = shared.get now.data ∧ after.clockIsBroken = now.clockIsBroken ∧
      (kept.get after.data).asked =
        (kept.get now.data).asked ++ if verdict.isSome then [failure] else [] := by
  unfold shouldRetry
  rw [overheard.asks]
  cases verdict with
  | none => exact ⟨now, Routine.notes_pure false now, rfl, rfl, by simp⟩
  | some accepts =>
      refine ⟨_, Routine.notes_step _ now, overheard.keptApart _ _, rfl, ?_⟩
      simp [overheard.keptLawful.get_put]

theorem Overheard.notes_second_attempt (overheard : store.Overheard shared kept verdict)
    (call : SharedCall) (effect : Table → α × Table) (size : α → Nat) (now : Context σ)
    (clock : now.clockIsBroken = false) :
    ∃ after, (do
        Routine.write (.sharedRetry call.operation call.key)
        match ← attemptShared call.operation call.key size true
          (RecordingCache.carriedOut shared call effect) with
        | .ok value => pure (some value)
        | .error _ => pure none : Routine (Context σ) (Option α)).Notes LogEvent.sharedNote? now
      (if (shared.get now.data).fails call then none
        else some (effect (shared.get now.data).data).1) after
      [.retrying call.operation call.key,
        (SharedAttempt.mk call true ((shared.get now.data).fails call)).note] ∧
      (shared.get after.data).operations = (shared.get now.data).operations ++ [call] ∧
      kept.get after.data = kept.get now.data ∧ after.clockIsBroken = now.clockIsBroken := by
  have announced : (Routine.write (.sharedRetry call.operation call.key)).Notes
      LogEvent.sharedNote? now () now [.retrying call.operation call.key] :=
    Routine.notes_write (by rfl) now
  have attempt := notes_attempt_shared shared call effect size true now clock
  refine ⟨shared.change ((shared.get now.data).perform call effect).2 now, ?_, ?_,
    overheard.sharedApart _ _, rfl⟩
  · cases fails : (shared.get now.data).fails call with
    | false =>
        rw [RecordingCache.perform_done fails, fails] at attempt
        exact announced.bind (attempt.bind (Routine.notes_pure _ _) rfl) rfl
    | true =>
        rw [RecordingCache.perform_failing fails, fails] at attempt
        rw [RecordingCache.perform_failing fails]
        exact announced.bind (attempt.bind (Routine.notes_pure none _) rfl) rfl
  · simp only [Cell.change, overheard.sharedLawful.get_put]
    exact RecordingCache.operations_perform _ _ _

/-- An operation takes its course, and counts as failed if its last attempt fails. -/
theorem Overheard.notes_call_shared (overheard : store.Overheard shared kept verdict)
    (call : SharedCall) (effect : Table → α × Table) (size : α → Nat) (now : Context σ)
    (clock : now.clockIsBroken = false) {course : Course}
    (taken : RecordingCache.course verdict call (shared.get now.data)
      (kept.get now.data).own = course) :
    ∃ after, (store.callShared call.operation call.key size
        (RecordingCache.carriedOut shared call effect)).Notes LogEvent.sharedNote? now
      (if course.gaveUp then none else some (effect (shared.get now.data).data).1) after
      course.notes ∧ Heard shared kept verdict course now after := by
  have attempt := notes_attempt_shared shared call effect size false now clock
  unfold callShared
  cases failed : (shared.get now.data).fails call with
  | false =>
      obtain rfl : course = ⟨call, false, none⟩ := by
        simp [← taken, RecordingCache.course, failed]
      rw [failed, RecordingCache.perform_done failed] at attempt
      refine ⟨_, attempt.bind (Routine.notes_pure _ _) rfl, ?_, ?_, rfl⟩
      · simp only [Cell.change, overheard.sharedLawful.get_put]
        exact RecordingCache.operations_perform _ _ _
      · simp [Cell.change, overheard.sharedApart _ _, Course.questions]
  | true =>
      rw [failed, RecordingCache.perform_failing failed] at attempt
      obtain ⟨asked, asks, sameShared, sameClock, noted⟩ := overheard.notes_should_retry
        call.failure (shared.change ((shared.get now.data).tried call) now)
      have tried : shared.get asked.data = (shared.get now.data).tried call :=
        sameShared.trans (overheard.sharedLawful.get_put _ _)
      have keptSame : kept.get (shared.change ((shared.get now.data).tried call) now).data =
          kept.get now.data := overheard.sharedApart _ _
      rw [keptSame] at asks noted
      cases accepted : verdict.any fun accepts =>
          (accepts call.failure (kept.get now.data).own).1 with
      | false =>
          obtain rfl : course = ⟨call, true, none⟩ := by
            simp [← taken, RecordingCache.course, failed, accepted]
          rw [accepted] at asks
          refine ⟨asked, attempt.bind (asks.bind (Routine.notes_pure none asked) rfl) rfl,
            ?_, noted, sameClock⟩
          rw [tried]
          rfl
      | true =>
          obtain rfl : course =
              ⟨call, true, some (((shared.get now.data).tried call).fails call)⟩ := by
            simp [← taken, RecordingCache.course, failed, accepted]
          rw [accepted] at asks
          obtain ⟨after, again, operations, keptAgain, clockAgain⟩ :=
            overheard.notes_second_attempt call effect size asked (sameClock.trans clock)
          rw [tried] at again operations
          refine ⟨after, attempt.bind (asks.bind again rfl) rfl, ?_, ?_,
            clockAgain.trans sameClock⟩
          · rw [operations]
            exact List.append_assoc _ _ _
          · rw [keptAgain]
            exact noted

end TieredStore

end TokenPersistence
