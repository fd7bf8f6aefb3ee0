import TokenPersistence.Proofs.Tiered.Attempts
import TokenPersistence.Proofs.Tiered.Levels
import TokenPersistence.Proofs.Tiered.Work

/-!
# One exchange for each call

Every call on a tiered store that writes at once has one exchange with the shared cache,
under its own key: it refreshes an entry that memory has, fetches one that memory does not
have, sets what is written and removes what is removed. What happens in memory around the
exchange is neither written down by the shared cache nor asked of the retry predicate nor
shown of the shared cache in the log, so that over a run of calls the record of the cache,
the questions and the notes are those of the exchanges one after another.
-/

namespace TokenPersistence

set_option autoImplicit false

open Rehearsal

variable {σ ρ : Type}

/-- Nothing of an exchange has happened. -/
structure Unheard (shared : Cell σ RecordingCache) (kept : Cell σ (Questions ρ))
    (before after : Context σ) : Prop where
  shared : shared.get after.data = shared.get before.data
  kept : kept.get after.data = kept.get before.data
  clock : after.clockIsBroken = before.clockIsBroken

section Around

variable {shared : Cell σ RecordingCache} {kept : Cell σ (Questions ρ)}
  {verdict : Option (Verdict ρ)} {course : Course} {before between after : Context σ}

theorem Unheard.refl (now : Context σ) : Unheard shared kept now now := ⟨rfl, rfl, rfl⟩

theorem Unheard.trans (first : Unheard shared kept before between)
    (second : Unheard shared kept between after) : Unheard shared kept before after :=
  ⟨second.shared.trans first.shared, second.kept.trans first.kept,
    second.clock.trans first.clock⟩

theorem unheard_report (hints : CallHints) (level : CacheLevel) (now : Context σ) :
    Unheard shared kept now (hints.report level now) :=
  ⟨by rw [CallHints.data_report], by rw [CallHints.data_report], hints.clock_report level now⟩

theorem Heard.before_unheard (first : Unheard shared kept before between)
    (heard : Heard shared kept verdict course between after) :
    Heard shared kept verdict course before after where
  operations := by rw [heard.operations, first.shared]
  asked := by rw [heard.asked, first.kept]
  clock := heard.clock.trans first.clock

theorem Heard.then_unheard
    (heard : Heard shared kept verdict course before between)
    (last : Unheard shared kept between after) :
    Heard shared kept verdict course before after where
  operations := by rw [last.shared, heard.operations]
  asked := by rw [last.kept, heard.asked]
  clock := last.clock.trans heard.clock

end Around

namespace TieredStore

open Routine (Notes)

variable {store : TieredStore σ} {shared : Cell σ RecordingCache} {kept : Cell σ (Questions ρ)}
  {verdict : Option (Verdict ρ)} {course : Course}

theorem notes_log_access (l1 : ByteCacheCell σ) (access : NearAccess) (key : String)
    (size : Nat) (now : Context σ) :
    (l1.logAccess access key size).Notes LogEvent.sharedNote? now () now [] :=
  ⟨rfl, rfl, rfl⟩

/-- Changing the memory and reporting it is no part of an exchange: what follows on it notes
all there is. -/
theorem Overheard.notes_change (overheard : store.Overheard shared kept verdict)
    {l1 : ByteCacheCell σ} (enabled : store.l1 = some l1)
    (change : ByteCache → EvictionPolicy → Nat → ByteCache) {report : Routine (Context σ) Unit}
    (hidden : ∀ now, report.Notes LogEvent.sharedNote? now () now []) (now : Context σ) :
    ∃ between, Unheard shared kept now between ∧
      ∀ {α : Type} {continuation : Unit → Routine (Context σ) α} {value : α}
        {after : Context σ} {noted : List SharedNote},
        (continuation ()).Notes LogEvent.sharedNote? between value after noted →
          (l1.change change >>= fun _ => report >>= continuation).Notes
            LogEvent.sharedNote? now value after noted := by
  let changed : Context σ :=
    { now with data := l1.put (change (l1.get now.data) l1.policy now.uptime) now.data }
  have changes : (l1.change change).Notes LogEvent.sharedNote? now () changed [] :=
    Routine.notes_modify _ now
  refine ⟨changed,
    ⟨overheard.nearShared l1 enabled _ _, overheard.nearKept l1 enabled _ _, rfl⟩, ?_⟩
  intro α continuation value after noted follows
  exact changes.bind ((hidden changed).bind follows rfl) rfl

def asksFor (store : TieredStore σ) (now : Context σ) (hints : CallHints) :
    StoreCall → SharedCall
  | .read key => if (store.nearBlob? now key).isSome then .refresh key else .get key
  | .write key bytes => .set key bytes (store.entryOptions hints)
  | .remove key => .remove key

/-- What a call answers: what memory has, or else what the shared cache has, unless fetching
it has failed. -/
def answerAfter (store : TieredStore σ) (course : Course) (cache : RecordingCache)
    (now : Context σ) : StoreCall → Option Bytes
  | .read key =>
      match store.nearBlob? now key with
      | some bytes => some bytes
      | none => if course.gaveUp then none else cache.data.get? key
  | .write .. => none
  | .remove _ => none

theorem Overheard.notes_keep_answer (overheard : store.Overheard shared kept verdict)
    (key : String) (hints : CallHints) (timed : Timed (Option (Option Bytes)))
    (now : Context σ) :
    ∃ after, (store.keepAnswer key hints timed).Notes LogEvent.sharedNote? now timed.value.join
      after [] ∧ Unheard shared kept now after := by
  have timing : (Routine.write (.sharedReadTime timed.duration)).Notes LogEvent.sharedNote?
      now () now [] := Routine.notes_hidden (by rfl) now
  unfold keepAnswer
  cases timed.value.join with
  | none => exact ⟨now, timing.bind (Routine.notes_pure none now) rfl, .refl now⟩
  | some bytes =>
      have reports : (hints.reportLevel .l2).Notes LogEvent.sharedNote? now ()
          (hints.report .l2 now) [] := Routine.notes_modify _ now
      have reported : Unheard shared kept now (hints.report .l2 now) :=
        unheard_report hints .l2 now
      cases enabled : store.l1 with
      | none =>
          exact ⟨_, timing.bind (reports.bind (Routine.notes_pure _ _) rfl) rfl, reported⟩
      | some l1 =>
          have announces : (Routine.write (.backPropagated key bytes.length)).Notes
              LogEvent.sharedNote? (hints.report .l2 now) () (hints.report .l2 now) [] :=
            Routine.notes_hidden (by rfl) _
          obtain ⟨after, unheard, copies⟩ := overheard.notes_change enabled
            (fun contents policy uptime =>
              contents.insert policy uptime key bytes store.l1Lifetime)
            (notes_log_access l1 .backPropagate key bytes.length) (hints.report .l2 now)
          exact ⟨after, timing.bind (reports.bind (announces.bind
            (copies (Routine.notes_pure (some bytes) after)) rfl) rfl) rfl,
            reported.trans unheard⟩

theorem Overheard.notes_read_shared (overheard : store.Overheard shared kept verdict)
    (key : String) (hints : CallHints) (now : Context σ) (clock : now.clockIsBroken = false)
    (taken : RecordingCache.course verdict (.get key) (shared.get now.data)
      (kept.get now.data).own = course) :
    ∃ after, (store.readShared key hints).Notes LogEvent.sharedNote? now
      (if course.gaveUp then none else (shared.get now.data).data.get? key) after course.notes ∧
      Heard shared kept verdict course now after := by
  obtain ⟨between, exchange, heard⟩ := overheard.notes_call_shared (.get key)
    (fun data => (data.get? key, data)) foundSize now clock taken
  obtain ⟨after, keeps, unheard⟩ := overheard.notes_keep_answer key hints
    ⟨if course.gaveUp then none else some ((shared.get now.data).data.get? key),
      Timestamp.elapsed now.now between.now⟩ between
  refine ⟨after, ?_, heard.then_unheard unheard⟩
  have answer : (if course.gaveUp then none
      else some ((shared.get now.data).data.get? key)).join =
        if course.gaveUp then none else (shared.get now.data).data.get? key := by
    split <;> rfl
  rw [← answer, read_shared_eq, overheard.behind]
  exact (exchange.timed clock (heard.clock.trans clock)).bind keeps (List.append_nil _)

theorem Overheard.notes_write_near (overheard : store.Overheard shared kept verdict)
    (key : String) (bytes : Bytes) (hints : CallHints) (now : Context σ)
    (clock : now.clockIsBroken = false) :
    ∃ after, (store.writeNear key bytes hints).Notes LogEvent.sharedNote? now () after [] ∧
      Unheard shared kept now after := by
  unfold writeNear
  cases enabled : store.l1 with
  | none => exact ⟨now, Routine.notes_pure () now, .refl now⟩
  | some l1 =>
      obtain ⟨expiry, reads⟩ : ∃ expiry, (store.currentL1Expiry hints).Notes
          LogEvent.sharedNote? now expiry now [] := by
        unfold currentL1Expiry
        cases store.deadline? hints with
        | none => exact ⟨_, Routine.notes_pure _ now⟩
        | some deadline => exact ⟨_, Context.notes_with_clock clock (Routine.notes_pure _ now)⟩
      obtain ⟨after, unheard, follows⟩ := overheard.notes_change enabled
        (fun contents policy uptime => contents.insert policy uptime key bytes expiry)
        (notes_log_access l1 .write key bytes.length) now
      have writes := follows (Routine.notes_pure () after)
      exact ⟨after, reads.bind writes rfl, unheard⟩

theorem Overheard.notes_remove_near (overheard : store.Overheard shared kept verdict)
    (key : String) (now : Context σ) :
    ∃ after, (store.removeNear key).Notes LogEvent.sharedNote? now () after [] ∧
      Unheard shared kept now after := by
  unfold removeNear
  cases enabled : store.l1 with
  | none => exact ⟨now, Routine.notes_pure () now, .refl now⟩
  | some l1 =>
      have hidden := fun now : Context σ =>
        Routine.notes_hidden (rfl : (LogEvent.nearRemoved key).sharedNote? = none) now
      obtain ⟨after, unheard, follows⟩ := overheard.notes_change enabled
        (fun contents policy uptime => contents.erase policy uptime key) hidden now
      exact ⟨after, follows (Routine.notes_pure () after), unheard⟩

theorem Overheard.notes_lookup (overheard : store.Overheard shared kept verdict)
    {l1 : ByteCacheCell σ} (enabled : store.l1 = some l1) (key : String) (now : Context σ) :
    ∃ after, (l1.lookup key).Notes LogEvent.sharedNote? now (store.nearBlob? now key) after [] ∧
      Unheard shared kept now after := by
  have near : store.nearBlob? now key = (l1.get now.data).get? now.uptime key := by
    simp [nearBlob?, enabled]
  rw [near]
  exact ⟨_, Routine.notes_step _ now, overheard.nearShared l1 enabled _ _,
    overheard.nearKept l1 enabled _ _, rfl⟩

/-- A read that memory answers refreshes the entry; any other one fetches it. -/
theorem Overheard.notes_read_levels (overheard : store.Overheard shared kept verdict)
    (key : String) (hints : CallHints) (now : Context σ) (clock : now.clockIsBroken = false)
    (taken : RecordingCache.course verdict (store.asksFor now hints (.read key))
      (shared.get now.data) (kept.get now.data).own = course) :
    ∃ after, (store.readLevels key hints).Notes LogEvent.sharedNote? now
      (store.answerAfter course (shared.get now.data) now (.read key)) after course.notes ∧
      Heard shared kept verdict course now after := by
  unfold readLevels
  simp only [asksFor] at taken
  simp only [answerAfter]
  cases enabled : store.l1 with
  | none =>
      have missed : store.nearBlob? now key = none := by simp [nearBlob?, enabled]
      rw [missed] at taken ⊢
      exact overheard.notes_read_shared key hints now clock taken
  | some l1 =>
      obtain ⟨between, looks, unheard⟩ := overheard.notes_lookup enabled key now
      rw [← unheard.shared, ← unheard.kept] at taken
      have ticks : between.clockIsBroken = false := unheard.clock.trans clock
      have noted := fun size => notes_log_access l1 .read key size between
      cases found : store.nearBlob? now key with
      | none =>
          rw [found] at looks taken
          obtain ⟨after, fetches, heard⟩ :=
            overheard.notes_read_shared key hints between ticks taken
          rw [unheard.shared] at fetches
          exact ⟨after, looks.bind ((noted _).bind fetches rfl) rfl, heard.before_unheard unheard⟩
      | some bytes =>
          rw [found] at looks taken
          obtain ⟨after, exchange, heard⟩ := overheard.notes_call_shared (.refresh key)
            (fun data => ((), data)) (fun _ => bytes.length) between ticks taken
          rw [overheard.behind]
          have answers : (hints.reportLevel .l1 >>= fun _ => pure (some bytes)).Notes
              LogEvent.sharedNote? after (some bytes) (hints.report .l1 after) [] :=
            (Routine.notes_modify _ after).bind (Routine.notes_pure (some bytes) _) rfl
          refine ⟨hints.report .l1 after, ?_,
            (heard.before_unheard unheard).then_unheard (unheard_report hints .l1 after)⟩
          exact looks.bind ((noted _).bind (exchange.discard.bind answers (List.append_nil _)) rfl)
            rfl

/-- The course of an exchange is settled by what comes before the call, as nothing that
happens in memory changes it. -/
theorem Overheard.notes_levels (overheard : store.Overheard shared kept verdict)
    (hints : CallHints) (call : StoreCall) (now : Context σ) (clock : now.clockIsBroken = false)
    (taken : RecordingCache.course verdict (store.asksFor now hints call) (shared.get now.data)
      (kept.get now.data).own = course) :
    ∃ after, (store.levels hints call).Notes LogEvent.sharedNote? now
      (store.answerAfter course (shared.get now.data) now call) after course.notes ∧
      Heard shared kept verdict course now after := by
  cases call with
  | read key => exact overheard.notes_read_levels key hints now clock taken
  | write key bytes =>
      obtain ⟨between, writes, unheard⟩ := overheard.notes_write_near key bytes hints now clock
      rw [← unheard.shared, ← unheard.kept] at taken
      obtain ⟨after, exchange, heard⟩ := overheard.notes_call_shared
        (.set key bytes (store.entryOptions hints))
        (fun data => ((), data.insert key bytes)) (fun _ => bytes.length) between
        (unheard.clock.trans clock) taken
      refine ⟨after, ?_, heard.before_unheard unheard⟩
      simp only [levels]
      rw [write_levels_eq _ _ _ _ overheard.waits]
      unfold writeShared
      rw [overheard.behind]
      exact (writes.bind exchange.discard rfl).bind (Routine.notes_pure none after)
        (List.append_nil _)
  | remove key =>
      obtain ⟨between, removes, unheard⟩ := overheard.notes_remove_near key now
      rw [← unheard.shared, ← unheard.kept] at taken
      obtain ⟨after, exchange, heard⟩ := overheard.notes_call_shared (.remove key)
        (fun data => ((), data.erase key)) (fun _ => 0) between
        (unheard.clock.trans clock) taken
      refine ⟨after, ?_, heard.before_unheard unheard⟩
      simp only [levels]
      rw [remove_levels_eq, overheard.behind]
      exact (removes.bind exchange.discard rfl).bind (Routine.notes_pure none after)
        (List.append_nil _)

theorem Overheard.notes_perform (overheard : store.Overheard shared kept verdict)
    (hints : CallHints) (call : StoreCall) (now : Context σ) (clock : now.clockIsBroken = false)
    (uncancelled : hints.Uncancelled (store.work hints call) now)
    (taken : RecordingCache.course verdict (store.asksFor now hints call) (shared.get now.data)
      (kept.get now.data).own = course) :
    ∃ after, (store.perform hints call).Notes LogEvent.sharedNote? now
      (.ok (store.answerAfter course (shared.get now.data) now call)) after course.notes ∧
      Heard shared kept verdict course now after := by
  obtain ⟨after, works, heard⟩ := overheard.notes_levels hints call now clock taken
  obtain ⟨ending, state, log⟩ := Call.notes_lift works
  have run := hints.run_cancellable call.activity (store.work hints call) now uncancelled
  rw [← perform_eq_race] at run
  exact ⟨after, ⟨run ▸ ending, run ▸ state, run ▸ log⟩, heard⟩

/-- A call in a run: what it was made with, the context in which it began, how it ended. -/
structure Visit (σ : Type) where
  hints : CallHints
  call : StoreCall
  before : Context σ
  ending : Ending (Except Failure (Option Bytes))

/-- A run of uncancelled calls, one after another, with all that they have logged. Between
two calls anything may change but what has been written down, such as what fails next, as
long as the clock works. -/
inductive Served (store : TieredStore σ) (shared : Cell σ RecordingCache)
    (kept : Cell σ (Questions ρ)) (start : Context σ) :
    List (Visit σ) → List LogEvent → Context σ → Prop where
  | start (clock : start.clockIsBroken = false) : Served store shared kept start [] [] start
  | between {visits : List (Visit σ)} {log : List LogEvent} {now : Context σ}
      (served : Served store shared kept start visits log now) (later : Context σ)
      (operations : (shared.get later.data).operations = (shared.get now.data).operations)
      (asked : (kept.get later.data).asked = (kept.get now.data).asked)
      (clock : later.clockIsBroken = false) : Served store shared kept start visits log later
  | visit {visits : List (Visit σ)} {log : List LogEvent} {now : Context σ}
      (served : Served store shared kept start visits log now) (hints : CallHints)
      (call : StoreCall) (uncancelled : hints.Uncancelled (store.work hints call) now) :
      Served store shared kept start
        (visits ++ [⟨hints, call, now, ((store.perform hints call).run now).ending⟩])
        (log ++ ((store.perform hints call).run now).log)
        ((store.perform hints call).run now).state

def exchange (store : TieredStore σ) (shared : Cell σ RecordingCache)
    (kept : Cell σ (Questions ρ)) (verdict : Option (Verdict ρ)) (visit : Visit σ) : Course :=
  RecordingCache.course verdict (store.asksFor visit.before visit.hints visit.call)
    (shared.get visit.before.data) (kept.get visit.before.data).own

/-- What has been written down and logged so far is that of the exchanges so far. -/
structure Accounted (store : TieredStore σ) (shared : Cell σ RecordingCache)
    (kept : Cell σ (Questions ρ)) (verdict : Option (Verdict ρ)) (start : Context σ)
    (visits : List (Visit σ)) (log : List LogEvent) (now : Context σ) : Prop where
  operations : (shared.get now.data).operations = (shared.get start.data).operations ++
    ((visits.map (store.exchange shared kept verdict)).flatMap Course.attempts).map
      SharedAttempt.call
  notes : log.filterMap LogEvent.sharedNote? =
    (visits.map (store.exchange shared kept verdict)).flatMap Course.notes
  asked : (kept.get now.data).asked = (kept.get start.data).asked ++
    if verdict.isSome then
      (visits.map (store.exchange shared kept verdict)).flatMap Course.questions
    else []
  answers : ∀ visit ∈ visits, visit.ending = .returned (.ok (store.answerAfter
    (store.exchange shared kept verdict visit) (shared.get visit.before.data) visit.before
    visit.call))
  clock : now.clockIsBroken = false

theorem Accounted.visit {start now : Context σ} {visits : List (Visit σ)} {log : List LogEvent}
    (overheard : store.Overheard shared kept verdict)
    (accounted : store.Accounted shared kept verdict start visits log now) (hints : CallHints)
    (call : StoreCall) (uncancelled : hints.Uncancelled (store.work hints call) now) :
    store.Accounted shared kept verdict start
      (visits ++ [⟨hints, call, now, ((store.perform hints call).run now).ending⟩])
      (log ++ ((store.perform hints call).run now).log)
      ((store.perform hints call).run now).state := by
  obtain ⟨after, performed, heard⟩ := overheard.notes_perform hints call now accounted.clock
    uncancelled rfl
  rw [performed.state]
  constructor
  · rw [heard.operations, accounted.operations]
    simp [exchange]
  · rw [List.filterMap_append, accounted.notes, performed.log]
    simp [exchange]
  · rw [heard.asked, accounted.asked]
    cases verdict <;> simp [exchange]
  · intro visit member
    rcases List.mem_append.mp member with earlier | last
    · exact accounted.answers visit earlier
    · obtain rfl := List.mem_singleton.mp last
      exact performed.ending
  · exact heard.clock.trans accounted.clock

theorem Served.accounted {start now : Context σ} {visits : List (Visit σ)} {log : List LogEvent}
    (overheard : store.Overheard shared kept verdict)
    (served : store.Served shared kept start visits log now) :
    store.Accounted shared kept verdict start visits log now := by
  induction served with
  | start clock => exact ⟨by simp, rfl, by simp, by simp, clock⟩
  | between served later operations asked clock accounted =>
      exact ⟨operations.trans accounted.operations, accounted.notes,
        asked.trans accounted.asked, accounted.answers, clock⟩
  | visit served hints call uncancelled accounted =>
      exact accounted.visit overheard hints call uncancelled

theorem asks_for_key (store : TieredStore σ) (now : Context σ) (hints : CallHints)
    (call : StoreCall) : (store.asksFor now hints call).key = call.key := by
  cases call with
  | read key =>
      simp only [asksFor]
      split <;> rfl
  | write key bytes => rfl
  | remove key => rfl

/-- Each call of a run has one exchange, of one attempt or, if the first one fails and the
predicate accepts its failure, of two. What the shared cache has written down are these
attempts; the log reports each of them, as the second one or not, as done or failed, with
the decision to retry between two; the predicate has been asked about each first failure
and about nothing else. An operation counts as failed if its last attempt fails. -/
theorem one_exchange_for_each_call (store : TieredStore σ) (shared : Cell σ RecordingCache)
    (kept : Cell σ (Questions ρ)) (verdict : Option (Verdict ρ))
    (overheard : store.Overheard shared kept verdict) {start now : Context σ}
    {visits : List (Visit σ)} {log : List LogEvent}
    (served : store.Served shared kept start visits log now) :
    let course := store.exchange shared kept verdict
    let attempts := (visits.map course).flatMap Course.attempts
    (∀ visit ∈ visits,
      (course visit).call = store.asksFor visit.before visit.hints visit.call ∧
      (course visit).call.key = visit.call.key ∧
      (course visit).attempts.length =
        (if (shared.get visit.before.data).fails (course visit).call && verdict.any fun accepts =>
            (accepts (course visit).call.failure (kept.get visit.before.data).own).1
          then 2 else 1) ∧
      visit.ending = .returned (.ok (store.answerAfter (course visit)
        (shared.get visit.before.data) visit.before visit.call))) ∧
    (shared.get now.data).operations =
      (shared.get start.data).operations ++ attempts.map SharedAttempt.call ∧
    log.filterMap LogEvent.sharedNote? = (visits.map course).flatMap Course.notes ∧
    (log.filterMap LogEvent.sharedNote?).filter SharedNote.isAttempt =
      attempts.map SharedAttempt.note ∧
    (kept.get now.data).asked = (kept.get start.data).asked ++
      (if verdict.isSome then (visits.map course).flatMap Course.questions else []) ∧
    ∀ {α : Type} (call : SharedCall) (effect : Table → α × Table) (size : α → Nat)
      (context : Context σ), context.clockIsBroken = false →
        (store.callShared call.operation call.key size
          (RecordingCache.carriedOut shared call effect)).Returns context fun answer _ =>
            (answer = none ↔ (RecordingCache.course verdict call (shared.get context.data)
              (kept.get context.data).own).gaveUp = true) := by
  intro course attempts
  have accounted := served.accounted overheard
  refine ⟨?_, accounted.operations, accounted.notes, ?_, accounted.asked, ?_⟩
  · intro visit member
    exact ⟨rfl, store.asks_for_key _ _ _, RecordingCache.length_attempts_course _ _ _ _,
      accounted.answers visit member⟩
  · rw [accounted.notes, List.filter_flatMap, List.map_flatMap]
    simp only [Course.filter_notes]
    rfl
  · intro α call effect size context clock
    obtain ⟨after, carried, _⟩ := overheard.notes_call_shared call effect size context clock rfl
    refine ⟨_, carried.ending, ?_⟩
    split
    · next gaveUp => simp [gaveUp]
    · next done => simp [done]

end TieredStore

namespace Rehearsal

/-- Memory, a shared cache behind it, and a predicate that counts what it has accepted. -/
structure Listening where
  near : ByteCache
  shared : RecordingCache
  kept : Questions Nat

namespace Listening

def nearCell : ByteCacheCell Listening where
  get data := data.near
  put near data := { data with near }
  policy := leastRecent

def sharedCell : Cell Listening RecordingCache where
  get data := data.shared
  put shared data := { data with shared }

def keptCell : Cell Listening (Questions Nat) where
  get data := data.kept
  put kept data := { data with kept }

def acceptsOnce : Verdict Nat := fun _ accepted => (accepted == 0, accepted + 1)

def store : TieredStore Listening where
  l1 := some nearCell
  l1Lifetime := none
  l2 := RecordingCache.toSharedCache sharedCell
  options := TieredOptions.standard
  retry := some (Questions.toPredicate keptCell acceptsOnce)
  spawner := none

theorem overheard : store.Overheard sharedCell keptCell (some acceptsOnce) where
  behind := rfl
  asks := rfl
  waits := rfl
  sharedLawful := ⟨fun _ _ => rfl, fun _ => rfl, fun _ _ _ => rfl⟩
  keptLawful := ⟨fun _ _ => rfl, fun _ => rfl, fun _ _ _ => rfl⟩
  sharedApart _ _ := rfl
  keptApart _ _ := rfl
  nearShared := by
    rintro _ ⟨⟩ _ _
    rfl
  nearKept := by
    rintro _ ⟨⟩ _ _
    rfl

def start : Context Listening :=
  Context.initial Timestamp.epoch
    ⟨ByteCache.empty none, { RecordingCache.ofTable Table.empty with failNext := 3 }, ⟨0, []⟩⟩

def written : Run (Context Listening) (Except Failure (Option Bytes)) :=
  (store.perform CallHints.none (.write "A" [1])).run start

def answered : Run (Context Listening) (Except Failure (Option Bytes)) :=
  (store.perform CallHints.none (.read "A")).run written.state

end Listening

/-- A write is tried twice in vain; the read after it is answered from memory, and its
refreshment is tried once. -/
theorem exchanges_of_write_and_read :
    Listening.answered.state.data.shared.operations =
        [.set "A" [1] ⟨none, none, none⟩, .set "A" [1] ⟨none, none, none⟩, .refresh "A"] ∧
      (Listening.written.log ++ Listening.answered.log).filterMap LogEvent.sharedNote? =
        [.failed .write false (Failure.withText .write "mock: l2 write failed"),
          .retrying .write "A",
          .failed .write true (Failure.withText .write "mock: l2 write failed"),
          .failed .refresh false (Failure.withText .read "mock: l2 read failed")] ∧
      Listening.answered.state.data.kept.asked =
        [Failure.withText .write "mock: l2 write failed",
          Failure.withText .read "mock: l2 read failed"] := by
  have fresh : ∀ call now,
      CallHints.none.Uncancelled (Listening.store.work CallHints.none call) now :=
    fun call now => ⟨rfl, CallHints.unstopped_of_no_token _ now _ rfl⟩
  have begun : Listening.store.Served Listening.sharedCell Listening.keptCell Listening.start
      [] [] Listening.start := .start rfl
  have served := (begun.visit CallHints.none (.write "A" [1]) (fresh _ _)).visit
    CallHints.none (.read "A") (fresh _ _)
  obtain ⟨_, operations, notes, _, asked, _⟩ :=
    TieredStore.one_exchange_for_each_call Listening.store Listening.sharedCell
      Listening.keptCell (some Listening.acceptsOnce) Listening.overheard served
  exact ⟨operations.trans (by decide +kernel), notes.trans (by decide +kernel),
    asked.trans (by decide +kernel)⟩

end Rehearsal

end TokenPersistence
