import TokenPersistence.Proofs.Rehearsal.Histories
import TokenPersistence.Proofs.Rehearsal.StoreBench
import TokenPersistence.Proofs.Store.Cancellation

/-!
# The recording doubles are exact replays

The recording store and the recording cache, called like any store and any shared cache and
told in any order what is to fail. At every point of a run the record, the outcomes and the
data fit together: each operation is written down once and in its order, whether it fails or
not; it fails if the predicate in force picks it or the count is not used up, and each
operation uses up one of the count; and the data are what the successful changes make of the
data at the beginning.
-/

namespace TokenPersistence

set_option autoImplicit false

variable {σ ω α : Type}

/-- An operation of a shared cache, with an outcome of one type for all operations. -/
def SharedCache.perform (cache : SharedCache σ) :
    Rehearsal.SharedCall → Routine (Context σ) (Except Failure (Option Bytes))
  | .get key => (cache.get key).run
  | .set key bytes options => do
      let outcome ← (cache.set key bytes options).run
      pure (outcome.map fun _ => none)
  | .refresh key => do
      let outcome ← (cache.refresh key).run
      pure (outcome.map fun _ => none)
  | .remove key => do
      let outcome ← (cache.remove key).run
      pure (outcome.map fun _ => none)

namespace Rehearsal

/-- A call as the recording store writes it down. -/
def StoreOperation.ofCall (hints : CallHints) : StoreCall → StoreOperation
  | .read key => .read key hints.suggestedExpiry
  | .write key bytes => .write key bytes hints.suggestedExpiry
  | .remove key => .remove key hints.suggestedExpiry

instance : Repertoire StoreOperation where
  call?
    | .read key _ => some (.read key)
    | .write key bytes _ => some (.write key bytes)
    | .remove key _ => some (.remove key)
  failure := StoreOperation.failure

instance : Repertoire SharedCall where
  call?
    | .get key => some (.read key)
    | .set key bytes _ => some (.write key bytes)
    | .refresh _ => none
    | .remove key => some (.remove key)
  failure := SharedCall.failure

/-- What comes of an operation on a table is what comes of the call that it is on the blobs of
the table. -/
structure Enacts [Repertoire ω] (asked : ω) (data : Table) (view : α → Option Bytes)
    (result : α × Table) : Prop where
  answer : view result.1 = (Repertoire.call? asked).bind fun call => call.answer data.get?
  effect : result.2.get? =
    (Repertoire.call? asked).elim data.get? fun call => call.effect data.get?

namespace RecordingStore

/-- No count is kept, so that only the predicate makes operations fail. -/
def recording (store : RecordingStore) : Recording StoreOperation :=
  ⟨store.data.get?, store.operations, store.failsWhen, 0⟩

theorem fails_iff (store : RecordingStore) (asked : StoreOperation) :
    store.recording.Fails asked ↔ store.fails asked = true := by
  simp [Recording.Fails, recording, fails]

theorem follows_perform (store : RecordingStore) (asked : StoreOperation)
    (effect : Table → α × Table) (view : α → Option Bytes)
    (enacts : Enacts asked store.data view (effect store.data)) :
    Follows store.recording
      (.operation asked (.returned (Except.map view (store.perform asked effect).1)))
      (store.perform asked effect).2.recording := by
  unfold perform
  split
  · next fails => exact follows_failed (store.fails_iff asked |>.mpr fails)
  · next succeeds =>
      exact follows_succeeded (mt (store.fails_iff asked).mp succeeds) enacts.effect
        enacts.answer

/-- What can happen to a recording store in a cell. -/
inductive Leads (cell : Cell σ RecordingStore) (now : Context σ) :
    Occurrence StoreOperation → Context σ → Prop where
  | call (hints : CallHints) (call : StoreCall) :
      Leads cell now
        (.operation (StoreOperation.ofCall hints call)
          (((toStore cell).perform hints call).run now).ending)
        (((toStore cell).perform hints call).run now).state
  | failWhen (predicate : StoreOperation → Bool) :
      Leads cell now (.failWhen predicate)
        ((cell.modify (RecordingStore.failWhen predicate)).run now).state
  | clearFailures :
      Leads cell now .clearFailures ((cell.modify RecordingStore.clearFailures).run now).state
  | clearOperations :
      Leads cell now .clearOperations
        ((cell.modify RecordingStore.clearOperations).run now).state

theorem Leads.follows {cell : Cell σ RecordingStore} (lawful : cell.Lawful)
    {now later : Context σ} {occurrence : Occurrence StoreOperation}
    (leads : Leads cell now occurrence later) :
    Follows (cell.get now.data).recording occurrence (cell.get later.data).recording := by
  cases leads with
  | call hints call =>
      cases call with
      | read key =>
          have read := (cell.get now.data).follows_perform (.read key hints.suggestedExpiry)
            (fun data => (data.get? key, data)) id ⟨rfl, rfl⟩
          rw [Except.map_id] at read
          exact read.put lawful now.data
      | write key bytes =>
          have written := (cell.get now.data).follows_perform
            (.write key bytes hints.suggestedExpiry) (fun data => ((), data.insert key bytes))
            (fun _ => none) ⟨rfl, get_insert_eq_update _ key bytes⟩
          exact written.put lawful now.data
      | remove key =>
          have removed := (cell.get now.data).follows_perform
            (.remove key hints.suggestedExpiry) (fun data => ((), data.erase key))
            (fun _ => none) ⟨rfl, get_erase_eq_update _ key⟩
          exact removed.put lawful now.data
  | failWhen predicate => exact (follows_told rfl).put lawful now.data
  | clearFailures => exact (follows_told rfl).put lawful now.data
  | clearOperations => exact (follows_told rfl).put lawful now.data

theorem replays {cell : Cell σ RecordingStore} (lawful : cell.Lawful) {start now : Context σ}
    {history : List (Occurrence StoreOperation)}
    (undergone : Undergone cell (Leads cell) start history now) :
    Replays (cell.get start.data).recording history (cell.get now.data).recording :=
  undergone.replays fun leads => leads.follows lawful

theorem fails_after_iff {cell : Cell σ RecordingStore} (lawful : cell.Lawful)
    {start now : Context σ} {history before : List (Occurrence StoreOperation)}
    (undergone : Undergone cell (Leads cell) start history now) (begun : before <+: history)
    (asked : StoreOperation) :
    ((cell.get start.data).recording.after before).Fails asked ↔
      (((cell.get start.data).recording.after before).failsWhen.any fun predicate =>
        predicate asked) = true := by
  obtain ⟨earlier, reached⟩ := undergone.earlier begun
  rw [← (replays lawful reached).keeps]
  simp [Recording.Fails, recording]

end RecordingStore

namespace RecordingCache

def recording (cache : RecordingCache) : Recording SharedCall :=
  ⟨cache.data.get?, cache.operations, cache.failsWhen, cache.failNext⟩

theorem fails_iff (cache : RecordingCache) (asked : SharedCall) :
    cache.recording.Fails asked ↔ cache.fails asked = true := by
  simp [Recording.Fails, recording, fails, or_comm]

theorem follows_perform (cache : RecordingCache) (asked : SharedCall)
    (effect : Table → α × Table) (view : α → Option Bytes)
    (enacts : Enacts asked cache.data view (effect cache.data)) :
    Follows cache.recording
      (.operation asked (.returned (Except.map view (cache.perform asked effect).1)))
      (cache.perform asked effect).2.recording := by
  unfold perform
  split
  · next fails => exact follows_failed (cache.fails_iff asked |>.mpr fails)
  · next succeeds =>
      exact follows_succeeded (mt (cache.fails_iff asked).mp succeeds) enacts.effect
        enacts.answer

/-- What can happen to a recording cache in a cell. -/
inductive Leads (cell : Cell σ RecordingCache) (now : Context σ) :
    Occurrence SharedCall → Context σ → Prop where
  | call (asked : SharedCall) :
      Leads cell now
        (.operation asked (((toSharedCache cell).perform asked).run now).ending)
        (((toSharedCache cell).perform asked).run now).state
  | failWhen (predicate : SharedCall → Bool) :
      Leads cell now (.failWhen predicate)
        ((cell.modify (RecordingCache.failWhen predicate)).run now).state
  | failNext (count : Nat) :
      Leads cell now (.failNext count)
        ((cell.modify (RecordingCache.failNextCalls count)).run now).state
  | clearFailures :
      Leads cell now .clearFailures ((cell.modify RecordingCache.clearFailures).run now).state
  | clearOperations :
      Leads cell now .clearOperations
        ((cell.modify RecordingCache.clearOperations).run now).state

theorem Leads.follows {cell : Cell σ RecordingCache} (lawful : cell.Lawful)
    {now later : Context σ} {occurrence : Occurrence SharedCall}
    (leads : Leads cell now occurrence later) :
    Follows (cell.get now.data).recording occurrence (cell.get later.data).recording := by
  cases leads with
  | call asked =>
      cases asked with
      | get key =>
          have read := (cell.get now.data).follows_perform (.get key)
            (fun data => (data.get? key, data)) id ⟨rfl, rfl⟩
          rw [Except.map_id] at read
          exact read.put lawful now.data
      | set key bytes options =>
          have written := (cell.get now.data).follows_perform (.set key bytes options)
            (fun data => ((), data.insert key bytes)) (fun _ => none)
            ⟨rfl, get_insert_eq_update _ key bytes⟩
          exact written.put lawful now.data
      | refresh key =>
          have refreshed := (cell.get now.data).follows_perform (.refresh key)
            (fun data => ((), data)) (fun _ => none) ⟨rfl, rfl⟩
          exact refreshed.put lawful now.data
      | remove key =>
          have removed := (cell.get now.data).follows_perform (.remove key)
            (fun data => ((), data.erase key)) (fun _ => none)
            ⟨rfl, get_erase_eq_update _ key⟩
          exact removed.put lawful now.data
  | failWhen predicate => exact (follows_told rfl).put lawful now.data
  | failNext count => exact (follows_told rfl).put lawful now.data
  | clearFailures => exact (follows_told rfl).put lawful now.data
  | clearOperations => exact (follows_told rfl).put lawful now.data

theorem replays {cell : Cell σ RecordingCache} (lawful : cell.Lawful) {start now : Context σ}
    {history : List (Occurrence SharedCall)}
    (undergone : Undergone cell (Leads cell) start history now) :
    Replays (cell.get start.data).recording history (cell.get now.data).recording :=
  undergone.replays fun leads => leads.follows lawful

end RecordingCache

/-- Whatever has happened to a recording store or to a recording cache, what they have written
down, their data and the outcomes are those of the history, and a read that has succeeded has
given what the data were under its key. An operation of the store fails if and only if the
predicate in force picks it. One of the cache fails if and only if the predicate picks it or
the count is not used up; so the operations that follow on a count fail, as many as it says,
unless another count is given or the failures are cleared. -/
theorem doubles_replay_histories :
    (∀ cell : Cell σ RecordingStore, cell.Lawful →
      ∀ {start now : Context σ} {history : List (Occurrence StoreOperation)},
        Undergone cell (RecordingStore.Leads cell) start history now →
          let first := (cell.get start.data).recording
          Replays first history (cell.get now.data).recording ∧
            (∀ before key expiry answer,
              before ++ [.operation (.read key expiry) (.returned (.ok answer))] <+: history →
                answer = (first.after before).blobs key) ∧
            ∀ before asked ending, before ++ [.operation asked ending] <+: history →
              ((∃ failure, ending = .returned (.error failure)) ↔
                ((first.after before).failsWhen.any fun predicate => predicate asked) = true)) ∧
    ∀ cell : Cell σ RecordingCache, cell.Lawful →
      ∀ {start now : Context σ} {history : List (Occurrence SharedCall)},
        Undergone cell (RecordingCache.Leads cell) start history now →
          let first := (cell.get start.data).recording
          Replays first history (cell.get now.data).recording ∧
            (∀ before key answer,
              before ++ [.operation (.get key) (.returned (.ok answer))] <+: history →
                answer = (first.after before).blobs key) ∧
            (∀ before asked ending, before ++ [.operation asked ending] <+: history →
              ((∃ failure, ending = .returned (.error failure)) ↔
                ((first.after before).failsWhen.any fun predicate => predicate asked) = true ∨
                  0 < (first.after before).failNext)) ∧
            ∀ before count between asked ending,
              before ++ .failNext count :: between ++ [.operation asked ending] <+: history →
              (∀ occurrence ∈ between, occurrence.count? = none) →
              (Occurrence.operations between).length < count →
                ending = .returned (.error asked.failure) := by
  constructor
  · intro cell lawful start now history undergone first
    have replays := RecordingStore.replays lawful undergone
    refine ⟨replays, fun before key expiry answer begun => replays.answered begun, ?_⟩
    intro before asked ending begun
    rw [replays.failed_iff begun]
    exact RecordingStore.fails_after_iff lawful undergone ((List.prefix_append _ _).trans begun)
      asked
  · intro cell lawful start now history undergone first
    have replays := RecordingCache.replays lawful undergone
    refine ⟨replays, fun before key answer begun => replays.answered begun,
      fun before asked ending begun => replays.failed_iff begun, ?_⟩
    intro before count between asked ending begun untouched few
    have left := first.fail_next_after_count before between count untouched
    have fails : (first.after (before ++ .failNext count :: between)).Fails asked := by
      right
      omega
    rw [replays.ends _ asked ending begun, Recording.outcome, if_pos fails]
    rfl

def benchSharedRecorder : Cell Bench RecordingCache :=
  Bench.sharedCell.inside ScriptedCache.recording

theorem bench_shared_recorder_lawful : benchSharedRecorder.Lawful :=
  Bench.shared_lawful.inside ScriptedCache.recording_lawful

/-- A write to the store is picked by a predicate and made again once that is cleared; then
removals are picked. Of the cache the removals are picked and two operations are to fail: a
removal that is picked anyway uses up one of them, and a write the other. -/
theorem doubles_replay_mixed_failures :
    (∃ history now,
      Undergone (benchRecorder 0) (RecordingStore.Leads (benchRecorder 0))
          (benchLeftover fun _ => false) history now ∧
        Occurrence.operations history =
          [.write "A" [1] none, .write "A" [2] none, .remove "A" none, .read "A" none] ∧
        history.filterMap Occurrence.success? = [.write "A" [2] none, .read "A" none] ∧
        ((benchRecorder 0).get now.data).operations = Occurrence.operations history ∧
        ((benchRecorder 0).get now.data).data.get? "A" = some [2]) ∧
    ∃ history now,
      Undergone benchSharedRecorder (RecordingCache.Leads benchSharedRecorder)
          (benchStart TieredOptions.standard (Table.ofList [("A", [7])])) history now ∧
        Occurrence.operations history =
          [.remove "A", .set "A" [1] ⟨none, none, none⟩, .get "A", .remove "A", .refresh "A"] ∧
        history.filterMap Occurrence.success? = [.get "A", .refresh "A"] ∧
        history[3]? = some (.operation (.set "A" [1] ⟨none, none, none⟩)
          (.returned (.error (Failure.withText .write "mock: l2 write failed")))) ∧
        (benchSharedRecorder.get now.data).operations = Occurrence.operations history ∧
        (benchSharedRecorder.get now.data).data.get? "A" = some [7] := by
  have started : Undergone (benchRecorder 0) (RecordingStore.Leads (benchRecorder 0))
      (benchLeftover fun _ => false) [] (benchLeftover fun _ => false) := .start
  have refused := (started.next (.failWhen fun asked => asked.activity == .write)).next
    (.call CallHints.none (.write "A" [1]))
  have written := (refused.next .clearFailures).next (.call CallHints.none (.write "A" [2]))
  have kept := (written.next (.failWhen fun asked => asked.activity == .remove)).next
    (.call CallHints.none (.remove "A"))
  have stored := kept.next (.call CallHints.none (.read "A"))
  have begun : Undergone benchSharedRecorder (RecordingCache.Leads benchSharedRecorder)
      (benchStart TieredOptions.standard (Table.ofList [("A", [7])])) []
      (benchStart TieredOptions.standard (Table.ofList [("A", [7])])) := .start
  have counting := (begun.next (.failWhen fun asked => asked.operation == .remove)).next
    (.failNext 2)
  have exhausted := (counting.next (.call (.remove "A"))).next
    (.call (.set "A" [1] ⟨none, none, none⟩))
  have picking := (exhausted.next (.call (.get "A"))).next (.call (.remove "A"))
  have shared := picking.next (.call (.refresh "A"))
  obtain ⟨storeReplays, _⟩ := doubles_replay_histories.1 (benchRecorder 0)
    (NodeSetup.cell_lawful 0 NodeData.store_lawful) stored
  obtain ⟨cacheReplays, _, _, counted⟩ := doubles_replay_histories.2 benchSharedRecorder
    bench_shared_recorder_lawful shared
  have lost := counted [.failWhen _] 2 [.operation (.remove "A") _]
    (.set "A" [1] ⟨none, none, none⟩) _ ⟨[.operation _ _, .operation _ _, .operation _ _], rfl⟩
    (by simp [Occurrence.count?]) (by decide)
  refine ⟨⟨_, _, stored, by decide +kernel, by decide +kernel, ?_, ?_⟩,
    ⟨_, _, shared, by decide +kernel, by decide +kernel, ?_, ?_, ?_⟩⟩
  · exact (congrArg Recording.operations storeReplays.keeps).trans (by decide +kernel)
  · exact (congrFun (congrArg Recording.blobs storeReplays.keeps) "A").trans (by decide +kernel)
  · exact congrArg (fun ending => some (Occurrence.operation _ ending)) lost
  · exact (congrArg Recording.operations cacheReplays.keeps).trans (by decide +kernel)
  · exact (congrFun (congrArg Recording.blobs cacheReplays.keeps) "A").trans (by decide +kernel)

end Rehearsal

end TokenPersistence
