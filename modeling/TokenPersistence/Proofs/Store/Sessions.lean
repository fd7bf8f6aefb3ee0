import Mathlib.Data.List.Forall2
import TokenPersistence.Proofs.Store.Blindness
import TokenPersistence.Proofs.Store.Hits

/-!
# Sessions that differ in the content of blobs

A store is given numbered tasks, which are polled in any order; between two polls time may
pass, tokens may be cancelled, and data may change. Two sessions are led alike if blobs of
equal length stand in the same places, in the data at the start and in what is written.
They cannot be told apart by what is logged, by the calls of the shared cache but for the bytes
that are written, by where reads find something and how long it is, or by the levels that sinks
show.
-/

namespace TokenPersistence

set_option autoImplicit false

open Context (Alike)
open Rehearsal (SharedCall)
open Routine

variable {σ τ α γ : Type}

theorem StoreCall.eq_or_writes_of_blank {first second : StoreCall}
    (blank : first.blank = second.blank) :
    first = second ∨ ∃ key bytes bytesToo, first = .write key bytes ∧
      second = .write key bytesToo ∧ bytes.length = bytesToo.length := by
  cases first with
  | read key =>
      cases second with
      | read other => exact .inl blank
      | _ => cases blank
  | write key bytes =>
      cases second with
      | write keyToo bytesToo =>
          simp only [StoreCall.blank, StoreCall.write.injEq, Bytes.blank_eq_iff] at blank
          obtain ⟨rfl, lengths⟩ := blank
          exact .inr ⟨key, bytes, bytesToo, rfl, rfl, lengths⟩
      | _ => cases blank
  | remove key =>
      cases second with
      | remove other => exact .inl blank
      | _ => cases blank

theorem PartitionStore.like_perform {store : PartitionStore σ} {same : σ → σ → Prop}
    (hints : CallHints)
    (read : ∀ key, (store.read key hints).run.Like (Alike same) answerLength
      (store.read key hints).run)
    (write : ∀ key first second, first.length = second.length →
      (store.write key first hints).run.Like (Alike same) (Except.map id)
        (store.write key second hints).run)
    (remove : ∀ key, (store.remove key hints).run.Like (Alike same) (Except.map id)
      (store.remove key hints).run)
    {first second : StoreCall} (blank : first.blank = second.blank) :
    (store.perform hints first).Like (Alike same) answerLength (store.perform hints second) := by
  have changed : ∀ {call callToo : Call σ Unit},
      call.run.Like (Alike same) (Except.map id) callToo.run →
        (call.run.bind fun outcome => done (outcome.map fun _ => none)).Like (Alike same)
          answerLength (callToo.run.bind fun outcome => done (outcome.map fun _ => none)) := by
    intro call callToo like
    apply like.bind
    intro outcome other seen
    rcases outcomes_of_view seen with ⟨_, _, rfl, rfl, _⟩ | ⟨failure, rfl, rfl⟩ <;>
      exact like_done rfl
  rcases StoreCall.eq_or_writes_of_blank blank with rfl | ⟨key, bytes, bytesToo, rfl, rfl, lengths⟩
  · cases first with
    | read key => exact read key
    | write key bytes => exact changed (write key bytes bytes rfl)
    | remove key => exact changed (remove key)
  · exact changed (write key bytes bytesToo lengths)

namespace AnyStore

variable {store : AnyStore σ} {same : σ → σ → Prop} {journal : Cell σ (List SharedCall)}

def noted (journal : Cell σ (List SharedCall)) : AnyStore σ → AnyStore σ
  | memory store => memory store
  | tiered store => tiered { store with l2 := store.l2.noted journal }

def Blind : AnyStore σ → (σ → σ → Prop) → Prop
  | memory store, same => store.cache.Blurs ByteCache.blank same
  | tiered store, same => store.Blind same

theorem Blind.noted (blind : store.Blind same)
    (blurs : journal.Blurs (List.map SharedCall.blank) same) :
    (store.noted journal).Blind same := by
  cases store with
  | memory store => exact blind
  | tiered store =>
      have blind : store.Blind same := blind
      exact { blind with shared := blind.shared.noted blurs }

theorem Blind.like_perform (blind : store.Blind same) (hints : CallHints)
    {first second : StoreCall} (blank : first.blank = second.blank) :
    (store.toStore.perform hints first).Like (Alike same) answerLength
      (store.toStore.perform hints second) := by
  cases store with
  | memory store =>
      have blurs : store.cache.Blurs ByteCache.blank same := blind
      apply PartitionStore.like_perform hints _ _ _ blank
      · exact fun key => MemoryStore.like_read blurs key hints
      · exact fun key _ _ lengths => MemoryStore.like_write blurs key lengths hints
      · exact fun key => (twins_erase blurs key).like.lift.cancellable hints .remove
  | tiered store =>
      have blind : store.Blind same := blind
      apply PartitionStore.like_perform hints _ _ _ blank
      · exact fun key => (blind.like_read_levels key hints).lift.cancellable hints .read
      · exact fun key _ _ lengths =>
          (blind.twins_write_levels key lengths hints).like.lift.cancellable hints .write
      · exact fun key => (blind.twins_remove_levels key).like.lift.cancellable hints .remove

theorem Blind.like_task (blind : store.Blind same) {task taskToo : StoreTask}
    (blank : task.blank = taskToo.blank) :
    (store.carryOut task).Like (Alike same) answerLength (store.carryOut taskToo) := by
  cases task with
  | call hints asked =>
      cases taskToo with
      | call hintsToo askedToo =>
          obtain ⟨rfl, calls⟩ := StoreTask.call.inj blank
          exact blind.like_perform hints calls
      | job jobToo => cases blank
  | job job =>
      cases taskToo with
      | call hintsToo askedToo => cases blank
      | job jobToo =>
          cases store with
          | memory store => exact like_done rfl
          | tiered store =>
              have blind : store.Blind same := blind
              exact (blind.twins_write_shared (StoreTask.job.inj blank)).then_like
                fun _ => like_done rfl

end AnyStore

/-- Where the last poll of each task has left it, and all that has been logged. -/
structure Session (σ : Type) where
  now : Context σ
  tasks : Nat → Option (Progress (Context σ) (Except Failure (Option Bytes)))
  log : List LogEvent

/-- What is done next. A task that is dropped is not polled any more. -/
inductive Turn (σ : Type) where
  | between (change : Context σ → Context σ)
  | begin (number : Nat) (task : StoreTask)
  | poll (number : Nat)

/-- How a task has ended, with no more of its answer than the length. -/
def Progress.shown (progress : Progress σ (Except Failure (Option Bytes))) :
    Option (Except Panic (Except Failure (Option Nat))) :=
  match progress with
  | .returned outcome => some (.ok (answerLength outcome))
  | .panicked payload => some (.error payload)
  | .pending .. => none

namespace Session

def start (now : Context σ) : Session σ := ⟨now, fun _ => none, []⟩

def poll (session : Session σ) (number : Nat)
    (rest : Routine (Context σ) (Except Failure (Option Bytes))) : Session σ where
  now := (rest.poll session.now).state
  tasks := Function.update session.tasks number (some (rest.poll session.now).progress)
  log := session.log ++ (rest.poll session.now).log

/-- A task that has ended, or has not begun, is not polled. -/
def resume (session : Session σ) (number : Nat) :
    Option (Progress (Context σ) (Except Failure (Option Bytes))) → Session σ
  | some (.pending _ rest) => session.poll number rest
  | some (.returned _) | some (.panicked _) | none => session

def shown (session : Session σ) (number : Nat) :
    Option (Option (Except Panic (Except Failure (Option Nat)))) :=
  (session.tasks number).map Progress.shown

/-- Sessions that differ in the content of blobs at most. -/
structure Alike (same : σ → σ → Prop) (first second : Session σ) : Prop where
  now : Context.Alike same first.now second.now
  tasks : ∀ number, Option.Rel (LikeProgress (Context.Alike same) answerLength)
    (first.tasks number) (second.tasks number)
  log : first.log = second.log

variable {same : σ → σ → Prop} {first second : Session σ}

theorem alike_start {now other : Context σ} (alike : Context.Alike same now other) :
    Alike same (start now) (start other) :=
  ⟨alike, fun _ => .none, rfl⟩

theorem Alike.poll (alike : Alike same first second) (number : Nat)
    {rest other : Routine (Context σ) (Except Failure (Option Bytes))}
    (like : rest.Like (Context.Alike same) answerLength other) :
    Alike same (first.poll number rest) (second.poll number other) := by
  obtain ⟨progress, logged, states⟩ := like.poll alike.now
  refine ⟨states, fun asked => ?_, ?_⟩
  · by_cases here : asked = number
    · subst here
      simp only [Session.poll, Function.update_self]
      exact .some progress
    · simp only [Session.poll, Function.update_of_ne here]
      exact alike.tasks asked
  · simp only [Session.poll, alike.log, logged]

theorem Alike.resume (alike : Alike same first second) (number : Nat)
    {task taskToo : Option (Progress (Context σ) (Except Failure (Option Bytes)))}
    (tasks : Option.Rel (LikeProgress (Context.Alike same) answerLength) task taskToo) :
    Alike same (first.resume number task) (second.resume number taskToo) := by
  cases tasks with
  | none => exact alike
  | some progress =>
      cases progress with
      | returned seen => exact alike
      | panicked payload => exact alike
      | pending like => exact alike.poll number like

theorem Alike.shown (alike : Alike same first second) (number : Nat) :
    first.shown number = second.shown number := by
  have tasks := alike.tasks number
  unfold Session.shown
  generalize first.tasks number = task at tasks
  generalize second.tasks number = taskToo at tasks
  cases tasks with
  | none => rfl
  | some progress =>
      cases progress with
      | returned seen => exact congrArg (fun length => some (some (Except.ok length))) seen
      | panicked payload => rfl
      | pending like => rfl

end Session

/-- Turns that do the same, but for the content of blobs. -/
inductive Turn.Alike (same : σ → σ → Prop) : Turn σ → Turn σ → Prop where
  | between {change changeToo : Context σ → Context σ}
      (alike : ∀ first second, Context.Alike same first second →
        Context.Alike same (change first) (changeToo second)) :
      Turn.Alike same (.between change) (.between changeToo)
  | begin (number : Nat) {task taskToo : StoreTask} (blank : task.blank = taskToo.blank) :
      Turn.Alike same (.begin number task) (.begin number taskToo)
  | poll (number : Nat) : Turn.Alike same (.poll number) (.poll number)

namespace AnyStore

def turn (store : AnyStore σ) (session : Session σ) : Turn σ → Session σ
  | .between change => { session with now := change session.now }
  | .begin number task => session.poll number (store.carryOut task)
  | .poll number => session.resume number (session.tasks number)

def play (store : AnyStore σ) (now : Context σ) (turns : List (Turn σ)) : Session σ :=
  turns.foldl store.turn (Session.start now)

variable {store : AnyStore σ} {same : σ → σ → Prop} {journal : Cell σ (List SharedCall)}

namespace Blind

variable (blind : store.Blind same)

include blind

theorem alike_turn {first second : Session σ} (alike : Session.Alike same first second)
    {turn turnToo : Turn σ} (turns : Turn.Alike same turn turnToo) :
    Session.Alike same (store.turn first turn) (store.turn second turnToo) := by
  cases turns with
  | between changes => exact { alike with now := changes _ _ alike.now }
  | begin number blank => exact alike.poll number (blind.like_task blank)
  | poll number => exact alike.resume number (alike.tasks number)

theorem alike_turns {turns turnsToo : List (Turn σ)}
    (pairs : List.Forall₂ (Turn.Alike same) turns turnsToo) {first second : Session σ}
    (alike : Session.Alike same first second) :
    Session.Alike same (turns.foldl store.turn first) (turnsToo.foldl store.turn second) := by
  induction pairs generalizing first second with
  | nil => exact alike
  | cons pair pairs ih => exact ih (blind.alike_turn alike pair)

end Blind

/-- Two sessions on a store in memory or on a tiered store whose data and written blobs differ
in the content of blobs only: the same is logged, the shared cache is called in the same way but
for the bytes that are written, tasks end at the same turns and in the same way but for the
content of what reads find, and all sinks show the same levels. -/
theorem content_never_shows (blind : store.Blind same)
    (blurs : journal.Blurs (List.map SharedCall.blank) same) {now other : Context σ}
    (starts : Alike same now other) {turns turnsToo : List (Turn σ)}
    (pairs : List.Forall₂ (Turn.Alike same) turns turnsToo) :
    let first := (store.noted journal).play now turns
    let second := (store.noted journal).play other turnsToo
    first.log = second.log ∧
      (journal.get first.now.data).map SharedCall.blank =
        (journal.get second.now.data).map SharedCall.blank ∧
      (∀ number, first.shown number = second.shown number) ∧
      first.now.levels = second.now.levels := by
  have alike := (blind.noted blurs).alike_turns pairs (Session.alike_start starts)
  exact ⟨alike.log, blurs.get _ _ alike.now.data, alike.shown, alike.now.levels⟩

end AnyStore

namespace Rehearsal

def sizes (table : Table) : String → Option Nat := Option.map List.length ∘ table.get?

theorem sizes_insert (table : Table) (key : String) (bytes : Bytes) :
    sizes (table.insert key bytes) = Function.update (sizes table) key (some bytes.length) := by
  rw [sizes, get_insert_eq_update, Function.comp_update]
  rfl

theorem sizes_erase (table : Table) (key : String) :
    sizes (table.erase key) = Function.update (sizes table) key none := by
  rw [sizes, get_erase_eq_update, Function.comp_update]
  rfl

namespace RecordingCache

/-- Recording caches that differ in the content of blobs at most, and of which the same
operations fail, whatever they are to write. -/
structure Alike (first second : RecordingCache) : Prop where
  data : sizes first.data = sizes second.data
  operations : first.operations.map SharedCall.blank = second.operations.map SharedCall.blank
  fails : ∀ call other : SharedCall, call.blank = other.blank →
    (first.failsWhen.any fun predicate => predicate call) =
      second.failsWhen.any fun predicate => predicate other
  failNext : first.failNext = second.failNext

theorem Alike.perform {first second : RecordingCache} (alike : Alike first second)
    {operation operationToo : SharedCall} (blank : operation.blank = operationToo.blank)
    {effect effectToo : Table → α × Table} {view : α → γ}
    (answers : view (effect first.data).1 = view (effectToo second.data).1)
    (data : sizes (effect first.data).2 = sizes (effectToo second.data).2) :
    Except.map view (first.perform operation effect).1 =
        Except.map view (second.perform operationToo effectToo).1 ∧
      Alike (first.perform operation effect).2 (second.perform operationToo effectToo).2 := by
  have fails : first.fails operation = second.fails operationToo := by
    rw [RecordingCache.fails, alike.failNext, alike.fails _ _ blank, RecordingCache.fails]
  have failure : ∀ call : SharedCall, call.blank.failure = call.failure := by
    intro call
    cases call <;> rfl
  have recorded : (first.operations ++ [operation]).map SharedCall.blank =
      (second.operations ++ [operationToo]).map SharedCall.blank := by
    simp only [List.map_append, alike.operations, List.map_cons, blank, List.map_nil]
  unfold RecordingCache.perform
  rw [fails]
  split
  · refine ⟨?_, alike.data, recorded, alike.fails, congrArg (· - 1) alike.failNext⟩
    rw [← failure operation, blank, failure]
  · exact ⟨congrArg Except.ok answers, data, recorded, alike.fails, congrArg (· - 1) alike.failNext⟩

variable {cell : Cell σ RecordingCache} {same : σ → σ → Prop}

theorem like_step (carries : cell.Carries Alike same) {view : α → γ}
    {transition other : RecordingCache → α × RecordingCache}
    (alike : ∀ first second, Alike first second →
      view (transition first).1 = view (other second).1 ∧
        Alike (transition first).2 (other second).2) :
    (cell.step transition).Like (Context.Alike same) view (cell.step other) := by
  apply Routine.like_step
  intro first second start
  obtain ⟨answers, states⟩ := alike _ _ (carries.get _ _ start.data)
  exact ⟨answers, { start with data := carries.put _ _ _ _ states start.data }⟩

theorem to_shared_cache_blind (carries : cell.Carries Alike same) :
    (toSharedCache cell).Blind same where
  get key := like_step carries fun first second alike =>
    alike.perform rfl (congrFun alike.data key) alike.data
  set key bytes bytesToo options lengths := by
    have blank : (SharedCall.set key bytes options).blank =
        (SharedCall.set key bytesToo options).blank := by
      simp only [SharedCall.blank, Bytes.blank_eq_iff.mpr lengths]
    apply Routine.Like.twins
    apply like_step carries
    intro first second alike
    apply alike.perform blank rfl
    rw [sizes_insert, sizes_insert, alike.data, lengths]
  refresh key := by
    apply Routine.Like.twins
    exact like_step carries fun first second alike => alike.perform rfl rfl alike.data
  remove key := by
    apply Routine.Like.twins
    apply like_step carries
    intro first second alike
    apply alike.perform rfl rfl
    rw [sizes_erase, sizes_erase, alike.data]

end RecordingCache

/-- Benches whose first nodes, and shared caches, differ in the content of blobs at most. -/
structure Bench.Alike (first second : Bench) : Prop where
  near : (first.nodes 0).cache.blank = (second.nodes 0).cache.blank
  shared : first.shared.cache.Alike second.shared.cache
  calls : first.shared.calls.map SharedCall.blank = second.shared.calls.map SharedCall.blank

theorem bench_tiered_blind (options : TieredOptions) :
    (benchTiered options none).Blind Bench.Alike where
  near l1 enabled := by
    cases enabled
    exact ⟨fun _ _ alike => alike.near, fun _ _ _ _ near alike => { alike with near }⟩
  shared := RecordingCache.to_shared_cache_blind
    ⟨fun _ _ alike => alike.shared, fun _ _ _ _ shared alike => { alike with shared }⟩
  retry _ asks := by cases asks
  spawner _ spawns := by cases spawns

/-- The script of the bench is not used; its list of calls is at hand for a journal. -/
def benchJournal : Cell Bench (List SharedCall) where
  get bench := bench.shared.calls
  put calls bench := { bench with shared := { bench.shared with calls } }

theorem bench_journal_blurs : benchJournal.Blurs (List.map SharedCall.blank) Bench.Alike :=
  ⟨fun _ _ alike => alike.calls, fun _ _ _ _ calls alike => { alike with calls }⟩

/-- An entry is read twice, and another one is written, read, and removed. -/
def benchTurns (written : Bytes) : List (Turn Bench) :=
  [.begin 0 (hostRead "A"), .begin 1 (hostRead "A"),
    .begin 2 (.call CallHints.none (.write "B" written)), .begin 3 (hostRead "B"),
    .begin 4 (.call CallHints.none (.remove "B"))]

def benchSession (found written : Bytes) : Session Bench :=
  ((AnyStore.tiered (benchTiered TieredOptions.standard none)).noted benchJournal).play
    (benchStart TieredOptions.standard (Table.ofList [("A", found)])) (benchTurns written)

theorem benches_show_no_content :
    let first := benchSession [7] [1]
    let second := benchSession [9] [2]
    (first.log = second.log ∧ first.shown 3 = second.shown 3 ∧
        first.now.levels = second.now.levels) ∧
      first.shown 3 = some (some (.ok (.ok (some 1)))) ∧
      (benchJournal.get first.now.data).map SharedCall.name =
        ["get", "refresh", "set", "refresh", "remove"] := by
  have sizes : sizes (Table.ofList [("A", [7])]) = sizes (Table.ofList [("A", [9])]) :=
    (sizes_insert Table.empty "A" [7]).trans (sizes_insert Table.empty "A" [9]).symm
  have starts : Context.Alike Bench.Alike
      (benchStart TieredOptions.standard (Table.ofList [("A", [7])]))
      (benchStart TieredOptions.standard (Table.ofList [("A", [9])])) :=
    ⟨rfl, rfl, rfl, rfl, rfl, rfl, rfl, ⟨rfl, ⟨sizes, rfl, fun _ _ _ => rfl, rfl⟩, rfl⟩⟩
  have pairs : List.Forall₂ (Turn.Alike Bench.Alike) (benchTurns [1]) (benchTurns [2]) :=
    .cons (.begin 0 rfl) (.cons (.begin 1 rfl) (.cons (.begin 2 rfl) (.cons (.begin 3 rfl)
      (.cons (.begin 4 rfl) .nil))))
  have blind : (AnyStore.tiered (benchTiered TieredOptions.standard none)).Blind Bench.Alike :=
    bench_tiered_blind TieredOptions.standard
  obtain ⟨logs, _, shown, levels⟩ :=
    AnyStore.content_never_shows blind bench_journal_blurs starts pairs
  exact ⟨⟨logs, shown 3, levels⟩, by decide +kernel, by decide +kernel⟩

end Rehearsal

end TokenPersistence
