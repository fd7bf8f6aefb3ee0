import TokenPersistence.Proofs.Routine.Silence
import TokenPersistence.Proofs.Store.Tasks

/-!
# Sinks show the level of the last hit

A store tells the sink of a read where it found the blob, and does so in the very poll in
which the read ends with it. Nothing else that stores do is told to any sink: misses, reads
that fail, panic or are cancelled, writes, removals and background writes are silent.
-/

namespace TokenPersistence

set_option autoImplicit false

open Routine

variable {σ α : Type}

def CallHints.found (hints : CallHints) (level : CacheLevel) : Option Bytes → List Telling
  | some _ => hints.telling level
  | .none => []

/-- What a task tells with what it ends with, if its entry was found at this level. -/
def StoreTask.tells (level : CacheLevel) (task : StoreTask) :
    Except Failure (Option Bytes) → List Telling :=
  match task with
  | .call hints (.read _) => unlessFailed (hints.found level)
  | .call _ (.write ..) | .call _ (.remove _) | .job _ => fun _ => []

namespace TieredStore

/-- Neither the shared cache nor the retry predicate nor the spawner knows the sinks. -/
structure Discreet (store : TieredStore σ) : Prop where
  get : ∀ key, (store.l2.get key).run.Silent
  set : ∀ key bytes options, (store.l2.set key bytes options).run.Silent
  refresh : ∀ key, (store.l2.refresh key).run.Silent
  remove : ∀ key, (store.l2.remove key).run.Silent
  retry : ∀ predicate, store.retry = some predicate → ∀ failure, (predicate failure).Silent
  spawner : ∀ spawner, store.spawner = some spawner → ∀ job, (spawner job).Silent

variable {store : TieredStore σ}

theorem silent_attempt_shared (operation : SharedOperation) (key : String) (size : α → Nat)
    (retry : Bool) {work : Call σ α} (silent : work.run.Silent) :
    (attemptShared operation key size retry work).Silent := by
  unfold attemptShared
  apply silent_closed.bind silent.timed
  intro timed
  obtain ⟨outcome, duration⟩ := timed
  cases outcome <;> exact fun _ => trivial

theorem silent_write_near (store : TieredStore σ) (key : String) (bytes : Bytes)
    (hints : CallHints) : (store.writeNear key bytes hints).Silent := by
  unfold writeNear
  cases store.l1 with
  | none => exact silent_closed.done ()
  | some l1 =>
      have inserted : ∀ expiry, Routine.Silent (do
          l1.insert key bytes expiry
          l1.logAccess .write key bytes.length) :=
        fun expiry now => ⟨rfl, trivial⟩
      apply silent_closed.bind _ inserted
      unfold currentL1Expiry
      cases store.deadline? hints with
      | none => exact silent_closed.done _
      | some deadline => exact silent_with_clock fun now => silent_closed.done _

namespace Discreet

variable (discreet : store.Discreet)

include discreet

theorem should_retry (failure : Failure) : (store.shouldRetry failure).Silent := by
  unfold shouldRetry
  cases asks : store.retry with
  | none => exact silent_closed.done false
  | some predicate => exact discreet.retry predicate asks failure

theorem call_shared (operation : SharedOperation) (key : String) (size : α → Nat)
    {work : Call σ α} (silent : work.run.Silent) :
    (store.callShared operation key size work).Silent := by
  unfold callShared
  apply silent_closed.bind (silent_attempt_shared operation key size false silent)
  intro first
  cases first with
  | ok value => exact silent_closed.done (some value)
  | error failure =>
      apply silent_closed.bind (discreet.should_retry failure)
      intro again
      cases again with
      | false => exact silent_closed.done none
      | true =>
          apply silent_closed.bind (silent_closed.write _)
          intro _
          apply silent_closed.bind (silent_attempt_shared operation key size true silent)
          intro second
          cases second <;> exact silent_closed.done _

theorem write_shared (job : BackgroundWrite) : (store.writeShared job).Silent :=
  (discreet.call_shared .write job.key _ (discreet.set job.key job.bytes job.options)).discard

theorem write_levels (key : String) (bytes : Bytes) (hints : CallHints) :
    (store.writeLevels key bytes hints).Silent := by
  apply silent_closed.bind (store.silent_write_near key bytes hints)
  intro _
  cases spawns : store.spawner with
  | none => exact discreet.write_shared _
  | some spawner =>
      dsimp only
      split
      · exact discreet.spawner spawner spawns _
      · exact discreet.write_shared _

theorem remove_levels (key : String) : (store.removeLevels key).Silent := by
  rw [remove_levels_eq]
  apply silent_closed.bind
  · unfold removeNear
    cases store.l1 with
    | none => exact silent_closed.done ()
    | some l1 => exact fun now => ⟨rfl, trivial⟩
  · exact fun _ => (discreet.call_shared .remove key _ (discreet.remove key)).discard

/-- What the shared cache found is told before it is copied into memory, in the same poll. -/
theorem read_shared (key : String) (hints : CallHints) (now : Context σ) :
    (store.readShared key hints).Concludes (hints.found .l2) now := by
  rw [read_shared_eq]
  apply (discreet.call_shared .read key foundSize (discreet.get key)).timed.concludes
  intro timed later
  unfold keepAnswer
  cases timed.value.join with
  | none => exact concludes_done rfl later
  | some bytes =>
      cases store.l1 with
      | none => exact Context.levels_report rfl hints .l2
      | some l1 => exact Context.levels_report rfl hints .l2

theorem read_levels (key : String) (hints : CallHints) (now : Context σ) :
    (store.readLevels key hints).Concludes
      (hints.found ((AnyStore.tiered store).levelOf key now)) now := by
  unfold readLevels
  cases enabled : store.l1 with
  | none =>
      rw [(AnyStore.tiered store).level_of_far enabled]
      exact discreet.read_shared key hints now
  | some l1 =>
      rw [(AnyStore.tiered store).level_of_near enabled]
      unfold ByteCacheCell.lookup
      refine concludes_step_bind ?mute ?onward
      case mute => rfl
      case onward =>
        dsimp only [ByteCache.lookup]
        cases (l1.get now.data).get? now.uptime key with
        | none => exact discreet.read_shared key hints _
        | some bytes =>
            change Concludes _ (Routine.bind (Functor.discard _) _) _
            apply (discreet.call_shared .refresh key _ (discreet.refresh key)).discard.concludes
            intro _ later
            exact Context.levels_report rfl hints .l1

end Discreet

end TieredStore

namespace MemoryStore

variable (store : MemoryStore σ)

theorem silent_write (key : String) (bytes : Bytes) (hints : CallHints) :
    (store.write key bytes hints).run.Silent := by
  refine silent_closed.andThen (silent_closed.lift ?lifetime) fun expiry => ?insert
  case lifetime =>
    unfold currentLifetime
    cases hints.suggestedExpiry with
    | none => exact silent_closed.done _
    | some suggested => exact silent_with_clock fun now => silent_closed.done _
  case insert =>
    have inserted : (store.cache.insert key bytes (some expiry)).Silent := fun _ => ⟨rfl, trivial⟩
    exact (silent_closed.lift inserted).cancellable hints .write

theorem concludes_read (key : String) (hints : CallHints) (now : Context σ) :
    (store.read key hints).run.Concludes
      (unlessFailed (hints.found ((AnyStore.memory store).levelOf key now))) now := by
  rw [(AnyStore.memory store).level_of_near rfl]
  change Amid _ _ (catchPanic (Routine.bind (if hints.isCancelled now then _ else _) _)) _ now
  cases hints.isCancelled now with
  | true => exact (rfl : now.levels = now.levels)
  | false =>
      -- Uncancelled, the race is decided by the look-up, which is a single step.
      change Amid _ _ (catchPanic (ExceptT.bindCont _ (Except.ok _))) _
        { now with
          data := store.cache.put
            ((store.cache.get now.data).lookup store.cache.policy now.uptime key).2 now.data }
      dsimp only [ExceptT.bindCont, ByteCache.lookup]
      cases (store.cache.get now.data).get? now.uptime key with
      | none => exact (rfl : now.levels = now.levels)
      | some bytes =>
          change (hints.report .l1 _).levels = (now.tell (hints.telling .l1)).levels
          apply Context.levels_report
          rfl

end MemoryStore

namespace AnyStore

def Discreet : AnyStore σ → Prop
  | memory _ => True
  | tiered store => store.Discreet

theorem concludes_change {call : Call σ Unit} {tells : Except Failure (Option Bytes) → List Telling}
    (silent : call.run.Silent) (nothing : ∀ outcome, tells outcome = []) (now : Context σ) :
    Concludes tells (do
      let outcome ← call.run
      pure (outcome.map fun _ => none)) now :=
  silent.concludes (fun _ later => concludes_done (nothing _) later) now

/-- Whatever a store is given to do tells sinks nothing but where a read has found its blob. -/
theorem concludes_task {store : AnyStore σ} (discreet : store.Discreet) (task : StoreTask)
    (now : Context σ) :
    (store.carryOut task).Concludes (task.tells (store.levelOf task.key now)) now := by
  cases store with
  | memory store =>
      cases task with
      | job job => exact concludes_done rfl now
      | call hints call =>
          cases call with
          | read key => exact store.concludes_read key hints now
          | write key bytes =>
              exact concludes_change (store.silent_write key bytes hints) (fun _ => rfl) now
          | remove key =>
              have erased : (store.cache.erase key).Silent := fun _ => ⟨rfl, trivial⟩
              exact concludes_change ((silent_closed.lift erased).cancellable hints .remove)
                (fun _ => rfl) now
  | tiered store =>
      have discreet : store.Discreet := discreet
      cases task with
      | job job =>
          exact (discreet.write_shared job).concludes (fun _ later => concludes_done rfl later) now
      | call hints call =>
          cases call with
          | read key => exact (discreet.read_levels key hints now).cancellable hints .read
          | write key bytes =>
              have written := silent_closed.lift (discreet.write_levels key bytes hints)
              exact concludes_change (written.cancellable hints .write) (fun _ => rfl) now
          | remove key =>
              have removed := silent_closed.lift (discreet.remove_levels key)
              exact concludes_change (removed.cancellable hints .remove) (fun _ => rfl) now

end AnyStore

/-- A task that has been started: where its entry was then, and what is left of it. -/
structure Errand (σ : Type) where
  task : StoreTask
  level : CacheLevel
  rest : Routine (Context σ) (Except Failure (Option Bytes))

namespace Errand

def start (store : AnyStore σ) (task : StoreTask) (now : Context σ) : Errand σ :=
  ⟨task, store.levelOf task.key now, store.carryOut task⟩

def left (errand : Errand σ) (now : Context σ) : List (Errand σ) :=
  match (errand.rest.poll now).progress with
  | .pending _ rest => [{ errand with rest }]
  | .returned _ | .panicked _ => []

def hits (errand : Errand σ) (now : Context σ) : List Telling :=
  match (errand.rest.poll now).progress with
  | .returned outcome => errand.task.tells errand.level outcome
  | .pending .. | .panicked _ => []

/-- Whatever it does from now on, it tells only what it finds. -/
def Minds (errand : Errand σ) : Prop :=
  ∀ later, errand.rest.Concludes (errand.task.tells errand.level) later

theorem concluded (errand : Errand σ) {now : Context σ}
    (concludes : errand.rest.Concludes (errand.task.tells errand.level) now) :
    (errand.rest.poll now).state.levels = (now.tell (errand.hits now)).levels ∧
      ∀ other ∈ errand.left now, Minds other := by
  have concluded := concludes.poll
  unfold Concluded at concluded
  unfold hits left
  cases progress : (errand.rest.poll now).progress with
  | returned outcome =>
      rw [progress] at concluded
      exact ⟨concluded, fun other known => by cases known⟩
  | panicked payload =>
      rw [progress] at concluded
      exact ⟨concluded, fun other known => by cases known⟩
  | pending woken rest =>
      rw [progress] at concluded
      refine ⟨concluded.1, fun other known => ?_⟩
      cases List.mem_singleton.mp known
      exact concluded.2

end Errand

/-- The tasks under way in a context, and the hits so far. Any number of stores is given
tasks; a task starts with its first poll. The tasks are polled in any order, and may be
dropped. Between two polls anything may happen that leaves the sinks alone: entries are lost,
tokens are cancelled, time passes. -/
inductive Underway (start : Context σ) :
    List (Errand σ) → List Telling → Context σ → Prop where
  | start : Underway start [] [] start
  | between (errands : List (Errand σ)) (hits : List Telling) (before after : Context σ)
      (earlier : Underway start errands hits before) (mute : Mute before after) :
      Underway start errands hits after
  | begin (errands : List (Errand σ)) (hits : List Telling) (now : Context σ)
      (store : AnyStore σ) (task : StoreTask) (errand : Errand σ) (discreet : store.Discreet)
      (started : errand = Errand.start store task now)
      (earlier : Underway start errands hits now) :
      Underway start (errand.left now ++ errands) (hits ++ errand.hits now)
        (errand.rest.poll now).state
  | poll (front back : List (Errand σ)) (errand : Errand σ) (hits : List Telling)
      (now : Context σ) (earlier : Underway start (front ++ errand :: back) hits now) :
      Underway start (front ++ errand.left now ++ back) (hits ++ errand.hits now)
        (errand.rest.poll now).state
  | drop (front back : List (Errand σ)) (errand : Errand σ) (hits : List Telling)
      (now : Context σ) (earlier : Underway start (front ++ errand :: back) hits now) :
      Underway start (front ++ back) hits now

namespace Underway

variable {start now : Context σ} {errands : List (Errand σ)} {hits : List Telling}

theorem minds (underway : Underway start errands hits now) :
    ∀ errand ∈ errands, errand.Minds := by
  induction underway with
  | start => exact fun errand known => by cases known
  | between errands hits before after earlier mute ih => exact ih
  | begin errands hits now store task errand discreet started earlier ih =>
      subst started
      have entered := (Errand.start store task now).concluded
        (AnyStore.concludes_task discreet task now)
      intro other known
      exact (List.mem_append.mp known).elim (entered.2 other) (ih other)
  | poll front back errand hits now earlier ih =>
      have gone := errand.concluded (ih errand (by simp) now)
      intro other known
      rw [List.append_assoc, List.mem_append, List.mem_append] at known
      rcases known with inFront | still | inBack
      · exact ih other (by simp [inFront])
      · exact gone.2 other still
      · exact ih other (by simp [inBack])
  | drop front back errand hits now earlier ih =>
      intro other known
      apply ih other
      simp only [List.mem_append, List.mem_cons] at known ⊢
      exact known.imp_right .inr

theorem level_step {before after : Context σ} {sink : LevelSink} {told : List Telling}
    (shown : before.level sink = sink.lastTold hits (start.level sink))
    (levels : after.levels = (before.tell told).levels) :
    after.level sink = sink.lastTold (hits ++ told) (start.level sink) := by
  calc after.level sink = (before.tell told).level sink := congrFun levels sink.label
    _ = sink.lastTold told (before.level sink) := before.level_tell told sink
    _ = sink.lastTold (hits ++ told) (start.level sink) := by
      rw [shown, LevelSink.last_told_append]

/-- Stores in memory and tiered stores are given reads, writes, removals and background
writes, which are polled in any order and may share sinks; shared caches, retry predicates
and spawners may do anything but tell sinks; calls may be cancelled or dropped, entries lost.
At every point each sink shows the level of the last read with this sink that has ended with a
blob, or the level it showed at the start if there was none. -/
theorem level_of_last_hit (underway : Underway start errands hits now) (sink : LevelSink) :
    now.level sink = sink.lastTold hits (start.level sink) := by
  induction underway with
  | start => rfl
  | between errands hits before after earlier mute ih =>
      exact (congrFun mute sink.label).trans ih
  | begin errands hits now store task errand discreet started earlier ih =>
      subst started
      have entered := (Errand.start store task now).concluded
        (AnyStore.concludes_task discreet task now)
      exact level_step ih entered.1
  | poll front back errand hits now earlier ih =>
      exact level_step ih (errand.concluded (earlier.minds errand (by simp) now)).1
  | drop front back errand hits now earlier ih => exact ih

end Underway

namespace Rehearsal

theorem bench_tiered_discreet (options : TieredOptions) : (benchTiered options none).Discreet where
  get _ _ := ⟨rfl, trivial⟩
  set _ _ _ _ := ⟨rfl, trivial⟩
  refresh _ _ := ⟨rfl, trivial⟩
  remove _ _ := ⟨rfl, trivial⟩
  retry _ asks := by cases asks
  spawner _ spawns := by cases spawns

def hostSink : LevelSink := ⟨"host"⟩

def hostRead (key : String) : StoreTask :=
  .call { CallHints.none with sink := some hostSink } (.read key)

def benchRead (key : String) (now : Context Bench) : Context Bench :=
  ((Errand.start (.tiered (benchTiered TieredOptions.standard none)) (hostRead key) now).rest.poll
    now).state

/-- The first read of an entry of the shared cache shows that level, the second one that of the
copy in memory, and a miss leaves it at that. -/
theorem level_after_two_hits_and_a_miss :
    let start := benchStart TieredOptions.standard (Table.ofList [("A", [7])])
    (benchRead "A" start).level hostSink = .l2 ∧
      (benchRead "B" (benchRead "A" (benchRead "A" start))).level hostSink = .l1 := by
  have discreet := bench_tiered_discreet TieredOptions.standard
  have first := Underway.begin [] [] _ (.tiered _) (hostRead "A") _ discreet rfl
    (@Underway.start Bench (benchStart TieredOptions.standard (Table.ofList [("A", [7])])))
  have second := Underway.begin _ _ _ (.tiered _) (hostRead "A") _ discreet rfl first
  have third := Underway.begin _ _ _ (.tiered _) (hostRead "B") _ discreet rfl second
  exact ⟨(first.level_of_last_hit hostSink).trans (by decide +kernel),
    (third.level_of_last_hit hostSink).trans (by decide +kernel)⟩

end Rehearsal

end TokenPersistence
