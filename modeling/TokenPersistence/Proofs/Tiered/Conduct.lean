import TokenPersistence.Proofs.Tiered.Levels
import TokenPersistence.Proofs.Tiered.Overlap

/-!
# The conduct of calls

Each of the three calls on a tiered store keeps its terms in any company, from its first
poll to its last, also if it is cancelled in between. The terms of the first poll of a
write or a removal differ from those of the later polls: it is the one that touches memory.
-/

namespace TokenPersistence

set_option autoImplicit false

open Routine (Terms)

variable {σ α : Type}

/-- A call on a store, as its caller makes it. -/
inductive StoreCall where
  | read (key : String)
  | write (key : String) (bytes : Bytes)
  | remove (key : String)
  deriving DecidableEq

namespace StoreCall

def key : StoreCall → String
  | read key => key
  | write key _ => key
  | remove key => key

def changes : StoreCall → Bool
  | read _ => false
  | write .. => true
  | remove _ => true

end StoreCall

namespace TieredStore

/-- A call, with an outcome of one type for all calls: changes answer nothing. -/
def perform (store : TieredStore σ) (hints : CallHints) :
    StoreCall → Routine (Context σ) (Except Failure (Option Bytes))
  | .read key => (store.read key hints).run
  | .write key bytes => do
      let outcome ← (store.write key bytes hints).run
      pure (outcome.map fun _ => none)
  | .remove key => do
      let outcome ← (store.remove key hints).run
      pure (outcome.map fun _ => none)

/-- The terms of an operation of the shared cache that never fails. -/
def Done (terms : Terms (Context σ) (Option α)) : Terms (Context σ) (Except Failure α) :=
  terms.withEnd fun outcome now =>
    now.clockIsBroken = false ∧ ∃ value, outcome = .ok value ∧ terms.ended (some value) now

theorem amid_call_shared {others : Context σ → Context σ → Prop}
    {promise : Context σ → Terms (Context σ) (Option α)} {terms : Terms (Context σ) (Option α)}
    (store : TieredStore σ) (operation : SharedOperation) (key : String) (size : α → Nat)
    (work : Call σ α) (now : Context σ) (clock : now.clockIsBroken = false)
    (amid : work.run.Amid others (fun begun => Done (promise begun)) (Done terms) now) :
    (store.callShared operation key size work).Amid others promise terms now := by
  unfold callShared attemptShared
  simp only [Routine.amid_bind, Routine.amid_timed]
  refine ⟨clock, amid.imp (fun _ _ changed => changed) (fun begun => ?_) ?_⟩
  all_goals
    refine ⟨fun _ pending => pending, ?_⟩
    intro outcome after done
    obtain ⟨ticks, value, rfl, ended⟩ := done
    refine ⟨ticks, ?_⟩
    simp only [Routine.Onward, Terms.withEnd, Routine.amid_bind, Routine.amid_write,
      Routine.amid_pure]
    exact ended

end TieredStore

namespace Backend

/-- The conduct of a read that found nothing in memory, or was answered from there. -/
def Answers (backend : Backend σ) (store : TieredStore σ) (key : String) (missed : Bool)
    (spared : Prop) (begun : Context σ) :
    Terms (Context σ) (Except Failure (Option Bytes)) where
  pending := backend.Calm store begun
  ended outcome after := backend.Calm store begun after ∨
    missed = true ∧ ∃ bytes, outcome = .ok (some bytes) ∧
      backend.Copies store key bytes begun after ∧
        (spared → backend.contents after.data key = some bytes)

/-- The conduct of a change after its first poll. -/
def Finishes (backend : Backend σ) (store : TieredStore σ) (key : String)
    (value : Option Bytes) (spared : Prop) (begun : Context σ) :
    Terms (Context σ) (Except Failure α) where
  pending := backend.Changes store key begun
  ended outcome after := backend.Changes store key begun after ∧
    (spared → ∀ answer, outcome = .ok answer → backend.contents after.data key = value)

/-- The conduct of a change in its first poll. -/
def Begins (backend : Backend σ) (store : TieredStore σ) (key : String)
    (value : Option Bytes) (spared : Prop) (begun : Context σ) :
    Terms (Context σ) (Except Failure α) where
  pending := backend.Enters store key value begun
  ended outcome after := backend.Enters store key value begun after ∧
    (spared → ∀ answer, outcome = .ok answer → backend.contents after.data key = value)

variable {backend : Backend σ} {store : TieredStore σ} {key : String} {value : Option Bytes}
  {missed : Bool} {spared : Prop} {start now : Context σ}

theorem answers_excuse (begun : Context σ) (failure : Failure) :
    (backend.Answers store key missed spared begun).Excuse (.error failure) :=
  fun _ calm => Or.inl calm

theorem finishes_excuse (begun : Context σ) (failure : Failure) :
    (backend.Finishes store key value spared begun : Terms _ (Except Failure α)).Excuse
      (.error failure) :=
  fun _ changes => ⟨changes, fun _ _ failed => by cases failed⟩

theorem begins_excuse (begun : Context σ) (failure : Failure) :
    (backend.Begins store key value spared begun : Terms _ (Except Failure α)).Excuse
      (.error failure) :=
  fun _ enters => ⟨enters, fun _ _ failed => by cases failed⟩

theorem Serves.amid_keep_answer (serves : backend.Serves store) (key : String)
    (hints : CallHints) (found : Option Bytes) (duration : Duration)
    (calm : backend.Calm store start now)
    (known : spared → backend.contents now.data key = found) :
    (store.keepAnswer key hints ⟨some found, duration⟩).Amid (backend.Company store key spared)
      (fun begun => CallHints.Fine (backend.Answers store key true spared begun))
      (CallHints.Fine (backend.Answers store key true spared start)) now := by
  unfold TieredStore.keepAnswer
  cases found with
  | none =>
      simp only [Option.join_some, Routine.amid_bind, Routine.amid_write, Routine.Onward,
        Terms.withEnd, Routine.amid_pure]
      exact Or.inl calm
  | some bytes =>
      simp only [Option.join_some, Routine.amid_bind, Routine.amid_write, Routine.Onward,
        Terms.withEnd, CallHints.reportLevel, Routine.amid_modify]
      have reported := calm.report hints .l2
      cases enabled : store.l1 with
      | none =>
          rw [Routine.amid_pure]
          exact Or.inl reported
      | some l1 =>
          simp only [Routine.amid_bind, Routine.amid_write, Routine.Onward, Terms.withEnd,
            ByteCacheCell.insert, ByteCacheCell.change, Routine.amid_modify, Routine.amid_pure]
          have copies := serves.copies_insert enabled reported.stands key bytes store.l1Lifetime
          refine Or.inr ⟨rfl, bytes, rfl, reported.copies copies, ?_⟩
          intro bound
          rw [copies.shared, CallHints.data_report]
          exact known bound

theorem Serves.amid_read_shared (serves : backend.Serves store) (key : String)
    (hints : CallHints) (calm : backend.Calm store start now) :
    (store.readShared key hints).Amid (backend.Company store key spared)
      (fun begun => CallHints.Fine (backend.Answers store key true spared begun))
      (CallHints.Fine (backend.Answers store key true spared start)) now := by
  rw [TieredStore.read_shared_eq, Routine.amid_bind, Routine.amid_timed]
  refine ⟨calm.stands.clock, ?_⟩
  apply TieredStore.amid_call_shared store .read key _ _ now calm.stands.clock
  apply (serves.get key spared now calm.stands).imp (fun _ _ changed => changed)
  · intro begun
    refine ⟨fun _ pending => pending, ?_⟩
    intro outcome after finds
    obtain ⟨still, found, rfl, known⟩ := finds
    exact ⟨still.stands.clock, found, rfl, still.stands.clock,
      serves.amid_keep_answer key hints found _ still known⟩
  · refine ⟨fun _ pending => calm.trans pending, ?_⟩
    intro outcome after finds
    obtain ⟨still, found, rfl, known⟩ := finds
    exact ⟨still.stands.clock, found, rfl, still.stands.clock,
      serves.amid_keep_answer key hints found _ (calm.trans still) known⟩

theorem Serves.amid_read_levels (serves : backend.Serves store) (key : String)
    (hints : CallHints) (stands : backend.Stands store start) :
    (store.readLevels key hints).Amid (backend.Company store key spared)
      (fun begun => CallHints.Fine
        (backend.Answers store key (store.nearBlob? start key).isNone spared begun))
      (CallHints.Fine
        (backend.Answers store key (store.nearBlob? start key).isNone spared start)) start := by
  unfold TieredStore.readLevels TieredStore.nearBlob?
  cases enabled : store.l1 with
  | none => exact serves.amid_read_shared key hints (Calm.refl stands)
  | some l1 =>
      simp only [ByteCacheCell.lookup, Routine.amid_bind, Routine.amid_step, Routine.Onward,
        Terms.withEnd, ByteCache.lookup, Option.bind_some]
      have touched := serves.calm_put enabled stands
        (ByteCache.losses_touch l1.policy (l1.get start.data) start.uptime key)
      cases (l1.get start.data).get? start.uptime key with
      | none => exact serves.amid_read_shared key hints touched
      | some bytes =>
          simp only [Routine.amid_bind, Routine.amid_discard]
          apply TieredStore.amid_call_shared store .refresh key _ _ _ touched.stands.clock
          apply (serves.refresh key spared _ touched.stands).imp (fun _ _ changed => changed)
          · intro begun
            refine ⟨fun _ pending => pending, ?_⟩
            intro outcome after looks
            obtain ⟨still, rfl⟩ := looks
            exact ⟨still.stands.clock, (), rfl, Or.inl (still.report hints .l1)⟩
          · refine ⟨fun _ pending => touched.trans pending, ?_⟩
            intro outcome after looks
            obtain ⟨still, rfl⟩ := looks
            exact ⟨still.stands.clock, (), rfl, Or.inl ((touched.trans still).report hints .l1)⟩

theorem Serves.amid_change (operation : SharedOperation) (size : Unit → Nat)
    (work : Call σ Unit) (enters : backend.Enters store key value start now)
    (sets : work.run.Amid (backend.Company store key spared)
      (backend.Sets store key value spared) (backend.Sets store key value spared now) now) :
    (Functor.discard (store.callShared operation key size work) :
      Routine (Context σ) Unit).Amid (backend.Company store key spared)
        (fun begun => CallHints.Fine (backend.Finishes store key value spared begun))
        (CallHints.Fine (backend.Begins store key value spared start)) now := by
  rw [Routine.amid_discard]
  apply TieredStore.amid_call_shared store operation key _ _ now enters.confined.stands.clock
  apply sets.imp (fun _ _ changed => changed)
  · intro begun
    refine ⟨fun _ pending => pending, ?_⟩
    intro outcome after changed
    obtain ⟨changes, rfl, reached⟩ := changed
    exact ⟨changes.confined.stands.clock, (), rfl, changes, fun bound _ _ => reached bound⟩
  · refine ⟨fun _ pending => enters.changes pending, ?_⟩
    intro outcome after changed
    obtain ⟨changes, rfl, reached⟩ := changed
    exact ⟨changes.confined.stands.clock, (), rfl, enters.changes changes,
      fun bound _ _ => reached bound⟩

theorem Serves.amid_write_near (serves : backend.Serves store)
    {others : Context σ → Context σ → Prop} {promise : Context σ → Terms (Context σ) Unit}
    {terms : Terms (Context σ) Unit} (key : String) (bytes : Bytes) (hints : CallHints)
    (stands : backend.Stands store start)
    (onward : ∀ now, backend.Enters store key (some bytes) start now → terms.ended () now) :
    (store.writeNear key bytes hints).Amid others promise terms start := by
  unfold TieredStore.writeNear
  cases enabled : store.l1 with
  | none => exact onward start (enters_nothing enabled stands key _)
  | some l1 =>
      have inserted : ∀ lifetime, Routine.Amid others promise
          (do
            l1.insert key bytes lifetime
            l1.logAccess .write key bytes.length) terms start :=
        fun lifetime => onward _ (serves.enters_insert enabled stands key bytes lifetime)
      dsimp only
      rw [Routine.amid_bind]
      unfold TieredStore.currentL1Expiry
      cases store.deadline? hints with
      | none => exact inserted store.l1Lifetime
      | some deadline =>
          rw [Context.amid_with_clock]
          exact ⟨stands.clock, inserted _⟩

theorem Serves.amid_remove_near (serves : backend.Serves store)
    {others : Context σ → Context σ → Prop} {promise : Context σ → Terms (Context σ) Unit}
    {terms : Terms (Context σ) Unit} (key : String) (stands : backend.Stands store start)
    (onward : ∀ now, backend.Enters store key none start now → terms.ended () now) :
    (store.removeNear key).Amid others promise terms start := by
  unfold TieredStore.removeNear
  cases enabled : store.l1 with
  | none => exact onward start (enters_nothing enabled stands key _)
  | some l1 => exact onward _ (serves.enters_erase enabled stands key)

theorem Serves.amid_write_levels (serves : backend.Serves store)
    (waits : store.options.writesInBackground = false) (key : String) (bytes : Bytes)
    (hints : CallHints) (stands : backend.Stands store start) :
    (store.writeLevels key bytes hints).Amid (backend.Company store key spared)
      (fun begun => CallHints.Fine (backend.Finishes store key (some bytes) spared begun))
      (CallHints.Fine (backend.Begins store key (some bytes) spared start)) start := by
  rw [TieredStore.write_levels_eq store key bytes hints waits, Routine.amid_bind]
  apply serves.amid_write_near key bytes hints stands
  intro now enters
  exact Serves.amid_change .write _ _ enters
    (serves.set key bytes _ spared now enters.confined.stands)

theorem Serves.amid_remove_levels (serves : backend.Serves store) (key : String)
    (stands : backend.Stands store start) :
    (store.removeLevels key).Amid (backend.Company store key spared)
      (fun begun => CallHints.Fine (backend.Finishes store key none spared begun))
      (CallHints.Fine (backend.Begins store key none spared start)) start := by
  rw [TieredStore.remove_levels_eq, Routine.amid_bind]
  apply serves.amid_remove_near key stands
  intro now enters
  exact Serves.amid_change .remove _ _ enters
    (serves.remove key spared now enters.confined.stands)

/-- The conduct of a call after its first poll. -/
def Conduct (backend : Backend σ) (store : TieredStore σ) (call : StoreCall) (missed : Bool)
    (spared : Prop) (begun : Context σ) : Terms (Context σ) (Except Failure (Option Bytes)) :=
  match call with
  | .read key => backend.Answers store key missed spared begun
  | .write key bytes => backend.Finishes store key (some bytes) spared begun
  | .remove key => backend.Finishes store key none spared begun

/-- The conduct of a call in its first poll. -/
def Opening (backend : Backend σ) (store : TieredStore σ) (call : StoreCall)
    (spared : Prop) (start : Context σ) : Terms (Context σ) (Except Failure (Option Bytes)) :=
  match call with
  | .read key => backend.Answers store key (store.nearBlob? start key).isNone spared start
  | .write key bytes => backend.Begins store key (some bytes) spared start
  | .remove key => backend.Begins store key none spared start

/-- Whoever waits for a call sees that nothing happens before it is polled. -/
theorem conduct_idle (call : StoreCall) (missed : Bool) (before after : Context σ)
    (company : backend.Company store call.key spared before after) :
    (backend.Conduct store call missed spared after).pending after := by
  cases call with
  | read key => exact Calm.refl company.stands
  | write key bytes => exact Changes.refl key company.stands
  | remove key => exact Changes.refl key company.stands

theorem amid_answerless (during : Activity) (hints : CallHints)
    (levels : Routine (Context σ) Unit) (fresh : hints.isCancelled start = false)
    (amid : levels.Amid (backend.Company store key spared)
      (fun begun => CallHints.Fine (backend.Finishes store key value spared begun))
      (CallHints.Fine (backend.Begins store key value spared start)) start) :
    (do
      let outcome ← (hints.cancellable during (ExceptT.lift levels)).run
      pure (outcome.map fun _ => none) :
        Routine (Context σ) (Except Failure (Option Bytes))).Amid
      (backend.Company store key spared) (backend.Finishes store key value spared)
      (backend.Begins store key value spared start) start := by
  have answered : ∀ {outcome : Except Failure Unit} {answer : Option Bytes},
      (outcome.map fun _ => none) = Except.ok answer → outcome = .ok () := by
    intro outcome answer mapped
    cases outcome with
    | error failure => cases mapped
    | ok done => rfl
  rw [Routine.amid_bind]
  apply (hints.amid_cancellable during levels start fresh
    (fun _ _ company => Changes.refl key company.stands)
    (fun begun => finishes_excuse begun _) (begins_excuse start _) amid).imp
    (fun _ _ changed => changed)
  · intro begun
    refine ⟨fun _ pending => pending, ?_⟩
    intro outcome after finished
    exact ⟨finished.1, fun bound _ mapped => finished.2 bound () (answered mapped)⟩
  · refine ⟨fun _ pending => pending, ?_⟩
    intro outcome after begun
    exact ⟨begun.1, fun bound _ mapped => begun.2 bound () (answered mapped)⟩

theorem Serves.amid_perform (serves : backend.Serves store)
    (waits : store.options.writesInBackground = false) (spared : Prop) (call : StoreCall)
    (hints : CallHints) (fresh : hints.isCancelled start = false)
    (stands : backend.Stands store start) :
    (store.perform hints call).Amid (backend.Company store call.key spared)
      (backend.Conduct store call (store.nearBlob? start call.key).isNone spared)
      (backend.Opening store call spared start) start := by
  cases call with
  | read key =>
      exact hints.amid_cancellable .read _ start fresh (conduct_idle (.read key) _)
        (fun begun => answers_excuse begun _) (answers_excuse start _)
        (serves.amid_read_levels key hints stands)
  | write key bytes =>
      exact amid_answerless .write hints _ fresh
        (serves.amid_write_levels waits key bytes hints stands)
  | remove key =>
      exact amid_answerless .remove hints _ fresh (serves.amid_remove_levels key stands)

end Backend

end TokenPersistence
