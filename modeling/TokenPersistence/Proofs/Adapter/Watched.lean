import TokenPersistence.Proofs.Adapter.Closure
import TokenPersistence.Proofs.Adapter.Hooks
import TokenPersistence.Proofs.Routine.Within

/-!
# Watched adapters

An adapter over parts that may do anything, with a record of what it asks of them. Each
call to the store, the lock or a host's collection is written down and then carried out
on the data of the parts; while a part is suspended, that may include whatever others do
to the context. The observer of failures keeps data of its own, of which the hooks know
nothing, and writes down what it is told before it reacts.
-/

namespace TokenPersistence

set_option autoImplicit false

variable {σ ρ τ α β : Type}

/-- What an adapter asks of its parts. Collections are told apart by name. -/
inductive PartCall where
  | read (key : String) (hints : CallHints)
  | write (key : String) (payload : Bytes) (hints : CallHints)
  | remove (key : String) (hints : CallHints)
  | serialize (collection : String)
  | load (collection : String) (plaintext : Bytes) (clear : Bool)
  | lock (key : String)
  | unlock (key : String)
  deriving DecidableEq

/-- What an observer keeps: something of its own, and what it has been told. -/
structure Observations (ρ : Type) where
  own : ρ
  told : List HookFailure

structure Watched (σ ρ : Type) where
  parts : σ
  calls : List PartCall
  observed : Observations ρ

namespace Watched

def partsCell : Cell (Watched σ ρ) σ where
  get watched := watched.parts
  put parts watched := { watched with parts }

def callsCell : Cell (Watched σ ρ) (List PartCall) where
  get watched := watched.calls
  put calls watched := { watched with calls }

def observedCell : Cell (Watched σ ρ) (Observations ρ) where
  get watched := watched.observed
  put observed watched := { watched with observed }

theorem parts_lawful : (partsCell : Cell (Watched σ ρ) σ).Lawful :=
  ⟨fun _ _ => rfl, fun _ => rfl, fun _ _ _ => rfl⟩

theorem observed_apart_parts :
    (observedCell : Cell (Watched σ ρ) (Observations ρ)).Apart partsCell :=
  ⟨fun _ _ => rfl, fun _ _ _ => rfl⟩

/-- Writes a call down, then carries it out on the parts. -/
def noting (call : PartCall) (work : Call σ α) : Call (Watched σ ρ) α := do
  ExceptT.lift (callsCell.modify fun calls => calls ++ [call])
  work.within partsCell

theorem leaves_noting (call : PartCall) (work : Call σ α) (start : Context (Watched σ ρ))
    (post : Ending (Except Failure α) → Context (Watched σ ρ) → Prop) :
    (noting call work).run.Leaves start post ↔
      work.run.Leaves (partsCell.narrow start) fun ending after =>
        post ending (partsCell.widen after (callsCell.change (start.data.calls ++ [call]) start)) := by
  unfold noting
  rw [Call.leaves_bind, Call.leaves_lift]
  exact Routine.leaves_within parts_lawful work.run
    (callsCell.change (start.data.calls ++ [call]) start) post

def watchStore (store : PartitionStore σ) : PartitionStore (Watched σ ρ) where
  read key hints := noting (.read key hints) (store.read key hints)
  write key payload hints := noting (.write key payload hints) (store.write key payload hints)
  remove key hints := noting (.remove key hints) (store.remove key hints)

def watchLock (lock : WriteLock σ) : WriteLock (Watched σ ρ) where
  lock key := noting (.lock key) (lock.lock key)
  unlock key := noting (.unlock key) (lock.unlock key)

def watchCollection (name : String) (collection : TokenCollection σ) :
    TokenCollection (Watched σ ρ) where
  serialize := noting (.serialize name) collection.serialize
  load plaintext clear := noting (.load name plaintext clear) (collection.load plaintext clear)

/-- An observer that reacts to what it is told by changing its own data, and may panic. -/
def watchObserver (react : HookFailure → ρ → Option Panic × ρ) :
    FailureObserver (Watched σ ρ) := fun failed => do
  match ← observedCell.step fun observed =>
      ((react failed observed.own).1,
        { own := (react failed observed.own).2, told := observed.told ++ [failed] }) with
  | some panic => .panic panic
  | none => pure ()

theorem leaves_observer (react : HookFailure → ρ → Option Panic × ρ) (failed : HookFailure)
    (start : Context (Watched σ ρ)) (post : Ending Unit → Context (Watched σ ρ) → Prop) :
    (watchObserver react failed).Leaves start post ↔
      post ((react failed start.data.observed.own).1.elim (.returned ()) .panicked)
        (observedCell.change
          ⟨(react failed start.data.observed.own).2, start.data.observed.told ++ [failed]⟩
          start) := by
  unfold watchObserver Cell.step
  rw [Routine.leaves_bind, Routine.leaves_step]
  unfold Routine.Follow observedCell
  dsimp only
  cases (react failed start.data.observed.own).1 <;> rfl

end Watched

def Access.watched (access : Access σ) (name : String) : Access (Watched σ ρ) where
  collection := Watched.watchCollection name access.collection
  suggestedKey := access.suggestedKey
  stateChanged := access.stateChanged
  hasTokens := access.hasTokens
  appCache := access.appCache
  cancellation := access.cancellation
  suggestedExpiry := access.suggestedExpiry
  sink := access.sink
  noSharedCacheReason := access.noSharedCacheReason

structure AdapterParts (σ ρ : Type) where
  store : PartitionStore σ
  key : KeyProvider (Watched σ ρ)
  protector : Protector
  lock : Option (WriteLock σ)
  observer : Option (HookFailure → ρ → Option Panic × ρ)

def AdapterParts.adapter (parts : AdapterParts σ ρ) : Adapter (Watched σ ρ) where
  store := Watched.watchStore parts.store
  key := parts.key
  protector := parts.protector
  lock := parts.lock.map Watched.watchLock
  observer := parts.observer.map Watched.watchObserver

namespace Watched

/-- Whatever the call comes to, it asks its parts only for what is allowed. -/
def Asks (allowed : PartCall → Bool) (call : Call (Watched σ ρ) α) : Prop :=
  ∀ start, call.run.Leaves start fun _ after =>
    ∃ made, (∀ asked ∈ made, allowed asked = true) ∧ after.data.calls = start.data.calls ++ made

section Asking

variable {allowed : PartCall → Bool}

theorem asks_nothing {call : Call (Watched σ ρ) α}
    (quiet : ∀ start, call.run.Leaves start fun _ after => after.data.calls = start.data.calls) :
    Asks allowed call := by
  intro start
  apply (quiet start).imp
  intro _ after same
  exact ⟨[], by simp, by simp [same]⟩

theorem asks_pure (value : α) : Asks allowed (pure value : Call (Watched σ ρ) α) :=
  asks_nothing fun _ => rfl

theorem asks_log (event : LogEvent) :
    Asks allowed (Call.log event : Call (Watched σ ρ) Unit) :=
  asks_nothing fun _ => rfl

theorem asks_protect (protector : Protector) (plaintext : Bytes) :
    Asks allowed (protector.protect plaintext : Call (Watched σ ρ) Bytes) := by
  apply asks_nothing
  intro start
  apply (protector.leaves_protect plaintext start).imp
  intro _ after kept
  rw [kept.1]

theorem asks_noting {call : PartCall} (permitted : allowed call = true) (work : Call σ α) :
    Asks allowed (noting call work : Call (Watched σ ρ) α) := by
  intro start
  rw [leaves_noting]
  refine ⟨[call], ?_, rfl⟩
  intro asked member
  rw [List.mem_singleton.mp member]
  exact permitted

theorem Asks.bind {call : Call (Watched σ ρ) α} {continuation : α → Call (Watched σ ρ) β}
    (first : Asks allowed call) (second : ∀ value, Asks allowed (continuation value)) :
    Asks allowed (call >>= continuation) := by
  intro start
  rw [Call.leaves_bind]
  apply (first start).imp
  rintro (outcome | payload | _) after asked
  · cases outcome with
    | ok value =>
        obtain ⟨made, permitted, grown⟩ := asked
        simp only [Call.Follow]
        apply (second value after).imp
        rintro _ later ⟨more, allowedMore, grownMore⟩
        refine ⟨made ++ more, ?_, by rw [grownMore, grown, List.append_assoc]⟩
        intro asked member
        rcases List.mem_append.mp member with early | late
        · exact permitted asked early
        · exact allowedMore asked late
    | error failure => exact asked
  · exact asked
  · exact asked

end Asking

end Watched

/-! ## Hooks know nothing of the observer -/

namespace Watched

theorem blind_noting (call : PartCall) (work : Call σ α) :
    (noting call work : Call (Watched σ ρ) α).Blind observedCell := by
  apply Routine.blind_closed.andThen
  · apply Routine.blind_closed.lift
    apply Routine.blind_step
    intro value context
    rfl
  · intro _
    exact Routine.blind_within parts_lawful observed_apart_parts work.run

end Watched

namespace AdapterParts

open Watched

variable (parts : AdapterParts σ ρ) (access : Access σ) (name : String)

theorem parts_blind :
    parts.adapter.PartsHave (fun _ routine => routine.Blind observedCell)
      (access.watched name) where
  draw := Routine.blind_step fun _ _ => rfl
  serialize := blind_noting _ _
  load _ := blind_noting _ _
  read _ _ := blind_noting _ _
  write _ _ _ := blind_noting _ _
  remove _ _ := blind_noting _ _
  lock := by
    intro lock present key serves
    obtain ⟨original, -, rfl⟩ := Option.map_eq_some_iff.mp present
    exact blind_noting _ _
  unlock := by
    intro lock present key serves
    obtain ⟨original, -, rfl⟩ := Option.map_eq_some_iff.mp present
    exact blind_noting _ _

theorem blind_hook (kind : HookKind) :
    (parts.adapter.hooks.invoke kind (access.watched name)).Blind observedCell :=
  (parts.parts_blind access name).hook Routine.blind_closed kind

end AdapterParts

end TokenPersistence
