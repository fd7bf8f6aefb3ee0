import TokenPersistence.Proofs.Adapter.Watched
import TokenPersistence.Proofs.Routine.Tells

/-!
# The steps of persisting

After an access the adapter names the partition, serializes the collection, protects the
plaintext, calls the store, and gives the lock back. Each of these steps may fail. What is
due of the store, and which step is the first to fail, is said here without the adapter;
persisting then goes in one of three ways: nothing has changed, an early step fails, or
what is due is called for.
-/

namespace TokenPersistence

set_option autoImplicit false

variable {σ ρ α β : Type}

namespace LogEvent

def isChange : LogEvent → Bool
  | persisted .. | removed .. => true
  | _ => false

end LogEvent

namespace PartCall

def onStore : PartCall → Bool
  | read .. | write .. | remove .. => true
  | _ => false

/-- What is logged of a change of the store once it has been made. -/
def announcement (appCache : Bool) : PartCall → List LogEvent
  | write key payload _ => [.persisted key payload.length appCache]
  | remove key _ => [.removed key]
  | _ => []

end PartCall

namespace Watched

/-- The context after so many calls of the parts, which have left this of the rest. -/
def asked (start : Context (Watched σ ρ)) (made : List PartCall) (after : Context σ) :
    Context (Watched σ ρ) :=
  partsCell.widen after (callsCell.change (start.data.calls ++ made) start)

@[simp] theorem asked_asked (start : Context (Watched σ ρ)) (first second : List PartCall)
    (between after : Context σ) :
    asked (asked start first between) second after = asked start (first ++ second) after := by
  unfold asked
  rw [← List.append_assoc]
  rfl

theorem asked_nothing (start : Context (Watched σ ρ)) :
    asked start [] (partsCell.narrow start) = start := by
  unfold asked
  rw [List.append_nil]
  rfl

variable {matters : LogEvent → Bool} {after : Context σ} {told : List LogEvent}

end Watched

theorem Call.returned_unique {ending : Ending (Except Failure α)} {first second : α}
    (once : ending = .returned (.ok first)) (again : ending = .returned (.ok second)) :
    first = second := by
  simpa using once.symm.trans again

/-- In the contexts in question, the call ends with a value or a failure, and reports no
change of a partition itself. -/
def Call.Orderly (during : Context σ → Prop) (call : Call σ α) : Prop :=
  ∀ now, during now → ∃ outcome after, during after ∧
    call.Tells LogEvent.isChange now outcome after []

inductive PersistStep where
  | key
  | serialize
  | protect
  | store
  | unlock
  deriving DecidableEq

def PersistStep.beforeStore : PersistStep → Bool
  | .key | .serialize | .protect => true
  | .store | .unlock => false

namespace AdapterParts

section Steps

variable (parts : AdapterParts σ ρ) (access : Access σ) (name : String)

/-- Each part that the hook after an access calls may fail, but comes to an end. -/
structure Orderly (during : Context σ → Prop) : Prop where
  key : ∀ payload, parts.key (access.watched name) ≠ .panicked payload
  serialize : access.collection.serialize.Orderly during
  protect : ∀ plaintext, (parts.protector.protect plaintext : Call σ Bytes).Orderly during
  write : ∀ key payload, (parts.store.write key payload access.hints).Orderly during
  remove : ∀ key, (parts.store.remove key access.hints).Orderly during
  unlock : ∀ lock, parts.lock = some lock → ∀ key, (lock.unlock key).Orderly during

structure Keyed (key : String) : Prop where
  provided : parts.key (access.watched name) = .returned key
  nonempty : key ≠ ""

def perform : PartCall → Call σ Unit
  | .write key payload hints => parts.store.write key payload hints
  | .remove key hints => parts.store.remove key hints
  | _ => pure ()

def serializing (start : Context σ) : Run (Context σ) (Except Failure Bytes) :=
  access.collection.serialize.run.run start

def protecting (plaintext : Bytes) (start : Context σ) :
    Run (Context σ) (Except Failure Bytes) :=
  (parts.protector.protect plaintext : Call σ Bytes).run.run (serializing access start).state

variable (start : Context σ)

/-- The change of the store that is due after an access, with the expiry that the access
suggests, and the context in which it is due. -/
inductive Due : PartCall → Context σ → Prop where
  | write {key : String} {plaintext payload : Bytes} (keyed : parts.Keyed access name key)
      (changed : access.stateChanged = true) (tokens : access.hasTokens = true)
      (serialized : (serializing access start).ending = .returned (.ok plaintext))
      (sealed : (parts.protecting access plaintext start).ending = .returned (.ok payload)) :
      Due (.write key payload { access.hints with suggestedExpiry := access.suggestedExpiry })
        (parts.protecting access plaintext start).state
  | remove {key : String} (keyed : parts.Keyed access name key)
      (changed : access.stateChanged = true) (tokenless : access.hasTokens = false) :
      Due (.remove key { access.hints with suggestedExpiry := access.suggestedExpiry }) start

def Succeeds (call : PartCall) (before : Context σ) : Prop :=
  ((parts.perform call).run.run before).ending = .returned (.ok ())

/-- Persisting has come to a good end, with or without a change. -/
inductive Persisted : Context σ → Prop where
  | unchanged (same : access.stateChanged = false) : Persisted start
  | changed {call : PartCall} {before : Context σ} (due : parts.Due access name start call before)
      (succeeds : parts.Succeeds call before) :
      Persisted ((parts.perform call).run.run before).state

/-- The first step that fails: all steps before it have gone well, or were not called for. -/
inductive FailsFirst : PersistStep → Failure → Prop where
  | key {failure : Failure}
      (consulted : access.stateChanged = true ∨ parts.lock.isSome = true)
      (failed : parts.key (access.watched name) = .failed failure) : FailsFirst .key failure
  | serialize {key : String} {failure : Failure} (keyed : parts.Keyed access name key)
      (changed : access.stateChanged = true) (tokens : access.hasTokens = true)
      (failed : (serializing access start).ending = .returned (.error failure)) :
      FailsFirst .serialize failure
  | protect {key : String} {plaintext : Bytes} {failure : Failure}
      (keyed : parts.Keyed access name key)
      (changed : access.stateChanged = true) (tokens : access.hasTokens = true)
      (serialized : (serializing access start).ending = .returned (.ok plaintext))
      (failed : (parts.protecting access plaintext start).ending = .returned (.error failure)) :
      FailsFirst .protect failure
  | store {call : PartCall} {before : Context σ} {failure : Failure}
      (due : parts.Due access name start call before)
      (failed : ((parts.perform call).run.run before).ending = .returned (.error failure)) :
      FailsFirst .store failure
  | unlock {key : String} {lock : WriteLock σ} {after : Context σ} {failure : Failure}
      (keyed : parts.Keyed access name key) (locked : parts.lock = some lock)
      (persisted : parts.Persisted access name start after)
      (failed : ((lock.unlock key).run.run after).ending = .returned (.error failure)) :
      FailsFirst .unlock failure

end Steps

variable {parts : AdapterParts σ ρ} {access : Access σ} {name : String} {start : Context σ}

theorem Keyed.unique {first second : String} (keyed : parts.Keyed access name first)
    (other : parts.Keyed access name second) : first = second :=
  Attempt.returned.inj (keyed.provided.symm.trans other.provided)

theorem Keyed.not_failed {key : String} (keyed : parts.Keyed access name key)
    (failure : Failure) : parts.key (access.watched name) ≠ .failed failure := by
  rw [keyed.provided]
  simp

theorem Due.keyed {call : PartCall} {before : Context σ}
    (due : parts.Due access name start call before) :
    access.stateChanged = true ∧ ∃ key, parts.Keyed access name key := by
  cases due with
  | write keyed changed => exact ⟨changed, _, keyed⟩
  | remove keyed changed => exact ⟨changed, _, keyed⟩

theorem Due.onStore {call : PartCall} {before : Context σ}
    (due : parts.Due access name start call before) : call.onStore = true := by
  cases due <;> rfl

theorem Due.unique {call other : PartCall} {before beforeOther : Context σ}
    (due : parts.Due access name start call before)
    (also : parts.Due access name start other beforeOther) :
    call = other ∧ before = beforeOther := by
  cases due with
  | write keyed _ tokens serialized sealed =>
      cases also with
      | write keyedOther _ _ serializedOther sealedOther =>
          obtain rfl := keyed.unique keyedOther
          obtain rfl := Call.returned_unique serialized serializedOther
          obtain rfl := Call.returned_unique sealed sealedOther
          exact ⟨rfl, rfl⟩
      | remove _ _ tokenless => simp [tokens] at tokenless
  | remove keyed _ tokenless =>
      cases also with
      | write _ _ tokens _ _ => simp [tokens] at tokenless
      | remove keyedOther _ _ =>
          obtain rfl := keyed.unique keyedOther
          exact ⟨rfl, rfl⟩

theorem FailsFirst.not_due {step : PersistStep} {failure : Failure}
    (fails : parts.FailsFirst access name start step failure) (early : step.beforeStore = true)
    {call : PartCall} {before : Context σ} : ¬ parts.Due access name start call before := by
  intro due
  cases fails with
  | key _ failed =>
      obtain ⟨_, key, keyed⟩ := due.keyed
      exact keyed.not_failed _ failed
  | serialize _ _ tokens failed =>
      cases due with
      | write _ _ _ serialized _ => simp [failed] at serialized
      | remove _ _ tokenless => simp [tokens] at tokenless
  | protect _ _ tokens serialized failed =>
      cases due with
      | write _ _ _ serializedOther sealed =>
          obtain rfl := Call.returned_unique serialized serializedOther
          simp [failed] at sealed
      | remove _ _ tokenless => simp [tokens] at tokenless
  | store _ _ => cases early
  | unlock _ _ _ _ => cases early

/-- With a key, only a change can fail before the lock is given back. -/
theorem FailsFirst.changed {key : String} (keyed : parts.Keyed access name key)
    {step : PersistStep} {failure : Failure}
    (fails : parts.FailsFirst access name start step failure) (persists : step ≠ .unlock) :
    access.stateChanged = true := by
  cases fails with
  | key _ failed => exact absurd failed (keyed.not_failed _)
  | serialize _ changed _ _ => exact changed
  | protect _ changed _ _ _ => exact changed
  | store due _ => exact due.keyed.1
  | unlock _ _ _ _ => exact absurd rfl persists

theorem FailsFirst.unique_early {key : String} (keyed : parts.Keyed access name key)
    {step other : PersistStep} {failure otherFailure : Failure}
    (fails : parts.FailsFirst access name start step failure) (early : step.beforeStore = true)
    (also : parts.FailsFirst access name start other otherFailure)
    (earlyToo : other.beforeStore = true) : failure = otherFailure := by
  cases fails with
  | key _ failed => exact absurd failed (keyed.not_failed _)
  | serialize _ _ _ failed =>
      cases also with
      | key _ failedOther => exact absurd failedOther (keyed.not_failed _)
      | serialize _ _ _ failedOther => simpa using failed.symm.trans failedOther
      | protect _ _ _ serialized _ => simp [failed] at serialized
      | store _ _ => cases earlyToo
      | unlock _ _ _ _ => cases earlyToo
  | protect _ _ _ serialized failed =>
      cases also with
      | key _ failedOther => exact absurd failedOther (keyed.not_failed _)
      | serialize _ _ _ failedOther => simp [failedOther] at serialized
      | protect _ _ _ serializedOther failedOther =>
          obtain rfl := Call.returned_unique serialized serializedOther
          simpa using failed.symm.trans failedOther
      | store _ _ => cases earlyToo
      | unlock _ _ _ _ => cases earlyToo
  | store _ _ => cases early
  | unlock _ _ _ _ => cases early

section Persisting

variable (parts access name start)

/-- How persisting goes: the calls that it makes, its outcome, the context that it leaves to
the lock, and what it reports. -/
inductive Persists : List PartCall → Except Failure Unit → Context σ → List LogEvent → Prop where
  | unchanged (same : access.stateChanged = false) : Persists [] (.ok ()) start []
  | failed {step : PersistStep} {failure : Failure} {calls : List PartCall} {after : Context σ}
      (fails : parts.FailsFirst access name start step failure)
      (early : step.beforeStore = true) (quiet : ∀ call ∈ calls, call.onStore = false) :
      Persists calls (.error failure) after []
  | called {calls : List PartCall} {call : PartCall} {before : Context σ}
      {outcome : Except Failure Unit} (quiet : ∀ call ∈ calls, call.onStore = false)
      (due : parts.Due access name start call before)
      (ended : ((parts.perform call).run.run before).ending = .returned outcome) :
      Persists (calls ++ [call]) outcome ((parts.perform call).run.run before).state
        (if outcome.isOk then call.announcement access.appCache else [])

end Persisting

section Consequences

variable {calls : List PartCall} {outcome : Except Failure Unit} {after : Context σ}
  {told : List LogEvent}

theorem Persists.failure_iff {key : String} (keyed : parts.Keyed access name key)
    (persists : parts.Persists access name start calls outcome after told) (failure : Failure) :
    outcome = .error failure ↔
      ∃ step, step ≠ .unlock ∧ parts.FailsFirst access name start step failure := by
  cases persists with
  | unchanged same =>
      refine ⟨fun failed => (by cases failed), ?_⟩
      rintro ⟨step, persisting, fails⟩
      rw [fails.changed keyed persisting] at same
      cases same
  | @failed step early _ _ fails isEarly quiet =>
      constructor
      · intro same
        obtain rfl : early = failure := by simpa using same
        exact ⟨step, (by rintro rfl; cases isEarly), fails⟩
      · rintro ⟨other, persisting, also⟩
        cases earlyToo : other.beforeStore with
        | true => rw [fails.unique_early keyed isEarly also earlyToo]
        | false =>
            cases also with
            | store due _ => exact absurd due (fails.not_due isEarly)
            | unlock _ _ _ _ => exact absurd rfl persisting
            | _ => cases earlyToo
  | @called _ call before _ quiet due ended =>
      constructor
      · rintro rfl
        exact ⟨.store, by simp, .store due ended⟩
      · rintro ⟨other, persisting, also⟩
        cases earlyToo : other.beforeStore with
        | true => exact absurd due (also.not_due earlyToo)
        | false =>
            cases also with
            | store dueToo failed =>
                obtain ⟨rfl, rfl⟩ := due.unique dueToo
                simpa using ended.symm.trans failed
            | unlock _ _ _ _ => exact absurd rfl persisting
            | _ => cases earlyToo

end Consequences

end AdapterParts

end TokenPersistence
