import TokenPersistence.Adapter
import TokenPersistence.Proofs.Routine.Leaves
import TokenPersistence.Rehearsal.RecordingCollection

/-!
# The parts of hooks

What the parts of a hook end with and leave behind. Opening a payload never fails and
changes no data; sealing one draws a nonce; filling a recording collection ends as the
collection says. A hook under safe wiring ends well in any case, after the observer has
been told of what went wrong.
-/

namespace TokenPersistence

set_option autoImplicit false

variable {σ : Type}

namespace Protector

def opening (protector : Protector) (payload : Bytes) : Ending (Except Failure Bytes) :=
  match protector.encryptor with
  | none => .returned (.ok payload)
  | some encryptor =>
      match encryptor.unprotect payload with
      | .returned plaintext => .returned (.ok plaintext)
      | .failed _ => .returned (.ok payload)
      | .panicked panic => .panicked panic

def Seals (protector : Protector) (plaintext payload : Bytes) : Prop :=
  match protector.encryptor with
  | none => payload = plaintext
  | some encryptor => ∃ nonce, encryptor.protect nonce plaintext = .returned payload

@[simp] theorem leaves_unprotect (protector : Protector) (payload : Bytes)
    (start : Context σ) (post : Ending (Except Failure Bytes) → Context σ → Prop) :
    (protector.unprotect payload : Call σ Bytes).run.Leaves start post ↔
      post (protector.opening payload) start := by
  unfold unprotect opening
  cases protector.encryptor with
  | none => rfl
  | some encryptor =>
      dsimp only
      cases encryptor.unprotect payload <;> rfl

theorem leaves_protect (protector : Protector) (plaintext : Bytes) (start : Context σ) :
    (protector.protect plaintext : Call σ Bytes).run.Leaves start fun ending after =>
      after.data = start.data ∧
        ∀ payload, ending = .returned (.ok payload) → protector.Seals plaintext payload := by
  unfold protect Seals
  cases protector.encryptor with
  | none =>
      refine ⟨rfl, ?_⟩
      intro payload returned
      cases returned
      rfl
  | some encryptor =>
      simp only [Call.leaves_bind, Call.leaves_lift, Routine.leaves_step, Call.Succeed,
        Call.Follow, Call.leaves_of_attempt]
      refine ⟨rfl, ?_⟩
      intro payload returned
      exact ⟨start.drawNonce.1, Call.returned_of_attempted returned⟩

end Protector

namespace Adapter

open Rehearsal (RecordingCollection)

theorem load_filled {collection : RecordingCollection} {bytes : Bytes}
    (filled : (collection.load bytes true).1 = .ok ()) :
    (collection.load bytes true).2.state = bytes := by
  unfold RecordingCollection.load at filled ⊢
  split at filled
  · cases filled
  · next accepted => simp [accepted]

theorem load_rejected {collection : RecordingCollection} {plaintext : Bytes}
    {failure : Failure} (rejected : (collection.load plaintext true).1 = .error failure) :
    (collection.load plaintext true).2.state = collection.state := by
  unfold RecordingCollection.load at rejected ⊢
  split at rejected
  · next refuses => simp [refuses]
  · cases rejected

theorem serialize_state {collection : RecordingCollection} {plaintext : Bytes}
    (serialized : collection.serialize.1 = .ok plaintext) : plaintext = collection.state := by
  unfold RecordingCollection.serialize at serialized
  split at serialized
  · cases serialized
  · cases serialized
    rfl

theorem leaves_fill (adapter : Adapter σ) (key : String) (access : Access σ)
    (plaintext : Bytes) (start : Context σ)
    (post : Ending (Except Failure Unit) → Context σ → Prop) :
    (adapter.load key access plaintext).run.Leaves start post ↔
      (access.collection.load plaintext true).run.Leaves start post := by
  unfold load
  rw [Call.leaves_bind, Call.leaves_outcome]
  unfold Routine.Leaves
  cases ((access.collection.load plaintext true).run.run start).ending with
  | returned outcome => cases outcome <;> rfl
  | panicked payload => rfl
  | stalled => rfl

@[simp] theorem leaves_load (adapter : Adapter σ) (key : String) (access : Access σ)
    (plaintext : Bytes) (cell : Cell σ RecordingCollection)
    (filled : access.collection = RecordingCollection.toCollection cell) (start : Context σ)
    (post : Ending (Except Failure Unit) → Context σ → Prop) :
    (adapter.load key access plaintext).run.Leaves start post ↔
      post (.returned ((cell.get start.data).load plaintext true).1)
        { start with
          data := cell.put ((cell.get start.data).load plaintext true).2 start.data } := by
  rw [leaves_fill, filled]
  rfl

theorem leaves_before_access (adapter : Adapter σ) (access : Access σ) (key : String)
    (provided : adapter.key access = .returned key) (keyed : key.isEmpty = false)
    (start : Context σ) (post : Ending (Except Failure Unit) → Context σ → Prop) :
    (adapter.beforeAccess access).run.Leaves start post ↔
      (adapter.store.read key access.hints).run.Leaves start
        (Call.Follow (fun payload => do
          let plaintext ← adapter.protector.unprotect (payload.getD [])
          adapter.load key access plaintext) post) := by
  unfold beforeAccess
  rw [Call.leaves_bind, Call.leaves_of_attempt, provided]
  simp only [Call.attempted, Call.Follow, keyed, Bool.false_eq_true, if_false]
  rw [Call.leaves_bind]

end Adapter

namespace SafeWiring

/-- What is left to show of how a hook ends, when safe wiring takes the outcome. -/
def Mask (wiring : SafeWiring σ) (kind : HookKind)
    (post : Ending (Except Failure Unit) → Context σ → Prop) :
    Ending (Except Failure Unit) → Context σ → Prop
  | .returned (.ok ()), after => post (.returned (.ok ())) after
  | .returned (.error failure), after =>
      (wiring.suppress kind failure).Leaves after (Call.Succeed post)
  | .panicked payload, after =>
      (wiring.suppress kind payload.asFailure).Leaves after (Call.Succeed post)
  | .stalled, after => post .stalled after

theorem leaves_wrap (wiring : SafeWiring σ) (kind : HookKind) (hook : AccessHook σ)
    (access : Access σ) (start : Context σ)
    (post : Ending (Except Failure Unit) → Context σ → Prop) :
    (wiring.wrap kind hook access).run.Leaves start post ↔
      (hook access).run.Leaves start (wiring.Mask kind post) := by
  unfold SafeWiring.wrap
  rw [Call.leaves_lift, Routine.leaves_bind, Routine.leaves_catch_panic]
  unfold Routine.Leaves
  cases ((hook access).run.run start).ending with
  | returned outcome => cases outcome <;> rfl
  | panicked payload => rfl
  | stalled => rfl

variable {τ : Type} {cell : Cell σ τ}

/-- The observer, if there is one, comes to an end and leaves a part of the data alone. -/
def Discreet (wiring : SafeWiring σ) (cell : Cell σ τ) : Prop :=
  ∀ observer, wiring.observer = some observer → ∀ observed now,
    (observer observed).Leaves now fun ending after =>
      ending ≠ .stalled ∧ cell.get after.data = cell.get now.data

theorem Discreet.suppress {wiring : SafeWiring σ} (discreet : wiring.Discreet cell)
    (kind : HookKind) (failure : Failure) (now : Context σ) :
    (wiring.suppress kind failure).Returns now fun _ after =>
      cell.get after.data = cell.get now.data := by
  unfold SafeWiring.suppress notify
  rw [Routine.returns_bind, Routine.returns_write]
  cases present : wiring.observer with
  | none => exact (Routine.returns_pure () now _).mpr rfl
  | some observer =>
      apply Routine.Leaves.returns
      simp only [Routine.leaves_bind, Routine.leaves_catch_panic]
      apply (discreet observer present _ now).imp
      intro ending after observed
      obtain ⟨ended, same⟩ := observed
      cases ending with
      | returned value => exact ⟨(), rfl, same⟩
      | panicked payload => exact ⟨(), rfl, same⟩
      | stalled => exact absurd rfl ended

/-- However the hook comes to an end, the host sees success, and the data that the
observer leaves alone is as the hook left it. -/
theorem Discreet.wrap {wiring : SafeWiring σ} (discreet : wiring.Discreet cell)
    (kind : HookKind) (hook : AccessHook σ) (access : Access σ) (start : Context σ)
    (holds : τ → Prop)
    (ends : (hook access).run.Leaves start fun ending after =>
      ending ≠ .stalled ∧ holds (cell.get after.data)) :
    (wiring.wrap kind hook access).run.Returns start fun outcome after =>
      outcome = .ok () ∧ holds (cell.get after.data) := by
  have told : ∀ failure now, holds (cell.get now.data) →
      (wiring.suppress kind failure).Leaves now (Call.Succeed fun ending after =>
        ∃ outcome, ending = .returned outcome ∧
          outcome = .ok () ∧ holds (cell.get after.data)) := by
    intro failure now held
    apply Routine.Returns.leaves
    apply (discreet.suppress kind failure now).imp
    intro _ after same
    exact ⟨.ok (), rfl, rfl, same ▸ held⟩
  apply Routine.Leaves.returns
  rw [leaves_wrap]
  apply ends.imp
  intro ending after hooked
  obtain ⟨ended, held⟩ := hooked
  cases ending with
  | returned outcome =>
      cases outcome with
      | ok done => exact ⟨.ok (), rfl, rfl, held⟩
      | error failure => exact told failure after held
  | panicked payload => exact told payload.asFailure after held
  | stalled => exact absurd rfl ended

end SafeWiring

end TokenPersistence
