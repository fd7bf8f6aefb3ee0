import TokenPersistence.Proofs.Adapter.Masking
import TokenPersistence.Proofs.Rehearsal.StoreBench

/-!
# Releasing the write lock

The hook after an access gives the lock of the partition back once it is through with
the store, if persisting comes to an orderly end, be it a success or a failure. A panic
of the collection, the encryptor or the store ends the hook before that, so that the lock
stays taken; a host that is wired safely sees success all the same.
-/

namespace TokenPersistence

set_option autoImplicit false

variable {σ ρ : Type}

def PartCall.sparesLock : PartCall → Bool
  | .lock _ | .unlock _ => false
  | _ => true

/-- The lock is given back once, under the key, after everything else that was asked. -/
def GivesBack (key : String) (before after : List PartCall) : Prop :=
  ∃ made, (∀ asked ∈ made, asked.sparesLock = true) ∧ after = before ++ (made ++ [.unlock key])

def LeavesTaken (before after : List PartCall) : Prop :=
  ∃ made, (∀ asked ∈ made, asked.sparesLock = true) ∧ after = before ++ made

theorem GivesBack.not_leaves_taken {key : String} {before after : List PartCall}
    (given : GivesBack key before after) : ¬ LeavesTaken before after := by
  rintro ⟨other, spares, grownOther⟩
  obtain ⟨made, _, grown⟩ := given
  rw [grown] at grownOther
  have unlocks : PartCall.unlock key ∈ other := by
    rw [← List.append_cancel_left grownOther]
    exact List.mem_append_right made (List.mem_singleton.mpr rfl)
  exact absurd (spares _ unlocks) (by simp [PartCall.sparesLock])

namespace Adapter

/-- What is left to show of how persisting ends: a panic is the end of the hook, and
after anything else the lock is given back. -/
def Release (lock : WriteLock σ) (key : String)
    (post : Ending (Except Failure Unit) → Context σ → Prop) :
    Ending (Except Failure Unit) → Context σ → Prop
  | .returned persisted, after =>
      (lock.unlock key).run.Leaves after fun ending released =>
        post (ending.map fun unlocked => persisted.bind fun _ => unlocked) released
  | .panicked payload, after => post (.panicked payload) after
  | .stalled, after => post .stalled after

theorem leaves_after_access (adapter : Adapter σ) {lock : WriteLock σ}
    (locked : adapter.lock = some lock) (access : Access σ) (key : String)
    (provided : adapter.key access = .returned key) (keyed : key.isEmpty = false)
    (start : Context σ) (post : Ending (Except Failure Unit) → Context σ → Prop) :
    (adapter.afterAccess access).run.Leaves start post ↔
      (adapter.persist key access).run.Leaves start (Release lock key post) := by
  unfold afterAccess unlock
  rw [locked]
  simp only [Option.isNone_some, Bool.and_false, Bool.false_eq_true, if_false]
  rw [Call.leaves_bind, Call.leaves_of_attempt, provided]
  simp only [Call.attempted, Call.Follow, keyed, Bool.false_eq_true, if_false]
  rw [Call.leaves_bind, Call.leaves_outcome]
  unfold Routine.Leaves
  cases ((adapter.persist key access).run.run start).ending with
  | returned persisted =>
      simp only [Call.Inspect, Call.Follow, Release]
      rw [Call.leaves_bind, Call.leaves_outcome]
      unfold Routine.Leaves
      cases ((lock.unlock key).run.run
        ((adapter.persist key access).run.run start).state).ending with
      | returned unlocked => cases persisted <;> rfl
      | panicked payload => rfl
      | stalled => rfl
  | panicked payload => rfl
  | stalled => rfl

end Adapter

namespace AdapterParts

open Watched

variable (parts : AdapterParts σ ρ) (access : Access σ) (name key : String)

/-- Persisting asks the collection and the store, and never the lock. -/
theorem asks_persist :
    Asks PartCall.sparesLock (parts.adapter.persist key (access.watched name)) := by
  unfold Adapter.persist
  split
  · exact asks_pure ()
  · split
    · refine Asks.bind (asks_noting rfl _) ?_
      intro plaintext
      refine Asks.bind (asks_protect _ plaintext) ?_
      intro payload
      exact Asks.bind (asks_noting rfl _) fun _ => asks_log _
    · exact Asks.bind (asks_noting rfl _) fun _ => asks_log _

theorem after_access_releases {lock : WriteLock σ} (locked : parts.lock = some lock)
    (provided : parts.key (access.watched name) = .returned key) (keyed : key.isEmpty = false)
    (start : Context (Watched σ ρ)) :
    (parts.adapter.afterAccess (access.watched name)).run.Leaves start fun ending after =>
      match ((parts.adapter.persist key (access.watched name)).run.run start).ending with
      | .returned _ => GivesBack key start.data.calls after.data.calls
      | .panicked _ => LeavesTaken start.data.calls after.data.calls
      | .stalled => ending = .stalled := by
  have watched : parts.adapter.lock = some (watchLock lock) := by
    unfold adapter
    rw [locked]
    rfl
  rw [parts.adapter.leaves_after_access watched _ key provided keyed start]
  have asked := parts.asks_persist access name key start
  unfold Routine.Leaves at asked ⊢
  cases ended : ((parts.adapter.persist key (access.watched name)).run.run start).ending with
  | returned persisted =>
      obtain ⟨made, spares, grown⟩ := asked
      simp only [Adapter.Release, watchLock]
      rw [leaves_noting]
      refine ⟨made, spares, ?_⟩
      change _ ++ [PartCall.unlock key] = _
      rw [grown, List.append_assoc]
  | panicked payload => exact asked
  | stalled => rfl

/-- The hook after an access, under either wiring, whenever it comes to an end: the lock
is given back exactly if persisting did not panic, and otherwise it stays taken. -/
theorem lock_given_back_iff_persisting_returned {lock : WriteLock σ}
    (locked : parts.lock = some lock)
    (provided : parts.key (access.watched name) = .returned key) (keyed : key.isEmpty = false)
    (hooks : AccessHooks (Watched σ ρ))
    (wired : hooks = parts.adapter.hooks ∨ hooks = parts.adapter.safeHooks)
    (start : Context (Watched σ ρ)) :
    let persisting := (parts.adapter.persist key (access.watched name)).run.run start
    let hooked := (hooks.afterAccess (access.watched name)).run.run start
    hooked.ending ≠ .stalled →
      (GivesBack key start.data.calls hooked.state.data.calls ↔
        ∃ outcome, persisting.ending = .returned outcome) ∧
      (LeavesTaken start.data.calls hooked.state.data.calls ↔
        ∃ payload, persisting.ending = .panicked payload) := by
  intro persisting hooked ended
  have strict := parts.after_access_releases access name key locked provided keyed start
  have alike : hooked.state.data.calls =
        ((parts.adapter.afterAccess (access.watched name)).run.run start).state.data.calls ∧
      ((parts.adapter.afterAccess (access.watched name)).run.run start).ending ≠ .stalled := by
    rcases wired with rfl | rfl
    · exact ⟨rfl, ended⟩
    · obtain ⟨masked, later, same, _⟩ :=
        parts.safe_invocation_masks .afterAccess access name start.data.observed start
      refine ⟨congrArg (fun after => after.data.calls) same, ?_⟩
      intro stalled
      exact ended (masked.trans (congrArg Ending.masked stalled))
  obtain ⟨sameCalls, strictEnded⟩ := alike
  rw [sameCalls]
  unfold Routine.Leaves at strict
  change match persisting.ending with | .returned _ => _ | .panicked _ => _ | .stalled => _
    at strict
  cases ending : persisting.ending with
  | returned outcome =>
      rw [ending] at strict
      refine ⟨⟨fun _ => ⟨outcome, rfl⟩, fun _ => strict⟩, ?_⟩
      refine ⟨fun taken => absurd taken strict.not_leaves_taken, ?_⟩
      rintro ⟨payload, returned⟩
      cases returned
  | panicked payload =>
      rw [ending] at strict
      refine ⟨?_, ⟨fun _ => ⟨payload, rfl⟩, fun _ => strict⟩⟩
      refine ⟨fun given => absurd strict given.not_leaves_taken, ?_⟩
      rintro ⟨outcome, panicked⟩
      cases panicked
  | stalled =>
      rw [ending] at strict
      exact absurd strict strictEnded

end AdapterParts

namespace Rehearsal

def lockedParts (index : Nat) (encryptor : Option EncryptorPart) : AdapterParts Bench Unit where
  store := benchStore index
  key := KeyProvider.suggested
  protector := ⟨encryptor.map EncryptorPart.toEncryptor⟩
  lock := some (LockPart.toLock ⟨[], [], [], []⟩ (NodeSetup.cell index NodeData.locksCell))
  observer := none

/-- Nothing has been asked of the parts yet; the store of the node 1 fails at everything. -/
def lockedStart : Context (Watched Bench Unit) :=
  Context.initial Timestamp.epoch ⟨(benchLeftover fun index => index == 1).data, [], ⟨(), []⟩⟩

/-- The store fails at the write, and the lock is given back. -/
theorem lock_given_back_after_failed_write :
    let parts := lockedParts 1 none
    let access := (benchPlan "A").toAccess.watched "tokens"
    let persisting := (parts.adapter.persist "A" access).run.run lockedStart
    let hooked := (parts.adapter.safeHooks.afterAccess access).run.run lockedStart
    persisting.ending = .returned (.error (Failure.withText .write "mock: write failed")) ∧
      hooked.ending = .returned (.ok ()) ∧
      GivesBack "A" lockedStart.data.calls hooked.state.data.calls :=
  ⟨rfl, rfl, (AdapterParts.lock_given_back_iff_persisting_returned (lockedParts 1 none)
    (benchPlan "A").toAccess "tokens" "A" rfl rfl rfl _ (.inr rfl) lockedStart
    (show Ending.returned (Except.ok ()) ≠ .stalled by simp)).1.mpr ⟨_, rfl⟩⟩

/-- The lock is taken before a write, and then the encryptor panics. The host sees
success both times, and nobody gives the lock back. -/
theorem lock_left_taken_after_panic :
    let parts := lockedParts 0 (some (.panicking (some "boom") none))
    let access := (benchPlan "A").toAccess
    let run := parts.adapter.safeHooks.play
      [.invoke .beforeWrite access "tokens", .invoke .afterAccess access "tokens"] lockedStart
    run.endings =
        [(.beforeWrite, .returned (.ok ())), (.afterAccess, .returned (.ok ()))] ∧
      run.state.data.calls = [.lock "A", .serialize "tokens"] ∧
      ¬ GivesBack "A" [.lock "A"] run.state.data.calls :=
  ⟨rfl, rfl, fun given => given.not_leaves_taken ⟨[.serialize "tokens"], by decide, rfl⟩⟩

end Rehearsal

end TokenPersistence
