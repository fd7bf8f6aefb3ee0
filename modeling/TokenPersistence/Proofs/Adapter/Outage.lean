import TokenPersistence.Proofs.Adapter.Hooks
import TokenPersistence.Proofs.Rehearsal.StoreBench

/-!
# Outages under safe wiring

Under safe wiring the host sees success whether the store has nothing under a key or
cannot be read. The collection tells the two apart: where nothing is stored it is
emptied, but a read that fails ends the hook before the collection is filled, so that
the collection keeps what it held. The two agree exactly when it held nothing.
-/

namespace TokenPersistence

set_option autoImplicit false

open Rehearsal (RecordingCollection)

variable {σ : Type}

/-- The encryptor, if there is one, opens nothing to nothing, or refuses it. -/
def Protector.OpensNothing (protector : Protector) : Prop :=
  ∀ encryptor, protector.encryptor = some encryptor →
    encryptor.unprotect [] = .returned [] ∨ ∃ failure, encryptor.unprotect [] = .failed failure

theorem Protector.OpensNothing.opening {protector : Protector}
    (opensNothing : protector.OpensNothing) : protector.opening [] = .returned (.ok []) := by
  unfold Protector.opening
  cases present : protector.encryptor with
  | none => rfl
  | some encryptor =>
      rcases opensNothing encryptor present with opened | ⟨failure, refused⟩
      · simp only [opened]
      · simp only [refused]

theorem load_nothing (collection : RecordingCollection) :
    (collection.load [] true).1 = .ok () ∧ (collection.load [] true).2.state = [] := by
  simp [RecordingCollection.load]

namespace Adapter

variable {cell : Cell σ RecordingCollection}

theorem before_access_vacant (adapter : Adapter σ) (lawful : cell.Lawful)
    (access : Access σ) (filled : access.collection = RecordingCollection.toCollection cell)
    (opensNothing : adapter.protector.OpensNothing) (key : String)
    (provided : adapter.key access = .returned key) (keyed : key.isEmpty = false)
    (start : Context σ)
    (vacant : (adapter.store.read key access.hints).run.Returns start fun outcome _ =>
      outcome = .ok none) :
    (adapter.beforeAccess access).run.Leaves start fun ending after =>
      ending ≠ .stalled ∧ (cell.get after.data).state = [] := by
  rw [leaves_before_access adapter access key provided keyed]
  apply Routine.Returns.leaves
  apply vacant.imp
  intro outcome after nothing
  subst nothing
  simp only [Call.Follow, Call.leaves_bind, Option.getD_none, Protector.leaves_unprotect,
    opensNothing.opening]
  rw [leaves_load adapter key access [] cell filled after, lawful.get_put]
  exact ⟨by simp, (load_nothing (cell.get after.data)).2⟩

theorem before_access_offline (adapter : Adapter σ) (access : Access σ) (key : String)
    (provided : adapter.key access = .returned key) (keyed : key.isEmpty = false)
    (start : Context σ)
    (offline : (adapter.store.read key access.hints).run.Returns start fun outcome after =>
      (∃ failure, outcome = .error failure) ∧ cell.get after.data = cell.get start.data) :
    (adapter.beforeAccess access).run.Leaves start fun ending after =>
      ending ≠ .stalled ∧ cell.get after.data = cell.get start.data := by
  rw [leaves_before_access adapter access key provided keyed]
  apply Routine.Returns.leaves
  apply offline.imp
  intro outcome after unread
  obtain ⟨⟨failure, failed⟩, same⟩ := unread
  subst failed
  exact ⟨by simp, same⟩

/-- A hook before an access is run with a store that cannot be read, and with one that
has nothing under the key. The host sees success both times, but finds the collection
alike only if it was empty already. -/
theorem outage_like_vacancy_iff_empty (lawful : cell.Lawful) (access : Access σ)
    (filled : access.collection = RecordingCollection.toCollection cell)
    (adapter : Adapter σ) (opensNothing : adapter.protector.OpensNothing)
    (discreet : SafeWiring.Discreet ⟨adapter.observer⟩ cell) (key : String)
    (provided : adapter.key access = .returned key) (keyed : key.isEmpty = false)
    (offline vacant : PartitionStore σ) (start : Context σ)
    (cannotRead : (offline.read key access.hints).run.Returns start fun outcome after =>
      (∃ failure, outcome = .error failure) ∧ cell.get after.data = cell.get start.data)
    (hasNothing : (vacant.read key access.hints).run.Returns start fun outcome _ =>
      outcome = .ok none) :
    let outage := ({ adapter with store := offline }.safeHooks.beforeAccess access).run.run start
    let vacancy := ({ adapter with store := vacant }.safeHooks.beforeAccess access).run.run start
    outage.ending = .returned (.ok ()) ∧ vacancy.ending = .returned (.ok ()) ∧
      (cell.get outage.state.data).state = (cell.get start.data).state ∧
      (cell.get vacancy.state.data).state = [] ∧
      ((cell.get outage.state.data).state = (cell.get vacancy.state.data).state ↔
        (cell.get start.data).state = []) := by
  intro outage vacancy
  have kept := before_access_offline { adapter with store := offline } access key provided
    keyed start cannotRead
  have emptied := before_access_vacant { adapter with store := vacant } lawful access filled
    opensNothing key provided keyed start hasNothing
  obtain ⟨first, outageEnds, firstOk, same⟩ := discreet.wrap .beforeAccess _ access start
    (fun collection => collection = cell.get start.data) kept
  obtain ⟨second, vacancyEnds, secondOk, nothing⟩ := discreet.wrap .beforeAccess _ access start
    (fun collection => collection.state = []) emptied
  rw [firstOk] at outageEnds
  rw [secondOk] at vacancyEnds
  have unchanged : (cell.get outage.state.data).state = (cell.get start.data).state :=
    congrArg RecordingCollection.state same
  refine ⟨outageEnds, vacancyEnds, unchanged, nothing, ?_⟩
  rw [unchanged, show (cell.get vacancy.state.data).state = [] from nothing]

end Adapter

namespace Rehearsal

theorem outage_keeps_leftover :
    let cell := Bench.collection "tokens"
    let access := (benchPlan "A").toAccess
    let start := benchLeftover fun index => index == 1
    let outage := ((benchAdapter 1 ⟨none⟩).safeHooks.beforeAccess access).run.run start
    let vacancy := ((benchAdapter 0 ⟨none⟩).safeHooks.beforeAccess access).run.run start
    outage.ending = .returned (.ok ()) ∧ vacancy.ending = .returned (.ok ()) ∧
      (cell.get outage.state.data).state = (cell.get start.data).state ∧
      (cell.get vacancy.state.data).state = [] ∧
      ((cell.get outage.state.data).state = (cell.get vacancy.state.data).state ↔
        (cell.get start.data).state = []) :=
  Adapter.outage_like_vacancy_iff_empty (Bench.collection_lawful "tokens")
    (benchPlan "A").toAccess rfl (benchAdapter 0 ⟨none⟩) (fun _ present => by cases present)
    (fun _ present => by cases present) "A" rfl rfl (benchStore 1) (benchStore 0)
    (benchLeftover fun index => index == 1) ⟨_, rfl, ⟨_, rfl⟩, rfl⟩ ⟨_, rfl, rfl⟩

/-- What the collection held before survives the outage. -/
theorem outage_differs_from_vacancy :
    let cell := Bench.collection "tokens"
    let access := (benchPlan "A").toAccess
    let start := benchLeftover fun index => index == 1
    let outage := ((benchAdapter 1 ⟨none⟩).safeHooks.beforeAccess access).run.run start
    let vacancy := ((benchAdapter 0 ⟨none⟩).safeHooks.beforeAccess access).run.run start
    (cell.get outage.state.data).state = [4] ∧ (cell.get vacancy.state.data).state = [] :=
  ⟨rfl, rfl⟩

end Rehearsal

end TokenPersistence
