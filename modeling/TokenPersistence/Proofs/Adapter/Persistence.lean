import TokenPersistence.Proofs.Adapter.Ledger
import TokenPersistence.Proofs.Rehearsal.StoreBench

/-!
# Persistence is transparent

Hosts with any number of collections call the hooks of adapters over one recording
store, whose operations may fail at any time; between the hooks a host may change its
collections, time may pass and tokens may be cancelled. However a hook ends, it has
the store do one operation at most, so the ledger of what was persisted matches the
store after every hook. It goes on matching when an adapter with an encryptor takes
over, if the encryptor refuses what was written without it. A hook before an access that
succeeds fills its collection with what the ledger has under the key.
-/

namespace TokenPersistence

set_option autoImplicit false

open Rehearsal (RecordingStore RecordingCollection)

variable {σ : Type} {store : Cell σ RecordingStore}
  {collection : Cell σ RecordingCollection}

/-- The access is one to the collection in a cell apart from the store. -/
structure Access.AimsAt (access : Access σ) (store : Cell σ RecordingStore)
    (collection : Cell σ RecordingCollection) : Prop where
  lawful : collection.Lawful
  spared : store.Spares collection
  spares : collection.Spares store
  filled : access.collection = RecordingCollection.toCollection collection

namespace Adapter

/-- The adapter works on the recording store in a cell, and its lock, if it has one, does
not touch that store. -/
structure WorksOn (adapter : Adapter σ) (store : Cell σ RecordingStore) : Prop where
  lawful : store.Lawful
  onStore : adapter.store = RecordingStore.toStore store
  locks : ∀ lock, adapter.lock = some lock → ∀ key now,
    (lock.lock key).run.Leaves now fun _ after => store.get after.data = store.get now.data
  unlocks : ∀ lock, adapter.lock = some lock → ∀ key now,
    (lock.unlock key).run.Leaves now fun _ after => store.get after.data = store.get now.data

variable {adapter : Adapter σ} {kind : HookKind} {access : Access σ}

def Did (adapter : Adapter σ) (kind : HookKind) (access : Access σ)
    (store : Cell σ RecordingStore) (collection : Cell σ RecordingCollection)
    (before after : Context σ) : Prop :=
  Deed adapter kind access (collection.get before.data).state (store.get before.data)
    (store.get after.data)

theorem did_nothing {before after : Context σ}
    (same : store.get after.data = store.get before.data) :
    adapter.Did kind access store collection before after := by
  unfold Did
  rw [same]
  exact .nothing

theorem WorksOn.leaves_unlock (works : adapter.WorksOn store) (key : String) (now : Context σ) :
    (adapter.unlock key).run.Leaves now fun _ after =>
      store.get after.data = store.get now.data := by
  unfold unlock
  cases locked : adapter.lock with
  | none => rfl
  | some lock => exact works.unlocks lock locked key now

theorem read_found {key : String} {expiry : Option Timestamp} {recorded : RecordingStore}
    {payload : Option Bytes} (found : (recorded.read key expiry).1 = .ok payload) :
    payload = recorded.data.get? key := by
  unfold RecordingStore.read RecordingStore.perform at found
  split at found
  · cases found
  · cases found
    rfl

/-- A hook before an access asks the store once. If it succeeds, the collection holds
what is stored under the key, opened. -/
theorem leaves_keyed_before_access (works : adapter.WorksOn store)
    (aims : access.AimsAt store collection) (key : String)
    (provided : adapter.key access = .returned key) (keyed : key.isEmpty = false)
    (now : Context σ) :
    (adapter.beforeAccess access).run.Leaves now fun ending after =>
      store.get after.data = ((store.get now.data).read key access.suggestedExpiry).2 ∧
        (ending = .returned (.ok ()) →
          adapter.protector.opening (((store.get now.data).data.get? key).getD []) =
            .returned (.ok (collection.get after.data).state)) := by
  rw [leaves_before_access adapter access key provided keyed, works.onStore]
  simp only [RecordingStore.toStore, Call.leaves_step, Access.hints]
  have asked : store.get (store.put
      ((store.get now.data).read key access.suggestedExpiry).2 now.data) =
        ((store.get now.data).read key access.suggestedExpiry).2 := works.lawful.get_put _ _
  cases found : ((store.get now.data).read key access.suggestedExpiry).1 with
  | error failure => exact ⟨asked, fun returned => by cases returned⟩
  | ok payload =>
      rw [← read_found found]
      simp only [Call.Follow, Call.leaves_bind, Protector.leaves_unprotect]
      cases opened : adapter.protector.opening (payload.getD []) with
      | panicked panic => exact ⟨asked, fun returned => by cases returned⟩
      | stalled => exact ⟨asked, fun returned => by cases returned⟩
      | returned outcome =>
          cases outcome with
          | error failure => exact ⟨asked, fun returned => by cases returned⟩
          | ok plaintext =>
              change (adapter.load key access plaintext).run.Leaves _ _
              rw [leaves_load adapter key access plaintext collection aims.filled]
              refine ⟨(aims.spares _ _).trans asked, ?_⟩
              intro returned
              rw [aims.lawful.get_put, load_filled (Ending.returned.inj returned)]

theorem did_before_access (works : adapter.WorksOn store) (aims : access.AimsAt store collection)
    (now : Context σ) :
    (adapter.beforeAccess access).run.Leaves now fun _ after =>
      adapter.Did .beforeAccess access store collection now after := by
  cases provided : adapter.key access with
  | returned key =>
      by_cases keyed : key.isEmpty = true
      · unfold beforeAccess
        rw [Call.leaves_bind, Call.leaves_of_attempt, provided]
        simp only [Call.attempted, Call.Follow, keyed, if_true]
        exact did_nothing rfl
      · rw [Bool.not_eq_true] at keyed
        apply (leaves_keyed_before_access works aims key provided keyed now).imp
        intro ending after read
        obtain ⟨asked, _⟩ := read
        unfold Did
        rw [asked]
        exact .read key
  | failed failure =>
      unfold beforeAccess
      rw [Call.leaves_bind, Call.leaves_of_attempt, provided]
      exact did_nothing rfl
  | panicked panic =>
      unfold beforeAccess
      rw [Call.leaves_bind, Call.leaves_of_attempt, provided]
      exact did_nothing rfl

theorem did_write (works : adapter.WorksOn store) (key : String)
    (provided : adapter.key access = .returned key) (payload : Bytes) (event : LogEvent)
    (before now : Context σ)
    (sealed : adapter.protector.Seals (collection.get before.data).state payload)
    (same : store.get now.data = store.get before.data) :
    (adapter.store.write key payload access.hints >>= fun _ => Call.log event).run.Leaves now
      fun _ after => adapter.Did .afterAccess access store collection before after := by
  simp only [works.onStore, RecordingStore.toStore, Call.leaves_bind, Call.leaves_step]
  have did : adapter.Did .afterAccess access store collection before
      { now with
        data := store.put ((store.get now.data).write key payload access.hints.suggestedExpiry).2
          now.data } := by
    unfold Did
    rw [works.lawful.get_put, same]
    exact .write key payload rfl provided sealed
  cases ((store.get now.data).write key payload access.hints.suggestedExpiry).1 with
  | error failure => exact did
  | ok done => exact did

theorem did_remove (works : adapter.WorksOn store) (key : String)
    (provided : adapter.key access = .returned key) (event : LogEvent) (now : Context σ) :
    (adapter.store.remove key access.hints >>= fun _ => Call.log event).run.Leaves now
      fun _ after => adapter.Did .afterAccess access store collection now after := by
  simp only [works.onStore, RecordingStore.toStore, Call.leaves_bind, Call.leaves_step]
  have did : adapter.Did .afterAccess access store collection now
      { now with
        data := store.put ((store.get now.data).remove key access.hints.suggestedExpiry).2
          now.data } := by
    unfold Did
    rw [works.lawful.get_put]
    exact .remove key rfl provided
  cases ((store.get now.data).remove key access.hints.suggestedExpiry).1 with
  | error failure => exact did
  | ok done => exact did

theorem did_persist (works : adapter.WorksOn store) (aims : access.AimsAt store collection)
    (key : String) (provided : adapter.key access = .returned key) (now : Context σ) :
    (adapter.persist key access).run.Leaves now fun _ after =>
      adapter.Did .afterAccess access store collection now after := by
  unfold persist
  split
  · exact did_nothing rfl
  · split
    · rw [aims.filled]
      simp only [RecordingCollection.toCollection, Call.leaves_bind, Call.leaves_step]
      have spared := aims.spares ((collection.get now.data).serialize).2 now.data
      cases serialized : ((collection.get now.data).serialize).1 with
      | error failure => exact did_nothing spared
      | ok plaintext =>
          simp only [Call.Follow, Call.leaves_bind]
          apply (adapter.protector.leaves_protect plaintext _).imp
          intro ending after drawn
          obtain ⟨same, seals⟩ := drawn
          have stored : store.get after.data = store.get now.data := by
            rw [same, spared]
          cases ending with
          | panicked panic => exact did_nothing stored
          | stalled => exact did_nothing stored
          | returned outcome =>
              cases outcome with
              | error failure => exact did_nothing stored
              | ok payload =>
                  have sealed := seals payload rfl
                  rw [serialize_state serialized] at sealed
                  exact did_write works key provided payload _ now after sealed stored
    · exact did_remove works key provided _ now

theorem did_after_access (works : adapter.WorksOn store) (aims : access.AimsAt store collection)
    (now : Context σ) :
    (adapter.afterAccess access).run.Leaves now fun _ after =>
      adapter.Did .afterAccess access store collection now after := by
  unfold afterAccess
  split
  · exact did_nothing rfl
  · rw [Call.leaves_bind, Call.leaves_of_attempt]
    cases provided : adapter.key access with
    | failed failure => exact did_nothing rfl
    | panicked panic => exact did_nothing rfl
    | returned key =>
        simp only [Call.attempted, Call.Follow]
        split
        · exact did_nothing rfl
        · rw [Call.leaves_bind, Call.leaves_outcome]
          apply (did_persist works aims key provided now).imp
          intro ending between did
          cases ending with
          | panicked panic => exact did
          | stalled => exact did
          | returned persisted =>
              simp only [Call.Inspect, Call.Follow, Call.leaves_bind, Call.leaves_outcome]
              apply (works.leaves_unlock key between).imp
              intro ending last same
              have didLast : adapter.Did .afterAccess access store collection now last := by
                unfold Did at did ⊢
                rw [same]
                exact did
              cases ending with
              | panicked panic => exact didLast
              | stalled => exact didLast
              | returned unlocked => cases persisted <;> exact didLast

theorem did_before_write (works : adapter.WorksOn store) (now : Context σ) :
    (adapter.beforeWrite access).run.Leaves now fun _ after =>
      adapter.Did .beforeWrite access store collection now after := by
  unfold beforeWrite
  cases locked : adapter.lock with
  | none => exact did_nothing rfl
  | some lock =>
      rw [Call.leaves_bind, Call.leaves_of_attempt]
      cases adapter.key access with
      | failed failure => exact did_nothing rfl
      | panicked panic => exact did_nothing rfl
      | returned key =>
          simp only [Call.attempted, Call.Follow]
          split
          · exact did_nothing rfl
          · apply (works.locks lock locked key now).imp
            intro ending after same
            exact did_nothing same

theorem did_hook (works : adapter.WorksOn store) (aims : access.AimsAt store collection)
    (kind : HookKind) (now : Context σ) :
    (adapter.hooks.invoke kind access).run.Leaves now fun _ after =>
      adapter.Did kind access store collection now after := by
  cases kind with
  | beforeAccess => exact did_before_access works aims now
  | afterAccess => exact did_after_access works aims now
  | beforeWrite => exact did_before_write works now

/-- The states after hooks of any kind, for any collections, with the ledger of what they
persisted. Between two hooks anything may change but what the store holds: which of its
operations fail, the collections, the time, the cancelled tokens. -/
inductive History (store : Cell σ RecordingStore) (adapter : Adapter σ) (ledger : Ledger)
    (start : Context σ) : Ledger → Context σ → Prop where
  | start : History store adapter ledger start ledger start
  | between (noted : Ledger) (before after : Context σ)
      (earlier : History store adapter ledger start noted before)
      (stored : (store.get after.data).data = (store.get before.data).data) :
      History store adapter ledger start noted after
  | hook (noted : Ledger) (now : Context σ) (kind : HookKind) (access : Access σ)
      (collection : Cell σ RecordingCollection)
      (earlier : History store adapter ledger start noted now)
      (aims : access.AimsAt store collection) :
      History store adapter ledger start
        (noted.afterHook kind (adapter.key access) (collection.get now.data).state
          (store.get now.data)
          (store.get ((adapter.hooks.invoke kind access).run.run now).state.data))
        ((adapter.hooks.invoke kind access).run.run now).state

theorem History.matches (works : adapter.WorksOn store) (faithful : adapter.protector.Faithful)
    {ledger noted : Ledger} {start now : Context σ}
    (known : ledger.Matches adapter.protector (store.get start.data).data)
    (history : History store adapter ledger start noted now) :
    noted.Matches adapter.protector (store.get now.data).data := by
  -- By induction on the history: only a hook lets the store do anything, and what it
  -- does is a deed that the ledger notes.
  induction history with
  | start => exact known
  | between noted before after earlier stored ih =>
      rw [stored]
      exact ih
  | hook noted now kind access collection earlier aims ih =>
      have did : adapter.Did kind access store collection now
          ((adapter.hooks.invoke kind access).run.run now).state := did_hook works aims kind now
      exact ih.deed faithful did

/-- The store has a blob under exactly the keys of the ledger, and a hook before an
access that succeeds under a key leaves what the ledger has there in the collection. -/
structure Transparent (store : Cell σ RecordingStore) (adapter : Adapter σ)
    (ledger : Ledger) (now : Context σ) : Prop where
  keys : ∀ key, ((store.get now.data).data.get? key).isSome = (ledger.plain key).isSome
  loads : ∀ access collection, Access.AimsAt access store collection →
    ∀ key, adapter.key access = .returned key → key.isEmpty = false →
      (adapter.hooks.invoke .beforeAccess access).run.Leaves now fun ending after =>
        ending = .returned (.ok ()) →
          (collection.get after.data).state = (ledger.plain key).getD []

theorem transparent_of_matches (works : adapter.WorksOn store)
    (keepsNothing : adapter.protector.KeepsNothing) {ledger : Ledger} {now : Context σ}
    (known : ledger.Matches adapter.protector (store.get now.data).data) :
    Transparent store adapter ledger now := by
  refine ⟨fun key => (known key).isSome_eq, ?_⟩
  intro access collection aims key provided keyed
  apply (leaves_keyed_before_access works aims key provided keyed now).imp
  intro ending after read returned
  obtain ⟨_, opened⟩ := read
  exact (known key).opening keepsNothing (opened returned)

/-- A run over a store that is empty at first begins with an adapter that seals nothing
and goes on with one whose encryptor opens what it seals, opens nothing to nothing at
best, and refuses what was written without it. Persistence is transparent throughout. -/
theorem persistence_transparent (store : Cell σ RecordingStore) (legacy sealing : Adapter σ)
    (legacyWorks : legacy.WorksOn store) (sealingWorks : sealing.WorksOn store)
    (unsealed : legacy.protector = ⟨none⟩) (encryptor : Encryptor)
    (sealed : sealing.protector = ⟨some encryptor⟩)
    (opens : ∀ nonce plaintext payload, encryptor.protect nonce plaintext = .returned payload →
      encryptor.unprotect payload = .returned plaintext)
    (keepsNothing : ∀ plaintext, encryptor.unprotect [] = .returned plaintext → plaintext = [])
    (start middle last : Context σ) (legacyLedger ledger : Ledger)
    (vacant : (store.get start.data).data = Table.empty)
    (legacyHistory : History store legacy Ledger.empty start legacyLedger middle)
    (refuses : ∀ blob ∈ legacyLedger.persisted,
      ∃ failure, encryptor.unprotect blob = .failed failure)
    (history : History store sealing legacyLedger middle ledger last) :
    Transparent store legacy legacyLedger middle ∧ Transparent store sealing ledger last := by
  have plainly : legacyLedger.Matches ⟨none⟩ (store.get middle.data).data := by
    have faithful : legacy.protector.Faithful := unsealed ▸ Protector.faithful_none
    have begun : Ledger.empty.Matches legacy.protector (store.get start.data).data := by
      rw [vacant]
      exact Ledger.matches_empty legacy.protector
    rw [← unsealed]
    exact legacyHistory.matches legacyWorks faithful begun
  have sealedMatches : ledger.Matches sealing.protector (store.get last.data).data := by
    have faithful : sealing.protector.Faithful :=
      sealed ▸ Protector.faithful_some encryptor opens
    have takenOver : legacyLedger.Matches sealing.protector (store.get middle.data).data := by
      rw [sealed]
      exact plainly.seal encryptor refuses
    exact history.matches sealingWorks faithful takenOver
  constructor
  · apply transparent_of_matches legacyWorks
    · rw [unsealed]
      exact Protector.keeps_nothing_none
    · rw [unsealed]
      exact plainly
  · apply transparent_of_matches sealingWorks
    · rw [sealed]
      exact Protector.keeps_nothing_some encryptor keepsNothing
    · exact sealedMatches

end Adapter

namespace Rehearsal

theorem bench_adapter_works (index : Nat) (protector : Protector) :
    (benchAdapter index protector).WorksOn (benchRecorder index) where
  lawful := NodeSetup.cell_lawful index NodeData.store_lawful
  onStore := rfl
  locks _ present := by cases present
  unlocks _ present := by cases present

theorem bench_plan_aims (index : Nat) (key : String) :
    (benchPlan key).toAccess.AimsAt (benchRecorder index) (Bench.collection "tokens") where
  lawful := Bench.collection_lawful "tokens"
  spared := Bench.node_spares_collection index NodeData.storeCell "tokens"
  spares := Bench.collection_spares_node "tokens" index NodeData.storeCell
  filled := rfl

def benchAfter (adapter : Adapter Bench) (key : String) (now : Context Bench) : Context Bench :=
  ((adapter.hooks.invoke .afterAccess (benchPlan key).toAccess).run.run now).state

def benchNoted (ledger : Ledger) (adapter : Adapter Bench) (key : String)
    (now : Context Bench) : Ledger :=
  ledger.afterHook .afterAccess (adapter.key (benchPlan key).toAccess)
    ((Bench.collection "tokens").get now.data).state ((benchRecorder 0).get now.data)
    ((benchRecorder 0).get (benchAfter adapter key now).data)

theorem bench_history (ledger : Ledger) (adapter : Adapter Bench) (key : String)
    (now : Context Bench) :
    Adapter.History (benchRecorder 0) adapter ledger now (benchNoted ledger adapter key now)
      (benchAfter adapter key now) :=
  .hook ledger now .afterAccess (benchPlan key).toAccess (Bench.collection "tokens") .start
    (bench_plan_aims 0 key)

/-- Tokens that were written plainly, and others that were written under the tag of an
encryptor, side by side in one store. -/
theorem persistence_transparent_across_tagging :
    let start := benchLeftover fun _ => false
    let legacy := benchAdapter 0 ⟨none⟩
    let sealing := benchAdapter 0 ⟨some (EncryptorPart.tag 1).toEncryptor⟩
    let middle := benchAfter legacy "A" start
    let last := benchAfter sealing "B" middle
    let legacyLedger := benchNoted Ledger.empty legacy "A" start
    let ledger := benchNoted legacyLedger sealing "B" middle
    ledger.plain "A" = some [4] ∧ ledger.plain "B" = some [4] ∧
      ledger.persisted = [[1, 4], [4]] ∧
      Adapter.Transparent (benchRecorder 0) legacy legacyLedger middle ∧
      Adapter.Transparent (benchRecorder 0) sealing ledger last := by
  intro start legacy sealing middle last legacyLedger ledger
  have opens : ∀ nonce plaintext payload,
      (EncryptorPart.tag 1).toEncryptor.protect nonce plaintext = .returned payload →
        (EncryptorPart.tag 1).toEncryptor.unprotect payload = .returned plaintext := by
    intro nonce plaintext payload sealed
    cases sealed
    rfl
  have keepsNothing : ∀ plaintext,
      (EncryptorPart.tag 1).toEncryptor.unprotect [] = .returned plaintext → plaintext = [] := by
    intro plaintext opened
    cases opened
  have refuses : ∀ blob ∈ legacyLedger.persisted,
      ∃ failure, (EncryptorPart.tag 1).toEncryptor.unprotect blob = .failed failure := by
    intro blob written
    have single : blob = [4] := List.mem_singleton.mp written
    rw [single]
    exact ⟨_, rfl⟩
  exact ⟨rfl, rfl, rfl, Adapter.persistence_transparent (benchRecorder 0) legacy sealing
    (bench_adapter_works 0 ⟨none⟩) (bench_adapter_works 0 _) rfl _ rfl opens keepsNothing start
    middle last legacyLedger ledger rfl (bench_history Ledger.empty legacy "A" start) refuses
    (bench_history legacyLedger sealing "B" middle)⟩

end Rehearsal

end TokenPersistence
