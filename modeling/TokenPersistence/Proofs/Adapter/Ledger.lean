import Mathlib.Logic.Function.Basic
import TokenPersistence.Proofs.Adapter.Hooks
import TokenPersistence.Rehearsal.RecordingStore

/-!
# Ledgers of what was persisted

A ledger is kept from the outside: after a hook that follows an access it goes through
the operations that the store wrote down meanwhile, and notes under the key of the
access the plaintext that was to be written, if the write did not fail, or that the key
was removed. A hook has the store do at most one operation. Only a hook after an access
has it write or remove anything, under the key of the access, and what it writes is a
payload that the plaintext may be sealed to. With a protector that opens what it
sealed, the store then has a blob under exactly the keys of the ledger, and every blob
opens to the plaintext in the ledger.
-/

namespace TokenPersistence

set_option autoImplicit false

open Rehearsal (RecordingStore StoreOperation)

namespace Protector

/-- Whatever a plaintext is sealed to opens to it. -/
def Faithful (protector : Protector) : Prop :=
  ∀ plaintext payload, protector.Seals plaintext payload →
    protector.opening payload = .returned (.ok plaintext)

def KeepsNothing (protector : Protector) : Prop :=
  ∀ plaintext, protector.opening [] = .returned (.ok plaintext) → plaintext = []

theorem faithful_none : Faithful ⟨none⟩ := by
  intro plaintext payload sealed
  have same : payload = plaintext := sealed
  rw [same]
  rfl

theorem keeps_nothing_none : KeepsNothing ⟨none⟩ := by
  intro plaintext opened
  cases opened
  rfl

theorem faithful_some (encryptor : Encryptor)
    (opens : ∀ nonce plaintext payload, encryptor.protect nonce plaintext = .returned payload →
      encryptor.unprotect payload = .returned plaintext) : Faithful ⟨some encryptor⟩ := by
  intro plaintext payload seals
  obtain ⟨nonce, sealed⟩ := seals
  simp only [opening, opens nonce plaintext payload sealed]

theorem keeps_nothing_some (encryptor : Encryptor)
    (keepsNothing : ∀ plaintext, encryptor.unprotect [] = .returned plaintext →
      plaintext = []) : KeepsNothing ⟨some encryptor⟩ := by
  intro plaintext opened
  unfold opening at opened
  cases outcome : encryptor.unprotect [] with
  | returned other =>
      simp only [outcome] at opened
      cases opened
      exact keepsNothing plaintext outcome
  | failed failure =>
      simp only [outcome] at opened
      cases opened
      rfl
  | panicked panic =>
      simp only [outcome] at opened
      cases opened

end Protector

/-- The plaintexts under their keys, and all blobs that were written. -/
structure Ledger where
  plain : String → Option Bytes
  persisted : List Bytes

namespace Ledger

def empty : Ledger := ⟨fun _ => none, []⟩

def write (ledger : Ledger) (key : String) (plaintext payload : Bytes) : Ledger where
  plain := Function.update ledger.plain key (some plaintext)
  persisted := payload :: ledger.persisted

def remove (ledger : Ledger) (key : String) : Ledger :=
  { ledger with plain := Function.update ledger.plain key none }

/-- Notes under a key one operation of a store; a failed one does not count. -/
def note (store : RecordingStore) (key : String) (plaintext : Bytes) (ledger : Ledger)
    (operation : StoreOperation) : Ledger :=
  if store.fails operation then ledger
  else
    match operation with
    | .read _ _ => ledger
    | .write _ payload _ => ledger.write key plaintext payload
    | .remove _ _ => ledger.remove key

def follow (ledger : Ledger) (key : String) (plaintext : Bytes)
    (before after : RecordingStore) : Ledger :=
  (after.operations.drop before.operations.length).foldl (note before key plaintext) ledger

/-- Only what happens in a hook after an access counts, under the key of the access. -/
def afterHook (ledger : Ledger) (kind : HookKind) (provided : Attempt String)
    (plaintext : Bytes) (before after : RecordingStore) : Ledger :=
  match kind, provided with
  | .afterAccess, .returned key => ledger.follow key plaintext before after
  | _, _ => ledger

/-- What a store and a ledger may have under one key: both nothing, or a blob that was
persisted and the plaintext to which it opens. -/
inductive Kept (protector : Protector) (persisted : List Bytes) :
    Option Bytes → Option Bytes → Prop where
  | nothing : Kept protector persisted none none
  | blob (payload plaintext : Bytes)
      (opens : protector.opening payload = .returned (.ok plaintext))
      (written : payload ∈ persisted) :
      Kept protector persisted (some payload) (some plaintext)

theorem Kept.more {protector : Protector} {persisted : List Bytes}
    {stored noted : Option Bytes} (kept : Kept protector persisted stored noted)
    (payload : Bytes) : Kept protector (payload :: persisted) stored noted := by
  cases kept with
  | nothing => exact .nothing
  | blob blob plaintext opens written =>
      exact .blob blob plaintext opens (List.mem_cons_of_mem payload written)

theorem Kept.seal {persisted : List Bytes} {stored noted : Option Bytes}
    (kept : Kept ⟨none⟩ persisted stored noted) (encryptor : Encryptor)
    (refuses : ∀ blob ∈ persisted, ∃ failure, encryptor.unprotect blob = .failed failure) :
    Kept ⟨some encryptor⟩ persisted stored noted := by
  cases kept with
  | nothing => exact .nothing
  | blob payload plaintext opens written =>
      obtain ⟨failure, refused⟩ := refuses payload written
      have unopened : Protector.opening ⟨some encryptor⟩ payload = .returned (.ok payload) := by
        simp only [Protector.opening, refused]
      exact .blob payload plaintext (unopened.trans opens) written

def Matches (ledger : Ledger) (protector : Protector) (table : Table) : Prop :=
  ∀ key, Kept protector ledger.persisted (table.get? key) (ledger.plain key)

theorem matches_empty (protector : Protector) : empty.Matches protector Table.empty :=
  fun _ => Kept.nothing

theorem Kept.isSome_eq {protector : Protector} {persisted : List Bytes}
    {stored noted : Option Bytes} (kept : Kept protector persisted stored noted) :
    stored.isSome = noted.isSome := by
  cases kept with
  | nothing => rfl
  | blob payload plaintext opens written => rfl

theorem Kept.opening {protector : Protector} {persisted : List Bytes}
    {stored noted : Option Bytes} (kept : Kept protector persisted stored noted)
    (keepsNothing : protector.KeepsNothing) {plaintext : Bytes}
    (opened : protector.opening (stored.getD []) = .returned (.ok plaintext)) :
    plaintext = noted.getD [] := by
  cases kept with
  | nothing => exact keepsNothing plaintext opened
  | blob payload noted opens written =>
      rw [Option.getD_some, opens] at opened
      cases opened
      rfl

end Ledger

/-- What a hook may have a store do: nothing, or one operation; other than reading only
after an access, under its key. -/
inductive Deed {σ : Type} (adapter : Adapter σ) (kind : HookKind) (access : Access σ)
    (plaintext : Bytes) (before : RecordingStore) : RecordingStore → Prop where
  | nothing : Deed adapter kind access plaintext before before
  | read (key : String) :
      Deed adapter kind access plaintext before (before.read key access.suggestedExpiry).2
  | write (key : String) (payload : Bytes) (follows : kind = .afterAccess)
      (provided : adapter.key access = .returned key)
      (sealed : adapter.protector.Seals plaintext payload) :
      Deed adapter kind access plaintext before
        (before.write key payload access.suggestedExpiry).2
  | remove (key : String) (follows : kind = .afterAccess)
      (provided : adapter.key access = .returned key) :
      Deed adapter kind access plaintext before (before.remove key access.suggestedExpiry).2

namespace Ledger

theorem follow_perform {α : Type} (ledger : Ledger) (key : String) (plaintext : Bytes)
    (before : RecordingStore) (operation : StoreOperation) (effect : Table → α × Table) :
    ledger.follow key plaintext before (before.perform operation effect).2 =
      note before key plaintext ledger operation := by
  have recorded : (before.perform operation effect).2.operations =
      before.operations ++ [operation] := by
    unfold RecordingStore.perform
    split <;> rfl
  unfold follow
  rw [recorded, List.drop_left]
  rfl

theorem follow_nothing (ledger : Ledger) (key : String) (plaintext : Bytes)
    (store : RecordingStore) : ledger.follow key plaintext store store = ledger := by
  unfold follow
  rw [List.drop_length]
  rfl

theorem follow_read (ledger : Ledger) (key : String) (plaintext : Bytes)
    (store : RecordingStore) (asked : String) (expiry : Option Timestamp) :
    ledger.follow key plaintext store (store.read asked expiry).2 = ledger := by
  unfold RecordingStore.read
  rw [follow_perform, note]
  split <;> rfl

theorem after_hook_keyed (ledger : Ledger) (key : String) (plaintext : Bytes)
    (before after : RecordingStore) :
    ledger.afterHook .afterAccess (.returned key) plaintext before after =
      ledger.follow key plaintext before after := rfl

theorem after_hook_unfollowed {ledger : Ledger} {plaintext : Bytes}
    {before after : RecordingStore} (kind : HookKind) (provided : Attempt String)
    (idle : ∀ key, ledger.follow key plaintext before after = ledger) :
    ledger.afterHook kind provided plaintext before after = ledger := by
  unfold afterHook
  split
  · exact idle _
  · rfl

theorem data_perform {α : Type} (before : RecordingStore) (operation : StoreOperation)
    (effect : Table → α × Table) :
    (before.perform operation effect).2.data =
      if before.fails operation then before.data else (effect before.data).2 := by
  unfold RecordingStore.perform
  split <;> rfl

theorem Matches.insert {ledger : Ledger} {protector : Protector} {table : Table}
    (known : ledger.Matches protector table) (faithful : protector.Faithful) (key : String)
    {plaintext payload : Bytes} (sealed : protector.Seals plaintext payload) :
    (ledger.write key plaintext payload).Matches protector (table.insert key payload) := by
  intro other
  simp only [Ledger.write]
  by_cases same : other = key
  · rw [same, Table.get_insert_self, Function.update_self]
    exact .blob payload plaintext (faithful plaintext payload sealed) List.mem_cons_self
  · rw [Table.get_insert_other table payload same, Function.update_of_ne same]
    exact (known other).more payload

theorem Matches.erase {ledger : Ledger} {protector : Protector} {table : Table}
    (known : ledger.Matches protector table) (key : String) :
    (ledger.remove key).Matches protector (table.erase key) := by
  intro other
  simp only [Ledger.remove]
  by_cases same : other = key
  · rw [same, Table.get_erase_self, Function.update_self]
    exact .nothing
  · rw [Table.get_erase_other table same, Function.update_of_ne same]
    exact known other

theorem Matches.deed {σ : Type} {adapter : Adapter σ} {kind : HookKind} {access : Access σ}
    {ledger : Ledger} {plaintext : Bytes} {before after : RecordingStore}
    (known : ledger.Matches adapter.protector before.data)
    (faithful : adapter.protector.Faithful)
    (deed : Deed adapter kind access plaintext before after) :
    (ledger.afterHook kind (adapter.key access) plaintext before after).Matches
      adapter.protector after.data := by
  cases deed with
  | nothing =>
      rw [after_hook_unfollowed kind _ fun key => follow_nothing ledger key plaintext before]
      exact known
  | read asked =>
      rw [after_hook_unfollowed kind _ fun key => follow_read ledger key plaintext before asked _]
      unfold RecordingStore.read
      rw [data_perform]
      split <;> exact known
  | write key payload follows provided sealed =>
      rw [follows, provided, after_hook_keyed]
      unfold RecordingStore.write
      rw [follow_perform, data_perform, note]
      split
      · exact known
      · exact known.insert faithful key sealed
  | remove key follows provided =>
      rw [follows, provided, after_hook_keyed]
      unfold RecordingStore.remove
      rw [follow_perform, data_perform, note]
      split
      · exact known
      · exact known.erase key

theorem Matches.seal {ledger : Ledger} {table : Table}
    (known : ledger.Matches ⟨none⟩ table) (encryptor : Encryptor)
    (refuses : ∀ blob ∈ ledger.persisted,
      ∃ failure, encryptor.unprotect blob = .failed failure) :
    ledger.Matches ⟨some encryptor⟩ table := by
  intro key
  exact (known key).seal encryptor refuses

end Ledger

end TokenPersistence
