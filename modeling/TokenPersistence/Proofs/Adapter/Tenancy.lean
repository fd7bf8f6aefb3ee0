import Mathlib.Data.List.Infix
import Mathlib.Logic.Basic
import TokenPersistence.Proofs.Adapter.Closure
import TokenPersistence.Proofs.Routine.Twins
import TokenPersistence.Rehearsal.RecordingStore

/-!
# Tenants of a store

Several hosts may keep their partitions in one store, each through an adapter that puts a
prefix of its own in front of every key. The prefixes keep the tenants apart exactly if
none starts with another one. What a tenant does then depends on nothing but what is kept
under its keys, and changes nothing under any other key: its hooks are confined.
-/

namespace TokenPersistence

set_option autoImplicit false

namespace KeyProvider

/-- The keys that a prefix makes of suggested keys. -/
def Owns (keyPrefix key : String) : Prop :=
  ∃ suggested, suggested ≠ "" ∧ key = keyPrefix ++ suggested

def Nested (first second : String) : Prop :=
  first.toList <+: second.toList ∨ second.toList <+: first.toList

instance (first second : String) : Decidable (Nested first second) :=
  inferInstanceAs (Decidable (_ ∨ _))

theorem with_prefix_owned {keyPrefix suggested : String}
    (named : (withPrefix keyPrefix suggested).isEmpty = false) :
    Owns keyPrefix (withPrefix keyPrefix suggested) := by
  by_cases empty : suggested = ""
  · subst empty
    cases named
  · exact ⟨suggested, empty, with_prefix_of_name keyPrefix empty⟩

theorem nested_of_common_key {first second key : String} (mine : Owns first key)
    (theirs : Owns second key) : Nested first second := by
  obtain ⟨suggested, -, rfl⟩ := mine
  obtain ⟨other, -, same⟩ := theirs
  have lists := congrArg String.toList same
  rw [String.toList_append, String.toList_append] at lists
  apply List.prefix_or_prefix_of_prefix (List.prefix_append _ suggested.toList)
  rw [lists]
  exact List.prefix_append _ _

/-- If a prefix starts with another one, the longer one is made up for by the rest of it
in front of the suggested key. -/
theorem common_key_of_starts {shorter longer : String}
    (starts : shorter.toList <+: longer.toList) :
    ∃ suggested, suggested ≠ "" ∧ shorter ++ suggested = longer ++ "a" := by
  obtain ⟨rest, same⟩ := starts
  refine ⟨String.ofList rest ++ "a", ?_, ?_⟩
  · intro empty
    have lists := congrArg String.toList empty
    simp [String.toList_append] at lists
  · apply String.toList_inj.mp
    simp [String.toList_append, ← same]

theorem common_key_of_nested {first second : String} (nested : Nested first second) :
    ∃ mine theirs, mine ≠ "" ∧ theirs ≠ "" ∧
      withPrefix first mine = withPrefix second theirs := by
  have letter : "a" ≠ "" := by decide
  rcases nested with starts | starts
  · obtain ⟨suggested, named, same⟩ := common_key_of_starts starts
    refine ⟨suggested, "a", named, letter, ?_⟩
    rw [with_prefix_of_name _ named, with_prefix_of_name _ letter, same]
  · obtain ⟨suggested, named, same⟩ := common_key_of_starts starts
    refine ⟨"a", suggested, letter, named, ?_⟩
    rw [with_prefix_of_name _ named, with_prefix_of_name _ letter, same]

end KeyProvider

namespace Rehearsal

variable {κ τ α : Type}

/-- The stores fail in the same way, and have the same under the keys that are picked. -/
structure RecordingStore.AgreeOn (picked : String → Prop) (first second : RecordingStore) :
    Prop where
  failing : first.failsWhen = second.failsWhen
  entry : ∀ key, picked key → first.data.get? key = second.data.get? key

/-- What an operation does to a table depends on nothing but the entry under its key, and
changes no other one. -/
structure OnEntry (key : String) (effect : Table → α × Table) : Prop where
  result : ∀ first second : Table, first.get? key = second.get? key →
    (effect first).1 = (effect second).1
  entry : ∀ first second : Table, first.get? key = second.get? key →
    (effect first).2.get? key = (effect second).2.get? key
  others : ∀ table other, other ≠ key → (effect table).2.get? other = table.get? other

theorem read_on_entry (key : String) :
    OnEntry key fun data : Table => (data.get? key, data) :=
  ⟨fun _ _ same => same, fun _ _ same => same, fun _ _ _ => rfl⟩

theorem write_on_entry (key : String) (bytes : Bytes) :
    OnEntry key fun data : Table => ((), data.insert key bytes) :=
  ⟨fun _ _ _ => rfl, fun _ _ _ => by simp only [Table.get_insert_self],
    fun table _ different => table.get_insert_other bytes different⟩

theorem remove_on_entry (key : String) :
    OnEntry key fun data : Table => ((), data.erase key) :=
  ⟨fun _ _ _ => rfl, fun _ _ _ => by simp only [Table.get_erase_self],
    fun table _ different => table.get_erase_other different⟩

namespace RecordingStore

variable {operation : StoreOperation} {effect : Table → α × Table} {picked : String → Prop}

theorem AgreeOn.refl (picked : String → Prop) (store : RecordingStore) :
    store.AgreeOn picked store :=
  ⟨rfl, fun _ _ => rfl⟩

theorem AgreeOn.perform {first second : RecordingStore} (agree : first.AgreeOn picked second)
    (among : picked operation.key) (onEntry : OnEntry operation.key effect) :
    (first.perform operation effect).1 = (second.perform operation effect).1 ∧
      (first.perform operation effect).2.AgreeOn picked (second.perform operation effect).2 := by
  have verdict : first.fails operation = second.fails operation := by
    simp only [fails, agree.failing]
  unfold RecordingStore.perform
  rw [verdict]
  split
  · exact ⟨rfl, agree.failing, agree.entry⟩
  · have kept := agree.entry _ among
    refine ⟨congrArg Except.ok (onEntry.result _ _ kept), agree.failing, ?_⟩
    intro key also
    by_cases same : key = operation.key
    · subst same
      exact onEntry.entry _ _ kept
    · rw [onEntry.others _ key same, onEntry.others _ key same, agree.entry key also]

theorem perform_agrees (store : RecordingStore) (spared : ¬ picked operation.key)
    (onEntry : OnEntry operation.key effect) :
    store.AgreeOn picked (store.perform operation effect).2 := by
  unfold RecordingStore.perform
  split
  · exact ⟨rfl, fun _ _ => rfl⟩
  · refine ⟨rfl, ?_⟩
    intro key also
    exact (onEntry.others _ key fun same => spared (same ▸ also)).symm

end RecordingStore

/-- What tenants share: a store, and what their locks keep under each key. -/
structure Commons (τ : Type) where
  store : RecordingStore
  locks : String → τ

structure Commons.AgreeOn (picked : String → Prop) (first second : Commons τ) : Prop where
  store : first.store.AgreeOn picked second.store
  lock : ∀ key, picked key → first.locks key = second.locks key

namespace Commons.AgreeOn

variable {picked fewer : String → Prop} {first second third : Commons τ}

theorem refl (picked : String → Prop) (commons : Commons τ) : commons.AgreeOn picked commons :=
  ⟨.refl picked commons.store, fun _ _ => rfl⟩

theorem symm (agree : first.AgreeOn picked second) : second.AgreeOn picked first :=
  ⟨⟨agree.store.failing.symm, fun key among => (agree.store.entry key among).symm⟩,
    fun key among => (agree.lock key among).symm⟩

theorem trans (agree : first.AgreeOn picked second) (agrees : second.AgreeOn picked third) :
    first.AgreeOn picked third :=
  ⟨⟨agree.store.failing.trans agrees.store.failing,
    fun key among => (agree.store.entry key among).trans (agrees.store.entry key among)⟩,
    fun key among => (agree.lock key among).trans (agrees.lock key among)⟩

theorem mono (agree : first.AgreeOn picked second) (among : ∀ key, fewer key → picked key) :
    first.AgreeOn fewer second :=
  ⟨⟨agree.store.failing, fun key few => agree.store.entry key (among key few)⟩,
    fun key few => agree.lock key (among key few)⟩

end Commons.AgreeOn

structure Site (κ τ : Type) where
  commons : Commons τ
  own : κ

namespace Site

def ownCell : Cell (Site κ τ) κ where
  get site := site.own
  put own site := { site with own }

def storeCell : Cell (Site κ τ) RecordingStore where
  get site := site.commons.store
  put store site := { site with commons := { site.commons with store } }

/-- What a tenant has, and what is kept for its lock under the key. -/
def lockCell (key : String) : Cell (Site κ τ) (κ × τ) where
  get site := (site.own, site.commons.locks key)
  put value site :=
    { own := value.1
      commons :=
        { site.commons with
          locks := fun other => if other = key then value.2 else site.commons.locks other } }

/-- A tenant that owns the keys cannot tell the one from the other. -/
def Alike (owned : String → Prop) (first second : Context (Site κ τ)) : Prop :=
  ownCell.narrow first = ownCell.narrow second ∧
    first.data.commons.AgreeOn owned second.data.commons

/-- Nothing that others share was changed but what is kept under the keys. -/
def Spared (owned : String → Prop) (before after : Context (Site κ τ)) : Prop :=
  before.data.commons.AgreeOn (fun key => ¬ owned key) after.data.commons

/-- A routine of a tenant that owns the keys. -/
abbrev Confined (owned : String → Prop) (routine : Routine (Context (Site κ τ)) α) : Prop :=
  Routine.Confined (Alike owned) (Spared owned) routine

variable {owned : String → Prop}

theorem confined_own (routine : Routine (Context κ) α) :
    Confined owned (routine.within (ownCell : Cell (Site κ τ) κ)) :=
  Routine.confined_within routine (fun _ _ alike => alike.1)
    (fun _ _ _ alike => ⟨rfl, alike.2⟩) (fun _ now => Commons.AgreeOn.refl _ now.data.commons)

theorem confined_lock {key : String} (mine : owned key)
    (routine : Routine (Context (κ × τ)) α) :
    Confined owned (routine.within (lockCell key : Cell (Site κ τ) (κ × τ))) := by
  apply Routine.confined_within routine
  · intro first second alike
    obtain ⟨own, agree⟩ := alike
    simp only [Cell.narrow, ownCell, Context.mk.injEq] at own
    simp only [Cell.narrow, lockCell, agree.lock key mine, own]
  · intro part first second alike
    refine ⟨rfl, alike.2.store, ?_⟩
    intro other also
    simp only [Cell.widen, lockCell]
    split
    · rfl
    · exact alike.2.lock other also
  · intro part now
    refine ⟨.refl _ now.data.commons.store, ?_⟩
    intro other foreign
    have different : other ≠ key := fun same => foreign (same ▸ mine)
    simp only [Cell.widen, lockCell, if_neg different]

theorem confined_draw :
    Confined owned (Routine.step (Context.drawNonce (σ := Site κ τ))) := by
  apply Routine.confined_step
  · intro first second alike
    obtain ⟨own, agree⟩ := alike
    simp only [Cell.narrow, ownCell, Context.mk.injEq] at own
    refine ⟨by simp only [Context.drawNonce, own], ?_, agree⟩
    simp only [Context.drawNonce, Cell.narrow, ownCell, own]
  · intro now
    exact Commons.AgreeOn.refl _ now.data.commons

theorem confined_perform (operation : StoreOperation) (mine : owned operation.key)
    {effect : Table → α × Table} (onEntry : OnEntry operation.key effect) :
    Confined owned ((storeCell : Cell (Site κ τ) RecordingStore).step fun store =>
      store.perform operation effect) := by
  apply Routine.confined_step
  · intro first second alike
    obtain ⟨results, stores⟩ := alike.2.store.perform mine onEntry
    exact ⟨results, ⟨alike.1, stores, alike.2.lock⟩⟩
  · intro now
    exact ⟨now.data.commons.store.perform_agrees (not_not.mpr mine) onEntry, fun _ _ => rfl⟩

end Site

def Site.access (access : Access κ) : Access (Site κ τ) where
  collection :=
    { serialize := access.collection.serialize.within ownCell
      load := fun plaintext clear =>
        (access.collection.load plaintext clear).within ownCell }
  suggestedKey := access.suggestedKey
  stateChanged := access.stateChanged
  hasTokens := access.hasTokens
  appCache := access.appCache
  cancellation := access.cancellation
  suggestedExpiry := access.suggestedExpiry
  sink := access.sink
  noSharedCacheReason := access.noSharedCacheReason

/-- A host with an adapter for its partitions. The lock works on what the tenant has and on
what is kept for locks under the key; the hooks are the safe ones, or the ones that fail. -/
structure Tenant (κ τ : Type) where
  keyPrefix : String
  protector : Protector
  lock : Option (WriteLock (κ × τ))
  observer : Option (FailureObserver κ)
  safe : Bool

namespace Tenant

def siteLock (lock : WriteLock (κ × τ)) : WriteLock (Site κ τ) where
  lock key := (lock.lock key).within (Site.lockCell key)
  unlock key := (lock.unlock key).within (Site.lockCell key)

def adapter (tenant : Tenant κ τ) : Adapter (Site κ τ) where
  store := RecordingStore.toStore Site.storeCell
  key := KeyProvider.prefixed tenant.keyPrefix
  protector := tenant.protector
  lock := tenant.lock.map siteLock
  observer := tenant.observer.map fun observer failed => (observer failed).within Site.ownCell

def hooks (tenant : Tenant κ τ) : AccessHooks (Site κ τ) :=
  if tenant.safe then tenant.adapter.safeHooks else tenant.adapter.hooks

def Owns (tenant : Tenant κ τ) : String → Prop := KeyProvider.Owns tenant.keyPrefix

theorem owns_of_serves {tenant : Tenant κ τ} {access : Access (Site κ τ)} {key : String}
    (serves : tenant.adapter.Serves access key) : tenant.Owns key := by
  obtain ⟨provided, named⟩ := serves
  cases provided
  exact KeyProvider.with_prefix_owned named

theorem parts_confined (tenant : Tenant κ τ) (access : Access κ) :
    tenant.adapter.PartsHave (fun _ => Site.Confined tenant.Owns) (Site.access access) where
  draw := Site.confined_draw
  serialize := Site.confined_own _
  load _ := Site.confined_own _
  read _ serves := Site.confined_perform _ (owns_of_serves serves) (read_on_entry _)
  write _ _ serves := Site.confined_perform _ (owns_of_serves serves) (write_on_entry _ _)
  remove _ serves := Site.confined_perform _ (owns_of_serves serves) (remove_on_entry _)
  lock := by
    intro lock present key serves
    obtain ⟨original, -, rfl⟩ := Option.map_eq_some_iff.mp present
    exact Site.confined_lock (owns_of_serves serves) _
  unlock := by
    intro lock present key serves
    obtain ⟨original, -, rfl⟩ := Option.map_eq_some_iff.mp present
    exact Site.confined_lock (owns_of_serves serves) _

theorem hook_confined (tenant : Tenant κ τ) (kind : HookKind) (access : Access κ) :
    Site.Confined tenant.Owns (tenant.hooks.invoke kind (Site.access access)).run := by
  have parts := tenant.parts_confined access
  unfold hooks AccessHooks.invoke
  split
  · apply parts.safe_hook Routine.confined_closed
    intro observer present failed
    obtain ⟨original, -, rfl⟩ := Option.map_eq_some_iff.mp present
    exact Site.confined_own _
  · exact parts.hook Routine.confined_closed kind

end Tenant

end Rehearsal

end TokenPersistence
