import TokenPersistence.Proofs.Adapter.Persistence

/-!
# Clearing an account

The hooks ask the key provider where the partition of an access is kept. Clearing does
not: it removes what is stored under the name of the account itself. Without a prefix
the two mean the same partition. With one, the partition of the account stays, and the
partition of another account may go, one whose name behind the prefix reads like the
name that was cleared.
-/

namespace TokenPersistence

set_option autoImplicit false

open Rehearsal (RecordingStore RecordingCollection)

variable {σ : Type} {store : Cell σ RecordingStore}
  {collection : Cell σ RecordingCollection}

namespace KeyProvider

/-- Keys are what the host suggests, behind a prefix; a provider that takes them as they
are puts the empty prefix in front. -/
inductive Prefixes (keyPrefix : String) : KeyProvider σ → Prop where
  | suggested (plain : keyPrefix = "") : Prefixes keyPrefix suggested
  | prefixed : Prefixes keyPrefix (prefixed keyPrefix)

theorem Prefixes.provides {keyPrefix : String} {keys : KeyProvider σ}
    (prefixes : Prefixes keyPrefix keys) (access : Access σ) :
    keys access = .returned (withPrefix keyPrefix access.suggestedKey) := by
  cases prefixes with
  | suggested plain =>
      rw [plain, with_empty_prefix]
      rfl
  | prefixed => rfl

theorem prefix_moves {keyPrefix key : String} (prefixed : keyPrefix ≠ "") :
    keyPrefix ++ key ≠ key := by
  intro same
  have alone : keyPrefix ++ key = "" ++ key := by rw [same, String.empty_append]
  exact prefixed ((String.append_left_inj key).mp alone)

end KeyProvider

namespace Rehearsal.RecordingStore

def Willing (recorded : RecordingStore) : Prop := ∀ operation, recorded.fails operation = false

theorem Willing.remove {recorded : RecordingStore} (willing : recorded.Willing) (key : String)
    (expiry : Option Timestamp) :
    (recorded.remove key expiry).1 = .ok () ∧ (recorded.remove key expiry).2.Willing ∧
      (recorded.remove key expiry).2.data = recorded.data.erase key := by
  unfold RecordingStore.remove perform
  rw [willing (.remove key expiry)]
  exact ⟨rfl, willing, rfl⟩

theorem Willing.read {recorded : RecordingStore} (willing : recorded.Willing) (key : String)
    (expiry : Option Timestamp) :
    (recorded.read key expiry).1 = .ok (recorded.data.get? key) := by
  unfold RecordingStore.read perform
  rw [willing (.read key expiry)]
  rfl

end Rehearsal.RecordingStore

namespace Adapter

variable {adapter : Adapter σ} {access : Access σ}

/-- The store has nothing under the key of the access, and the hook before the access
succeeds and replaces what the collection holds by nothing. -/
def LoadsNothing (adapter : Adapter σ) (store : Cell σ RecordingStore)
    (collection : Cell σ RecordingCollection) (access : Access σ) (now : Context σ) : Prop :=
  (∃ key, adapter.key access = .returned key ∧ (store.get now.data).data.get? key = none) ∧
    (adapter.beforeAccess access).run.Returns now fun outcome after =>
      outcome = .ok () ∧ (collection.get after.data).state = [] ∧
        (collection.get after.data).loads = (collection.get now.data).loads ++ [([], true)]

theorem loads_nothing_iff_vacant (works : adapter.WorksOn store)
    (unsealed : adapter.protector = ⟨none⟩) (aims : access.AimsAt store collection)
    (key : String) (provided : adapter.key access = .returned key) (named : key ≠ "")
    (now : Context σ) (willing : (store.get now.data).Willing) :
    adapter.LoadsNothing store collection access now ↔
      (store.get now.data).data.get? key = none := by
  constructor
  · intro loads
    obtain ⟨⟨other, sameAccess, vacant⟩, _⟩ := loads
    rw [provided] at sameAccess
    cases sameAccess
    exact vacant
  · intro vacant
    refine ⟨⟨key, provided, vacant⟩, ?_⟩
    have keyed : key.isEmpty = false := by
      rw [Bool.eq_false_iff]
      exact fun nothing => named (String.isEmpty_iff.mp nothing)
    apply Routine.Leaves.returns
    rw [leaves_before_access adapter access key provided keyed, works.onStore, unsealed]
    simp only [RecordingStore.toStore, Call.leaves_step, willing.read, vacant, Call.Follow,
      Call.leaves_bind, Protector.leaves_unprotect, Protector.opening, Option.getD_none]
    rw [leaves_load _ key access [] collection aims.filled]
    refine ⟨_, rfl, ?_⟩
    simp only [aims.lawful.get_put, aims.spared _ now.data]
    simp [RecordingCollection.load]

theorem WorksOn.clear_returns (works : adapter.WorksOn store) (account : String)
    (start : Context σ) (willing : (store.get start.data).Willing) :
    (adapter.clear account).run.Returns start fun outcome after =>
      outcome = .ok () ∧ (store.get after.data).Willing ∧
        (store.get after.data).data = (store.get start.data).data.erase account := by
  obtain ⟨done, stillWilling, erased⟩ := willing.remove account none
  unfold clear
  rw [works.onStore, Call.returns_bind]
  change (store.step (RecordingStore.remove account none)).Returns start _
  rw [Cell.returns_step, done, Call.onward_ok, Call.returns_log, works.lawful.get_put]
  exact ⟨rfl, stillWilling, erased⟩

/-- What the hooks find in a table after a name was cleared, for an account of that name
and for all others. -/
theorem partition_erased_iff (table : Table) (keyPrefix account : String) (named : account ≠ "") :
    (table.erase account).get? (KeyProvider.withPrefix keyPrefix account) = none ↔
      keyPrefix = "" ∨ table.get? (keyPrefix ++ account) = none := by
  rw [KeyProvider.with_prefix_of_name keyPrefix named]
  by_cases plain : keyPrefix = ""
  · subst plain
    simp
  · rw [Table.get_erase_other table (KeyProvider.prefix_moves plain)]
    exact ⟨Or.inr, fun vacant => vacant.resolve_left plain⟩

theorem others_kept_iff (table : Table) (keyPrefix account : String) (named : account ≠ "") :
    (∀ other, other ≠ account →
        (table.erase account).get? (KeyProvider.withPrefix keyPrefix other) =
          table.get? (KeyProvider.withPrefix keyPrefix other)) ↔
      keyPrefix = "" ∨
        ∀ other, other ≠ "" → keyPrefix ++ other = account → table.get? account = none := by
  by_cases plain : keyPrefix = ""
  · subst plain
    simp only [KeyProvider.with_empty_prefix, true_or, iff_true]
    exact fun other different => Table.get_erase_other table different
  · constructor
    · intro kept
      refine Or.inr ?_
      intro other otherNamed reads
      have different : other ≠ account := by
        intro same
        rw [← same] at reads
        exact KeyProvider.prefix_moves plain reads
      have unchanged := kept other different
      rw [KeyProvider.with_prefix_of_name keyPrefix otherNamed, reads,
        Table.get_erase_self] at unchanged
      exact unchanged.symm
    · intro spared other _
      by_cases vacant : other = ""
      · subst vacant
        exact Table.get_erase_other table named.symm
      · rw [KeyProvider.with_prefix_of_name keyPrefix vacant]
        by_cases reads : keyPrefix ++ other = account
        · rw [reads, Table.get_erase_self,
            spared.resolve_left plain other vacant reads]
        · exact Table.get_erase_other table reads

/-- Clearing an account succeeds. The hooks then find its partition gone, and those of
the other accounts as they were, if there is no prefix; with a prefix, only if nothing
was stored where the hooks and where clearing look for them. -/
theorem clear_meets_hooks_iff_unprefixed (works : adapter.WorksOn store)
    (unsealed : adapter.protector = ⟨none⟩) (keyPrefix : String)
    (prefixes : KeyProvider.Prefixes keyPrefix adapter.key) (account : String)
    (named : account ≠ "") (start : Context σ) (willing : (store.get start.data).Willing) :
    (adapter.clear account).run.Returns start fun outcome after =>
      outcome = .ok () ∧
        (∀ access collection, Access.AimsAt access store collection →
          access.suggestedKey = account →
            (adapter.LoadsNothing store collection access after ↔
              keyPrefix = "" ∨ (store.get start.data).data.get? (keyPrefix ++ account) = none)) ∧
        ((∀ other, other ≠ account →
            (store.get after.data).data.get? (KeyProvider.withPrefix keyPrefix other) =
              (store.get start.data).data.get? (KeyProvider.withPrefix keyPrefix other)) ↔
          keyPrefix = "" ∨
            ∀ other, other ≠ "" → keyPrefix ++ other = account →
              (store.get start.data).data.get? account = none) := by
  apply (works.clear_returns account start willing).imp
  intro outcome after cleared
  obtain ⟨done, stillWilling, erased⟩ := cleared
  refine ⟨done, ?_, ?_⟩
  · intro access collection aims suggests
    have provided := prefixes.provides access
    rw [suggests] at provided
    have keyed := KeyProvider.with_prefix_ne_empty keyPrefix named
    rw [loads_nothing_iff_vacant works unsealed aims _ provided keyed after stillWilling, erased]
    exact partition_erased_iff _ keyPrefix account named
  · rw [erased]
    exact others_kept_iff _ keyPrefix account named

end Adapter

namespace Rehearsal

def benchPrefixed (keyPrefix : String) : Adapter Bench :=
  { benchAdapter 0 ⟨none⟩ with key := KeyProvider.prefixed keyPrefix }

/-- A bench on which every collection holds tokens, and so does the store of the first
node. -/
def benchStocked (table : Table) : Context Bench :=
  let vacant := benchLeftover fun _ => false
  { vacant with data := (benchRecorder 0).put (RecordingStore.ofTable table) vacant.data }

theorem clear_meets_hooks_behind_prefix :
    let adapter := benchPrefixed "env:"
    let start := benchStocked (Table.ofList [("B", [1])])
    (adapter.clear "A").run.Returns start fun outcome after =>
      outcome = .ok () ∧
        (∀ access collection, Access.AimsAt access (benchRecorder 0) collection →
          access.suggestedKey = "A" →
            (adapter.LoadsNothing (benchRecorder 0) collection access after ↔
              "env:" = "" ∨
                ((benchRecorder 0).get start.data).data.get? ("env:" ++ "A") = none)) ∧
        ((∀ other, other ≠ "A" →
            ((benchRecorder 0).get after.data).data.get? (KeyProvider.withPrefix "env:" other) =
              ((benchRecorder 0).get start.data).data.get?
                (KeyProvider.withPrefix "env:" other)) ↔
          "env:" = "" ∨
            ∀ other, other ≠ "" → "env:" ++ other = "A" →
              ((benchRecorder 0).get start.data).data.get? "A" = none) := by
  intro adapter start
  have works : adapter.WorksOn (benchRecorder 0) :=
    { bench_adapter_works 0 ⟨none⟩ with onStore := rfl }
  exact Adapter.clear_meets_hooks_iff_unprefixed works rfl "env:" .prefixed "A" (by decide) start
    fun _ => rfl

/-- Clearing "A" behind a prefix succeeds, and the tokens of "A" are loaded after it as
before; clearing the name that "A" has behind the prefix removes them. -/
theorem cleared_account_loaded_again :
    let adapter := benchPrefixed "env:"
    let start := benchStocked (Table.ofList [("env:A", [1])])
    let cleared := (adapter.clear "A").run.run start
    let loaded := (adapter.beforeAccess (benchPlan "A").toAccess).run.run cleared.state
    let strayed := (adapter.clear "env:A").run.run start
    cleared.ending = .returned (.ok ()) ∧ loaded.ending = .returned (.ok ()) ∧
      ((Bench.collection "tokens").get loaded.state.data).loads = [([1], true)] ∧
      strayed.ending = .returned (.ok ()) ∧
      KeyProvider.withPrefix "env:" "A" = "env:A" ∧
      ((benchRecorder 0).get start.data).data.get? "env:A" = some [1] ∧
      ((benchRecorder 0).get strayed.state.data).data.get? "env:A" = none :=
  ⟨rfl, rfl, rfl, rfl, rfl, rfl, rfl⟩

end Rehearsal

end TokenPersistence
