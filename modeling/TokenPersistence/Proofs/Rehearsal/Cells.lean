import TokenPersistence.Rehearsal.Node

/-!
# The cells of a bench

Every part of a bench is reached through a lawful cell. Two cells are apart when
writing through the one leaves what is read through the other: different fields are
apart, different members of a family are, and so is whatever lies inside cells that
are apart.
-/

namespace TokenPersistence

set_option autoImplicit false

namespace Cell

variable {σ τ ρ κ ι : Type}

theorem Lawful.inside {outer : Cell σ τ} {inner : Cell τ ρ} (outerLawful : outer.Lawful)
    (innerLawful : inner.Lawful) : (outer.inside inner).Lawful where
  get_put value data := by
    simp only [Cell.inside, outerLawful.get_put, innerLawful.get_put]
  put_get data := by
    simp only [Cell.inside, innerLawful.put_get, outerLawful.put_get]
  put_put first second data := by
    simp only [Cell.inside, outerLawful.get_put, innerLawful.put_put, outerLawful.put_put]

theorem member_lawful [DecidableEq ι] (index : ι) :
    (member index : Cell (ι → τ) τ).Lawful where
  get_put value family := by simp [member]
  put_get family := by
    funext other
    simp only [member]
    split
    · next same => rw [same]
    · rfl
  put_put first second family := by
    funext other
    simp only [member]
    split <;> rfl

def Spares (writer : Cell σ τ) (reader : Cell σ ρ) : Prop :=
  ∀ value data, reader.get (writer.put value data) = reader.get data

theorem Spares.within {outer : Cell σ τ} (lawful : outer.Lawful) {writer : Cell τ ρ}
    {reader : Cell τ κ} (spares : writer.Spares reader) :
    (outer.inside writer).Spares (outer.inside reader) := by
  intro value data
  simp only [Cell.inside, lawful.get_put, spares value]

theorem Spares.inside {writer : Cell σ τ} {reader : Cell σ ρ} (spares : writer.Spares reader)
    (part : Cell τ κ) (other : Cell ρ ι) :
    (writer.inside part).Spares (reader.inside other) := by
  intro value data
  simp only [Cell.inside, spares _ data]

theorem member_spares [DecidableEq ι] {index other : ι} (different : index ≠ other) :
    (member index : Cell (ι → τ) τ).Spares (member other) := by
  intro value family
  simp [member, Ne.symm different]

end Cell

namespace Rehearsal

theorem Bench.shared_lawful : Bench.sharedCell.Lawful :=
  ⟨fun _ _ => rfl, fun _ => rfl, fun _ _ _ => rfl⟩

theorem Bench.collections_lawful : Bench.collectionsCell.Lawful :=
  ⟨fun _ _ => rfl, fun _ => rfl, fun _ _ _ => rfl⟩

theorem Bench.nodes_lawful : Bench.nodesCell.Lawful :=
  ⟨fun _ _ => rfl, fun _ => rfl, fun _ _ _ => rfl⟩

theorem Bench.collection_lawful (name : String) : (Bench.collection name).Lawful :=
  Bench.collections_lawful.inside (Cell.member_lawful name)

theorem Bench.node_lawful (index : Nat) : (Bench.node index).Lawful :=
  Bench.nodes_lawful.inside (Cell.member_lawful index)

theorem NodeData.store_lawful : NodeData.storeCell.Lawful :=
  ⟨fun _ _ => rfl, fun _ => rfl, fun _ _ _ => rfl⟩

theorem NodeData.cache_lawful : NodeData.cacheCell.Lawful :=
  ⟨fun _ _ => rfl, fun _ => rfl, fun _ _ _ => rfl⟩

theorem NodeData.queue_lawful : NodeData.queueCell.Lawful :=
  ⟨fun _ _ => rfl, fun _ => rfl, fun _ _ _ => rfl⟩

theorem ScriptedCache.recording_lawful : ScriptedCache.recording.Lawful :=
  ⟨fun _ _ => rfl, fun _ => rfl, fun _ _ _ => rfl⟩

theorem NodeSetup.cell_lawful {τ : Type} (index : Nat) {part : Cell NodeData τ}
    (lawful : part.Lawful) : (NodeSetup.cell index part).Lawful :=
  (Bench.node_lawful index).inside lawful

theorem Bench.collection_spares_node {τ : Type} (name : String) (index : Nat)
    (part : Cell NodeData τ) : (Bench.collection name).Spares (NodeSetup.cell index part) :=
  fun _ _ => rfl

theorem Bench.node_spares_collection {τ : Type} (index : Nat) (part : Cell NodeData τ)
    (name : String) : (NodeSetup.cell index part).Spares (Bench.collection name) :=
  fun _ _ => rfl

theorem Bench.shared_spares_node {τ ρ : Type} (inner : Cell ScriptedCache τ) (index : Nat)
    (part : Cell NodeData ρ) :
    (Bench.sharedCell.inside inner).Spares (NodeSetup.cell index part) :=
  fun _ _ => rfl

theorem Bench.node_spares_shared {τ ρ : Type} (index : Nat) (part : Cell NodeData τ)
    (inner : Cell ScriptedCache ρ) :
    (NodeSetup.cell index part).Spares (Bench.sharedCell.inside inner) :=
  fun _ _ => rfl

theorem Bench.node_spares_node {τ ρ : Type} {index other : Nat} (different : index ≠ other)
    (part : Cell NodeData τ) (inner : Cell NodeData ρ) :
    (NodeSetup.cell index part).Spares (NodeSetup.cell other inner) :=
  (Cell.Spares.within Bench.nodes_lawful (Cell.member_spares different)).inside part inner

theorem Bench.cache_spares_queue (index : Nat) :
    (NodeSetup.cell index NodeData.cacheCell).Spares (NodeSetup.cell index NodeData.queueCell) :=
  Cell.Spares.within (Bench.node_lawful index) fun _ _ => rfl

end Rehearsal

end TokenPersistence
