import TokenPersistence.Proofs.Rehearsal.Cells
import TokenPersistence.Proofs.Tiered.Backing

/-!
# A tiered store on a bench

The first node of a bench has its cache in memory at hand, and the recording cache of
the bench behind it.
-/

namespace TokenPersistence.Rehearsal

set_option autoImplicit false

def benchTiered (options : TieredOptions) (spawner : Option (Spawner Bench)) :
    TieredStore Bench where
  l1 := some (NodeSetup.nearCache 0)
  l1Lifetime := none
  l2 := RecordingCache.toSharedCache (Bench.sharedCell.inside ScriptedCache.recording)
  options
  retry := none
  spawner

def benchStart (options : TieredOptions) (table : Table) : Context Bench :=
  Context.initial Timestamp.epoch
    { shared := ScriptedCache.ofTable table
      collections := default
      nodes := fun _ =>
        { (default : NodeData) with cache := TieredStore.initialCache options } }

def benchContents : Bench → String → Option Bytes :=
  RecordingCache.contents (Bench.sharedCell.inside ScriptedCache.recording)

theorem bench_tiered_backing (options : TieredOptions) (spawner : Option (Spawner Bench)) :
    (benchTiered options spawner).Backing benchContents := by
  have near : ∀ l1, (benchTiered options spawner).l1 = some l1 →
      l1 = NodeSetup.nearCache 0 :=
    fun l1 enabled => (Option.some.inj enabled).symm
  apply RecordingCache.backing
  · exact Bench.shared_lawful.inside ScriptedCache.recording_lawful
  · rfl
  · rfl
  · intro l1 enabled
    rw [near l1 enabled]
    exact NodeSetup.cell_lawful 0 NodeData.cache_lawful
  · intro l1 enabled
    rw [near l1 enabled]
    exact Bench.node_spares_shared 0 NodeData.cacheCell ScriptedCache.recording
  · intro l1 enabled
    rw [near l1 enabled]
    exact Bench.shared_spares_node ScriptedCache.recording 0 NodeData.cacheCell

end TokenPersistence.Rehearsal
