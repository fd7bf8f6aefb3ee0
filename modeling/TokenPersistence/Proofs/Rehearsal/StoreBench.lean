import TokenPersistence.Proofs.Rehearsal.Cells

/-!
# Adapters on a bench

Adapters over the recording stores of the nodes of a bench, which take the keys that
the host suggests, for a host with one collection that holds tokens.
-/

namespace TokenPersistence.Rehearsal

set_option autoImplicit false

def benchRecorder (index : Nat) : Cell Bench RecordingStore :=
  NodeSetup.cell index NodeData.storeCell

def benchStore (index : Nat) : PartitionStore Bench :=
  RecordingStore.toStore (benchRecorder index)

def benchAdapter (index : Nat) (protector : Protector) : Adapter Bench :=
  ⟨benchStore index, KeyProvider.suggested, protector, none, none⟩

def benchPlan (key : String) : AccessPlan :=
  ⟨key, "tokens", true, true, false, none, none, none, none⟩

/-- Every collection holds tokens, and no store does; those of the nodes that are
picked fail at everything. -/
def benchLeftover (fails : Nat → Bool) : Context Bench :=
  Context.initial Timestamp.epoch
    { shared := default
      collections := fun _ => { RecordingCollection.empty with state := [4] }
      nodes := fun index =>
        { (default : NodeData) with
          store := ⟨Table.empty, [], some fun _ => fails index⟩ } }

end TokenPersistence.Rehearsal
