import TokenPersistence.Proofs.Tiered.Levels

/-!
# Coherence of the two levels

The levels are coherent while the clock works and every blob in memory is the one that
the shared cache has under the same key. Each operation of a tiered store ends, and
keeps the levels coherent: a read copies into memory only what the shared cache
answered, a write puts the new blob into memory and then the same blob into the shared
cache, and a removal takes the key out of both. In the middle of a write or a removal
the memory is one step ahead; it then agrees with the map that the shared cache is
about to have.
-/

namespace TokenPersistence

set_option autoImplicit false

variable {σ : Type}

namespace TieredStore

variable {store : TieredStore σ} {contents : σ → String → Option Bytes}

structure Coherent (store : TieredStore σ) (contents : σ → String → Option Bytes)
    (now : Context σ) : Prop where
  clock : now.clockIsBroken = false
  near : store.NearAgrees (contents now.data) now

theorem Coherent.drift {before after : Context σ} (coherent : store.Coherent contents before)
    (drift : store.Drift before after) (same : contents after.data = contents before.data) :
    store.Coherent contents after := by
  refine ⟨drift.clock, ?_⟩
  rw [same]
  exact coherent.near.drift drift

theorem Backing.read_levels (backing : store.Backing contents) (key : String)
    (hints : CallHints) (now : Context σ) (coherent : store.Coherent contents now) :
    (store.readLevels key hints).Returns now fun answer after =>
      (store.Coherent contents after ∧ contents after.data = contents now.data) ∧
        (answer = contents now.data key ∨ answer = none ∧ store.Misses key now) := by
  apply (backing.answers_levels key hints now coherent.clock coherent.near).imp
  intro answer after read
  obtain ⟨⟨clock, same⟩, answered⟩ := read
  have coherentAfter : store.NearAgrees (contents now.data) after →
      store.Coherent contents after := by
    intro agrees
    rw [← same] at agrees
    exact ⟨clock, agrees⟩
  cases answered with
  | near found agrees =>
      exact ⟨⟨coherentAfter agrees, same⟩, Or.inl (coherent.near.blob found).symm⟩
  | shared missed agrees answered =>
      refine ⟨⟨coherentAfter ?_, same⟩, answered⟩
      rcases answered with known | ⟨nothing, _⟩
      · rw [copied_same known.symm] at agrees
        exact agrees
      · rw [nothing] at agrees
        exact agrees

/-- The shared cache takes a write, in one of the attempts that it is given. -/
def WriteReaches (store : TieredStore σ) (key : String) (bytes : Bytes) (hints : CallHints)
    (now : Context σ) : Prop :=
  (store.writeNear key bytes hints).Returns now fun _ between =>
    store.Succeeds (store.l2.set key bytes (store.entryOptions hints)) between

def RemoveReaches (store : TieredStore σ) (key : String) (now : Context σ) : Prop :=
  (store.removeNear key).Returns now fun _ between =>
    store.Succeeds (store.l2.remove key) between

theorem Coherent.changed {between : Context σ} {goal : String → Option Bytes}
    {call : Routine (Context σ) (Option Unit)} (near : store.NearAgrees goal between)
    (called : call.Returns between fun _ after =>
      store.Drift between after ∧ contents after.data = goal) :
    (Functor.discard call : Routine (Context σ) Unit).Returns between fun _ after =>
      store.Coherent contents after ∧ contents after.data = goal := by
  rw [Routine.returns_discard]
  apply called.imp
  intro _ after reached
  obtain ⟨drift, changed⟩ := reached
  refine ⟨⟨drift.clock, ?_⟩, changed⟩
  rw [changed]
  exact near.drift drift

theorem Backing.write_levels (backing : store.Backing contents) (key : String)
    (bytes : Bytes) (hints : CallHints) (waits : store.options.writesInBackground = false)
    (now : Context σ) (coherent : store.Coherent contents now)
    (reaches : store.WriteReaches key bytes hints now) :
    (store.writeLevels key bytes hints).Returns now fun _ after =>
      store.Coherent contents after ∧
        contents after.data = Function.update (contents now.data) key (some bytes) := by
  rw [write_levels_eq store key bytes hints waits, Routine.returns_bind]
  apply ((backing.write_near key bytes hints now coherent.clock coherent.near).and reaches).imp
  intro _ between halfway
  obtain ⟨⟨near, clock, shared⟩, succeeds⟩ := halfway
  apply Coherent.changed near
  rw [← shared]
  exact backing.call_change .write key _ _ (some bytes) between clock
    (fun tried ticks => backing.set key bytes (store.entryOptions hints) tried ticks) succeeds

theorem Backing.remove_levels (backing : store.Backing contents) (key : String)
    (now : Context σ) (coherent : store.Coherent contents now)
    (reaches : store.RemoveReaches key now) :
    (store.removeLevels key).Returns now fun _ after =>
      store.Coherent contents after ∧
        contents after.data = Function.update (contents now.data) key none := by
  rw [remove_levels_eq, Routine.returns_bind]
  apply ((backing.remove_near key now coherent.clock coherent.near).and reaches).imp
  intro _ between halfway
  obtain ⟨⟨near, clock, shared⟩, succeeds⟩ := halfway
  apply Coherent.changed near
  rw [← shared]
  exact backing.call_change .remove key _ _ none between clock
    (fun tried ticks => backing.remove key tried ticks) succeeds

end TieredStore

end TokenPersistence
