import TokenPersistence.Proofs.Rehearsal.TieredBench
import TokenPersistence.Proofs.Tiered.Coherence

/-!
# The level in memory is transparent

Calls on a tiered store that waits for the shared cache are compared with a plain map,
which changes with every write and every removal. Between the calls time may pass,
tokens may be cancelled and entries may get lost in memory. After any such history
the shared cache has what the map has, the memory has nothing else, and a read gives
what the map has under the key or, when neither level answers, nothing.
-/

namespace TokenPersistence

set_option autoImplicit false

variable {σ : Type}

namespace TieredStore

/-- The states after calls that are not cancelled and changes that reach the shared
cache, with the plain map after the same changes. -/
inductive Reached (store : TieredStore σ) (contents : σ → String → Option Bytes) :
    (String → Option Bytes) → Context σ → Prop where
  | start (now : Context σ) (clock : now.clockIsBroken = false)
      (fresh : ∀ l1, store.l1 = some l1 → l1.get now.data = initialCache store.options) :
      Reached store contents (contents now.data) now
  | drift (plain : String → Option Bytes) (before after : Context σ)
      (earlier : Reached store contents plain before) (drift : store.Drift before after)
      (unchanged : contents after.data = contents before.data) :
      Reached store contents plain after
  | read (plain : String → Option Bytes) (now : Context σ) (key : String) (hints : CallHints)
      (earlier : Reached store contents plain now)
      (uncancelled : hints.Uncancelled (ExceptT.lift (store.readLevels key hints)) now) :
      Reached store contents plain ((store.read key hints).run.run now).state
  | write (plain : String → Option Bytes) (now : Context σ) (key : String) (bytes : Bytes)
      (hints : CallHints) (earlier : Reached store contents plain now)
      (uncancelled : hints.Uncancelled (ExceptT.lift (store.writeLevels key bytes hints)) now)
      (reaches : store.WriteReaches key bytes hints now) :
      Reached store contents (Function.update plain key (some bytes))
        ((store.write key bytes hints).run.run now).state
  | remove (plain : String → Option Bytes) (now : Context σ) (key : String)
      (hints : CallHints) (earlier : Reached store contents plain now)
      (uncancelled : hints.Uncancelled (ExceptT.lift (store.removeLevels key)) now)
      (reaches : store.RemoveReaches key now) :
      Reached store contents (Function.update plain key none)
        ((store.remove key hints).run.run now).state

variable {store : TieredStore σ} {contents : σ → String → Option Bytes}

theorem Reached.coherent (backing : store.Backing contents)
    (waits : store.options.writesInBackground = false) {plain : String → Option Bytes}
    {now : Context σ} (reached : store.Reached contents plain now) :
    store.Coherent contents now ∧ contents now.data = plain := by
  -- By induction on the calls: each keeps the levels coherent and changes the shared
  -- cache as the plain map changes.
  induction reached with
  | start now clock fresh =>
      refine ⟨⟨clock, ?_⟩, rfl⟩
      intro l1 enabled
      rw [fresh l1 enabled]
      exact ByteCache.agrees_empty _ _
  | drift plain before after earlier drift unchanged ih =>
      obtain ⟨coherent, same⟩ := ih
      exact ⟨coherent.drift drift unchanged, unchanged.trans same⟩
  | read plain now key hints earlier uncancelled ih =>
      obtain ⟨coherent, same⟩ := ih
      have readReturns := backing.read_levels key hints now coherent
      have after := hints.state_uncancelled .read _ now uncancelled
        (readReturns.imp fun _ _ kept => kept.1)
      exact ⟨after.1, after.2.trans same⟩
  | write plain now key bytes hints earlier uncancelled reaches ih =>
      obtain ⟨coherent, same⟩ := ih
      have writeReturns := backing.write_levels key bytes hints waits now coherent reaches
      have after := hints.state_uncancelled .write _ now uncancelled writeReturns
      rw [same] at after
      exact after
  | remove plain now key hints earlier uncancelled reaches ih =>
      obtain ⟨coherent, same⟩ := ih
      have removeReturns := backing.remove_levels key now coherent reaches
      have after := hints.state_uncancelled .remove _ now uncancelled removeReturns
      rw [same] at after
      exact after

/-- After any history of calls, a blob in memory is the one in the shared cache, and a
read gives what a plain map has after the same changes, or nothing if it has to do
without an answer of the shared cache. -/
theorem memory_level_transparent (l1 : ByteCacheCell σ) (l2 : SharedCache σ)
    (options : TieredOptions) (retry : Option (RetryPredicate σ))
    (spawner : Option (Spawner σ)) (store : TieredStore σ)
    (built : build l1 l2 options retry spawner = .ok (.ok store))
    (waits : options.writesInBackground = false)
    (contents : σ → String → Option Bytes) (backing : store.Backing contents)
    (plain : String → Option Bytes) (now : Context σ)
    (reached : store.Reached contents plain now) :
    contents now.data = plain ∧
      (∀ near key bytes, store.l1 = some near →
        (near.get now.data).get? now.uptime key = some bytes →
          contents now.data key = some bytes) ∧
      ∀ key hints, hints.Uncancelled (ExceptT.lift (store.readLevels key hints)) now →
        (store.read key hints).run.Returns now fun outcome _ =>
          outcome = .ok (plain key) ∨ outcome = .ok none ∧ store.Misses key now := by
  rw [← options_of_build built] at waits
  obtain ⟨coherent, same⟩ := reached.coherent backing waits
  refine ⟨same, ?_, ?_⟩
  · intro near key bytes enabled cached
    exact (coherent.near near enabled).get cached
  · intro key hints uncancelled
    have readReturns := backing.read_levels key hints now coherent
    apply (hints.returns_uncancelled .read _ now uncancelled readReturns).imp
    intro outcome after read
    obtain ⟨answer, ended, _, answered⟩ := read
    rw [ended, ← same]
    rcases answered with found | ⟨nothing, missed⟩
    · exact Or.inl (by rw [found])
    · exact Or.inr ⟨by rw [nothing], missed⟩

end TieredStore

namespace Rehearsal

theorem memory_level_transparent_after_overwrite :
    let store := benchTiered TieredOptions.standard none
    let start := benchStart TieredOptions.standard (Table.ofList [("A", [7]), ("B", [8])])
    let now := ((store.write "A" [1] CallHints.none).run.run start).state
    benchContents now.data = Function.update (benchContents start.data) "A" (some [1]) ∧
      (∀ near key bytes, store.l1 = some near →
        (near.get now.data).get? now.uptime key = some bytes →
          benchContents now.data key = some bytes) ∧
      ∀ key hints, hints.Uncancelled (ExceptT.lift (store.readLevels key hints)) now →
        (store.read key hints).run.Returns now fun outcome _ =>
          outcome = .ok (Function.update (benchContents start.data) "A" (some [1]) key) ∨
            outcome = .ok none ∧ store.Misses key now := by
  intro store start now
  have fresh : store.Reached benchContents (benchContents start.data) start := by
    apply TieredStore.Reached.start
    · rfl
    · intro l1 enabled
      cases enabled
      rfl
  have written : store.Reached benchContents
      (Function.update (benchContents start.data) "A" (some [1])) now := by
    apply TieredStore.Reached.write _ start "A" [1] CallHints.none fresh
    · exact ⟨rfl, CallHints.unstopped_of_no_token _ start CallHints.none rfl⟩
    · exact ⟨(), rfl, .ok (), rfl, fun failure failed => by cases failed⟩
  exact TieredStore.memory_level_transparent (NodeSetup.nearCache 0) store.l2
    TieredOptions.standard none none store rfl rfl benchContents
    (bench_tiered_backing TieredOptions.standard none) _ now written

end Rehearsal

end TokenPersistence
