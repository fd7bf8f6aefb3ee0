import TokenPersistence.Proofs.Rehearsal.OverlapBench
import TokenPersistence.Proofs.Tiered.Order

/-!
# Agreement of the levels at rest

However the calls on a store overlap, once no change of a key is in flight, what is in
memory under the key is what the shared cache has, unless the key is spoilt. Calls for one
key are not kept apart, and a write that is cancelled is not taken back: each of the ways
in which a key can be spoilt does lead to levels that disagree for good.
-/

namespace TokenPersistence

set_option autoImplicit false

variable {σ : Type}

namespace Backend

variable {backend : Backend σ} {store : TieredStore σ} {traffic : Traffic σ} {now : Context σ}

theorem Orderly.poll_at (orderly : backend.Orderly store traffic now) (index : Nat) :
    backend.Orderly store (traffic.poll index now).1 (traffic.poll index now).2 := by
  unfold Traffic.poll
  cases at_place : traffic.flights[index]? with
  | none => exact orderly
  | some flight =>
      obtain ⟨inside, rfl⟩ := List.getElem?_eq_some_iff.mp at_place
      apply Orderly.poll
      rw [← List.drop_eq_getElem_cons inside, List.take_append_drop]
      exact orderly

theorem Flown.orderly (serves : backend.Serves store)
    (waits : store.options.writesInBackground = false)
    (flown : backend.Flown store traffic now) : backend.Orderly store traffic now := by
  induction flown with
  | start now clock reliable fresh =>
      have vacant : store.near now = [] := by
        unfold TieredStore.near
        cases enabled : store.l1 with
        | none => rfl
        | some l1 =>
            dsimp only
            rw [fresh l1 enabled]
            rfl
      refine ⟨⟨clock, reliable, fun _ _ _ => vacant⟩, ?_, List.Pairwise.nil, ?_⟩
      · intro flight known
        cases known
      · intro key _
        apply settled_of_vacant
        intro entry present
        rw [vacant] at present
        cases present
  | between traffic before after earlier calm ih =>
      refine ⟨calm.stands, ?_, ih.crosses, ?_⟩
      · intro flight known
        exact (ih.flies flight known).marked id calm.stands fun _ => (calm.spares _).shared
      · intro key unspoilt
        exact (ih.settled key unspoilt).spares (calm.spares key)
  | begin traffic now hints call earlier ih => exact ih.begin serves waits hints call
  | poll traffic now index earlier ih => exact ih.poll_at index

theorem near_of_blob {key : String} {bytes : Bytes}
    (found : store.nearBlob? now key = some bytes) :
    ∃ entry, (key, entry) ∈ store.near now ∧ entry.bytes = bytes := by
  obtain ⟨l1, enabled, cached⟩ := Option.bind_eq_some_iff.mp found
  obtain ⟨entry, alive, same⟩ := Option.map_eq_some_iff.mp cached
  rw [near_of_some enabled]
  exact ⟨entry, ByteCache.live_mem alive, same⟩

/-- Once no change of a key is in flight, and unless the key is spoilt, a blob that a
look-up in memory finds is the one that the shared cache has. -/
theorem quiet_levels_agree (backend : Backend σ) (store : TieredStore σ)
    (waits : store.options.writesInBackground = false) (serves : backend.Serves store)
    (traffic : Traffic σ) (now : Context σ) (flown : backend.Flown store traffic now)
    (key : String) (quiet : Traffic.busy traffic.flights key = false)
    (unspoilt : traffic.spoilt key = false) (bytes : Bytes)
    (found : store.nearBlob? now key = some bytes) :
    backend.contents now.data key = some bytes := by
  obtain ⟨entry, present, rfl⟩ := near_of_blob found
  exact ((flown.orderly serves waits).settled key unspoilt).quiet quiet entry present

end Backend

namespace Rehearsal

/-- A write and a read overlap, and both are stalled. -/
theorem quiet_levels_agree_after_overlap :
    ∃ moves : List Move,
      let flown := benchMoves TieredOptions.standard Table.empty [(none, 1), (none, 2)] moves
      flown.1.flights = [] ∧ flown.1.spoilt "A" = false ∧
        (benchScripted TieredOptions.standard).nearBlob? flown.2 "A" = some [1] ∧
        benchBackend.contents flown.2.data "A" = some [1] := by
  refine ⟨[.begin CallHints.none (.write "A" [1]), .begin CallHints.none (.read "A"), .poll 0,
    .poll 0, .poll 0], by rfl, by decide +kernel, by decide +kernel, ?_⟩
  exact Backend.quiet_levels_agree benchBackend (benchScripted TieredOptions.standard) rfl
    (bench_serves TieredOptions.standard) _ _ (bench_moves_flown _ _ _ _) "A" (by decide +kernel)
    (by decide +kernel) [1] (by decide +kernel)

/-- The moves leave no call in flight, and the levels with these blobs. -/
structure RestsWith (table : Table) (stalls : List (Option CancellationToken × Nat))
    (moves : List Move) (near shared : Option Bytes) : Prop where
  flown : benchBackend.Flown (benchScripted TieredOptions.standard)
    (benchMoves TieredOptions.standard table stalls moves).1
    (benchMoves TieredOptions.standard table stalls moves).2
  rest : (benchMoves TieredOptions.standard table stalls moves).1.flights = []
  near : (benchScripted TieredOptions.standard).nearBlob?
    (benchMoves TieredOptions.standard table stalls moves).2 "A" = near
  shared : benchBackend.contents
    (benchMoves TieredOptions.standard table stalls moves).2.data "A" = shared

def someToken : CancellationToken := CancellationToken.named "token"

/-- A write is cancelled between the levels. A read copies what a removal is about to
remove, and another one copies what a write has just replaced in memory. The first of two
writes is the last one to reach the shared cache. -/
theorem levels_disagree_at_rest :
    benchBackend.Serves (benchScripted TieredOptions.standard) ∧
      RestsWith Table.empty [(some someToken, 1)]
        [.begin { CallHints.none with cancellation := some someToken } (.write "A" [1])]
        (some [1]) none ∧
      RestsWith (Table.ofList [("A", [7])]) [(none, 1)]
        [.begin CallHints.none (.remove "A"), .begin CallHints.none (.read "A"), .poll 0]
        (some [7]) none ∧
      RestsWith (Table.ofList [("A", [7])]) [(none, 1), (none, 1)]
        [.begin CallHints.none (.read "A"), .begin CallHints.none (.write "A" [1]), .poll 1,
          .poll 0]
        (some [7]) (some [1]) ∧
      RestsWith Table.empty [(none, 1)]
        [.begin CallHints.none (.write "A" [1]), .begin CallHints.none (.write "A" [2]), .poll 0]
        (some [2]) (some [1]) :=
  ⟨bench_serves TieredOptions.standard,
    ⟨bench_moves_flown _ _ _ _, by rfl, by decide +kernel, by decide +kernel⟩,
    ⟨bench_moves_flown _ _ _ _, by rfl, by decide +kernel, by decide +kernel⟩,
    ⟨bench_moves_flown _ _ _ _, by rfl, by decide +kernel, by decide +kernel⟩,
    ⟨bench_moves_flown _ _ _ _, by rfl, by decide +kernel, by decide +kernel⟩⟩

end Rehearsal

end TokenPersistence
