import TokenPersistence.Proofs.Rehearsal.TieredBench
import TokenPersistence.Proofs.Tiered.Traffic

/-!
# Overlapping calls on a bench

The tiered store of the bench, with the scripted shared cache behind it. The cache serves
in any company as long as no call is to fail and the script says of the calls to come only
how long they stay pending, and which tokens they cancel before.
-/

namespace TokenPersistence.Rehearsal

set_option autoImplicit false

variable {α : Type}

def Behaviour.stalling (cancel : Option CancellationToken) (pauses : Nat) : Behaviour :=
  ⟨none, cancel, pauses, false, false, none⟩

/-- The call takes its time, and may cancel a token, but is carried out. -/
structure Behaviour.Mild (behaviour : Behaviour) : Prop where
  timeless : behaviour.advance = none
  calm : behaviour.panics = false
  succeeds : behaviour.failure = none

def ScriptedCache.Obliging (cache : ScriptedCache) : Prop :=
  cache.cache.Reliable ∧ ∀ behaviour ∈ cache.script, behaviour.Mild

def benchScripted (options : TieredOptions) : TieredStore Bench :=
  { benchTiered options none with l2 := ScriptedCache.toSharedCache Bench.sharedCell }

def benchBackend : Backend Bench where
  contents := benchContents
  reliable bench := bench.shared.Obliging

def withShared (now : Context Bench) (shared : ScriptedCache) : Context Bench :=
  { now with data := { now.data with shared } }

variable {options : TieredOptions} {start now : Context Bench} {shared : ScriptedCache}

theorem bench_stands_shared (stands : benchBackend.Stands (benchScripted options) now)
    (obliging : shared.Obliging) :
    benchBackend.Stands (benchScripted options) (withShared now shared) := by
  refine ⟨stands.clock, obliging, ?_⟩
  intro l1 enabled
  cases enabled
  exact stands.closed _ rfl

theorem bench_calm_shared (stands : benchBackend.Stands (benchScripted options) now)
    (obliging : shared.Obliging)
    (same : shared.cache.data = now.data.shared.cache.data) :
    benchBackend.Calm (benchScripted options) now (withShared now shared) := by
  refine ⟨bench_stands_shared stands obliging, fun key => ⟨?_, fun _ present => present⟩⟩
  exact congrArg (fun data => data.get? key) same

theorem bench_changes_shared (stands : benchBackend.Stands (benchScripted options) now)
    (obliging : shared.Obliging) {key : String} {value : Option Bytes}
    (changed : shared.cache.data.get? = Function.update now.data.shared.cache.data.get? key value) :
    benchBackend.Changes (benchScripted options) key now (withShared now shared) := by
  refine ⟨⟨bench_stands_shared stands obliging, ?_⟩, fun _ present => present⟩
  intro other different
  refine ⟨?_, fun _ present => present⟩
  exact (congrFun changed other).trans (Function.update_of_ne different _ _)

theorem bench_calm_register (stands : benchBackend.Stands (benchScripted options) now)
    (call : SharedCall) :
    benchBackend.Calm (benchScripted options) now
      (withShared now (now.data.shared.register call).2) := by
  obtain ⟨reliable, mild⟩ := stands.reliable
  exact bench_calm_shared stands
    ⟨reliable, fun behaviour known => mild behaviour (List.mem_of_mem_tail known)⟩ rfl

theorem bench_calm_cancel (stands : benchBackend.Stands (benchScripted options) now)
    (token : CancellationToken) :
    benchBackend.Calm (benchScripted options) now (now.cancel token) :=
  ⟨⟨stands.clock, stands.reliable, stands.closed⟩, fun _ => ⟨rfl, fun _ present => present⟩⟩

section Scripted

variable {others : Context Bench → Context Bench → Prop}
  {promise : Context Bench → Routine.Terms (Context Bench) (Except Failure α)}
  {transition : RecordingCache → Except Failure α × RecordingCache}

/-- The state after the recording cache has carried out a call. -/
def afterwards (transition : RecordingCache → Except Failure α × RecordingCache)
    (now : Context Bench) : Context Bench :=
  withShared now { now.data.shared with cache := (transition now.data.shared.cache).2 }

variable
  (company : ∀ before after, others before after →
    benchBackend.Stands (benchScripted options) after)
  (pending : ∀ begun now, benchBackend.Calm (benchScripted options) begun now →
    (promise begun).pending now)

include company pending

theorem amid_pausing (work : Routine (Context Bench) (Except Failure α))
    (carriedOut : ∀ begun now, benchBackend.Calm (benchScripted options) begun now →
      work.Amid others promise (promise begun) now) (pauses : Nat)
    (calm : benchBackend.Calm (benchScripted options) start now) :
    (Routine.pauses pauses >>= fun _ => work).Amid others promise (promise start) now := by
  induction pauses generalizing start now with
  | zero => exact carriedOut start now calm
  | succ count ih =>
      refine ⟨pending start now calm, ?_⟩
      intro later changed
      exact ih (Backend.Calm.refl (company now later changed))

theorem amid_act (work : Call Bench α)
    (carriedOut : ∀ begun now, benchBackend.Calm (benchScripted options) begun now →
      work.run.Amid others promise (promise begun) now)
    (behaviour : Behaviour) (mild : behaviour.Mild)
    (calm : benchBackend.Calm (benchScripted options) start now) :
    (ScriptedCache.act behaviour work).run.Amid others promise (promise start) now := by
  obtain ⟨advance, cancel, pauses, hangs, panics, failure⟩ := behaviour
  obtain ⟨timeless, quiet, succeeds⟩ := mild
  cases timeless
  cases quiet
  cases succeeds
  have paused : ∀ now, benchBackend.Calm (benchScripted options) start now →
      (Routine.pauses pauses >>= fun _ =>
        if hangs then Routine.hang else work.run).Amid others promise (promise start) now := by
    intro now still
    apply amid_pausing company pending _ _ pauses still
    intro begun now calmer
    cases hangs with
    | false => exact carriedOut begun now calmer
    | true => exact ⟨pending begun now calmer, fun _ _ due => by cases due⟩
  cases cancel with
  | none => exact paused now calm
  | some token => exact paused _ (calm.trans (bench_calm_cancel calm.stands token))

/-- A scripted call keeps a promise in any company if, wherever nothing has happened yet
since the beginning of a poll, that is where it may stay pending, and the effect of the
call is how it may end. -/
theorem amid_scripted
    (ended : ∀ begun now, benchBackend.Calm (benchScripted options) begun now →
      (promise begun).ended (transition now.data.shared.cache).1 (afterwards transition now))
    (call : SharedCall) (stands : benchBackend.Stands (benchScripted options) start) :
    (ScriptedCache.perform Bench.sharedCell call transition).run.Amid others promise
      (promise start) start := by
  have calm := bench_calm_register stands call
  change Routine.Amid others promise (Routine.step _ >>= _) (promise start) start
  rw [Routine.amid_bind, Routine.amid_step]
  dsimp only [Routine.Onward, Routine.Terms.withEnd, ScriptedCache.register, Bench.sharedCell]
  cases scripted : start.data.shared.script.head? with
  | none => exact ended start _ calm
  | some behaviour =>
      have mild := stands.reliable.2 behaviour (List.mem_of_head? scripted)
      exact amid_act company pending
        (ExceptT.mk ((Bench.sharedCell.inside ScriptedCache.recording).step transition)) ended
        behaviour mild calm

end Scripted

theorem ScriptedCache.Obliging.perform (obliging : shared.Obliging) (operation : SharedCall)
    (effect : Table → α × Table) :
    (shared.cache.perform operation effect).1 = .ok (effect shared.cache.data).1 ∧
      ({ shared with cache := (shared.cache.perform operation effect).2 } : ScriptedCache).Obliging ∧
      (shared.cache.perform operation effect).2.data = (effect shared.cache.data).2 := by
  rw [obliging.1.perform operation effect]
  exact ⟨rfl, ⟨obliging.1, obliging.2⟩, rfl⟩

theorem bench_sets {key : String} {value : Option Bytes} {spared : Prop}
    (operation : SharedCall) (effect : Table → Unit × Table)
    (brings : ∀ data, (effect data).2.get? = Function.update data.get? key value)
    (begun now : Context Bench) (calm : benchBackend.Calm (benchScripted options) begun now) :
    (benchBackend.Sets (benchScripted options) key value spared begun).ended
      (now.data.shared.cache.perform operation effect).1
      (afterwards (fun cache => cache.perform operation effect) now) := by
  obtain ⟨done, obliging, data⟩ :=
    ScriptedCache.Obliging.perform calm.stands.reliable operation effect
  have changed := (congrArg Table.get? data).trans (brings now.data.shared.cache.data)
  refine ⟨calm.changes (bench_changes_shared calm.stands obliging changed), done, fun _ => ?_⟩
  have found := congrFun changed key
  rw [Function.update_self] at found
  exact found

theorem bench_serves (options : TieredOptions) : benchBackend.Serves (benchScripted options) where
  nearLawful l1 enabled := by
    cases enabled
    exact NodeSetup.cell_lawful 0 NodeData.cache_lawful
  nearApart l1 enabled cache data := by
    cases enabled
    exact ⟨rfl, id⟩
  get key spared now stands := by
    refine amid_scripted (fun _ _ company => company.stands) (fun _ _ calm => calm) ?_
      (.get key) stands
    intro begun now calm
    obtain ⟨done, obliging, data⟩ := ScriptedCache.Obliging.perform calm.stands.reliable
      (.get key) fun data => (data.get? key, data)
    refine ⟨calm.trans (bench_calm_shared calm.stands obliging data), _, done, fun _ => ?_⟩
    exact congrArg (fun data => data.get? key) data
  refresh key spared now stands := by
    refine amid_scripted (fun _ _ company => company.stands) (fun _ _ calm => calm) ?_
      (.refresh key) stands
    intro begun now calm
    obtain ⟨done, obliging, data⟩ := ScriptedCache.Obliging.perform calm.stands.reliable
      (.refresh key) fun data => ((), data)
    exact ⟨calm.trans (bench_calm_shared calm.stands obliging data), done⟩
  set key bytes entry spared now stands := by
    refine amid_scripted (fun _ _ company => company.stands)
      (fun _ _ calm => calm.changes (Backend.Changes.refl key calm.stands)) ?_
      (.set key bytes entry) stands
    exact bench_sets (.set key bytes entry) (fun data => ((), data.insert key bytes))
      fun data => get_insert_eq_update data key bytes
  remove key spared now stands := by
    refine amid_scripted (fun _ _ company => company.stands)
      (fun _ _ calm => calm.changes (Backend.Changes.refl key calm.stands)) ?_
      (.remove key) stands
    exact bench_sets (.remove key) (fun data => ((), data.erase key))
      fun data => get_erase_eq_update data key

/-- What is done next with the calls on the store. -/
inductive Move where
  | begin (hints : CallHints) (call : StoreCall)
  | poll (index : Nat)

def benchMove (options : TieredOptions) (flown : Traffic Bench × Context Bench) :
    Move → Traffic Bench × Context Bench
  | .begin hints call =>
      (flown.1.begin (benchScripted options) hints call flown.2,
        (((benchScripted options).perform hints call).poll flown.2).state)
  | .poll index => flown.1.poll index flown.2

/-- The moves on a bench where the calls of the shared cache are stalled in turn. -/
def benchMoves (options : TieredOptions) (table : Table)
    (stalls : List (Option CancellationToken × Nat)) (moves : List Move) :
    Traffic Bench × Context Bench :=
  moves.foldl (benchMove options)
    (Traffic.empty, withShared (benchStart options table)
      { ScriptedCache.ofTable table with
        script := stalls.map fun stall => Behaviour.stalling stall.1 stall.2 })

theorem bench_moves_flown (options : TieredOptions) (table : Table)
    (stalls : List (Option CancellationToken × Nat)) (moves : List Move) :
    benchBackend.Flown (benchScripted options) (benchMoves options table stalls moves).1
      (benchMoves options table stalls moves).2 := by
  have moved : ∀ (moves : List Move) (flown : Traffic Bench × Context Bench),
      benchBackend.Flown (benchScripted options) flown.1 flown.2 →
        benchBackend.Flown (benchScripted options) (moves.foldl (benchMove options) flown).1
          (moves.foldl (benchMove options) flown).2 := by
    intro moves
    induction moves with
    | nil => exact fun _ earlier => earlier
    | cons move others ih =>
        intro flown earlier
        apply ih
        cases move with
        | begin hints call => exact earlier.begin _ _ hints call
        | poll index => exact earlier.poll _ _ index
  apply moved
  apply Backend.Flown.start
  · rfl
  · refine ⟨⟨rfl, rfl⟩, ?_⟩
    intro behaviour known
    obtain ⟨stall, _, rfl⟩ := List.mem_map.mp known
    exact ⟨rfl, rfl, rfl⟩
  · intro l1 enabled
    cases enabled
    rfl

end TokenPersistence.Rehearsal
