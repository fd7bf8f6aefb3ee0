import TokenPersistence.Proofs.Rehearsal.TieredBench
import TokenPersistence.Proofs.Tiered.Calls
import TokenPersistence.Proofs.Tiered.Tally

/-!
# Writes in the background

A store that writes in the background leaves its writes in a queue, whose jobs are
carried out later, one after the other, while its removals act on the shared cache at
once. With a shared cache that never fails, the queue and the shared cache follow the
tally of the calls, wherever the jobs are carried out between the calls. So once the
queue is empty the shared cache has what the last call on each key said, except under
the keys whose last call is a removal that overtook a write.
-/

namespace TokenPersistence

set_option autoImplicit false

variable {σ : Type}

/-- Where the queue and the contents of the shared cache are found, and when the shared
cache can be relied on. -/
structure Background (σ : Type) where
  queue : Cell σ (List BackgroundWrite)
  contents : σ → String → Option Bytes
  reliable : σ → Prop

namespace Background

/-- The clock works, and so does the shared cache; these jobs are in the queue, and
this is in the shared cache. -/
structure Stands (background : Background σ) (jobs : List BackgroundWrite)
    (shared : String → Option Bytes) (now : Context σ) : Prop where
  clock : now.clockIsBroken = false
  reliable : background.reliable now.data
  queued : background.queue.get now.data = jobs
  contents : background.contents now.data = shared

/-- The spawner of the store queues its jobs; the shared cache does what it is told, and
nothing else happens to it. -/
structure Serves (background : Background σ) (store : TieredStore σ) : Prop where
  spawns : store.spawner = some fun job =>
    background.queue.modify fun jobs => jobs ++ [job]
  requeue : ∀ jobs others shared now, background.Stands jobs shared now →
    background.Stands others shared
      { now with data := background.queue.put others now.data }
  near : ∀ l1, store.l1 = some l1 → ∀ cache jobs shared now,
    background.Stands jobs shared now →
      background.Stands jobs shared { now with data := l1.put cache now.data }
  set : ∀ key bytes options jobs shared now, background.Stands jobs shared now →
    (store.l2.set key bytes options).run.Returns now fun outcome after =>
      outcome = .ok () ∧
        background.Stands jobs (Function.update shared key (some bytes)) after
  remove : ∀ key jobs shared now, background.Stands jobs shared now →
    (store.l2.remove key).run.Returns now fun outcome after =>
      outcome = .ok () ∧ background.Stands jobs (Function.update shared key none) after

variable {background : Background σ} {store : TieredStore σ} {jobs : List BackgroundWrite}
  {shared changed : String → Option Bytes}

theorem call_succeeds (store : TieredStore σ) (operation : SharedOperation) (key : String)
    (size : Unit → Nat) (work : Call σ Unit) (now : Context σ)
    (stands : background.Stands jobs shared now)
    (succeeds : work.run.Returns now fun outcome after =>
      outcome = .ok () ∧ background.Stands jobs changed after) :
    (Functor.discard (store.callShared operation key size work) :
      Routine (Context σ) Unit).Returns now fun _ after =>
        background.Stands jobs changed after := by
  rw [Routine.returns_discard]
  apply (TieredStore.returns_call_shared_ok store operation key size work now
    (fun _ after => background.Stands jobs changed after) stands.clock _).imp
  · intro answer after called
    obtain ⟨_, _, changedStands⟩ := called
    exact changedStands
  · apply succeeds.imp
    intro outcome after worked
    obtain ⟨done, changedStands⟩ := worked
    exact ⟨changedStands.clock, (), done, changedStands⟩

theorem Serves.write_near (serves : background.Serves store) (key : String) (bytes : Bytes)
    (hints : CallHints) (now : Context σ) (stands : background.Stands jobs shared now) :
    (store.writeNear key bytes hints).Returns now fun _ after =>
      background.Stands jobs shared after := by
  unfold TieredStore.writeNear
  cases enabled : store.l1 with
  | none => exact (Routine.returns_pure _ now _).mpr stands
  | some l1 =>
      rw [Routine.returns_bind]
      apply (TieredStore.returns_current_l1_expiry store hints now stands.clock).imp
      intro lifetime afterClock unchanged
      rw [unchanged]
      simp only [Routine.returns_bind, ByteCacheCell.returns_insert,
        ByteCacheCell.returns_log_access]
      exact serves.near l1 enabled _ jobs shared now stands

theorem Serves.remove_near (serves : background.Serves store) (key : String)
    (now : Context σ) (stands : background.Stands jobs shared now) :
    (store.removeNear key).Returns now fun _ after => background.Stands jobs shared after := by
  unfold TieredStore.removeNear
  cases enabled : store.l1 with
  | none => exact (Routine.returns_pure _ now _).mpr stands
  | some l1 =>
      simp only [Routine.returns_bind, ByteCacheCell.returns_erase, Routine.returns_write]
      exact serves.near l1 enabled _ jobs shared now stands

theorem Serves.write_levels (serves : background.Serves store)
    (later : store.options.writesInBackground = true) (key : String) (bytes : Bytes)
    (hints : CallHints) (now : Context σ) (stands : background.Stands jobs shared now) :
    (store.writeLevels key bytes hints).Returns now fun _ after =>
      background.Stands (jobs ++ [⟨key, bytes, store.entryOptions hints⟩]) shared after := by
  rw [TieredStore.write_levels_spawned store key bytes hints _ serves.spawns later,
    Routine.returns_bind]
  apply (serves.write_near key bytes hints now stands).imp
  intro _ between stood
  rw [Cell.returns_modify, stood.queued]
  exact serves.requeue jobs _ shared between stood

theorem Serves.remove_levels (serves : background.Serves store) (key : String)
    (now : Context σ) (stands : background.Stands jobs shared now) :
    (store.removeLevels key).Returns now fun _ after =>
      background.Stands jobs (Function.update shared key none) after := by
  rw [TieredStore.remove_levels_eq, Routine.returns_bind]
  apply (serves.remove_near key now stands).imp
  intro _ between stood
  exact call_succeeds store .remove key _ _ between stood
    (serves.remove key jobs shared between stood)

theorem Serves.write_shared (serves : background.Serves store) (job : BackgroundWrite)
    (now : Context σ) (stands : background.Stands jobs shared now) :
    (store.writeShared job).Returns now fun _ after =>
      background.Stands jobs (Function.update shared job.key (some job.bytes)) after :=
  call_succeeds store .write job.key _ _ now stands
    (serves.set job.key job.bytes job.options jobs shared now stands)

/-- The states after calls that are not cancelled, with jobs carried out between them,
and the tally of the calls. -/
inductive Reached (background : Background σ) (store : TieredStore σ) :
    Tally → Context σ → Prop where
  | start (shared : String → Option Bytes) (now : Context σ)
      (stands : background.Stands [] shared now) :
      Reached background store (Tally.start shared) now
  | drift (tally : Tally) (before after : Context σ)
      (earlier : Reached background store tally before)
      (stands : background.Stands (background.queue.get before.data)
        (background.contents before.data) after) :
      Reached background store tally after
  | write (tally : Tally) (now : Context σ) (key : String) (bytes : Bytes)
      (hints : CallHints) (earlier : Reached background store tally now)
      (uncancelled : hints.Uncancelled (ExceptT.lift (store.writeLevels key bytes hints)) now) :
      Reached background store (tally.write key bytes)
        ((store.write key bytes hints).run.run now).state
  | remove (tally : Tally) (now : Context σ) (key : String) (hints : CallHints)
      (earlier : Reached background store tally now)
      (uncancelled : hints.Uncancelled (ExceptT.lift (store.removeLevels key)) now) :
      Reached background store (tally.remove key)
        ((store.remove key hints).run.run now).state
  | job (tally : Tally) (now : Context σ) (job : BackgroundWrite)
      (rest : List BackgroundWrite) (earlier : Reached background store tally now)
      (next : background.queue.get now.data = job :: rest) :
      Reached background store tally.job
        ((store.writeShared job).run
          { now with data := background.queue.put rest now.data }).state

def written (job : BackgroundWrite) : String × Bytes := (job.key, job.bytes)

/-- The queue has the pending writes of the tally, which accounts for the shared cache. -/
structure Follows (background : Background σ) (tally : Tally) (now : Context σ) : Prop where
  stands : background.Stands (background.queue.get now.data) (background.contents now.data) now
  queued : (background.queue.get now.data).map written = tally.pending
  accounts : tally.Accounts (background.contents now.data)

theorem Follows.of_stands {tally : Tally} {now : Context σ}
    (stands : background.Stands jobs shared now) (queued : jobs.map written = tally.pending)
    (accounts : tally.Accounts shared) : background.Follows tally now := by
  obtain ⟨clock, reliable, rfl, rfl⟩ := stands
  exact ⟨⟨clock, reliable, rfl, rfl⟩, queued, accounts⟩

theorem Reached.follows (serves : background.Serves store)
    (later : store.options.writesInBackground = true) {tally : Tally} {now : Context σ}
    (reached : background.Reached store tally now) : background.Follows tally now := by
  -- By induction on the calls and jobs: the queue grows and shrinks with the pending
  -- writes, so the shared cache needs no more than the step of the tally.
  induction reached with
  | start shared now stands => exact Follows.of_stands stands rfl (Tally.accounts_start shared)
  | drift tally before after earlier stands ih =>
      exact Follows.of_stands stands ih.queued ih.accounts
  | write tally now key bytes hints earlier uncancelled ih =>
      have writeReturns := serves.write_levels later key bytes hints now ih.stands
      have stands := hints.state_uncancelled .write _ now uncancelled writeReturns
      apply Follows.of_stands stands _ (ih.accounts.write key bytes)
      rw [List.map_append, ih.queued]
      rfl
  | remove tally now key hints earlier uncancelled ih =>
      have removeReturns := serves.remove_levels key now ih.stands
      have stands := hints.state_uncancelled .remove _ now uncancelled removeReturns
      exact Follows.of_stands stands ih.queued (ih.accounts.remove key)
  | job tally now job rest earlier next ih =>
      have dequeued := serves.requeue _ rest _ now ih.stands
      have jobReturns := serves.write_shared job _ dequeued
      have pending := ih.queued.symm
      rw [next, List.map_cons] at pending
      apply Follows.of_stands jobReturns.state _ (ih.accounts.job pending)
      simp only [Tally.job, pending, List.tail_cons]

end Background

namespace Rehearsal

def benchBackground : Background Bench where
  queue := NodeSetup.cell 0 NodeData.queueCell
  contents := benchContents
  reliable bench := bench.shared.cache.failNext = 0 ∧ bench.shared.cache.failsWhen = none

theorem bench_performs (operation : SharedCall) (effect : Table → Unit × Table)
    (jobs : List BackgroundWrite) (shared : String → Option Bytes) (now : Context Bench)
    (stands : benchBackground.Stands jobs shared now) :
    ((Bench.sharedCell.inside ScriptedCache.recording).step fun cache =>
        cache.perform operation effect).Returns now fun outcome after =>
      outcome = .ok () ∧
        benchBackground.Stands jobs (effect now.data.shared.cache.data).2.get? after := by
  obtain ⟨clock, reliable, queued, _⟩ := stands
  rw [Cell.returns_step]
  change ((now.data.shared.cache.perform operation effect).1 = _ ∧ benchBackground.Stands _ _
    { now with data := { now.data with shared := { now.data.shared with
      cache := (now.data.shared.cache.perform operation effect).2 } } })
  rw [RecordingCache.Reliable.perform reliable operation effect]
  exact ⟨rfl, clock, reliable, queued, rfl⟩

theorem bench_background_serves (options : TieredOptions) :
    benchBackground.Serves (benchTiered options (some (NodeSetup.enqueue 0))) where
  spawns := rfl
  requeue jobs others shared now stands :=
    ⟨stands.clock, stands.reliable,
      (NodeSetup.cell_lawful 0 NodeData.queue_lawful).get_put others now.data, stands.contents⟩
  near l1 enabled cache jobs shared now stands := by
    cases enabled
    refine ⟨stands.clock, stands.reliable, ?_, stands.contents⟩
    rw [← stands.queued]
    exact Bench.cache_spares_queue 0 cache now.data
  set key bytes options jobs shared now stands := by
    have performed := bench_performs (.set key bytes options)
      (fun data => ((), data.insert key bytes)) jobs shared now stands
    rw [get_insert_eq_update, show now.data.shared.cache.data.get? = shared from stands.contents]
      at performed
    exact performed
  remove key jobs shared now stands := by
    have performed := bench_performs (.remove key)
      (fun data => ((), data.erase key)) jobs shared now stands
    rw [get_erase_eq_update, show now.data.shared.cache.data.get? = shared from stands.contents]
      at performed
    exact performed

def backgroundOptions : TieredOptions := { TieredOptions.standard with asyncWrites := true }

def benchQueueing : TieredStore Bench :=
  benchTiered backgroundOptions (some (NodeSetup.enqueue 0))

def benchIdle : Context Bench := benchStart backgroundOptions Table.empty

theorem bench_reached_write {tally : Tally} {now : Context Bench}
    (reached : benchBackground.Reached benchQueueing tally now) (key : String)
    (bytes : Bytes) :
    benchBackground.Reached benchQueueing (tally.write key bytes)
      ((benchQueueing.write key bytes CallHints.none).run.run now).state :=
  reached.write tally now key bytes CallHints.none
    ⟨rfl, CallHints.unstopped_of_no_token _ now CallHints.none rfl⟩

theorem bench_reached_remove {tally : Tally} {now : Context Bench}
    (reached : benchBackground.Reached benchQueueing tally now) (key : String) :
    benchBackground.Reached benchQueueing (tally.remove key)
      ((benchQueueing.remove key CallHints.none).run.run now).state :=
  reached.remove tally now key CallHints.none
    ⟨rfl, CallHints.unstopped_of_no_token _ now CallHints.none rfl⟩

theorem bench_reached_idle :
    benchBackground.Reached benchQueueing (Tally.start Table.empty.get?) benchIdle :=
  .start _ benchIdle ⟨rfl, ⟨rfl, rfl⟩, rfl, rfl⟩

end Rehearsal

namespace Background

/-- Once the queue is empty, the shared cache has under a key what the last call on it
said exactly if that call was no removal that overtook a write of the key; otherwise the
last of these writes has come back. -/
theorem background_writes_converge_unless_overtaken (l1 : ByteCacheCell σ)
    (l2 : SharedCache σ) (options : TieredOptions) (retry : Option (RetryPredicate σ))
    (spawner : Option (Spawner σ)) (store : TieredStore σ)
    (built : TieredStore.build l1 l2 options retry spawner = .ok (.ok store))
    (later : options.writesInBackground = true) (background : Background σ)
    (serves : background.Serves store) (tally : Tally) (now : Context σ)
    (reached : background.Reached store tally now)
    (drained : background.queue.get now.data = []) (key : String) :
    (background.contents now.data key = tally.intended key ↔ tally.overtaken key = none) ∧
      ∀ bytes, tally.overtaken key = some bytes →
        tally.intended key = none ∧ background.contents now.data key = some bytes := by
  rw [← TieredStore.options_of_build built] at later
  have follows := reached.follows serves later
  have nothingPending : tally.pending = [] := by
    rw [← follows.queued, drained, List.map_nil]
  exact follows.accounts.drained nothingPending key

end Background

namespace Rehearsal

theorem background_writes_converge_after_job :
    ∃ tally now, benchBackground.Reached benchQueueing tally now ∧
      tally.overtaken "A" = none ∧
      ((benchBackground.contents now.data "A" = tally.intended "A" ↔
          tally.overtaken "A" = none) ∧
        ∀ bytes, tally.overtaken "A" = some bytes →
          tally.intended "A" = none ∧ benchBackground.contents now.data "A" = some bytes) := by
  have wroteFirst := bench_reached_write bench_reached_idle "A" [1]
  have wroteSecond := bench_reached_write wroteFirst "B" [2]
  have firstJob := wroteSecond.job _ _ _ _ rfl
  have removed := bench_reached_remove firstJob "A"
  have secondJob := removed.job _ _ _ [] rfl
  exact ⟨_, _, secondJob, rfl, Background.background_writes_converge_unless_overtaken
    (NodeSetup.nearCache 0) benchQueueing.l2 backgroundOptions none
    (some (NodeSetup.enqueue 0)) benchQueueing rfl rfl benchBackground
    (bench_background_serves backgroundOptions) _ _ secondJob rfl "A"⟩

/-- The blob of a removed key comes back when the write that was queued before the
removal is carried out. -/
theorem removal_undone_by_queued_write :
    TieredStore.build (NodeSetup.nearCache 0) benchQueueing.l2
        backgroundOptions none (some (NodeSetup.enqueue 0)) = .ok (.ok benchQueueing) ∧
      benchBackground.Serves benchQueueing ∧
      ∃ tally now, benchBackground.Reached benchQueueing tally now ∧
        benchBackground.queue.get now.data = [] ∧ tally.intended "A" = none ∧
        benchBackground.contents now.data "A" = some [1] := by
  refine ⟨rfl, bench_background_serves backgroundOptions, ?_⟩
  have removed := bench_reached_remove (bench_reached_write bench_reached_idle "A" [1]) "A"
  exact ⟨_, _, removed.job _ _ _ [] rfl, rfl, rfl, rfl⟩

end Rehearsal

end TokenPersistence
