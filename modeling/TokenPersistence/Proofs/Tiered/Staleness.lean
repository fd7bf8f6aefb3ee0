import TokenPersistence.Proofs.Rehearsal.TieredBench
import TokenPersistence.Proofs.Tiered.Fleet

/-!
# Staleness between instances

Calls of any instances of a fleet, in any order, with time passing between them. Each
call leaves a moment behind: the time at which it was over, and what the shared cache had
then. A read gives what the shared cache has under the key, or what it had at a moment
that is past by less than the lifetime of copies in the memory of the reader.
-/

namespace TokenPersistence

set_option autoImplicit false

variable {σ ι : Type}

namespace Fleet

def moment (fleet : Fleet σ ι) (now : Context σ) : Moment :=
  ⟨now.uptime, fleet.contents now.data⟩

/-- A call of one instance, that is not cancelled, leads from one state to another. -/
inductive Calls (fleet : Fleet σ ι) (now : Context σ) : Context σ → Prop where
  | read (index : ι) (key : String) (hints : CallHints)
      (uncancelled : hints.Uncancelled
        (ExceptT.lift ((fleet.stores index).readLevels key hints)) now) :
      Calls fleet now (((fleet.stores index).read key hints).run.run now).state
  | write (index : ι) (key : String) (bytes : Bytes) (hints : CallHints)
      (uncancelled : hints.Uncancelled
        (ExceptT.lift ((fleet.stores index).writeLevels key bytes hints)) now) :
      Calls fleet now (((fleet.stores index).write key bytes hints).run.run now).state
  | remove (index : ι) (key : String) (hints : CallHints)
      (uncancelled : hints.Uncancelled
        (ExceptT.lift ((fleet.stores index).removeLevels key)) now) :
      Calls fleet now (((fleet.stores index).remove key hints).run.run now).state

/-- The states of a fleet whose memories were empty at the start, with the moments just
after the calls, the last one first. -/
inductive Reached (fleet : Fleet σ ι) : List Moment → Context σ → Prop where
  | start (map : String → Option Bytes) (now : Context σ) (stands : fleet.Stands map now)
      (fresh : ∀ index l1, (fleet.stores index).l1 = some l1 →
        l1.get now.data = TieredStore.initialCache (fleet.stores index).options) :
      Reached fleet [] now
  | passing (moments : List Moment) (before after : Context σ)
      (earlier : Reached fleet moments before)
      (stands : fleet.Stands (fleet.contents before.data) after)
      (passing : fleet.Passing before after) :
      Reached fleet moments after
  | call (moments : List Moment) (now after : Context σ) (earlier : Reached fleet moments now)
      (calls : fleet.Calls now after) :
      Reached fleet (fleet.moment after :: moments) after

variable {fleet : Fleet σ ι} {moments : List Moment}

structure Settled (fleet : Fleet σ ι) (moments : List Moment) (now : Context σ) : Prop where
  stands : fleet.Stands (fleet.contents now.data) now
  timely : fleet.Timely moments now

theorem Done.settled {map : String → Option Bytes} {after : Context σ}
    (done : fleet.Done moments map after) :
    fleet.Settled (fleet.moment after :: moments) after := by
  obtain ⟨⟨clock, reliable, rfl⟩, timely⟩ := done
  exact ⟨⟨clock, reliable, rfl⟩, timely⟩

section Runs

variable (serves : fleet.Serves) (shares : ∀ index, (fleet.stores index).l2 = fleet.shared)
  (waits : ∀ index, (fleet.stores index).options.writesInBackground = false)

include serves shares waits

/-- Each call dates what it puts into a memory by its own moment. -/
theorem Settled.calls {now after : Context σ} (settled : fleet.Settled moments now)
    (calls : fleet.Calls now after) : fleet.Settled (fleet.moment after :: moments) after := by
  obtain ⟨stands, timely⟩ := settled
  cases calls with
  | read index key hints uncancelled =>
      have readReturns := read_levels_dated serves shares index key hints now stands timely
      exact (hints.state_uncancelled .read _ now uncancelled
        (readReturns.imp fun _ _ read => read.1)).settled
  | write index key bytes hints uncancelled =>
      have writeReturns := write_levels_dated serves shares index key hints now bytes
        (waits index) stands timely
      exact (hints.state_uncancelled .write _ now uncancelled writeReturns).settled
  | remove index key hints uncancelled =>
      have removeReturns := remove_levels_dated serves shares index key now stands timely
      exact (hints.state_uncancelled .remove _ now uncancelled removeReturns).settled

theorem Reached.settled {now : Context σ} (reached : fleet.Reached moments now) :
    fleet.Settled moments now := by
  induction reached with
  | start map now stands fresh =>
      obtain ⟨clock, reliable, rfl⟩ := stands
      refine ⟨⟨clock, reliable, rfl⟩, by simp, ?_⟩
      intro index l1 lifetime enabled _ resident present
      rw [fresh index l1 enabled] at present
      exact absurd present List.not_mem_nil
  | passing moments before after earlier stands passing ih =>
      obtain ⟨clock, reliable, same⟩ := stands
      exact ⟨⟨clock, reliable, rfl⟩, ih.timely.passing passing⟩
  | call moments now after earlier calls ih => exact ih.calls serves shares waits calls

end Runs

/-- After any history of calls of any instances, a read of one of them gives what the
shared cache has under the key, or what it had just after a call that has been over for
less than the lifetime of copies in the memory of that instance. -/
theorem staleness_bounded_by_lifetime (fleet : Fleet σ ι) (near : ι → ByteCacheCell σ)
    (options : ι → TieredOptions) (retry : ι → Option (RetryPredicate σ))
    (spawner : ι → Option (Spawner σ))
    (built : ∀ index, TieredStore.build (near index) fleet.shared (options index) (retry index)
      (spawner index) = .ok (.ok (fleet.stores index)))
    (expires : ∀ index, (options index).relative.isSome = true)
    (waits : ∀ index, (options index).writesInBackground = false)
    (serves : fleet.Serves) (moments : List Moment) (now : Context σ)
    (reached : fleet.Reached moments now) (index : ι) (key : String) (hints : CallHints)
    (uncancelled : hints.Uncancelled
      (ExceptT.lift ((fleet.stores index).readLevels key hints)) now) :
    ∃ lifetime, (options index).l1Lifetime = .ok (some lifetime) ∧
      ((fleet.stores index).read key hints).run.Returns now fun outcome _ =>
        ∃ answer, outcome = .ok answer ∧
          (answer = fleet.contents now.data key ∨
            ∃ moment ∈ moments, moment.time ≤ now.uptime ∧
              now.uptime < moment.time + lifetime.nanos ∧ answer = moment.contents key) := by
  have shares : ∀ member, (fleet.stores member).l2 = fleet.shared := by
    intro member
    obtain ⟨_, _, _, made⟩ := TieredStore.parts_of_build (built member)
    rw [made]
  have waiting : ∀ member, (fleet.stores member).options.writesInBackground = false := by
    intro member
    rw [TieredStore.options_of_build (built member)]
    exact waits member
  obtain ⟨lifetime, computed, copies⟩ :=
    TieredStore.lifetime_of_build (built index) (expires index)
  refine ⟨lifetime, computed, ?_⟩
  have settled := reached.settled serves shares waiting
  have readReturns :=
    read_levels_dated serves shares index key hints now settled.stands settled.timely
  apply (hints.returns_uncancelled .read _ now uncancelled readReturns).imp
  intro outcome after read
  obtain ⟨answer, ended, _, current | recent⟩ := read
  · exact ⟨answer, ended, Or.inl current⟩
  · exact ⟨answer, ended, Or.inr (recent lifetime copies)⟩

end Fleet

namespace Rehearsal

def copyLifetime : Duration := ⟨10 * nanosPerSecond, by decide⟩

def copyingOptions : TieredOptions :=
  { TieredOptions.standard with relative := some copyLifetime }

theorem copying_options_lifetime : copyingOptions.l1Lifetime = .ok (some copyLifetime) := by
  have proper : copyingOptions.hasValidShare = true := by decide +kernel
  have scaled : copyLifetime.scale? copyingOptions.l1Share = some copyLifetime := by
    decide +kernel
  unfold TieredOptions.l1Lifetime
  simp only [proper, if_true]
  rw [show copyingOptions.relative = some copyLifetime from rfl]
  simp only [scaled]

def benchShared : SharedCache Bench :=
  RecordingCache.toSharedCache (Bench.sharedCell.inside ScriptedCache.recording)

def benchMember (index : Nat) : TieredStore Bench where
  l1 := some (NodeSetup.nearCache index)
  l1Lifetime := some copyLifetime
  l2 := benchShared
  options := copyingOptions
  retry := none
  spawner := none

theorem bench_member_built (index : Nat) :
    TieredStore.build (NodeSetup.nearCache index) benchShared copyingOptions none
      none = .ok (.ok (benchMember index)) := by
  have valid : copyingOptions.validate = .ok () := by
    have proper : copyingOptions.hasValidShare = true := by decide +kernel
    simp [TieredOptions.validate, proper]
  unfold TieredStore.build
  rw [valid, copying_options_lifetime]
  rfl

def benchFleet : Fleet Bench Nat where
  stores := benchMember
  shared := benchShared
  contents := benchContents
  reliable bench := bench.shared.cache.Reliable

theorem bench_does {α : Type} (operation : SharedCall) (effect : Table → α × Table)
    (map : String → Option Bytes) (now : Context Bench) (stands : benchFleet.Stands map now) :
    benchFleet.Does (ExceptT.mk ((Bench.sharedCell.inside ScriptedCache.recording).step
        fun cache => cache.perform operation effect)) now
      (effect now.data.shared.cache.data).1 (effect now.data.shared.cache.data).2.get? := by
  obtain ⟨clock, reliable, _⟩ := stands
  change ((Bench.sharedCell.inside ScriptedCache.recording).step
    fun cache => cache.perform operation effect).Returns now _
  rw [Cell.returns_step]
  change (now.data.shared.cache.perform operation effect).1 = _ ∧ benchFleet.Stands _
      { now with data := { now.data with shared := { now.data.shared with
        cache := (now.data.shared.cache.perform operation effect).2 } } } ∧ _
  rw [reliable.perform]
  refine ⟨rfl, ⟨clock, reliable, rfl⟩, Nat.le_refl _, ?_⟩
  intro index l1 enabled
  cases enabled
  exact ByteCache.Losses.refl _

theorem bench_fleet_serves : benchFleet.Serves where
  nearLawful index l1 enabled := by
    cases enabled
    exact NodeSetup.cell_lawful index NodeData.cache_lawful
  nearApart index other mine theirs different enabled enabledThere := by
    cases enabled
    cases enabledThere
    exact Bench.node_spares_node different NodeData.cacheCell NodeData.cacheCell
  near index l1 enabled cache map now stands := by
    cases enabled
    exact ⟨stands.clock, stands.reliable, stands.contents⟩
  get key map now stands := by
    have performed := bench_does (.get key) (fun data => (data.get? key, data)) map now stands
    rw [show now.data.shared.cache.data.get? = map from stands.contents] at performed
    exact performed
  refresh key map now stands := by
    have performed := bench_does (.refresh key) (fun data => ((), data)) map now stands
    rw [show now.data.shared.cache.data.get? = map from stands.contents] at performed
    exact performed
  set key bytes options map now stands := by
    have performed := bench_does (.set key bytes options)
      (fun data => ((), data.insert key bytes)) map now stands
    rw [get_insert_eq_update, show now.data.shared.cache.data.get? = map from stands.contents]
      at performed
    exact performed
  remove key map now stands := by
    have performed := bench_does (.remove key) (fun data => ((), data.erase key)) map now stands
    rw [get_erase_eq_update, show now.data.shared.cache.data.get? = map from stands.contents]
      at performed
    exact performed

theorem bench_fleet_uncancelled {α : Type} (work : Call Bench α) (now : Context Bench) :
    CallHints.none.Uncancelled work now :=
  ⟨rfl, CallHints.unstopped_of_no_token _ now CallHints.none rfl⟩

theorem bench_reached_later {moments : List Moment} {now : Context Bench}
    (reached : benchFleet.Reached moments now) (nanos : Nat) :
    benchFleet.Reached moments { now with uptime := now.uptime + nanos } := by
  have stands := (reached.settled bench_fleet_serves (fun _ => rfl) fun _ => rfl).stands
  exact reached.passing _ now _ ⟨stands.clock, stands.reliable, stands.contents⟩
    ⟨Nat.le_add_right _ _, fun _ _ _ => ByteCache.Losses.refl _⟩

/-- The first instance reads a blob. Five seconds later the second one overwrites it, and
the first one still has its copy. -/
theorem stale_copy_within_lifetime :
    ∃ moments now, benchFleet.Reached moments now ∧
      benchFleet.contents now.data "A" = some [1] ∧
      ((NodeSetup.nearCache 0).get now.data).get? now.uptime "A" = some [7] ∧
      ∃ lifetime, copyingOptions.l1Lifetime = .ok (some lifetime) ∧
        ((benchFleet.stores 0).read "A" CallHints.none).run.Returns now fun outcome _ =>
          ∃ answer, outcome = .ok answer ∧
            (answer = benchFleet.contents now.data "A" ∨
              ∃ moment ∈ moments, moment.time ≤ now.uptime ∧
                now.uptime < moment.time + lifetime.nanos ∧ answer = moment.contents "A") := by
  let start := benchStart copyingOptions (Table.ofList [("A", [7])])
  have fresh : benchFleet.Reached [] start := by
    apply Fleet.Reached.start (benchContents start.data) start
    · exact ⟨rfl, ⟨rfl, rfl⟩, rfl⟩
    · intro index l1 enabled
      cases enabled
      rfl
  have copied := fresh.call _ _ _
    (.read 0 "A" CallHints.none (bench_fleet_uncancelled _ start))
  have waited := bench_reached_later copied (5 * nanosPerSecond)
  have overwritten := waited.call _ _ _
    (.write 1 "A" [1] CallHints.none (bench_fleet_uncancelled _ _))
  refine ⟨_, _, overwritten, by decide +kernel, by decide +kernel, ?_⟩
  exact Fleet.staleness_bounded_by_lifetime benchFleet
    (fun index => NodeSetup.nearCache index) (fun _ => copyingOptions)
    (fun _ => none) (fun _ => none) bench_member_built (fun _ => rfl) (fun _ => rfl)
    bench_fleet_serves _ _ overwritten 0 "A" CallHints.none (bench_fleet_uncancelled _ _)

end Rehearsal

end TokenPersistence
