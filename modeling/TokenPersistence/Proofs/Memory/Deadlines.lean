import Mathlib.Logic.Function.Basic
import TokenPersistence.Memory.Store
import TokenPersistence.Proofs.Memory.Losses
import TokenPersistence.Proofs.Rehearsal.Cells

/-!
# A map with deadlines

The store in memory is compared with a map that has, under each key, the last write
that no removal has followed: its blob, the uptime at which it was made, and the
lifetime that it was given. Calls that find their token cancelled do not count. A read
gives nothing but the blob of that write, and only before the lifetime is over; with no
limit on the size of the cache it gives the blob whenever the lifetime is not over. The
clock, by which lifetimes are chosen, may be moved at will. The uptime, by which they
run out, only goes forward.
-/

namespace TokenPersistence

set_option autoImplicit false

variable {σ : Type}

namespace CacheEntry

theorem isLive_earlier {entry : CacheEntry} {uptime later : Nat} (order : uptime ≤ later)
    (alive : entry.isLive later = true) : entry.isLive uptime = true := by
  unfold isLive at alive ⊢
  cases expiry : entry.expiresAt with
  | none => rfl
  | some moment =>
      simp only [expiry, Option.all_some, decide_eq_true_eq] at alive ⊢
      omega

end CacheEntry

namespace Residents

theorem mem_with_last_other {residents : Residents} {key : String} (entry : CacheEntry)
    {resident : String × CacheEntry} (present : resident ∈ residents)
    (other : resident.1 ≠ key) : resident ∈ residents.withLast key entry := by
  apply List.mem_append_left
  exact List.mem_filter.mpr ⟨present, by simpa using other⟩

theorem mem_with_last_self (residents : Residents) (key : String) (entry : CacheEntry) :
    (key, entry) ∈ residents.withLast key entry :=
  List.mem_append_right _ (List.mem_singleton.mpr rfl)

end Residents

namespace ByteCache

/-- Entries may have been dropped; without a limit only those that were expired. -/
structure Upkeep (before after : ByteCache) (uptime : Nat) : Prop where
  losses : Losses before after
  keeps : before.limit = none → ∀ resident ∈ before.residents,
    resident.2.isLive uptime = true → resident ∈ after.residents

/-- The cache has nothing but what was noted under each key. Without a limit it has all
that was noted and is still alive. -/
structure Records (cache : ByteCache) (noted : String → Option CacheEntry) (uptime : Nat) :
    Prop where
  faithful : ∀ resident ∈ cache.residents, noted resident.1 = some resident.2
  closed : cache.limit = some 0 → cache.residents = []
  complete : cache.limit = none → ∀ key entry, noted key = some entry →
    entry.isLive uptime = true → (key, entry) ∈ cache.residents

variable {cache : ByteCache} {noted : String → Option CacheEntry} {uptime : Nat}

theorem records_empty (limit : Option Nat) (uptime : Nat) :
    (empty limit).Records (fun _ => none) uptime :=
  ⟨by simp [empty], fun _ => rfl, fun _ _ _ nothing => by cases nothing⟩

theorem Records.single (records : cache.Records noted uptime) (key : String)
    (entry other : CacheEntry) (here : (key, entry) ∈ cache.residents)
    (there : (key, other) ∈ cache.residents) : entry = other :=
  Option.some.inj ((records.faithful _ here).symm.trans (records.faithful _ there))

theorem Records.upkeep {after : ByteCache} {later : Nat} (records : cache.Records noted uptime)
    (order : uptime ≤ later) (upkeep : Upkeep cache after later) :
    after.Records noted later := by
  obtain ⟨losses, keeps⟩ := upkeep
  refine ⟨fun resident present => records.faithful resident (losses.residents present), ?_, ?_⟩
  · intro closed
    have none := records.closed (losses.limit.symm.trans closed)
    exact List.subset_nil.mp (none ▸ losses.residents)
  · intro unlimited key entry known alive
    have free := losses.limit.symm.trans unlimited
    exact keeps free _ (records.complete free key entry known
      (CacheEntry.isLive_earlier order alive)) alive

/-- Without a limit a policy waits until lifetimes are over. -/
theorem Records.upkeep_note_use (records : cache.Records noted uptime) (policy : EvictionPolicy)
    (use : CacheUse) : Upkeep cache (cache.noteUse policy uptime use) uptime := by
  refine ⟨losses_note_use cache policy uptime use, ?_⟩
  intro unlimited resident present alive
  let told : ByteCache := { cache with uses := ⟨uptime, use⟩ :: cache.uses }
  have stays : resident.1 ∉ policy.evicted told.record := by
    intro leaves
    obtain ⟨tenant, listed, same, expiry, ends, passed⟩ :=
      policy.patient told.record unlimited resident.1 leaves
    obtain ⟨other, there, rfl⟩ := List.mem_map.mp listed
    have entry : other.2 = resident.2 :=
      records.single resident.1 other.2 resident.2 (same ▸ there) present
    have gone : resident.2.expiresAt = some expiry := entry ▸ ends
    simp only [CacheEntry.isLive, gone, Option.all_some, decide_eq_true_eq] at alive
    exact absurd passed (Nat.not_le_of_lt alive)
  exact List.mem_filter.mpr ⟨present, by simpa using stays⟩

theorem Records.note_use (records : cache.Records noted uptime) (policy : EvictionPolicy)
    (use : CacheUse) : (cache.noteUse policy uptime use).Records noted uptime :=
  records.upkeep (Nat.le_refl _) (records.upkeep_note_use policy use)

theorem Records.replace (records : cache.Records noted uptime) (admits : cache.limit ≠ some 0)
    (key : String) (entry : CacheEntry) :
    (cache.replace key entry).Records (Function.update noted key (some entry)) uptime := by
  refine ⟨?_, fun closed => absurd closed admits, ?_⟩
  · intro resident present
    rcases Residents.mem_with_last present with rfl | ⟨old, other⟩
    · exact Function.update_self key _ noted
    · rw [Function.update_of_ne other]
      exact records.faithful resident old
  · intro unlimited name held known alive
    by_cases same : name = key
    · subst same
      rw [Function.update_self] at known
      cases known
      exact Residents.mem_with_last_self _ _ _
    · rw [Function.update_of_ne same] at known
      exact Residents.mem_with_last_other _ (records.complete unlimited name held known alive) same

theorem Records.touch (records : cache.Records noted uptime) (policy : EvictionPolicy)
    (key : String) : (cache.touch policy uptime key).Records noted uptime := by
  unfold ByteCache.touch
  apply Records.note_use
  cases alive : cache.live? uptime key with
  | none => exact records
  | some entry =>
      have present := live_mem alive
      have admits : cache.limit ≠ some 0 := fun closed => by
        rw [records.closed closed] at present
        cases present
      have same : Function.update noted key (some entry) = noted :=
        Function.update_eq_self_iff.mpr (records.faithful _ present).symm
      exact same ▸ records.replace admits key entry

theorem Records.insert (records : cache.Records noted uptime) (policy : EvictionPolicy)
    (key : String) (bytes : Bytes) (lifetime : Option Duration) :
    (cache.insert policy uptime key bytes lifetime).Records
      (Function.update noted key
        (some ⟨bytes, lifetime.map fun duration => uptime + duration.nanos⟩)) uptime := by
  unfold ByteCache.insert
  split
  · next closed =>
      have empty := records.closed closed
      exact ⟨by simp [empty], fun _ => empty, fun unlimited => by simp [unlimited] at closed⟩
  · next admits => exact (records.replace admits key _).note_use policy _

theorem Records.erase (records : cache.Records noted uptime) (policy : EvictionPolicy)
    (key : String) :
    (cache.erase policy uptime key).Records (Function.update noted key none) uptime := by
  unfold ByteCache.erase
  apply Records.note_use
  refine ⟨?_, ?_, ?_⟩
  · intro resident present
    obtain ⟨old, other⟩ := Residents.mem_without present
    rw [Function.update_of_ne other]
    exact records.faithful resident old
  · intro closed
    exact List.filter_eq_nil_iff.mpr fun resident present => by
      rw [records.closed closed] at present
      cases present
  · intro unlimited name entry known alive
    by_cases same : name = key
    · subst same
      rw [Function.update_self] at known
      cases known
    · rw [Function.update_of_ne same] at known
      exact List.mem_filter.mpr
        ⟨records.complete unlimited name entry known alive, by simpa using same⟩

theorem Records.get (records : cache.Records noted uptime) {key : String} {bytes : Bytes}
    (found : cache.get? uptime key = some bytes) :
    ∃ entry, noted key = some entry ∧ entry.isLive uptime = true ∧ entry.bytes = bytes := by
  obtain ⟨entry, alive, rfl⟩ := Option.map_eq_some_iff.mp found
  exact ⟨entry, records.faithful _ (live_mem alive), (Option.filter_eq_some_iff.mp alive).2, rfl⟩

theorem Records.get_complete (records : cache.Records noted uptime)
    (unlimited : cache.limit = none) {key : String} {entry : CacheEntry}
    (known : noted key = some entry) (alive : entry.isLive uptime = true) :
    cache.get? uptime key = some entry.bytes := by
  have present := records.complete unlimited key entry known alive
  cases found : cache.find? key with
  | none => exact absurd rfl (absent_of_find_none (by simp [found]) _ present)
  | some other =>
      have same := records.single key entry other present (find_mem found)
      subst same
      have live : cache.live? uptime key = some entry := by
        unfold live?
        rw [found]
        exact Option.filter_eq_some_iff.mpr ⟨rfl, alive⟩
      unfold get?
      rw [live]
      rfl

end ByteCache

namespace MemoryStore

/-- A write that was carried out. -/
structure Written where
  bytes : Bytes
  time : Nat
  lifetime : Duration

namespace Written

def entry (written : Written) : CacheEntry :=
  ⟨written.bytes, some (written.time + written.lifetime.nanos)⟩

def entries (last : String → Option Written) : String → Option CacheEntry :=
  Option.map Written.entry ∘ last

@[simp] theorem entries_update (last : String → Option Written) (key : String)
    (written : Option Written) :
    entries (Function.update last key written) =
      Function.update (entries last) key (written.map Written.entry) :=
  Function.comp_update _ last key written

theorem isLive_entry (written : Written) (uptime : Nat) :
    written.entry.isLive uptime = true ↔ uptime < written.time + written.lifetime.nanos := by
  simp [entry, CacheEntry.isLive]

end Written

/-- The states of a store that started empty, with the last write under each key that was
not followed by a removal. A call counts unless it finds its token cancelled. Between the
calls the clock, tokens and levels may change at will, and the cache drops entries as it
has to. -/
inductive Reached (store : MemoryStore σ) : (String → Option Written) → Context σ → Prop where
  | start (now : Context σ) (clock : now.clockIsBroken = false)
      (fresh : store.cache.get now.data = initialCache store.options) :
      Reached store (fun _ => none) now
  | between (last : String → Option Written) (before after : Context σ)
      (earlier : Reached store last before) (clock : after.clockIsBroken = false)
      (order : before.uptime ≤ after.uptime)
      (upkeep : ByteCache.Upkeep (store.cache.get before.data) (store.cache.get after.data)
        after.uptime) :
      Reached store last after
  | read (last : String → Option Written) (now : Context σ) (key : String) (hints : CallHints)
      (earlier : Reached store last now) :
      Reached store last ((store.read key hints).run.run now).state
  | write (last : String → Option Written) (now : Context σ) (key : String) (bytes : Bytes)
      (hints : CallHints) (earlier : Reached store last now) :
      Reached store
        (if hints.isCancelled now then last
          else Function.update last key
            (some ⟨bytes, now.uptime, lifetime store.options hints now.now⟩))
        ((store.write key bytes hints).run.run now).state
  | remove (last : String → Option Written) (now : Context σ) (key : String)
      (hints : CallHints) (earlier : Reached store last now) :
      Reached store
        (if hints.isCancelled now then last else Function.update last key none)
        ((store.remove key hints).run.run now).state

/-- The last write under a key was one of these bytes, and its lifetime is not over. -/
def Lasts (last : String → Option Written) (uptime : Nat) (key : String) (bytes : Bytes) :
    Prop :=
  ∃ written, last key = some written ∧ written.bytes = bytes ∧
    uptime < written.time + written.lifetime.nanos

variable {store : MemoryStore σ} {last : String → Option Written}

/-- The clock works, and the cache of the store records the last writes. -/
structure Keeps (store : MemoryStore σ) (last : String → Option Written) (now : Context σ) :
    Prop where
  clock : now.clockIsBroken = false
  limit : (store.cache.get now.data).limit = store.options.sizeLimit.map UInt64.toNat
  records : (store.cache.get now.data).Records (Written.entries last) now.uptime

theorem returns_current_lifetime (store : MemoryStore σ) (hints : CallHints)
    (now : Context σ) (clock : now.clockIsBroken = false) :
    (store.currentLifetime hints).Returns now fun expiry after =>
      expiry = lifetime store.options hints now.now ∧ after = now := by
  unfold currentLifetime lifetime
  cases suggested : hints.suggestedExpiry with
  | none => exact (Routine.returns_pure _ now _).mpr ⟨rfl, rfl⟩
  | some moment =>
      rw [Context.returns_with_clock, Routine.returns_pure]
      exact ⟨clock, rfl, rfl⟩

theorem Keeps.read (lawful : store.cache.Lawful) {now : Context σ}
    (keeps : store.Keeps last now) (key : String) (hints : CallHints) :
    (store.read key hints).run.Returns now fun outcome after =>
      store.Keeps last after ∧
        (if hints.isCancelled now then outcome = .error (Failure.cancelled .read)
          else outcome = .ok ((store.cache.get now.data).get? now.uptime key)) := by
  unfold MemoryStore.read
  rw [Call.returns_bind]
  by_cases cancelled : hints.isCancelled now = true
  · rw [hints.returns_refused .read _ now _ cancelled]
    rw [Call.onward_error, if_pos cancelled]
    exact ⟨keeps, rfl⟩
  · have fresh : hints.isCancelled now = false := by simpa using cancelled
    have touched : store.Keeps last { now with
        data := store.cache.put
          ((store.cache.get now.data).touch store.cache.policy now.uptime key) now.data } := by
      refine ⟨keeps.clock, ?_, ?_⟩
      · simp only [lawful.get_put]
        exact (ByteCache.losses_touch _ _ now.uptime key).limit.trans keeps.limit
      · simp only [lawful.get_put]
        exact keeps.records.touch store.cache.policy key
    have uncancelled : hints.Uncancelled (ExceptT.lift (store.cache.lookup key)) now :=
      ⟨fresh, trivial⟩
    rw [hints.returns_cancellable .read _ now _ uncancelled, Call.returns_lift,
      ByteCacheCell.returns_lookup]
    simp only [Call.onward_ok, if_neg cancelled]
    cases (store.cache.get now.data).get? now.uptime key with
    | none =>
        simp only [Option.isSome_none, Bool.false_eq_true, if_false, Call.returns_bind,
          Call.returns_log, Call.onward_ok, Call.returns_pure]
        exact ⟨touched, trivial⟩
    | some bytes =>
        have reported : store.Keeps last (hints.report .l1 { now with
            data := store.cache.put
              ((store.cache.get now.data).touch store.cache.policy now.uptime key)
              now.data }) := by
          refine ⟨?_, ?_, ?_⟩
          · rw [CallHints.clock_report]
            exact touched.clock
          · rw [CallHints.data_report]
            exact touched.limit
          · rw [CallHints.data_report, CallHints.uptime_report]
            exact touched.records
        simp only [Option.isSome_some, if_true, Call.returns_bind, Call.returns_lift,
          CallHints.returns_report_level, Call.returns_log, Call.onward_ok, Call.returns_pure]
        exact ⟨reported, trivial⟩

theorem Keeps.write (lawful : store.cache.Lawful) {now : Context σ}
    (keeps : store.Keeps last now) (key : String) (bytes : Bytes) (hints : CallHints) :
    (store.write key bytes hints).run.Returns now fun _ after =>
      store.Keeps
        (if hints.isCancelled now then last
          else Function.update last key
            (some ⟨bytes, now.uptime, lifetime store.options hints now.now⟩)) after := by
  unfold MemoryStore.write
  rw [Call.returns_bind, Call.returns_lift]
  apply (returns_current_lifetime store hints now keeps.clock).imp
  intro expiry after chosen
  obtain ⟨rfl, rfl⟩ := chosen
  rw [Call.onward_ok]
  by_cases cancelled : hints.isCancelled after = true
  · rw [hints.returns_refused .write _ after _ cancelled, if_pos cancelled]
    exact keeps
  · have uncancelled : hints.Uncancelled (ExceptT.lift (store.cache.insert key bytes
        (some (lifetime store.options hints after.now)))) after :=
      ⟨by simpa using cancelled, trivial⟩
    rw [hints.returns_cancellable .write _ after _ uncancelled, Call.returns_lift,
      ByteCacheCell.returns_insert, if_neg cancelled]
    refine ⟨keeps.clock, ?_, ?_⟩
    · simp only [lawful.get_put, ByteCache.limit_insert]
      exact keeps.limit
    · rw [Written.entries_update]
      simp only [lawful.get_put]
      exact keeps.records.insert store.cache.policy key bytes
        (some (lifetime store.options hints after.now))

theorem Keeps.remove (lawful : store.cache.Lawful) {now : Context σ}
    (keeps : store.Keeps last now) (key : String) (hints : CallHints) :
    (store.remove key hints).run.Returns now fun _ after =>
      store.Keeps (if hints.isCancelled now then last else Function.update last key none)
        after := by
  unfold MemoryStore.remove
  by_cases cancelled : hints.isCancelled now = true
  · rw [hints.returns_refused .remove _ now _ cancelled, if_pos cancelled]
    exact keeps
  · have uncancelled : hints.Uncancelled (ExceptT.lift (store.cache.erase key)) now :=
      ⟨by simpa using cancelled, trivial⟩
    rw [hints.returns_cancellable .remove _ now _ uncancelled, Call.returns_lift,
      ByteCacheCell.returns_erase, if_neg cancelled]
    refine ⟨keeps.clock, ?_, ?_⟩
    · simp only [lawful.get_put]
      exact keeps.limit
    · rw [Written.entries_update]
      simp only [lawful.get_put]
      exact keeps.records.erase store.cache.policy key

theorem Reached.keeps (lawful : store.cache.Lawful) {now : Context σ}
    (reached : store.Reached last now) : store.Keeps last now := by
  induction reached with
  | start now clock fresh =>
      refine ⟨clock, ?_, ?_⟩
      · rw [fresh]
        rfl
      · rw [fresh]
        exact ByteCache.records_empty _ _
  | between last before after earlier clock order upkeep ih =>
      exact ⟨clock, upkeep.losses.limit.trans ih.limit, ih.records.upkeep order upkeep⟩
  | read last now key hints earlier ih =>
      exact ((ih.read lawful key hints).imp fun _ _ kept => kept.1).state
  | write last now key bytes hints earlier ih => exact (ih.write lawful key bytes hints).state
  | remove last now key hints earlier ih => exact (ih.remove lawful key hints).state

/-- A lifetime is no longer than configured, and no longer than a suggestion leaves; but a
millisecond is left, unless less is configured. -/
theorem lifetime_bounds (options : MemoryOptions) (hints : CallHints) (now : Timestamp) :
    (lifetime options hints now).nanos ≤ options.expiration.nanos ∧
      (∀ suggested, hints.suggestedExpiry = some suggested →
        (lifetime options hints now).nanos ≤
          max Duration.millisecond.nanos (suggested.nanos - now.nanos).toNat) ∧
      min Duration.millisecond.nanos options.expiration.nanos ≤
        (lifetime options hints now).nanos := by
  unfold lifetime
  cases suggestion : hints.suggestedExpiry with
  | none =>
      refine ⟨Nat.le_refl _, ?_, Nat.min_le_right _ _⟩
      intro suggested nothing
      cases nothing
  | some suggested =>
      have shorter : ((suggested.remaining now).shorter options.expiration).nanos =
          min (max (suggested.nanos - now.nanos).toNat Duration.millisecond.nanos)
            options.expiration.nanos := by
        rw [Duration.nanos_shorter, Timestamp.nanos_remaining]
      simp only [shorter, Option.some.injEq]
      refine ⟨?_, ?_, ?_⟩
      · omega
      · rintro _ rfl
        omega
      · omega

/-- After any history of calls, a read that is not cancelled gives nothing but the bytes of
the last write under its key, and only before the lifetime of that write is over; without
a limit on the size it gives them whenever the lifetime is not over. -/
theorem map_with_deadlines (store : MemoryStore σ) (lawful : store.cache.Lawful)
    (last : String → Option Written) (now : Context σ) (reached : store.Reached last now) :
    (∀ key hints, hints.isCancelled now = false →
      (store.read key hints).run.Returns now fun outcome _ =>
        ∃ found, outcome = .ok found ∧
          (∀ bytes, found = some bytes → Lasts last now.uptime key bytes) ∧
          (store.options.sizeLimit = none →
            ∀ bytes, Lasts last now.uptime key bytes → found = some bytes)) ∧
      ∀ options hints system,
        (lifetime options hints system).nanos ≤ options.expiration.nanos ∧
          (∀ suggested, hints.suggestedExpiry = some suggested →
            (lifetime options hints system).nanos ≤
              max Duration.millisecond.nanos (suggested.nanos - system.nanos).toNat) ∧
          min Duration.millisecond.nanos options.expiration.nanos ≤
            (lifetime options hints system).nanos := by
  have keeps := reached.keeps lawful
  refine ⟨?_, lifetime_bounds⟩
  intro key hints fresh
  apply (keeps.read lawful key hints).imp
  intro outcome after read
  have answered := read.2
  rw [if_neg (by simp [fresh])] at answered
  refine ⟨_, answered, ?_, ?_⟩
  · intro bytes found
    obtain ⟨entry, known, alive, rfl⟩ := keeps.records.get found
    obtain ⟨written, noted, rfl⟩ := Option.map_eq_some_iff.mp known
    exact ⟨written, noted, rfl, (written.isLive_entry now.uptime).mp alive⟩
  · intro unlimited bytes lasts
    obtain ⟨written, noted, rfl, inTime⟩ := lasts
    have free : (store.cache.get now.data).limit = none := by
      rw [keeps.limit, unlimited]
      rfl
    have known : Written.entries last key = some written.entry := by
      unfold Written.entries
      rw [Function.comp_apply, noted, Option.map_some]
    exact keeps.records.get_complete free known ((written.isLive_entry now.uptime).mpr inTime)

end MemoryStore

namespace Rehearsal

def benchMemory : MemoryStore Bench where
  cache := NodeSetup.nearCache 0
  options := ⟨⟨20 * nanosPerSecond, by decide⟩, none⟩

def benchShelf : Context Bench :=
  Context.initial Timestamp.epoch
    { shared := default
      collections := default
      nodes := fun _ =>
        { (default : NodeData) with cache := MemoryStore.initialCache benchMemory.options } }

def benchDue : Timestamp := ⟨2 * 1000000000, by decide, by decide⟩

theorem bench_memory_lawful : benchMemory.cache.Lawful :=
  NodeSetup.cell_lawful 0 NodeData.cache_lawful

theorem bench_memory_between {last : String → Option MemoryStore.Written}
    {now : Context Bench} (reached : benchMemory.Reached last now) (token : CancellationToken)
    (nanos : Nat) :
    benchMemory.Reached last { now.cancel token with uptime := now.uptime + nanos } :=
  reached.between last now _ (reached.keeps bench_memory_lawful).clock (Nat.le_add_right _ _)
    ⟨ByteCache.Losses.refl _, fun _ _ present _ => present⟩

/-- A write that lasts twenty seconds is replaced by one that lasts two. A third one finds its
token cancelled. A second later the bytes of the second write are read. -/
theorem map_with_deadlines_after_shorter_overwrite :
    ∃ last now, benchMemory.Reached last now ∧ now.uptime = nanosPerSecond ∧
      MemoryStore.Lasts last now.uptime "A" [2] ∧
      (∀ key hints, hints.isCancelled now = false →
        (benchMemory.read key hints).run.Returns now fun outcome _ =>
          ∃ found, outcome = .ok found ∧
            (∀ bytes, found = some bytes → MemoryStore.Lasts last now.uptime key bytes) ∧
            (benchMemory.options.sizeLimit = none →
              ∀ bytes, MemoryStore.Lasts last now.uptime key bytes → found = some bytes)) ∧
        ∀ options hints system,
          (MemoryStore.lifetime options hints system).nanos ≤ options.expiration.nanos ∧
            (∀ suggested, hints.suggestedExpiry = some suggested →
              (MemoryStore.lifetime options hints system).nanos ≤
                max Duration.millisecond.nanos (suggested.nanos - system.nanos).toNat) ∧
            min Duration.millisecond.nanos options.expiration.nanos ≤
              (MemoryStore.lifetime options hints system).nanos := by
  let token := CancellationToken.named "gone"
  have fresh : benchMemory.Reached (fun _ => none) benchShelf := .start _ rfl rfl
  have written := fresh.write _ _ "A" [1] CallHints.none
  have replaced := written.write _ _ "A" [2]
    { CallHints.none with suggestedExpiry := some benchDue }
  have waited := bench_memory_between replaced token nanosPerSecond
  have refused := waited.write _ _ "A" [3] { CallHints.none with cancellation := some token }
  refine ⟨_, _, refused, rfl, ⟨_, rfl, rfl, by decide⟩, ?_⟩
  exact MemoryStore.map_with_deadlines benchMemory bench_memory_lawful _ _ refused

end Rehearsal

end TokenPersistence
