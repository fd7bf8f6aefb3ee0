import Mathlib.Logic.Function.Basic
import TokenPersistence.Proofs.Memory.Losses
import TokenPersistence.Proofs.Tiered.Calls
import TokenPersistence.Rehearsal.RecordingCache

/-!
# The shared cache behind a tiered store

What a tiered store may rely on when nobody else writes to the shared cache and
entries do not expire there. What the shared cache has under each key is a function of
the data. An operation ends with a value or a failure; meanwhile time passes, tokens
and levels may change, and the cache in memory may lose entries, but nothing enters
it. An operation that fails may have taken effect all the same; one that succeeds has.
-/

namespace TokenPersistence

set_option autoImplicit false

variable {σ α : Type}

namespace TieredStore

/-- Nothing has happened to the caches but losses in memory. -/
structure Drift (store : TieredStore σ) (before after : Context σ) : Prop where
  clock : after.clockIsBroken = false
  near : ∀ l1, store.l1 = some l1 →
    ByteCache.Losses (l1.get before.data) (l1.get after.data)

theorem Drift.refl (store : TieredStore σ) (now : Context σ)
    (clock : now.clockIsBroken = false) : store.Drift now now :=
  ⟨clock, fun l1 _ => ByteCache.Losses.refl (l1.get now.data)⟩

theorem Drift.trans {store : TieredStore σ} {first second third : Context σ}
    (earlier : store.Drift first second) (later : store.Drift second third) :
    store.Drift first third :=
  ⟨later.clock, fun l1 enabled => (earlier.near l1 enabled).trans (later.near l1 enabled)⟩

/-- Where the shared cache may be on the way to a goal, and how it got there. -/
structure Toward (store : TieredStore σ) (contents : σ → String → Option Bytes)
    (start : Context σ) (goal : String → Option Bytes) (now : Context σ) : Prop where
  drift : store.Drift start now
  shared : contents now.data = contents start.data ∨ contents now.data = goal

theorem Toward.start (store : TieredStore σ) (contents : σ → String → Option Bytes)
    (now : Context σ) (goal : String → Option Bytes) (clock : now.clockIsBroken = false) :
    store.Toward contents now goal now :=
  ⟨Drift.refl store now clock, Or.inl rfl⟩

theorem Toward.trans {store : TieredStore σ} {contents : σ → String → Option Bytes}
    {first second third : Context σ} {goal : String → Option Bytes}
    (earlier : store.Toward contents first goal second)
    (later : store.Toward contents second goal third) :
    store.Toward contents first goal third := by
  refine ⟨earlier.drift.trans later.drift, ?_⟩
  rcases later.shared with unchanged | reached
  · rw [unchanged]
    exact earlier.shared
  · exact Or.inr reached

/-- The operation ends, on the way to the goal; with a value, at the goal. -/
def Pursues (store : TieredStore σ) (contents : σ → String → Option Bytes) (work : Call σ α)
    (start : Context σ) (goal : String → Option Bytes) (answers : α → Prop) : Prop :=
  work.run.Returns start fun outcome after =>
    store.Toward contents start goal after ∧
      ∀ value, outcome = .ok value → contents after.data = goal ∧ answers value

theorem Pursues.ends {store : TieredStore σ} {contents : σ → String → Option Bytes}
    {work : Call σ α} {start : Context σ} {goal : String → Option Bytes} {answers : α → Prop}
    (pursues : store.Pursues contents work start goal answers) :
    store.Pursues contents work start goal fun _ => True := by
  apply pursues.imp
  intro outcome after ended
  obtain ⟨toward, answered⟩ := ended
  exact ⟨toward, fun value done => ⟨(answered value done).1, trivial⟩⟩

/-- The shared cache of the store, and its retry predicate, keep to the rules. -/
structure Backing (store : TieredStore σ) (contents : σ → String → Option Bytes) : Prop where
  nearLawful : ∀ l1, store.l1 = some l1 → l1.Lawful
  nearApart : ∀ l1, store.l1 = some l1 →
    ∀ cache data, contents (l1.put cache data) = contents data
  get : ∀ key start, start.clockIsBroken = false →
    store.Pursues contents (store.l2.get key) start (contents start.data)
      fun found => found = contents start.data key
  refresh : ∀ key start, start.clockIsBroken = false →
    store.Pursues contents (store.l2.refresh key) start (contents start.data) fun _ => True
  set : ∀ key bytes options start, start.clockIsBroken = false →
    store.Pursues contents (store.l2.set key bytes options) start
      (Function.update (contents start.data) key (some bytes)) fun _ => True
  remove : ∀ key start, start.clockIsBroken = false →
    store.Pursues contents (store.l2.remove key) start
      (Function.update (contents start.data) key none) fun _ => True
  retry : ∀ failure start, start.clockIsBroken = false →
    (store.shouldRetry failure).Returns start fun _ after =>
      store.Drift start after ∧ contents after.data = contents start.data

variable {store : TieredStore σ} {contents : σ → String → Option Bytes}

theorem Backing.call (backing : store.Backing contents) (operation : SharedOperation)
    (key : String) (size : α → Nat) (work : Call σ α) (start : Context σ)
    (goal : String → Option Bytes) (answers : α → Prop)
    (clock : start.clockIsBroken = false)
    (pursues : ∀ now, store.Toward contents start goal now →
      store.Pursues contents work now goal answers) :
    (store.callShared operation key size work).Returns start fun answer after =>
      store.Toward contents start goal after ∧
        (∀ value, answer = some value → contents after.data = goal ∧ answers value) ∧
          (answer = none → store.Fails work start) := by
  apply returns_call_shared
  · intro now toward
    exact toward.drift.clock
  · intro failure now toward
    refine (backing.retry failure now toward.drift.clock).imp ?_
    intro _ after asked
    exact toward.trans ⟨asked.1, Or.inl asked.2⟩
  · intro now toward
    refine (pursues now toward).imp ?_
    intro outcome after tried
    exact ⟨toward.trans tried.1, tried.2⟩
  · exact Toward.start store contents start goal clock

theorem Backing.call_view (backing : store.Backing contents) (operation : SharedOperation)
    (key : String) (size : α → Nat) (work : Call σ α) (start : Context σ)
    (answers : (String → Option Bytes) → α → Prop) (clock : start.clockIsBroken = false)
    (pursues : ∀ now, now.clockIsBroken = false →
      store.Pursues contents work now (contents now.data) (answers (contents now.data))) :
    (store.callShared operation key size work).Returns start fun answer after =>
      (store.Drift start after ∧ contents after.data = contents start.data) ∧
        (∀ value, answer = some value → answers (contents start.data) value) ∧
          (answer = none → store.Fails work start) := by
  have called := backing.call operation key size work start (contents start.data)
    (answers (contents start.data)) clock (by
      intro now toward
      have same : contents now.data = contents start.data := toward.shared.elim id id
      have tried := pursues now toward.drift.clock
      rw [same] at tried
      exact tried)
  apply called.imp
  intro answer after ended
  obtain ⟨toward, answered, fails⟩ := ended
  exact ⟨⟨toward.drift, toward.shared.elim id id⟩,
    fun value given => (answered value given).2, fails⟩

theorem Backing.call_toward (backing : store.Backing contents) (operation : SharedOperation)
    (key : String) (size : Unit → Nat) (work : Call σ Unit) (value : Option Bytes)
    (start : Context σ) (clock : start.clockIsBroken = false)
    (pursues : ∀ now, now.clockIsBroken = false →
      store.Pursues contents work now (Function.update (contents now.data) key value)
        fun _ => True) :
    (store.callShared operation key size work).Returns start fun answer after =>
      store.Toward contents start (Function.update (contents start.data) key value) after ∧
        (answer = none → store.Fails work start) ∧
          ∀ done, answer = some done →
            contents after.data = Function.update (contents start.data) key value := by
  have called := backing.call operation key size work start
    (Function.update (contents start.data) key value) (fun _ => True) clock (by
      intro now toward
      have tried := pursues now toward.drift.clock
      have same : Function.update (contents now.data) key value =
          Function.update (contents start.data) key value := by
        rcases toward.shared with unchanged | reached
        · rw [unchanged]
        · rw [reached, Function.update_idem]
      rw [same] at tried
      exact tried)
  apply called.imp
  intro answer after ended
  obtain ⟨toward, answered, fails⟩ := ended
  exact ⟨toward, fails, fun done given => (answered done given).1⟩

theorem Backing.call_change (backing : store.Backing contents) (operation : SharedOperation)
    (key : String) (size : Unit → Nat) (work : Call σ Unit) (value : Option Bytes)
    (start : Context σ) (clock : start.clockIsBroken = false)
    (pursues : ∀ now, now.clockIsBroken = false →
      store.Pursues contents work now (Function.update (contents now.data) key value)
        fun _ => True)
    (succeeds : store.Succeeds work start) :
    (store.callShared operation key size work).Returns start fun _ after =>
      store.Drift start after ∧
        contents after.data = Function.update (contents start.data) key value := by
  apply (backing.call_toward operation key size work value start clock pursues).imp
  intro answer after ended
  obtain ⟨toward, fails, reached⟩ := ended
  cases answer with
  | none => exact absurd (fails rfl) succeeds.not_fails
  | some done => exact ⟨toward.drift, reached done rfl⟩

theorem Backing.call_get (backing : store.Backing contents) (key : String)
    (start : Context σ) (clock : start.clockIsBroken = false) :
    (store.callShared .read key foundSize (store.l2.get key)).Returns start fun answer after =>
      (store.Drift start after ∧ contents after.data = contents start.data) ∧
        (∀ found, answer = some found → found = contents start.data key) ∧
          (answer = none → store.Fails (store.l2.get key) start) :=
  backing.call_view .read key foundSize _ start (fun shared found => found = shared key) clock
    fun now ticks => backing.get key now ticks

theorem Backing.call_refresh (backing : store.Backing contents) (key : String)
    (size : Unit → Nat) (start : Context σ) (clock : start.clockIsBroken = false) :
    (store.callShared .refresh key size (store.l2.refresh key)).Returns start fun _ after =>
      store.Drift start after ∧ contents after.data = contents start.data := by
  have viewed := backing.call_view .refresh key size _ start (fun _ _ => True) clock
    fun now ticks => backing.refresh key now ticks
  apply viewed.imp
  intro answer after unchanged
  exact unchanged.1

end TieredStore

end TokenPersistence

namespace TokenPersistence.Rehearsal

variable {σ α : Type}

theorem get_insert_eq_update (table : Table) (key : String) (bytes : Bytes) :
    (table.insert key bytes).get? = Function.update table.get? key (some bytes) := by
  funext other
  by_cases same : other = key
  · subst same
    rw [Function.update_self, Table.get_insert_self]
  · rw [Function.update_of_ne same, Table.get_insert_other table bytes same]

theorem get_erase_eq_update (table : Table) (key : String) :
    (table.erase key).get? = Function.update table.get? key none := by
  funext other
  by_cases same : other = key
  · subst same
    rw [Function.update_self, Table.get_erase_self]
  · rw [Function.update_of_ne same, Table.get_erase_other table same]

namespace RecordingCache

def contents (cell : Cell σ RecordingCache) (data : σ) : String → Option Bytes :=
  (cell.get data).data.get?

def Reliable (cache : RecordingCache) : Prop := cache.failNext = 0 ∧ cache.failsWhen = none

theorem Reliable.perform {cache : RecordingCache} (reliable : cache.Reliable)
    (operation : SharedCall) (effect : Table → α × Table) :
    cache.perform operation effect =
        (.ok (effect cache.data).1,
          { cache with
            data := (effect cache.data).2, operations := cache.operations ++ [operation] }) := by
  obtain ⟨noneDue, unpredicted⟩ := reliable
  have succeeds : cache.fails operation = false := by simp [fails, noneDue, unpredicted]
  unfold RecordingCache.perform
  rw [succeeds, noneDue]
  rfl

theorem pursues_perform (store : TieredStore σ) (cell : Cell σ RecordingCache)
    (lawful : cell.Lawful)
    (nearApart : ∀ l1, store.l1 = some l1 →
      ∀ cache data, l1.get (cell.put cache data) = l1.get data)
    (operation : SharedCall) (effect : Table → α × Table) (start : Context σ)
    (clock : start.clockIsBroken = false) :
    store.Pursues (contents cell)
      (ExceptT.mk (cell.step fun cache => cache.perform operation effect)) start
      (effect (cell.get start.data).data).2.get?
      fun value => value = (effect (cell.get start.data).data).1 := by
  have drift : ∀ cache, store.Drift start { start with data := cell.put cache start.data } := by
    intro cache
    refine ⟨clock, ?_⟩
    intro l1 enabled
    rw [nearApart l1 enabled]
    exact ByteCache.Losses.refl _
  change (cell.step fun cache => cache.perform operation effect).Returns start _
  rw [Cell.returns_step]
  unfold perform
  by_cases fails : (cell.get start.data).fails operation = true
  · rw [if_pos fails]
    refine ⟨⟨drift _, Or.inl ?_⟩, by simp⟩
    simp only [contents, lawful.get_put]
  · rw [if_neg fails]
    refine ⟨⟨drift _, Or.inr ?_⟩, ?_⟩
    · simp only [contents, lawful.get_put]
    · intro value done
      refine ⟨by simp only [contents, lawful.get_put], ?_⟩
      exact (Except.ok.inj done).symm

theorem backing (store : TieredStore σ) (cell : Cell σ RecordingCache) (lawful : cell.Lawful)
    (shared : store.l2 = toSharedCache cell) (unasked : store.retry = none)
    (nearLawful : ∀ l1, store.l1 = some l1 → l1.Lawful)
    (apartFromNear : ∀ l1, store.l1 = some l1 →
      ∀ cache data, cell.get (l1.put cache data) = cell.get data)
    (nearApart : ∀ l1, store.l1 = some l1 →
      ∀ cache data, l1.get (cell.put cache data) = l1.get data) :
    store.Backing (contents cell) where
  nearLawful := nearLawful
  nearApart l1 enabled cache data := by
    simp only [contents, apartFromNear l1 enabled]
  get key start clock := by
    rw [shared]
    exact pursues_perform store cell lawful nearApart (.get key)
      (fun data => (data.get? key, data)) start clock
  refresh key start clock := by
    rw [shared]
    exact (pursues_perform store cell lawful nearApart (.refresh key)
      (fun data => ((), data)) start clock).ends
  set key bytes options start clock := by
    rw [shared]
    have performed := pursues_perform store cell lawful nearApart (.set key bytes options)
      (fun data => ((), data.insert key bytes)) start clock
    rw [get_insert_eq_update] at performed
    exact performed.ends
  remove key start clock := by
    rw [shared]
    have performed := pursues_perform store cell lawful nearApart (.remove key)
      (fun data => ((), data.erase key)) start clock
    rw [get_erase_eq_update] at performed
    exact performed.ends
  retry failure start clock := by
    unfold TieredStore.shouldRetry
    rw [unasked, Routine.returns_pure]
    exact ⟨TieredStore.Drift.refl store start clock, rfl⟩

end RecordingCache

end TokenPersistence.Rehearsal
