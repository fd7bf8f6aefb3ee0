import TokenPersistence.Proofs.Memory.Losses
import TokenPersistence.Proofs.Routine.Company
import TokenPersistence.Proofs.Tiered.Calls

/-!
# Calls in company

What a call on a tiered store does to the two levels while others use them too, poll by
poll. A call keeps to its own key. Beyond the losses that memory may suffer at any time, a
read changes nothing until it ends, and then only if it found nothing in memory at first:
it copies what it got. A write or a removal changes memory in its first poll and only the
shared cache after that. The shared cache does what it is told, at some point of a call
that may take any number of polls; nobody has to wait for it. What a call got from it, or
brought into it, is still there when the call ends if the others spared the key meanwhile.
-/

namespace TokenPersistence

set_option autoImplicit false

open Routine (Terms)

variable {σ : Type}

/-- What a shared cache has, and when it can be relied on. -/
structure Backend (σ : Type) where
  contents : σ → String → Option Bytes
  reliable : σ → Prop

def TieredStore.near (store : TieredStore σ) (now : Context σ) : Residents :=
  match store.l1 with
  | none => []
  | some l1 => (l1.get now.data).residents

namespace Backend

/-- The clock works, the shared cache can be relied on, and memory that admits nothing is
empty. -/
structure Stands (backend : Backend σ) (store : TieredStore σ) (now : Context σ) : Prop where
  clock : now.clockIsBroken = false
  reliable : backend.reliable now.data
  closed : ∀ l1, store.l1 = some l1 → (l1.get now.data).limit = some 0 → store.near now = []

/-- Under the key nothing has changed but for losses in memory. -/
structure Spares (backend : Backend σ) (store : TieredStore σ) (key : String)
    (before after : Context σ) : Prop where
  shared : backend.contents after.data key = backend.contents before.data key
  near : ∀ entry, (key, entry) ∈ store.near after → (key, entry) ∈ store.near before

/-- Nothing has changed but for losses in memory. -/
structure Calm (backend : Backend σ) (store : TieredStore σ) (before after : Context σ) :
    Prop where
  stands : backend.Stands store after
  spares : ∀ key, backend.Spares store key before after

/-- Nothing has changed under other keys. -/
structure Confined (backend : Backend σ) (store : TieredStore σ) (key : String)
    (before after : Context σ) : Prop where
  stands : backend.Stands store after
  elsewhere : ∀ other, other ≠ key → backend.Spares store other before after

/-- The shared cache may have changed under the key. -/
structure Changes (backend : Backend σ) (store : TieredStore σ) (key : String)
    (before after : Context σ) : Prop where
  confined : backend.Confined store key before after
  near : ∀ entry, (key, entry) ∈ store.near after → (key, entry) ∈ store.near before

/-- Memory may have the blob under the key now. -/
structure Copies (backend : Backend σ) (store : TieredStore σ) (key : String) (bytes : Bytes)
    (before after : Context σ) : Prop where
  confined : backend.Confined store key before after
  shared : backend.contents after.data key = backend.contents before.data key
  near : ∀ entry, (key, entry) ∈ store.near after →
    (key, entry) ∈ store.near before ∨ entry.bytes = bytes

/-- The shared cache may have changed under the key, and memory has at most this there. -/
structure Enters (backend : Backend σ) (store : TieredStore σ) (key : String)
    (value : Option Bytes) (before after : Context σ) : Prop where
  confined : backend.Confined store key before after
  near : ∀ entry, (key, entry) ∈ store.near after → value = some entry.bytes

variable {backend : Backend σ} {store : TieredStore σ} {key : String} {bytes : Bytes}
  {value : Option Bytes} {spared : Prop} {first second third before after now : Context σ}

theorem Spares.refl (backend : Backend σ) (store : TieredStore σ) (key : String)
    (now : Context σ) : backend.Spares store key now now :=
  ⟨rfl, fun _ present => present⟩

theorem Spares.trans (earlier : backend.Spares store key first second)
    (later : backend.Spares store key second third) : backend.Spares store key first third :=
  ⟨later.shared.trans earlier.shared,
    fun entry present => earlier.near entry (later.near entry present)⟩

theorem Calm.refl (stands : backend.Stands store now) : backend.Calm store now now :=
  ⟨stands, fun key => Spares.refl backend store key now⟩

theorem Calm.trans (earlier : backend.Calm store first second)
    (later : backend.Calm store second third) : backend.Calm store first third :=
  ⟨later.stands, fun key => (earlier.spares key).trans (later.spares key)⟩

theorem Calm.confined (calm : backend.Calm store before after) (key : String) :
    backend.Confined store key before after :=
  ⟨calm.stands, fun other _ => calm.spares other⟩

theorem Confined.trans (earlier : backend.Confined store key first second)
    (later : backend.Confined store key second third) :
    backend.Confined store key first third :=
  ⟨later.stands, fun other different =>
    (earlier.elsewhere other different).trans (later.elsewhere other different)⟩

theorem Changes.refl (key : String) (stands : backend.Stands store now) :
    backend.Changes store key now now :=
  ⟨(Calm.refl stands).confined key, fun _ present => present⟩

theorem Calm.copies (earlier : backend.Calm store first second)
    (later : backend.Copies store key bytes second third) :
    backend.Copies store key bytes first third where
  confined := (earlier.confined key).trans later.confined
  shared := later.shared.trans (earlier.spares key).shared
  near entry present := (later.near entry present).imp_left ((earlier.spares key).near entry)

theorem Calm.changes (earlier : backend.Calm store first second)
    (later : backend.Changes store key second third) : backend.Changes store key first third where
  confined := (earlier.confined key).trans later.confined
  near entry present := (earlier.spares key).near entry (later.near entry present)

theorem Enters.changes (earlier : backend.Enters store key value first second)
    (later : backend.Changes store key second third) :
    backend.Enters store key value first third where
  confined := earlier.confined.trans later.confined
  near entry present := earlier.near entry (later.near entry present)

/-- What others may do while a call is pending. They may be bound to spare its key. -/
structure Company (backend : Backend σ) (store : TieredStore σ) (key : String) (spared : Prop)
    (before after : Context σ) : Prop where
  stands : backend.Stands store after
  spares : spared → backend.contents after.data key = backend.contents before.data key

theorem Company.trans (earlier : backend.Company store key spared first second)
    (later : backend.Company store key spared second third) :
    backend.Company store key spared first third :=
  ⟨later.stands, fun bound => (later.spares bound).trans (earlier.spares bound)⟩

def Looks (backend : Backend σ) (store : TieredStore σ) (begun : Context σ) :
    Terms (Context σ) (Except Failure Unit) where
  pending := backend.Calm store begun
  ended outcome after := backend.Calm store begun after ∧ outcome = .ok ()

def Finds (backend : Backend σ) (store : TieredStore σ) (key : String) (spared : Prop)
    (begun : Context σ) : Terms (Context σ) (Except Failure (Option Bytes)) where
  pending := backend.Calm store begun
  ended outcome after := backend.Calm store begun after ∧
    ∃ found, outcome = .ok found ∧ (spared → backend.contents after.data key = found)

def Sets (backend : Backend σ) (store : TieredStore σ) (key : String) (value : Option Bytes)
    (spared : Prop) (begun : Context σ) : Terms (Context σ) (Except Failure Unit) where
  pending := backend.Changes store key begun
  ended outcome after := backend.Changes store key begun after ∧
    outcome = .ok () ∧ (spared → backend.contents after.data key = value)

/-- The shared cache of the store keeps these terms in any company, and memory lies apart
from it. -/
structure Serves (backend : Backend σ) (store : TieredStore σ) : Prop where
  nearLawful : ∀ l1, store.l1 = some l1 → l1.Lawful
  nearApart : ∀ l1, store.l1 = some l1 → ∀ cache data,
    backend.contents (l1.put cache data) = backend.contents data ∧
      (backend.reliable data → backend.reliable (l1.put cache data))
  get : ∀ key spared now, backend.Stands store now →
    (store.l2.get key).run.Amid (backend.Company store key spared)
      (backend.Finds store key spared) (backend.Finds store key spared now) now
  refresh : ∀ key spared now, backend.Stands store now →
    (store.l2.refresh key).run.Amid (backend.Company store key spared)
      (backend.Looks store) (backend.Looks store now) now
  set : ∀ key bytes options spared now, backend.Stands store now →
    (store.l2.set key bytes options).run.Amid (backend.Company store key spared)
      (backend.Sets store key (some bytes) spared)
      (backend.Sets store key (some bytes) spared now) now
  remove : ∀ key spared now, backend.Stands store now →
    (store.l2.remove key).run.Amid (backend.Company store key spared)
      (backend.Sets store key none spared) (backend.Sets store key none spared now) now

theorem Calm.report (calm : backend.Calm store before after) (hints : CallHints)
    (level : CacheLevel) : backend.Calm store before (hints.report level after) := by
  have same : store.near (hints.report level after) = store.near after := by
    unfold TieredStore.near
    rw [CallHints.data_report]
  refine ⟨⟨?_, ?_, ?_⟩, ?_⟩
  · rw [CallHints.clock_report]
    exact calm.stands.clock
  · rw [CallHints.data_report]
    exact calm.stands.reliable
  · rw [CallHints.data_report, same]
    exact calm.stands.closed
  · intro key
    have spares := calm.spares key
    refine ⟨?_, ?_⟩
    · rw [CallHints.data_report]
      exact spares.shared
    · rw [same]
      exact spares.near

section Memory

variable {l1 : ByteCacheCell σ}

theorem near_of_some (enabled : store.l1 = some l1) (now : Context σ) :
    store.near now = (l1.get now.data).residents := by
  unfold TieredStore.near
  rw [enabled]

theorem near_of_none (disabled : store.l1 = none) (now : Context σ) : store.near now = [] := by
  unfold TieredStore.near
  rw [disabled]

theorem Serves.near_put (serves : backend.Serves store) (enabled : store.l1 = some l1)
    (cache : ByteCache) (now : Context σ) :
    store.near { now with data := l1.put cache now.data } = cache.residents := by
  rw [near_of_some enabled, (serves.nearLawful l1 enabled).get_put]

/-- Whatever is put into memory, if it is nothing where nothing is admitted and has only
entries under one key that were not there before, other keys are spared. -/
theorem Serves.confined_put (serves : backend.Serves store) (enabled : store.l1 = some l1)
    {cache : ByteCache} (stands : backend.Stands store now)
    (closed : cache.limit = some 0 → cache.residents = [])
    (elsewhere : ∀ resident ∈ cache.residents, resident.1 ≠ key → resident ∈ store.near now) :
    backend.Confined store key now { now with data := l1.put cache now.data } := by
  obtain ⟨apart, reliable⟩ := serves.nearApart l1 enabled cache now.data
  refine ⟨⟨stands.clock, reliable stands.reliable, ?_⟩, ?_⟩
  · intro other same admitsNothing
    rw [enabled] at same
    cases same
    rw [(serves.nearLawful l1 enabled).get_put] at admitsNothing
    rw [serves.near_put enabled]
    exact closed admitsNothing
  · intro other different
    refine ⟨congrFun apart other, ?_⟩
    intro entry present
    rw [serves.near_put enabled] at present
    exact elsewhere _ present different

theorem Serves.calm_put (serves : backend.Serves store) (enabled : store.l1 = some l1)
    {cache : ByteCache} (stands : backend.Stands store now)
    (losses : ByteCache.Losses (l1.get now.data) cache) :
    backend.Calm store now { now with data := l1.put cache now.data } := by
  have remains : ∀ resident ∈ cache.residents, resident ∈ store.near now := by
    intro resident present
    rw [near_of_some enabled]
    exact losses.residents present
  have closed : cache.limit = some 0 → cache.residents = [] := by
    intro admitsNothing
    have empty := stands.closed l1 enabled (losses.limit.symm.trans admitsNothing)
    exact List.eq_nil_iff_forall_not_mem.mpr fun resident present => by
      simpa [empty] using remains resident present
  have confined : backend.Confined store "" now { now with data := l1.put cache now.data } :=
    serves.confined_put enabled stands closed fun resident present _ => remains resident present
  refine ⟨confined.stands, ?_⟩
  intro key
  refine ⟨congrFun (serves.nearApart l1 enabled cache now.data).1 key, ?_⟩
  intro entry present
  rw [serves.near_put enabled] at present
  exact remains _ present

theorem Serves.confined_insert (serves : backend.Serves store) (enabled : store.l1 = some l1)
    (stands : backend.Stands store now) (key : String) (bytes : Bytes)
    (lifetime : Option Duration) :
    backend.Confined store key now
      { now with
        data := l1.put ((l1.get now.data).insert l1.policy now.uptime key bytes lifetime)
          now.data } := by
  apply serves.confined_put enabled stands
  · intro admitsNothing
    rw [ByteCache.limit_insert] at admitsNothing
    rw [ByteCache.insert_closed admitsNothing, ← near_of_some enabled]
    exact stands.closed l1 enabled admitsNothing
  · intro resident present different
    rw [near_of_some enabled]
    rcases ByteCache.mem_insert present with rfl | old
    · exact absurd rfl different
    · exact old

theorem Serves.enters_insert (serves : backend.Serves store) (enabled : store.l1 = some l1)
    (stands : backend.Stands store now) (key : String) (bytes : Bytes)
    (lifetime : Option Duration) :
    backend.Enters store key (some bytes) now
      { now with
        data := l1.put ((l1.get now.data).insert l1.policy now.uptime key bytes lifetime)
          now.data } := by
  refine ⟨serves.confined_insert enabled stands key bytes lifetime, ?_⟩
  intro entry present
  rw [serves.near_put enabled] at present
  by_cases admitsNothing : (l1.get now.data).limit = some 0
  · rw [ByteCache.insert_closed admitsNothing, ← near_of_some enabled,
      stands.closed l1 enabled admitsNothing] at present
    cases present
  · rcases ByteCache.mem_insert_renewed admitsNothing present with same | ⟨_, other⟩
    · cases same
      rfl
    · exact absurd rfl other

theorem Serves.copies_insert (serves : backend.Serves store) (enabled : store.l1 = some l1)
    (stands : backend.Stands store now) (key : String) (bytes : Bytes)
    (lifetime : Option Duration) :
    backend.Copies store key bytes now
      { now with
        data := l1.put ((l1.get now.data).insert l1.policy now.uptime key bytes lifetime)
          now.data } where
  confined := serves.confined_insert enabled stands key bytes lifetime
  shared := congrFun (serves.nearApart l1 enabled _ now.data).1 key
  near entry present := Or.inr
    (Option.some.inj
      ((serves.enters_insert enabled stands key bytes lifetime).near entry present)).symm

theorem Serves.enters_erase (serves : backend.Serves store) (enabled : store.l1 = some l1)
    (stands : backend.Stands store now) (key : String) :
    backend.Enters store key none now
      { now with data := l1.put ((l1.get now.data).erase l1.policy now.uptime key) now.data } := by
  have lost := ByteCache.losses_erase l1.policy (l1.get now.data) now.uptime key
  refine ⟨(serves.calm_put enabled stands lost).confined key, ?_⟩
  intro entry present
  rw [serves.near_put enabled] at present
  exact absurd rfl (ByteCache.mem_erase present).2

theorem enters_nothing (disabled : store.l1 = none) (stands : backend.Stands store now)
    (key : String) (value : Option Bytes) : backend.Enters store key value now now := by
  refine ⟨(Calm.refl stands).confined key, ?_⟩
  intro entry present
  rw [near_of_none disabled] at present
  cases present

end Memory

end Backend

end TokenPersistence
