import TokenPersistence.Proofs.Rehearsal.TieredBench
import TokenPersistence.Proofs.Tiered.Levels

/-!
# Where answers come from during an outage

Calls are made on a tiered store that waits for a shared cache of which every attempt may
fail, so the two levels drift apart. A trail is kept of the run: what the shared cache had
at first, what was written, and what was last put into memory under each key, by a write
or as a copy of an answer. Every blob in the shared cache was there at first or was written
under its key, every blob in memory is the one that was last put there, and no failure
leaves a call. So the answers are never of another key, a write is read back while its
entry lives, and what was removed stays out of memory until something is put there again.
-/

namespace TokenPersistence

set_option autoImplicit false

variable {σ : Type}

/-- What was last put into memory under a key, unless a removal has followed it. -/
inductive Placed where
  | nothing
  | written (bytes : Bytes)
  | copied (bytes : Bytes)

def Placed.blob? : Placed → Option Bytes
  | nothing => none
  | written bytes => some bytes
  | copied bytes => some bytes

structure Trail where
  first : String → Option Bytes
  writes : List (String × Bytes)
  placed : String → Placed

namespace Trail

def start (first : String → Option Bytes) : Trail := ⟨first, [], fun _ => .nothing⟩

def write (trail : Trail) (key : String) (bytes : Bytes) : Trail :=
  { trail with
    writes := (key, bytes) :: trail.writes
    placed := Function.update trail.placed key (.written bytes) }

def remove (trail : Trail) (key : String) : Trail :=
  { trail with placed := Function.update trail.placed key .nothing }

def read (trail : Trail) (key : String) (cached : Option Bytes)
    (ending : Ending (Except Failure (Option Bytes))) : Trail :=
  match cached, ending with
  | none, .returned (.ok (some bytes)) =>
      { trail with placed := Function.update trail.placed key (.copied bytes) }
  | _, _ => trail

/-- The blob was in the shared cache under the key at first, or was written under it. -/
def Knows (trail : Trail) (key : String) (bytes : Bytes) : Prop :=
  trail.first key = some bytes ∨ (key, bytes) ∈ trail.writes

def blobs (trail : Trail) : String → Option Bytes := Placed.blob? ∘ trail.placed

@[simp] theorem blobs_write (trail : Trail) (key : String) (bytes : Bytes) :
    (trail.write key bytes).blobs = Function.update trail.blobs key (some bytes) :=
  Function.comp_update Placed.blob? trail.placed key (.written bytes)

@[simp] theorem blobs_remove (trail : Trail) (key : String) :
    (trail.remove key).blobs = Function.update trail.blobs key none :=
  Function.comp_update Placed.blob? trail.placed key .nothing

@[simp] theorem read_found (trail : Trail) (key : String) (bytes : Bytes)
    (ending : Ending (Except Failure (Option Bytes))) :
    trail.read key (some bytes) ending = trail := rfl

@[simp] theorem blobs_read_missed (trail : Trail) (key : String) (answer : Option Bytes) :
    (trail.read key none (.returned (.ok answer))).blobs =
      TieredStore.copied trail.blobs key answer := by
  cases answer with
  | none => rfl
  | some bytes => exact Function.comp_update Placed.blob? trail.placed key (.copied bytes)

/-- Everything that a map has is known under its key. -/
def Accounts (trail : Trail) (map : String → Option Bytes) : Prop :=
  ∀ key bytes, map key = some bytes → trail.Knows key bytes

variable {trail : Trail} {map : String → Option Bytes}

theorem Accounts.update_known (accounts : trail.Accounts map) (key : String)
    (value : Option Bytes) (known : ∀ bytes, value = some bytes → trail.Knows key bytes) :
    trail.Accounts (Function.update map key value) := by
  intro other bytes found
  by_cases same : other = key
  · subst same
    rw [Function.update_self] at found
    exact known bytes found
  · rw [Function.update_of_ne same] at found
    exact accounts other bytes found

theorem Accounts.write (accounts : trail.Accounts map) (key : String) (bytes : Bytes) :
    (trail.write key bytes).Accounts map :=
  fun other blob found => (accounts other blob found).imp_right (List.mem_cons_of_mem _)

theorem Accounts.read (accounts : trail.Accounts map) (key : String) (cached : Option Bytes)
    (ending : Ending (Except Failure (Option Bytes))) :
    (trail.read key cached ending).Accounts map := by
  unfold Trail.read
  split <;> exact accounts

theorem knows_written (trail : Trail) (key : String) (bytes : Bytes) :
    (trail.write key bytes).Knows key bytes :=
  Or.inr List.mem_cons_self

end Trail

namespace TieredStore

/-- The states after calls that are not cancelled, with the trail of the calls. Between
them time may pass, tokens may be cancelled and entries may get lost in memory. -/
inductive Endured (store : TieredStore σ) (contents : σ → String → Option Bytes) :
    Trail → Context σ → Prop where
  | start (now : Context σ) (clock : now.clockIsBroken = false)
      (fresh : ∀ l1, store.l1 = some l1 → l1.get now.data = initialCache store.options) :
      Endured store contents (Trail.start (contents now.data)) now
  | drift (trail : Trail) (before after : Context σ)
      (earlier : Endured store contents trail before) (drift : store.Drift before after)
      (unchanged : contents after.data = contents before.data) :
      Endured store contents trail after
  | read (trail : Trail) (now : Context σ) (key : String) (hints : CallHints)
      (earlier : Endured store contents trail now)
      (uncancelled : hints.Uncancelled (ExceptT.lift (store.readLevels key hints)) now) :
      Endured store contents
        (trail.read key (store.nearBlob? now key) ((store.read key hints).run.run now).ending)
        ((store.read key hints).run.run now).state
  | write (trail : Trail) (now : Context σ) (key : String) (bytes : Bytes)
      (hints : CallHints) (earlier : Endured store contents trail now)
      (uncancelled : hints.Uncancelled (ExceptT.lift (store.writeLevels key bytes hints)) now) :
      Endured store contents (trail.write key bytes)
        ((store.write key bytes hints).run.run now).state
  | remove (trail : Trail) (now : Context σ) (key : String) (hints : CallHints)
      (earlier : Endured store contents trail now)
      (uncancelled : hints.Uncancelled (ExceptT.lift (store.removeLevels key)) now) :
      Endured store contents (trail.remove key)
        ((store.remove key hints).run.run now).state

/-- Memory has what was last placed there, and both levels have only what is known. -/
structure Traced (store : TieredStore σ) (contents : σ → String → Option Bytes)
    (trail : Trail) (now : Context σ) : Prop where
  clock : now.clockIsBroken = false
  near : store.NearAgrees trail.blobs now
  placed : trail.Accounts trail.blobs
  shared : trail.Accounts (contents now.data)

variable {store : TieredStore σ} {contents : σ → String → Option Bytes} {trail : Trail}
  {now : Context σ}

theorem Traced.answered (traced : store.Traced contents trail now) {key : String}
    {answer : Option Bytes} {after : Context σ}
    (answered : store.Answered contents trail.blobs key now answer after) :
    store.NearAgrees
        (trail.read key (store.nearBlob? now key) (.returned (.ok answer))).blobs after ∧
      ∀ bytes, answer = some bytes → trail.Knows key bytes := by
  cases answered with
  | near found agrees =>
      rw [found, Trail.read_found]
      refine ⟨agrees, ?_⟩
      intro bytes same
      exact traced.placed key bytes (traced.near.blob (found.trans same))
  | shared missed agrees answered =>
      rw [missed, Trail.blobs_read_missed]
      refine ⟨agrees, ?_⟩
      intro bytes same
      subst same
      rcases answered with shared | ⟨nothing, _⟩
      · exact traced.shared key bytes shared.symm
      · cases nothing

theorem Traced.read (traced : store.Traced contents trail now) {key : String}
    {answer : Option Bytes} {after : Context σ} (clock : after.clockIsBroken = false)
    (same : contents after.data = contents now.data)
    (answered : store.Answered contents trail.blobs key now answer after) :
    store.Traced contents
      (trail.read key (store.nearBlob? now key) (.returned (.ok answer))) after := by
  obtain ⟨near, known⟩ := traced.answered answered
  refine ⟨clock, near, ?_, ?_⟩
  · cases cached : store.nearBlob? now key with
    | some bytes => exact traced.placed
    | none =>
        rw [Trail.blobs_read_missed]
        apply Trail.Accounts.read
        cases answer with
        | none => exact traced.placed
        | some bytes =>
            apply traced.placed.update_known
            intro blob here
            exact known blob here
  · rw [same]
    exact traced.shared.read key _ _

theorem Traced.write (traced : store.Traced contents trail now) {key : String} {bytes : Bytes}
    {after : Context σ} (clock : after.clockIsBroken = false)
    (near : store.NearAgrees (Function.update trail.blobs key (some bytes)) after)
    (shared : contents after.data = contents now.data ∨
      contents after.data = Function.update (contents now.data) key (some bytes)) :
    store.Traced contents (trail.write key bytes) after := by
  have known : ∀ blob, some bytes = some blob → (trail.write key bytes).Knows key blob := by
    intro blob same
    cases same
    exact trail.knows_written key bytes
  refine ⟨clock, ?_, ?_, ?_⟩
  · rw [Trail.blobs_write]
    exact near
  · rw [Trail.blobs_write]
    exact (traced.placed.write key bytes).update_known key _ known
  · have before := traced.shared.write key bytes
    rcases shared with unchanged | reached
    · rw [unchanged]
      exact before
    · rw [reached]
      exact before.update_known key _ known

theorem Traced.remove (traced : store.Traced contents trail now) {key : String}
    {after : Context σ} (clock : after.clockIsBroken = false)
    (near : store.NearAgrees (Function.update trail.blobs key none) after)
    (shared : contents after.data = contents now.data ∨
      contents after.data = Function.update (contents now.data) key none) :
    store.Traced contents (trail.remove key) after := by
  have known : ∀ blob, none = some blob → trail.Knows key blob := fun _ same => by cases same
  refine ⟨clock, ?_, ?_, ?_⟩
  · rw [Trail.blobs_remove]
    exact near
  · rw [Trail.blobs_remove]
    exact traced.placed.update_known key none known
  · rcases shared with unchanged | reached
    · rw [unchanged]
      exact traced.shared
    · rw [reached]
      exact traced.shared.update_known key none known

theorem Endured.traced (backing : store.Backing contents)
    (waits : store.options.writesInBackground = false)
    (endured : store.Endured contents trail now) : store.Traced contents trail now := by
  -- By induction on the calls: each call ends, and changes the levels no further than
  -- the trail says.
  induction endured with
  | start now clock fresh =>
      refine ⟨clock, ?_, ?_, fun _ _ => Or.inl⟩
      · intro l1 enabled
        rw [fresh l1 enabled]
        exact ByteCache.agrees_empty _ _
      · intro key bytes nothing
        cases nothing
  | drift trail before after earlier drift unchanged ih =>
      refine ⟨drift.clock, ih.near.drift drift, ih.placed, ?_⟩
      rw [unchanged]
      exact ih.shared
  | read trail now key hints earlier uncancelled ih =>
      have readReturns := backing.answers_levels key hints now ih.clock ih.near
      obtain ⟨outcome, ending, answer, done, ⟨clock, same⟩, answered⟩ :=
        hints.returns_uncancelled .read _ now uncancelled readReturns
      rw [show ((store.read key hints).run.run now).ending = .returned (.ok answer) from
        done ▸ ending]
      exact ih.read clock same answered
  | write trail now key bytes hints earlier uncancelled ih =>
      have writeReturns := backing.ends_write key bytes hints waits now ih.clock ih.near
      obtain ⟨clock, near, shared⟩ :=
        hints.state_uncancelled .write _ now uncancelled writeReturns
      exact ih.write clock near shared
  | remove trail now key hints earlier uncancelled ih =>
      have removeReturns := backing.ends_remove key now ih.clock ih.near
      obtain ⟨clock, near, shared⟩ :=
        hints.state_uncancelled .remove _ now uncancelled removeReturns
      exact ih.remove clock near shared

/-- Whatever the shared cache has answered so far, and whatever it answers next, calls
succeed. A read gives a blob of its own key, and the blob of the last write while the
entry of that write lives in memory. After a removal nothing is in memory under the key,
until a write or a copy puts something there. -/
theorem outages_stay_inside (l1 : ByteCacheCell σ) (l2 : SharedCache σ)
    (options : TieredOptions) (retry : Option (RetryPredicate σ))
    (spawner : Option (Spawner σ)) (store : TieredStore σ)
    (built : build l1 l2 options retry spawner = .ok (.ok store))
    (waits : options.writesInBackground = false)
    (contents : σ → String → Option Bytes) (backing : store.Backing contents)
    (trail : Trail) (now : Context σ) (endured : store.Endured contents trail now) :
    (∀ key hints, hints.Uncancelled (ExceptT.lift (store.readLevels key hints)) now →
      (store.read key hints).run.Returns now fun outcome _ =>
        ∃ answer, outcome = .ok answer ∧
          (∀ bytes, answer = some bytes → trail.Knows key bytes) ∧
          ∀ bytes, trail.placed key = .written bytes →
            (store.nearBlob? now key).isSome = true → answer = some bytes) ∧
      (∀ key bytes hints,
        hints.Uncancelled (ExceptT.lift (store.writeLevels key bytes hints)) now →
          (store.write key bytes hints).run.Returns now fun outcome _ => outcome = .ok ()) ∧
      (∀ key hints, hints.Uncancelled (ExceptT.lift (store.removeLevels key)) now →
        (store.remove key hints).run.Returns now fun outcome _ => outcome = .ok ()) ∧
      ∀ key near, store.l1 = some near → trail.placed key = .nothing →
        (near.get now.data).find? key = none := by
  rw [← options_of_build built] at waits
  have traced := endured.traced backing waits
  refine ⟨?_, ?_, ?_, ?_⟩
  · intro key hints uncancelled
    have readReturns := backing.answers_levels key hints now traced.clock traced.near
    apply (hints.returns_uncancelled .read _ now uncancelled readReturns).imp
    intro outcome after read
    obtain ⟨answer, done, _, answered⟩ := read
    refine ⟨answer, done, (traced.answered answered).2, ?_⟩
    intro bytes written live
    cases answered with
    | near found agrees =>
        have last := traced.near.blob found
        unfold Trail.blobs at last
        rw [Function.comp_apply, written] at last
        exact last.symm
    | shared missed agrees answered =>
        rw [missed] at live
        cases live
  · intro key bytes hints uncancelled
    have writeReturns := backing.ends_write key bytes hints waits now traced.clock traced.near
    apply (hints.returns_uncancelled .write _ now uncancelled writeReturns).imp
    intro outcome after wrote
    obtain ⟨_, done, _⟩ := wrote
    exact done
  · intro key hints uncancelled
    have removeReturns := backing.ends_remove key now traced.clock traced.near
    apply (hints.returns_uncancelled .remove _ now uncancelled removeReturns).imp
    intro outcome after removed
    obtain ⟨_, done, _⟩ := removed
    exact done
  · intro key near enabled cleared
    cases found : (near.get now.data).find? key with
    | none => rfl
    | some entry =>
        have last := (traced.near near enabled).blobs _ (ByteCache.find_mem found)
        simp [Trail.blobs, cleared, Placed.blob?] at last

end TieredStore

namespace Rehearsal

def benchOffline (options : TieredOptions) (table : Table) : Context Bench :=
  let start := benchStart options table
  { start with
    data := (Bench.sharedCell.inside ScriptedCache.recording).put
      { (RecordingCache.ofTable table) with failsWhen := some fun _ => true } start.data }

theorem outages_stay_inside_after_lost_write :
    let store := benchTiered TieredOptions.standard none
    let start := benchOffline TieredOptions.standard (Table.ofList [("A", [7])])
    let now := ((store.write "A" [1] CallHints.none).run.run start).state
    let trail := (Trail.start (benchContents start.data)).write "A" [1]
    benchContents now.data "A" = some [7] ∧ store.nearBlob? now "A" = some [1] ∧
      (∀ key hints, hints.Uncancelled (ExceptT.lift (store.readLevels key hints)) now →
        (store.read key hints).run.Returns now fun outcome _ =>
          ∃ answer, outcome = .ok answer ∧
            (∀ bytes, answer = some bytes → trail.Knows key bytes) ∧
            ∀ bytes, trail.placed key = .written bytes →
              (store.nearBlob? now key).isSome = true → answer = some bytes) ∧
        (∀ key bytes hints,
          hints.Uncancelled (ExceptT.lift (store.writeLevels key bytes hints)) now →
            (store.write key bytes hints).run.Returns now fun outcome _ => outcome = .ok ()) ∧
        (∀ key hints, hints.Uncancelled (ExceptT.lift (store.removeLevels key)) now →
          (store.remove key hints).run.Returns now fun outcome _ => outcome = .ok ()) ∧
        ∀ key near, store.l1 = some near → trail.placed key = .nothing →
          (near.get now.data).find? key = none := by
  intro store start now trail
  have fresh : store.Endured benchContents (Trail.start (benchContents start.data)) start := by
    apply TieredStore.Endured.start
    · rfl
    · intro l1 enabled
      cases enabled
      rfl
  have written : store.Endured benchContents trail now :=
    .write _ start "A" [1] CallHints.none fresh
      ⟨rfl, CallHints.unstopped_of_no_token _ start CallHints.none rfl⟩
  exact ⟨by decide +kernel, by decide +kernel,
    TieredStore.outages_stay_inside (NodeSetup.nearCache 0) store.l2
      TieredOptions.standard none none store rfl rfl benchContents
      (bench_tiered_backing TieredOptions.standard none) trail now written⟩

end Rehearsal

end TokenPersistence
