import TokenPersistence.Proofs.Memory.Blanks
import TokenPersistence.Proofs.Routine.Likeness
import TokenPersistence.Proofs.Store.Tasks
import TokenPersistence.Rehearsal.RecordingCache

/-!
# The content of blobs never shows

Two runs of the same tasks are compared that start from data of which only the content of
blobs differs, not their lengths, and that write blobs of which the same holds. Whatever the
stores do depends on keys, times and lengths alone: both runs log the same, call the shared
cache in the same way but for the bytes of a write, answer at the same places, and tell sinks
the same.
-/

namespace TokenPersistence

set_option autoImplicit false

open Rehearsal (SharedCall)
open Routine

variable {σ τ α γ : Type}

/-- What is left of a call when the content of its blob is blanked. -/
def StoreCall.blank : StoreCall → StoreCall
  | read key => read key
  | write key bytes => write key (Bytes.blank bytes)
  | remove key => remove key

def BackgroundWrite.blank (job : BackgroundWrite) : BackgroundWrite :=
  { job with bytes := Bytes.blank job.bytes }

def StoreTask.blank : StoreTask → StoreTask
  | call hints asked => call hints asked.blank
  | job put => job put.blank

def Rehearsal.SharedCall.blank : SharedCall → SharedCall
  | get key => get key
  | set key bytes options => set key (Bytes.blank bytes) options
  | refresh key => refresh key
  | remove key => remove key

def answerLength : Except Failure (Option Bytes) → Except Failure (Option Nat) :=
  Except.map (Option.map List.length)

/-- What a cell shows is related where data are the same, and related values keep them so. -/
structure Cell.Carries (cell : Cell σ τ) (related : τ → τ → Prop) (same : σ → σ → Prop) :
    Prop where
  get : ∀ first second, same first second → related (cell.get first) (cell.get second)
  put : ∀ value other first second, related value other → same first second →
    same (cell.put value first) (cell.put other second)

/-- Where data are the same, the view of what is in the cell is. -/
abbrev Cell.Blurs (cell : Cell σ τ) (view : τ → γ) (same : σ → σ → Prop) : Prop :=
  cell.Carries (fun first second => view first = view second) same

open Context (Alike)

/-- A shared cache does the same with blobs of equal length, and has such under a key where
data are the same. -/
structure SharedCache.Blind (cache : SharedCache σ) (same : σ → σ → Prop) : Prop where
  get : ∀ key, (cache.get key).run.Like (Alike same) answerLength (cache.get key).run
  set : ∀ key first second options, first.length = second.length →
    (cache.set key first options).run.Twins (Alike same) (cache.set key second options).run
  refresh : ∀ key, (cache.refresh key).run.Twins (Alike same) (cache.refresh key).run
  remove : ∀ key, (cache.remove key).run.Twins (Alike same) (cache.remove key).run

/-- Whatever a tiered store works with cannot tell blobs of equal length apart. -/
structure TieredStore.Blind (store : TieredStore σ) (same : σ → σ → Prop) : Prop where
  near : ∀ l1, store.l1 = some l1 → l1.Blurs ByteCache.blank same
  shared : store.l2.Blind same
  retry : ∀ predicate, store.retry = some predicate → ∀ failure,
    (predicate failure).Twins (Alike same) (predicate failure)
  spawner : ∀ spawner, store.spawner = some spawner → ∀ first second : BackgroundWrite,
    first.blank = second.blank → (spawner first).Twins (Alike same) (spawner second)

section Memory

variable {cache : ByteCacheCell σ} {same : σ → σ → Prop}

theorem like_lookup (blurs : cache.Blurs ByteCache.blank same) (key : String) :
    (cache.lookup key).Like (Alike same) (Option.map List.length) (cache.lookup key) := by
  apply like_step
  intro first second start
  have blank := blurs.get first.data second.data start.data
  refine ⟨?_, { start with data := ?_ }⟩
  · dsimp only [ByteCache.lookup]
    rw [start.uptime]
    exact ByteCache.get_length_of_blank second.uptime key blank
  · dsimp only [ByteCache.lookup]
    rw [start.uptime]
    exact blurs.put _ _ _ _ (ByteCache.touch_of_blank cache.policy second.uptime key blank)
      start.data

theorem twins_change (blurs : cache.Blurs ByteCache.blank same)
    {change changeToo : ByteCache → EvictionPolicy → Nat → ByteCache}
    (alike : ∀ policy uptime first second, ByteCache.blank first = ByteCache.blank second →
      (change first policy uptime).blank = (changeToo second policy uptime).blank) :
    (cache.change change).Twins (Alike same) (cache.change changeToo) := by
  refine ⟨_, rfl, fun first second start => ⟨_, _, rfl, { start with data := ?_ }, rfl⟩⟩
  have blank := blurs.get first.data second.data start.data
  dsimp only
  rw [start.uptime]
  exact blurs.put _ _ _ _ (alike cache.policy second.uptime _ _ blank) start.data

theorem twins_insert (blurs : cache.Blurs ByteCache.blank same) (key : String)
    {first second : Bytes} (lengths : first.length = second.length) (lifetime : Option Duration) :
    (cache.insert key first lifetime).Twins (Alike same) (cache.insert key second lifetime) :=
  twins_change blurs fun policy uptime _ _ blank =>
    ByteCache.insert_of_blank policy uptime key blank lengths lifetime

theorem twins_erase (blurs : cache.Blurs ByteCache.blank same) (key : String) :
    (cache.erase key).Twins (Alike same) (cache.erase key) :=
  twins_change blurs fun policy uptime _ _ blank => ByteCache.erase_of_blank policy uptime key blank

/-- The number of entries that is logged is an estimate of the policy, which sees no blob. -/
theorem twins_log_access (blurs : cache.Blurs ByteCache.blank same) (access : NearAccess)
    (key : String) (size : Nat) :
    (cache.logAccess access key size).Twins (Alike same) (cache.logAccess access key size) := by
  refine ⟨_, rfl, fun first second start => ?_⟩
  have blank := blurs.get first.data second.data start.data
  dsimp only [ByteCacheCell.census]
  rw [ByteCache.census_of_blank cache.policy blank]
  exact twins_write _

end Memory

namespace MemoryStore

variable {store : MemoryStore σ} {same : σ → σ → Prop}

theorem like_read (blurs : store.cache.Blurs ByteCache.blank same) (key : String)
    (hints : CallHints) :
    (store.read key hints).run.Like (Alike same) answerLength (store.read key hints).run := by
  have reported : (ExceptT.lift (hints.reportLevel .l1) : Call σ Unit).run.Like (Alike same)
      (Except.map id) (ExceptT.lift (hints.reportLevel .l1) : Call σ Unit).run :=
    (like_report_level hints .l1).like.lift
  have logged : ∀ hit, (Call.log (.memoryRead key hit) : Call σ Unit).run.Like (Alike same)
      (Except.map id) (Call.log (.memoryRead key hit) : Call σ Unit).run :=
    fun hit => (Routine.twins_write (.memoryRead key hit)).like.lift
  apply ((like_lookup blurs key).lift.cancellable hints .read).and_then
  intro found foundToo lengths
  have ended : (pure found : Call σ (Option Bytes)).run.Like (Alike same)
      (Except.map (Option.map List.length)) (pure foundToo : Call σ (Option Bytes)).run :=
    like_done (congrArg Except.ok lengths)
  rcases answers_of_view lengths with ⟨bytes, bytesToo, rfl, rfl, _⟩ | ⟨rfl, rfl⟩
  · exact reported.and_then fun _ _ _ => (logged true).and_then fun _ _ _ => ended
  · exact (logged false).and_then fun _ _ _ => ended

theorem like_write (blurs : store.cache.Blurs ByteCache.blank same) (key : String)
    {first second : Bytes} (lengths : first.length = second.length) (hints : CallHints) :
    (store.write key first hints).run.Like (Alike same) (Except.map id)
      (store.write key second hints).run := by
  have lifetime : (store.currentLifetime hints : Routine (Context σ) _).Like (Alike same) id
      (store.currentLifetime hints) := by
    unfold currentLifetime
    cases hints.suggestedExpiry with
    | none => exact like_done rfl
    | some suggested => exact like_with_clock fun _ => like_done rfl
  apply lifetime.lift.and_then
  rintro expiry _ rfl
  exact (twins_insert blurs key lengths (some expiry)).like.lift.cancellable hints .write

end MemoryStore

namespace TieredStore

variable {store : TieredStore σ} {same : σ → σ → Prop} {view : α → γ} {size sizeToo : α → Nat}
  {work workToo : Call σ α}

theorem like_attempt_shared (operation : SharedOperation) (key : String) (retry : Bool)
    (like : work.run.Like (Alike same) (Except.map view) workToo.run)
    (sizes : ∀ value other, view value = view other → size value = sizeToo other) :
    (attemptShared operation key size retry work).Like (Alike same) (Except.map view)
      (attemptShared operation key sizeToo retry workToo) := by
  unfold attemptShared
  apply like.timed.bind
  rintro ⟨outcome, duration⟩ ⟨outcomeToo, durationToo⟩ seen
  obtain ⟨outcomes, rfl⟩ := Prod.mk.inj seen
  rcases outcomes_of_view outcomes with ⟨value, other, rfl, rfl, same⟩ | ⟨failure, rfl, rfl⟩
  · dsimp only
    rw [sizes value other same]
    exact (twins_write _).then_like fun _ => like_done outcomes
  · exact (twins_write _).then_like fun _ => like_done rfl

namespace Blind

variable (blind : store.Blind same)

include blind

theorem twins_should_retry (failure : Failure) :
    (store.shouldRetry failure).Twins (Alike same) (store.shouldRetry failure) := by
  unfold shouldRetry
  cases asks : store.retry with
  | none => rfl
  | some predicate => exact blind.retry predicate asks failure

theorem like_call_shared (operation : SharedOperation) (key : String)
    (like : work.run.Like (Alike same) (Except.map view) workToo.run)
    (sizes : ∀ value other, view value = view other → size value = sizeToo other) :
    (store.callShared operation key size work).Like (Alike same) (Option.map view)
      (store.callShared operation key sizeToo workToo) := by
  unfold callShared
  apply (like_attempt_shared operation key false like sizes).bind
  intro first firstToo seen
  rcases outcomes_of_view seen with ⟨value, other, rfl, rfl, values⟩ | ⟨failure, rfl, rfl⟩
  · exact like_done (congrArg some values)
  · apply (blind.twins_should_retry failure).then_like
    intro again
    cases again with
    | false => exact like_done rfl
    | true =>
        apply (twins_write _).then_like
        intro _
        apply (like_attempt_shared operation key true like sizes).bind
        intro second secondToo seen
        rcases outcomes_of_view seen with ⟨value, other, rfl, rfl, values⟩ | ⟨failure, rfl, rfl⟩
        · exact like_done (congrArg some values)
        · exact like_done rfl

theorem twins_change_shared {work workToo : Call σ Unit} {length lengthToo : Nat}
    (operation : SharedOperation) (key : String) (twins : work.run.Twins (Alike same) workToo.run)
    (lengths : length = lengthToo) :
    (Functor.discard (store.callShared operation key (fun _ => length) work) :
      Routine (Context σ) Unit).Twins (Alike same)
        (Functor.discard (store.callShared operation key (fun _ => lengthToo) workToo)) := by
  have like : work.run.Like (Alike same) (Except.map (id : Unit → Unit)) workToo.run := twins.like
  exact (blind.like_call_shared operation key like fun _ _ _ => lengths).bind_twins fun _ _ _ => rfl

theorem twins_write_shared {first second : BackgroundWrite} (blank : first.blank = second.blank) :
    (store.writeShared first).Twins (Alike same) (store.writeShared second) := by
  obtain ⟨key, bytes, options⟩ := first
  obtain ⟨keyToo, bytesToo, optionsToo⟩ := second
  simp only [BackgroundWrite.blank, BackgroundWrite.mk.injEq, Bytes.blank_eq_iff] at blank
  obtain ⟨rfl, lengths, rfl⟩ := blank
  have written := blind.shared.set key bytes bytesToo options lengths
  exact blind.twins_change_shared .write key written lengths

/-- What is logged of an answer, and what is copied of it, is its length. -/
theorem like_keep_answer (key : String) (hints : CallHints) {first second : Option (Option Bytes)}
    (seen : first.map (Option.map List.length) = second.map (Option.map List.length))
    (duration : Duration) :
    (store.keepAnswer key hints ⟨first, duration⟩).Like (Alike same) (Option.map List.length)
      (store.keepAnswer key hints ⟨second, duration⟩) := by
  have joined : first.join.map List.length = second.join.map List.length := by
    rcases answers_of_view seen with ⟨value, other, rfl, rfl, answers⟩ | ⟨rfl, rfl⟩
    · exact answers
    · rfl
  unfold keepAnswer
  apply (twins_write _).then_like
  intro _
  dsimp only
  rcases answers_of_view joined with ⟨bytes, bytesToo, here, there, lengths⟩ | ⟨here, there⟩
  · rw [here, there]
    apply (like_report_level hints .l2).then_like
    intro _
    cases enabled : store.l1 with
    | none => exact like_done (congrArg some lengths)
    | some l1 =>
        dsimp only
        rw [lengths]
        apply (twins_write _).then_like
        intro _
        have near := blind.near l1 enabled
        apply (twins_insert near key lengths store.l1Lifetime).then_like
        intro _
        exact (twins_log_access near .backPropagate key _).then_like
          fun _ => like_done (congrArg some lengths)
  · rw [here, there]
    exact like_done rfl

theorem like_read_shared (key : String) (hints : CallHints) :
    (store.readShared key hints).Like (Alike same) (Option.map List.length)
      (store.readShared key hints) := by
  have sizes : ∀ value other : Option Bytes, value.map List.length = other.map List.length →
      foundSize value = foundSize other := by
    intro value other lengths
    rw [foundSize, lengths, foundSize]
  rw [read_shared_eq]
  apply (blind.like_call_shared .read key (blind.shared.get key) sizes).timed.bind
  rintro ⟨answer, duration⟩ ⟨answerToo, durationToo⟩ seen
  obtain ⟨answers, rfl⟩ := Prod.mk.inj seen
  exact blind.like_keep_answer key hints answers duration

theorem like_read_levels (key : String) (hints : CallHints) :
    (store.readLevels key hints).Like (Alike same) (Option.map List.length)
      (store.readLevels key hints) := by
  unfold readLevels
  cases enabled : store.l1 with
  | none => exact blind.like_read_shared key hints
  | some l1 =>
      apply (like_lookup (blind.near l1 enabled) key).bind
      intro cached cachedToo seen
      rcases answers_of_view seen with ⟨bytes, bytesToo, rfl, rfl, lengths⟩ | ⟨rfl, rfl⟩
      · have sizes : foundSize (some bytes) = foundSize (some bytesToo) := lengths
        dsimp only
        rw [sizes]
        apply (twins_log_access (blind.near l1 enabled) .read key _).then_like
        intro _
        apply (blind.twins_change_shared .refresh key (blind.shared.refresh key) lengths).then_like
        intro _
        exact (like_report_level hints .l1).then_like fun _ => like_done (congrArg some lengths)
      · exact (twins_log_access (blind.near l1 enabled) .read key _).then_like fun _ =>
          blind.like_read_shared key hints

theorem twins_write_near (key : String) {first second : Bytes}
    (lengths : first.length = second.length) (hints : CallHints) :
    (store.writeNear key first hints).Twins (Alike same) (store.writeNear key second hints) := by
  unfold writeNear
  cases enabled : store.l1 with
  | none => rfl
  | some l1 =>
      have expiry : (store.currentL1Expiry hints : Routine (Context σ) _).Like (Alike same) id
          (store.currentL1Expiry hints) := by
        unfold currentL1Expiry
        cases store.deadline? hints with
        | none => exact like_done rfl
        | some deadline => exact like_with_clock fun _ => like_done rfl
      apply expiry.bind_twins
      rintro lifetime _ rfl
      apply (twins_insert (blind.near l1 enabled) key lengths lifetime).bind
      intro _
      rw [lengths]
      exact twins_log_access (blind.near l1 enabled) .write key _

theorem twins_write_levels (key : String) {first second : Bytes}
    (lengths : first.length = second.length) (hints : CallHints) :
    (store.writeLevels key first hints).Twins (Alike same)
      (store.writeLevels key second hints) := by
  have blank : (BackgroundWrite.mk key first (store.entryOptions hints)).blank =
      (BackgroundWrite.mk key second (store.entryOptions hints)).blank := by
    simp only [BackgroundWrite.blank, Bytes.blank_eq_iff.mpr lengths]
  apply (blind.twins_write_near key lengths hints).bind
  intro _
  cases spawns : store.spawner with
  | none => exact blind.twins_write_shared blank
  | some spawner =>
      dsimp only
      split
      · exact blind.spawner spawner spawns _ _ blank
      · exact blind.twins_write_shared blank

theorem twins_remove_levels (key : String) :
    (store.removeLevels key).Twins (Alike same) (store.removeLevels key) := by
  rw [remove_levels_eq]
  apply Twins.bind
  · unfold removeNear
    cases enabled : store.l1 with
    | none => rfl
    | some l1 => exact (twins_erase (blind.near l1 enabled) key).bind fun _ => twins_write _
  · exact fun _ => blind.twins_change_shared .remove key (blind.shared.remove key) rfl

end Blind

end TieredStore

/-- A shared cache whose operations are written down, each before it is carried out. -/
def SharedCache.noted (journal : Cell σ (List SharedCall)) (cache : SharedCache σ) :
    SharedCache σ where
  get key := do
    ExceptT.lift (journal.modify (· ++ [.get key]))
    cache.get key
  set key bytes options := do
    ExceptT.lift (journal.modify (· ++ [.set key bytes options]))
    cache.set key bytes options
  refresh key := do
    ExceptT.lift (journal.modify (· ++ [.refresh key]))
    cache.refresh key
  remove key := do
    ExceptT.lift (journal.modify (· ++ [.remove key]))
    cache.remove key

section Noted

variable {same : σ → σ → Prop} {journal : Cell σ (List SharedCall)}

theorem twins_note (blurs : journal.Blurs (List.map SharedCall.blank) same)
    {first second : SharedCall} (blank : first.blank = second.blank) :
    (journal.modify (· ++ [first])).Twins (Alike same) (journal.modify (· ++ [second])) := by
  refine ⟨_, rfl, fun one other start => ⟨_, _, rfl, { start with data := ?_ }, rfl⟩⟩
  apply blurs.put _ _ _ _ _ start.data
  simp only [List.map_append, blurs.get _ _ start.data, List.map_cons, blank, List.map_nil]

theorem SharedCache.Blind.noted {cache : SharedCache σ} (blind : cache.Blind same)
    (blurs : journal.Blurs (List.map SharedCall.blank) same) :
    (cache.noted journal).Blind same where
  get key := (twins_note blurs rfl).then_like fun _ => blind.get key
  set key first second options lengths := by
    apply (twins_note blurs _).bind fun _ => blind.set key first second options lengths
    simp only [SharedCall.blank, Bytes.blank_eq_iff.mpr lengths]
  refresh key := (twins_note blurs rfl).bind fun _ => blind.refresh key
  remove key := (twins_note blurs rfl).bind fun _ => blind.remove key

end Noted

end TokenPersistence
