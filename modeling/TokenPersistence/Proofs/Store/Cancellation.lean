import TokenPersistence.Memory.Store
import TokenPersistence.Proofs.Rehearsal.TieredBench
import TokenPersistence.Proofs.Routine.Races
import TokenPersistence.Proofs.Tiered.Work

/-!
# Cancelled calls on a store

Both stores race the whole of a call against the token of its hints. A call whose token is
cancelled already ends in its first poll and leaves everything as it found it. The work that
is raced has no failure of its own: what the shared cache fails with, even with a
cancellation, does not get out, so that the cancellation of its own token is all that a call
can fail with.
-/

namespace TokenPersistence

set_option autoImplicit false

variable {σ α : Type}

/-- A call, with an outcome of one type for all calls: changes answer nothing. -/
def PartitionStore.perform (store : PartitionStore σ) (hints : CallHints) :
    StoreCall → Routine (Context σ) (Except Failure (Option Bytes))
  | .read key => (store.read key hints).run
  | .write key bytes => do
      let outcome ← (store.write key bytes hints).run
      pure (outcome.map fun _ => none)
  | .remove key => do
      let outcome ← (store.remove key hints).run
      pure (outcome.map fun _ => none)

/-- An outcome that is no failure but the cancellation, with the token cancelled by then. -/
def CallHints.FailsOnlyCancelled (hints : CallHints) (during : Activity)
    (outcome : Except Failure α) (after : Context σ) : Prop :=
  ∀ failure, outcome = .error failure →
    failure = Failure.cancelled during ∧ hints.isCancelled after = true

namespace CallHints

variable {hints : CallHints} {during : Activity} {now : Context σ}

theorem fails_only_ok (value : α) (after : Context σ) :
    hints.FailsOnlyCancelled during (.ok value) after := by
  intro failure failed
  cases failed

theorem fails_only_cancelled {after : Context σ} (cancelled : hints.isCancelled after = true) :
    hints.FailsOnlyCancelled during (.error (Failure.cancelled during) : Except Failure α)
      after := by
  intro failure failed
  exact ⟨(Except.error.inj failed).symm, cancelled⟩

theorem ends_only_lift (levels : Routine (Context σ) α) (now : Context σ) :
    (ExceptT.lift levels : Call σ α).run.EndsOnly (hints.FailsOnlyCancelled during) now := by
  change Routine.EndsOnly _ (levels.bind fun value => .done (Except.ok value)) now
  exact (Routine.ends_only_of_all (fun value after => fails_only_ok value after) levels now).bind

theorem ends_only_race {call : Call σ α}
    (ends : call.run.EndsOnly (hints.FailsOnlyCancelled during) now) :
    (hints.cancellable during call).run.EndsOnly (hints.FailsOnlyCancelled during) now := by
  change Routine.EndsOnly _ (if hints.isCancelled now then _ else _) now
  split
  · next cancelled => exact fails_only_cancelled cancelled
  · exact ends.unless_stopped fun _ cancelled => fails_only_cancelled cancelled

theorem ends_only_bind {β : Type} {call : Call σ α} {continuation : α → Call σ β}
    (first : call.run.EndsOnly (hints.FailsOnlyCancelled during) now)
    (second : ∀ value after,
      (continuation value).run.EndsOnly (hints.FailsOnlyCancelled during) after) :
    (call >>= continuation).run.EndsOnly (hints.FailsOnlyCancelled during) now := by
  apply Routine.EndsOnly.bind (first.imp ?_)
  intro outcome after failsOnly
  cases outcome with
  | ok value => exact second value after
  | error failure =>
      intro same failed
      cases failed
      exact failsOnly failure rfl

theorem ends_only_map {β : Type} {routine : Routine (Context σ) (Except Failure α)}
    (change : α → β) (ends : routine.EndsOnly (hints.FailsOnlyCancelled during) now) :
    (routine.bind fun outcome => .done (outcome.map change)).EndsOnly
      (hints.FailsOnlyCancelled during) now := by
  apply Routine.EndsOnly.bind (ends.imp ?_)
  intro outcome after failsOnly
  cases outcome with
  | ok value => exact fails_only_ok (change value) after
  | error failure =>
      intro same failed
      cases failed
      exact failsOnly failure rfl

end CallHints

open CallHints

namespace TieredStore

theorem to_store_eq_race (store : TieredStore σ) (hints : CallHints) (call : StoreCall) :
    store.toStore.perform hints call =
      (hints.cancellable call.activity (store.work hints call)).run := by
  rw [← perform_eq_race]
  cases call <;> rfl

theorem ends_only_cancelled (store : TieredStore σ) (hints : CallHints) (call : StoreCall)
    (now : Context σ) :
    (store.toStore.perform hints call).EndsOnly (hints.FailsOnlyCancelled call.activity)
      now := by
  rw [to_store_eq_race]
  exact ends_only_race (ends_only_lift _ now)

theorem work_succeeds (store : TieredStore σ) (hints : CallHints) (call : StoreCall)
    (now : Context σ) :
    (store.work hints call).run.EndsOnly (fun outcome _ => outcome.isOk = true) now := by
  change Routine.EndsOnly _
    ((store.levels hints call).bind fun value => .done (Except.ok value)) now
  exact (Routine.ends_only_of_all (fun _ _ => rfl) _ now).bind

/-- Unless it is refused, a call fails exactly when its work is left pending with the token
cancelled. -/
theorem fails_iff_stopped (store : TieredStore σ) (hints : CallHints) (call : StoreCall)
    {outside : Nat → Context σ → Context σ} {start : Context σ}
    (fresh : hints.isCancelled (outside 0 start) = false) :
    (∃ polls failure, ((store.toStore.perform hints call).afterPolls outside start
        polls).progress = .returned (.error failure)) ↔
      ∃ poll, (store.work hints call).run.StoppedAt hints.isCancelled outside start poll := by
  rw [to_store_eq_race]
  constructor
  · rintro ⟨polls, failure, failed⟩
    rcases (race_returned_iff fresh _).mp ⟨polls, failed⟩ with ⟨poll, _, own⟩ | ⟨_, stopped⟩
    · have kept : Routine.EndsOnlyAfter (fun outcome _ => outcome.isOk = true)
          ((store.work hints call).run.afterPolls outside start (poll + 1)) :=
        Routine.EndsOnly.after_polls (store.work_succeeds hints call) (poll + 1)
      simp only [Routine.EndsOnlyAfter, own] at kept
      cases kept
    · exact stopped
  · intro stopped
    obtain ⟨polls, failed⟩ := (race_returned_iff fresh _).mpr (.inr ⟨rfl, stopped⟩)
    exact ⟨polls, _, failed⟩

end TieredStore

theorem MemoryStore.ends_only_cancelled (store : MemoryStore σ) (hints : CallHints)
    (call : StoreCall) (now : Context σ) :
    (store.toStore.perform hints call).EndsOnly (hints.FailsOnlyCancelled call.activity)
      now := by
  cases call with
  | read key =>
      apply ends_only_bind (ends_only_race (ends_only_lift _ now))
      intro found after
      have answered : ∀ now, (Call.log (.memoryRead key found.isSome) >>= fun _ =>
          pure found : Call σ (Option Bytes)).run.EndsOnly
            (hints.FailsOnlyCancelled .read) now :=
        fun now => ends_only_bind (ends_only_lift _ now) fun _ later => fails_only_ok found later
      cases found with
      | none => exact answered after
      | some bytes => exact ends_only_bind (ends_only_lift _ after) fun _ => answered
  | write key bytes =>
      apply ends_only_map
      apply ends_only_bind (ends_only_lift _ now)
      intro expiry after
      exact ends_only_race (ends_only_lift _ after)
  | remove key => exact ends_only_map _ (ends_only_race (ends_only_lift _ now))

/-- The lifetime of an entry is settled before the race, so a write with a suggested expiry
reads the clock even if it is refused. -/
theorem MemoryStore.poll_refused (store : MemoryStore σ) (hints : CallHints)
    (call : StoreCall) (now : Context σ) (cancelled : hints.isCancelled now = true) :
    ∃ progress, (store.toStore.perform hints call).poll now = ⟨progress, now, []⟩ ∧
      progress.isPending = false ∧
      (now.clockIsBroken = false →
        progress = .returned (.error (Failure.cancelled call.activity))) := by
  cases call with
  | read key => exact ⟨_, hints.poll_refused_bind .read _ _ cancelled, rfl, fun _ => rfl⟩
  | write key bytes =>
      have refused : ∀ expiry, ((hints.cancellable .write (ExceptT.lift
          (store.cache.insert key bytes expiry))).run.bind fun outcome =>
            .done (outcome.map fun _ => (Option.none : Option Bytes))).poll now =
          ⟨.returned (.error (Failure.cancelled .write)), now, []⟩ :=
        fun _ => hints.poll_refused_bind .write _ _ cancelled
      simp only [PartitionStore.perform, toStore, write, currentLifetime]
      cases hints.suggestedExpiry with
      | none => exact ⟨_, refused (some store.options.expiration), rfl, fun _ => rfl⟩
      | some suggested =>
          cases broken : now.clockIsBroken with
          | false =>
              refine ⟨.returned (.error (Failure.cancelled .write)), ?_, rfl, fun _ => rfl⟩
              change Routine.poll (Routine.bind (Routine.bind (Routine.bind
                (if now.clockIsBroken then _ else _) _) _) _) now = _
              rw [broken]
              exact refused (some (lifetime store.options hints now.now))
          | true =>
              refine ⟨.panicked (.message ?text), ?polled, rfl, fun works => ?works⟩
              case polled =>
                change Routine.poll (Routine.bind (Routine.bind (Routine.bind
                  (if now.clockIsBroken then _ else _) _) _) _) now = _
                rw [broken]
                rfl
              case works => cases works
  | remove key => exact ⟨_, hints.poll_refused_bind .remove _ _ cancelled, rfl, fun _ => rfl⟩

/-- Only the store in memory needs anything before its race, and only the clock. -/
theorem PartitionStore.poll_refused {memory : MemoryStore σ} {tiered : TieredStore σ}
    {store : PartitionStore σ} (kind : store = memory.toStore ∨ store = tiered.toStore)
    (hints : CallHints) (call : StoreCall) (now : Context σ)
    (cancelled : hints.isCancelled now = true) :
    ∃ progress, (store.perform hints call).poll now = ⟨progress, now, []⟩ ∧
      progress.isPending = false ∧
      (now.clockIsBroken = false ∨ store = tiered.toStore →
        progress = .returned (.error (Failure.cancelled call.activity))) := by
  by_cases isTiered : store = tiered.toStore
  · refine ⟨_, ?_, rfl, fun _ => rfl⟩
    rw [isTiered, tiered.to_store_eq_race]
    exact hints.poll_refused call.activity _ cancelled
  · obtain rfl := kind.resolve_right isTiered
    obtain ⟨progress, first, ended, answered⟩ := memory.poll_refused hints call now cancelled
    exact ⟨progress, first, ended, fun works => answered (works.resolve_right isTiered)⟩

/-- Whatever the shared cache, the retry predicate and the spawner do, and whatever happens
between the polls: a call whose token is cancelled when it starts changes nothing and logs
nothing, and a call fails only with its own cancellation, with the token cancelled by then.
The cancellation is told apart by its activity and names the call in its text.
A write with a suggested expiry to the store in memory needs the clock before that. -/
theorem PartitionStore.cancelled_without_trace (memory : MemoryStore σ)
    (tiered : TieredStore σ) (store : PartitionStore σ)
    (kind : store = memory.toStore ∨ store = tiered.toStore) (hints : CallHints)
    (call : StoreCall) (outside : Nat → Context σ → Context σ) (start : Context σ) :
    let ran := (store.perform hints call).afterPolls outside start
    let refusal := Failure.cancelled call.activity
    (refusal.activity = .cancelled ∧ refusal.message =
      "token cache cancelled failed\ncaused by: " ++ call.activity.name ++ " was cancelled") ∧
    (hints.isCancelled (outside 0 start) = true →
      ∀ polls, (ran (polls + 1)).state = outside 0 start ∧ (ran (polls + 1)).log = [] ∧
        ((outside 0 start).clockIsBroken = false ∨ store = tiered.toStore →
          (ran (polls + 1)).progress = .returned (.error refusal))) ∧
    (∀ polls failure, (ran polls).progress = .returned (.error failure) →
      failure = refusal ∧ hints.isCancelled (ran polls).state = true) ∧
    (store = tiered.toStore → hints.isCancelled (outside 0 start) = false →
      ((∃ polls failure, (ran polls).progress = .returned (.error failure)) ↔
        ∃ poll, (tiered.work hints call).run.StoppedAt hints.isCancelled outside start
          poll)) := by
  intro ran refusal
  refine ⟨⟨Failure.activity_cancelled _, Failure.message_cancelled _⟩, ?_, ?_, ?_⟩
  · intro cancelled polls
    obtain ⟨progress, first, ended, answered⟩ :=
      poll_refused kind hints call (outside 0 start) cancelled
    have settled : ran (polls + 1) = ⟨progress, outside 0 start, []⟩ := by
      rw [← first]
      exact Routine.after_polls_of_first (by rw [first]; exact ended) polls
    rw [settled]
    exact ⟨rfl, rfl, answered⟩
  · intro polls failure failed
    have kept : Routine.EndsOnlyAfter (hints.FailsOnlyCancelled call.activity) (ran polls) := by
      apply Routine.EndsOnly.after_polls
      rcases kind with rfl | rfl
      · exact memory.ends_only_cancelled hints call
      · exact tiered.ends_only_cancelled hints call
    simp only [Routine.EndsOnlyAfter, failed] at kept
    exact kept failure rfl
  · rintro rfl fresh
    exact tiered.fails_iff_stopped hints call fresh

namespace Rehearsal

def cancellingCache (σ : Type) : SharedCache σ where
  get _ := throw (Failure.cancelled .read)
  set _ _ _ := throw (Failure.cancelled .write)
  refresh _ := throw (Failure.cancelled .read)
  remove _ := throw (Failure.cancelled .remove)

/-- A call is refused through the parent of its token; with the token left alone the same
call ends well, whatever the shared cache says. -/
theorem cancelled_without_trace_before_cancelling_cache :
    let tiered := { benchTiered TieredOptions.standard none with l2 := cancellingCache Bench }
    let token := CancellationToken.named "host"
    let hints := { CallHints.none with cancellation := some (token.child "call") }
    let start := benchStart TieredOptions.standard Table.empty
    let call := tiered.toStore.perform hints (.remove "A")
    (∀ polls, (call.afterPolls (fun _ now => now.cancel token) start (polls + 1)).state =
        start.cancel token ∧
      (call.afterPolls (fun _ now => now.cancel token) start (polls + 1)).progress =
        .returned (.error (Failure.cancelled .remove))) ∧
    (call.afterPolls (fun _ now => now) start 1).progress = .returned (.ok none) := by
  intro tiered token hints start call
  refine ⟨fun polls => ?_, rfl⟩
  obtain ⟨state, _, refused⟩ := (PartitionStore.cancelled_without_trace
    ⟨NodeSetup.nearCache 0, MemoryOptions.standard⟩ tiered tiered.toStore
    (.inr rfl) hints (.remove "A") (fun _ now => now.cancel token) start).2.1 rfl polls
  exact ⟨state, refused (.inr rfl)⟩

end Rehearsal

end TokenPersistence
