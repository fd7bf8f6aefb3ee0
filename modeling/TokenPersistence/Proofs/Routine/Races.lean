import TokenPersistence.Proofs.Routine.Polls
import TokenPersistence.Rehearsal.Race

/-!
# Calls raced against a cancellation

The polls of a call decide its race against a token, whoever cancels the token or one of its
ancestors, and wherever that happens: before the first poll, within a poll, or between two.
A race is settled by the first poll that ends the call or leaves it pending with a cancelled
token; a poll that does both counts as the end of the call.
-/

namespace TokenPersistence

set_option autoImplicit false

variable {σ α : Type}

namespace CallHints

variable (hints : CallHints) (during : Activity) (call : Call σ α)
  {outside : Nat → Context σ → Context σ} {start : Context σ} {poll : Nat}

/-- Whatever follows on a refused call is told of the cancellation, in the same poll. -/
theorem poll_refused_bind {β : Type} {now : Context σ}
    (continuation : Except Failure α → Routine (Context σ) β)
    (cancelled : hints.isCancelled now = true) :
    ((hints.cancellable during call).run.bind continuation).poll now =
      (continuation (.error (Failure.cancelled during))).poll now := by
  change Routine.poll (Routine.bind (if hints.isCancelled now then _ else _) _) now = _
  rw [cancelled]
  rfl

theorem poll_refused {now : Context σ} (cancelled : hints.isCancelled now = true) :
    (hints.cancellable during call).run.poll now =
      ⟨.returned (.error (Failure.cancelled during)), now, []⟩ := by
  rw [← Routine.bind_done (hints.cancellable during call).run]
  exact poll_refused_bind hints during call Routine.done cancelled

theorem race_refused (cancelled : hints.isCancelled (outside 0 start) = true) (polls : Nat) :
    (hints.cancellable during call).run.afterPolls outside start (polls + 1) =
      ⟨.returned (.error (Failure.cancelled during)), outside 0 start, []⟩ := by
  have first := poll_refused hints during call cancelled
  rw [Routine.after_polls_of_first (by rw [first]; rfl), first]

/-- No poll before this one leaves the call pending with the token cancelled. -/
def Undecided (outside : Nat → Context σ → Context σ) (start : Context σ) (poll : Nat) : Prop :=
  ∀ earlier < poll, ¬ call.run.StoppedAt hints.isCancelled outside start earlier

/-- A race that is not refused goes through the polls of the call, up to the first poll that
finds the token cancelled when it leaves the call pending. -/
theorem race_follows (fresh : hints.isCancelled (outside 0 start) = false)
    (undecided : hints.Undecided call outside start poll) :
    (hints.cancellable during call).run.afterPolls outside start (poll + 1) =
      (call.run.afterPolls outside start (poll + 1)).raced hints.isCancelled
        (.error (Failure.cancelled during)) := by
  rw [← Routine.after_polls_unless_stopped hints.isCancelled _ poll undecided]
  apply Routine.after_polls_congr
  change Routine.poll (if hints.isCancelled (outside 0 start) then _ else _) _ = _
  rw [fresh]
  rfl

theorem race_ended (fresh : hints.isCancelled (outside 0 start) = false)
    (undecided : hints.Undecided call outside start poll)
    (ended : (call.run.afterPolls outside start (poll + 1)).progress.isPending = false)
    {polls : Nat} (later : poll < polls) :
    (hints.cancellable during call).run.afterPolls outside start polls =
      call.run.afterPolls outside start (poll + 1) := by
  have reached := race_follows hints during call fresh undecided
  rw [Polled.raced_of_ended ended] at reached
  rw [Routine.after_polls_settled (reached ▸ ended) later, reached]

theorem race_stopped (fresh : hints.isCancelled (outside 0 start) = false)
    (undecided : hints.Undecided call outside start poll)
    (stopped : call.run.StoppedAt hints.isCancelled outside start poll)
    {polls : Nat} (later : poll < polls) :
    (hints.cancellable during call).run.afterPolls outside start polls =
      { call.run.afterPolls outside start (poll + 1) with
        progress := .returned (.error (Failure.cancelled during)) } := by
  have reached := race_follows hints during call fresh undecided
  rw [Polled.raced_of_stopped stopped.1 stopped.2] at reached
  rw [Routine.after_polls_settled (by rw [reached]; rfl) later, reached]

theorem race_pending (fresh : hints.isCancelled (outside 0 start) = false)
    (undecided : hints.Undecided call outside start (poll + 1))
    (pending : (call.run.afterPolls outside start (poll + 1)).progress.isPending = true) :
    ((hints.cancellable during call).run.afterPolls outside start
      (poll + 1)).progress.isPending = true := by
  rw [race_follows hints during call fresh fun earlier before =>
    undecided earlier (Nat.lt_succ_of_lt before)]
  have goesOn : hints.isCancelled (call.run.afterPolls outside start (poll + 1)).state = false := by
    apply Bool.eq_false_iff.mpr
    intro holds
    exact undecided poll (Nat.lt_succ_self poll) ⟨pending, holds⟩
  cases progress : (call.run.afterPolls outside start (poll + 1)).progress with
  | returned value => rw [progress] at pending; cases pending
  | panicked payload => rw [progress] at pending; cases pending
  | pending woken rest =>
      rw [Polled.raced_of_pending progress goesOn]
      rfl

variable {hints during call}

theorem first_stopped (stopped : call.run.StoppedAt hints.isCancelled outside start poll) :
    ∃ first, hints.Undecided call outside start first ∧
      call.run.StoppedAt hints.isCancelled outside start first := by
  induction poll using Nat.strongRecOn with
  | ind poll ih =>
      by_cases sooner : ∃ earlier < poll,
          call.run.StoppedAt hints.isCancelled outside start earlier
      · obtain ⟨earlier, before, stoppedEarlier⟩ := sooner
        exact ih earlier before stoppedEarlier
      · exact ⟨poll, fun earlier before stops => sooner ⟨earlier, before, stops⟩, stopped⟩

/-- The race ends with the cancellation if a poll finds the token cancelled when it leaves the
call pending, and only then unless the call itself ends so. -/
theorem race_returned_iff (fresh : hints.isCancelled (outside 0 start) = false)
    (outcome : Except Failure α) :
    (∃ polls, ((hints.cancellable during call).run.afterPolls outside start polls).progress =
        .returned outcome) ↔
      (∃ poll, hints.Undecided call outside start poll ∧
        (call.run.afterPolls outside start (poll + 1)).progress = .returned outcome) ∨
      outcome = .error (Failure.cancelled during) ∧
        ∃ poll, call.run.StoppedAt hints.isCancelled outside start poll := by
  constructor
  · rintro ⟨polls, returned⟩
    have ended : ((hints.cancellable during call).run.afterPolls outside start
        polls).progress.isPending = false := by
      rw [returned]
      rfl
    by_cases stops : ∃ poll, call.run.StoppedAt hints.isCancelled outside start poll
    · right
      obtain ⟨poll, stopped⟩ := stops
      obtain ⟨first, undecided, stoppedFirst⟩ := first_stopped stopped
      refine ⟨?_, poll, stopped⟩
      -- both the given poll and the one that stops the call settle the race
      have refused := race_stopped hints during call fresh undecided stoppedFirst
        (Nat.lt_of_lt_of_le (Nat.lt_succ_self first) (Nat.le_max_right polls (first + 1)))
      rw [Routine.after_polls_settled ended (Nat.le_max_left polls (first + 1))] at refused
      rw [refused] at returned
      exact (Progress.returned.inj returned).symm
    · left
      have undecided : ∀ poll, hints.Undecided call outside start poll :=
        fun poll earlier _ stopped => stops ⟨earlier, stopped⟩
      cases polls with
      | zero => cases ended
      | succ poll =>
          refine ⟨poll, undecided poll, ?_⟩
          cases pending : (call.run.afterPolls outside start (poll + 1)).progress.isPending with
          | true =>
              rw [race_pending hints during call fresh (undecided (poll + 1)) pending] at ended
              cases ended
          | false =>
              rw [← race_ended hints during call fresh (undecided poll) pending
                (Nat.lt_succ_self poll)]
              exact returned
  · rintro (⟨poll, undecided, returned⟩ | ⟨rfl, poll, stopped⟩)
    · refine ⟨poll + 1, ?_⟩
      rw [race_ended hints during call fresh undecided (by rw [returned]; rfl)
        (Nat.lt_succ_self poll), returned]
    · obtain ⟨first, undecided, stoppedFirst⟩ := first_stopped stopped
      refine ⟨first + 1, ?_⟩
      rw [race_stopped hints during call fresh undecided stoppedFirst (Nat.lt_succ_self first)]

/-- A cancellation fails as such, with a text that names what the call was about. Once it is
refused the call is not polled at all. Otherwise the race is the call itself
when a poll ends the call before an earlier one is left pending with the token cancelled;
what happens to the token later, up to and in that very poll, makes no difference. A poll
left pending with the token cancelled is the last one. -/
theorem race_settled_by_polls (hints : CallHints) (during : Activity) (call : Call σ α)
    (outside : Nat → Context σ → Context σ) (start : Context σ) :
    let own := call.run.afterPolls outside start
    let race := (hints.cancellable during call).run.afterPolls outside start
    let stopped := call.run.StoppedAt hints.isCancelled outside start
    let undecided := hints.Undecided call outside start
    let refusal := Failure.cancelled during
    (refusal.activity = .cancelled ∧ refusal.message =
      "token cache cancelled failed\ncaused by: " ++ during.name ++ " was cancelled") ∧
    (hints.isCancelled (outside 0 start) = true →
      ∀ polls, race (polls + 1) = ⟨.returned (.error refusal), outside 0 start, []⟩) ∧
    (hints.isCancelled (outside 0 start) = false →
      (∀ poll, undecided poll → (own (poll + 1)).progress.isPending = false →
        ∀ polls > poll, race polls = own (poll + 1)) ∧
      (∀ poll, undecided poll → stopped poll →
        ∀ polls > poll,
          race polls = { own (poll + 1) with progress := .returned (.error refusal) }) ∧
      (∀ poll, undecided (poll + 1) → (own (poll + 1)).progress.isPending = true →
        (race (poll + 1)).progress.isPending = true) ∧
      ∀ outcome, (∃ polls, (race polls).progress = .returned outcome) ↔
        (∃ poll, undecided poll ∧ (own (poll + 1)).progress = .returned outcome) ∨
        outcome = .error refusal ∧ ∃ poll, stopped poll) := by
  intro own race stopped undecided refusal
  refine ⟨⟨Failure.activity_cancelled during, Failure.message_cancelled during⟩,
    race_refused hints during call, fun fresh => ⟨?_, ?_, ?_, race_returned_iff fresh⟩⟩
  · intro poll before ended polls later
    exact race_ended hints during call fresh before ended later
  · intro poll before stops polls later
    exact race_stopped hints during call fresh before stops later
  · intro poll before pending
    exact race_pending hints during call fresh before pending

end CallHints

namespace Rehearsal

/-- The token of the call is a child of one that is cancelled between the two polls, and once
more in the poll that ends the call. -/
def lateRace : Race Nat where
  during := .read
  startsCancelled := false
  throughChild := true
  cancelBeforePoll := some 1
  script := [.pause, .cancel, .finish (.ok 7)]
  otherwise := 0

theorem late_race_keeps_result :
    lateRace.hints.isCancelled (lateRace.beforePoll 1 lateRace.start) = true ∧
      ∀ polls > 1, (lateRace.call.run.afterPolls lateRace.beforePoll lateRace.start
        polls).progress = .returned (.ok 7) := by
  refine ⟨rfl, fun polls later => ?_⟩
  have settled := (CallHints.race_settled_by_polls lateRace.hints lateRace.during
    (playScript Race.token lateRace.otherwise lateRace.script) lateRace.beforePoll
    lateRace.start).2.2 rfl
  have undecided : lateRace.hints.Undecided
      (playScript Race.token lateRace.otherwise lateRace.script) lateRace.beforePoll
      lateRace.start 1 := by
    intro earlier before stopped
    obtain rfl : earlier = 0 := by omega
    cases stopped.2
  exact congrArg Polled.progress (settled.1 1 undecided rfl polls later)

end Rehearsal

end TokenPersistence
