import TokenPersistence.Proofs.Routine.Handlers
import TokenPersistence.Rehearsal.Stopwatch

/-!
# Timed routines

A stopwatch around a routine reads the clock twice: in the first poll, before the routine gets
anywhere, and in the poll that ends it. In between the routine is polled as it would be without
the stopwatch, so that the value comes in the same poll. What the clock showed before the first
poll is not looked at. The time that is shown counts whole nanoseconds; as ticks it is rounded
down, so that ticks of parts fall short of the ticks of the whole by one at most.
-/

namespace TokenPersistence

set_option autoImplicit false

variable {σ α β : Type}

namespace Duration

theorem toNat_ticks (duration : Duration) :
    duration.ticks.toNat = min (duration.nanos / 100) (UInt64.size - 1) := by
  unfold ticks narrowTicks?
  split
  · next fits =>
      rw [Option.getD_some, UInt64.toNat_ofNat_of_lt' fits]
      exact (Nat.min_eq_left (Nat.le_sub_one_of_lt fits)).symm
  · next exceeds =>
      have beyond : UInt64.size ≤ duration.nanos / 100 := Nat.le_of_not_lt exceeds
      rw [Option.getD_none, Nat.min_eq_right (Nat.le_trans (Nat.sub_le _ _) beyond)]
      rfl

theorem ticks_le_ticks {shorter longer : Duration} (order : shorter.nanos ≤ longer.nanos) :
    shorter.ticks ≤ longer.ticks := by
  rw [UInt64.le_iff_toNat_le, toNat_ticks, toNat_ticks]
  have quotients : shorter.nanos / 100 ≤ longer.nanos / 100 := Nat.div_le_div_right order
  omega

/-- Either part may lose less than a tick, and together they lose less than two. -/
theorem ticks_of_sum {first second both : Duration}
    (sum : both.nanos = first.nanos + second.nanos) (fits : both.nanos / 100 < UInt64.size) :
    first.ticks.toNat + second.ticks.toNat ≤ both.ticks.toNat ∧
      both.ticks.toNat ≤ first.ticks.toNat + second.ticks.toNat + 1 := by
  simp only [toNat_ticks]
  omega

end Duration

namespace Routine

def stopAfter (started : Timestamp) (value : α) : Routine (Context σ) (Timed α) :=
  Context.withClock fun ended => .done ⟨value, Timestamp.elapsed started ended⟩

variable {routine : Routine (Context σ) α} {outside : Nat → Context σ → Context σ}
  {start : Context σ}

theorem poll_timed {now : Context σ} (clock : now.clockIsBroken = false) :
    routine.timed.poll now = (routine.bind (stopAfter now.now)).poll now := by
  unfold timed Context.withClock
  simp only [poll, clock, Bool.false_eq_true, if_false]
  rfl

theorem stop_after_ends (started : Timestamp) (value : α) (now : Context σ) :
    ((stopAfter started value).poll now).progress.isPending = false := by
  unfold stopAfter Context.withClock
  simp only [poll]
  split <;> rfl

theorem after_polls_timed (clock : (outside 0 start).clockIsBroken = false) (count : Nat) :
    routine.timed.afterPolls outside start (count + 1) =
      (routine.afterPolls outside start (count + 1)).handled
        (rethrowing (stopAfter (outside 0 start).now)) := by
  rw [after_polls_congr (poll_timed clock), bind_eq_handled]
  apply after_polls_handled
  intro ended
  unfold Polled.handled
  cases progress : (routine.afterPolls outside start (count + 1)).progress with
  | returned value => exact stop_after_ends _ value _
  | panicked payload => rfl
  | pending woken rest =>
      rw [progress] at ended
      cases ended

/-- A poll of a routine, and the poll of the same routine with a stopwatch that was started at
a time. Who moves the clock to where it cannot go makes the reading at the end panic. -/
inductive TimedAs (started : Timestamp) :
    Polled (Context σ) α → Polled (Context σ) (Timed α) → Prop where
  | pending (woken : Bool) (rest : Routine (Context σ) α)
      (timedRest : Routine (Context σ) (Timed α)) (state : Context σ) (log : List LogEvent) :
      TimedAs started ⟨.pending woken rest, state, log⟩ ⟨.pending woken timedRest, state, log⟩
  | panicked (payload : Panic) (state : Context σ) (log : List LogEvent) :
      TimedAs started ⟨.panicked payload, state, log⟩ ⟨.panicked payload, state, log⟩
  | returned (value : α) (duration : Duration) (state : Context σ) (log : List LogEvent)
      (exact : duration.nanos = (state.now.nanos - started.nanos).toNat) :
      TimedAs started ⟨.returned value, state, log⟩ ⟨.returned ⟨value, duration⟩, state, log⟩
  | unreadable (value : α) (payload : Panic) (state : Context σ) (log : List LogEvent)
      (broken : state.clockIsBroken = true) :
      TimedAs started ⟨.returned value, state, log⟩ ⟨.panicked payload, state, log⟩

theorem timed_as_handled (started : Timestamp) (own : Polled (Context σ) α) :
    TimedAs started own (own.handled (rethrowing (stopAfter started))) := by
  obtain ⟨progress, state, log⟩ := own
  cases progress with
  | pending woken rest => exact .pending woken rest _ state log
  | panicked payload =>
      simp only [Polled.handled, rethrowing, poll, Polled.onto, List.append_nil]
      exact .panicked payload state log
  | returned value =>
      simp only [Polled.handled, rethrowing, stopAfter, Context.withClock, poll]
      cases broken : state.clockIsBroken with
      | false =>
          simp only [Bool.false_eq_true, if_false, poll, Polled.onto, List.append_nil]
          exact .returned value _ state log (Timestamp.nanos_elapsed _ _)
      | true =>
          simp only [if_true, poll, Polled.onto, List.append_nil]
          exact .unreadable value _ state log broken

/-- A timed routine is polled like the routine itself, whatever the polls do to the clock and
whatever happens to it between them. The time shown is the reading in the poll that ends the
routine less the reading in its first poll, or nothing if the clock was set back further than
it went; what the clock showed before makes no difference. Ticks are whole hundreds of
nanoseconds, up to the largest 64-bit number: a longer time has no fewer of them, and two times
one after the other miss at most one tick of their sum. -/
theorem timing_transparent_and_exact (routine : Routine (Context σ) α)
    (outside : Nat → Context σ → Context σ) (start : Context σ)
    (clock : (outside 0 start).clockIsBroken = false) :
    (∀ polls, TimedAs (outside 0 start).now (routine.afterPolls outside start polls)
      (routine.timed.afterPolls outside start polls)) ∧
    (∀ duration : Duration, duration.ticks.toNat = min (duration.nanos / 100) (UInt64.size - 1)) ∧
    (∀ shorter longer : Duration, shorter.nanos ≤ longer.nanos →
      shorter.ticks ≤ longer.ticks) ∧
    ∀ first second both : Duration, both.nanos = first.nanos + second.nanos →
      both.nanos / 100 < UInt64.size →
        first.ticks.toNat + second.ticks.toNat ≤ both.ticks.toNat ∧
          both.ticks.toNat ≤ first.ticks.toNat + second.ticks.toNat + 1 := by
  refine ⟨?_, Duration.toNat_ticks, fun _ _ => Duration.ticks_le_ticks,
    fun _ _ _ => Duration.ticks_of_sum⟩
  intro polls
  cases polls with
  | zero => exact .pending true routine routine.timed start []
  | succ count =>
      rw [after_polls_timed clock]
      exact timed_as_handled _ _

end Routine

namespace Rehearsal

/-- The routine takes a millisecond in each of its two polls. -/
def twoSteps : Routine (Context Unit) Nat :=
  (passTime [.advance Duration.millisecond, .pause, .advance Duration.millisecond]).bind
    fun _ => .done 7

/-- Before the first poll the clock is moved on by a day, and between the polls it is set back
to the epoch if that is asked for. -/
def movedClock (back : Bool) (polls : Nat) (now : Context Unit) : Context Unit :=
  if polls = 0 then { now with now := ⟨86400000000000, by decide, by decide⟩ }
  else if back then { now with now := Timestamp.epoch } else now

/-- What passes before the first poll is not shown, and a clock that was set back shows nothing. -/
theorem two_steps_timed :
    let start := Context.initial Timestamp.epoch ()
    let timed := fun back => twoSteps.timed.afterPolls (movedClock back) start 2
    (movedClock false 0 start).clockIsBroken = false ∧
      (∀ back, Routine.TimedAs (movedClock back 0 start).now
        (twoSteps.afterPolls (movedClock back) start 2) (timed back)) ∧
      (timed false).progress = .returned ⟨7, ⟨2000000, by decide⟩⟩ ∧
      (timed true).progress = .returned ⟨7, Duration.zero⟩ := by
  have polled := fun back =>
    (Routine.timing_transparent_and_exact twoSteps (movedClock back)
      (Context.initial Timestamp.epoch ()) rfl).1 2
  exact ⟨rfl, polled, by rfl, by rfl⟩

end Rehearsal

end TokenPersistence
