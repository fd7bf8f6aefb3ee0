import TokenPersistence.Hints

/-!
# Poll after poll

A routine is polled again and again until it ends, and before each poll its state may be
changed from outside. A race goes through the polls of the work that it races: a poll that
ends the work ends the race, and a poll that leaves the work pending while the condition
holds is the last one, with the replacement as the value. What a routine can end with is
found without polling it, by following every way of going on after each suspension point.
-/

namespace TokenPersistence

set_option autoImplicit false

variable {σ α β : Type}

def Progress.isPending : Progress σ α → Bool
  | pending _ _ => true
  | returned _ => false
  | panicked _ => false

/-- What a race shows where the work shows this. -/
def Polled.raced (stop : σ → Bool) (instead : α) (polled : Polled σ α) : Polled σ α :=
  match polled.progress with
  | .pending woken rest =>
      { polled with
        progress :=
          if stop polled.state then .returned instead
          else .pending woken (rest.unlessStopped stop instead) }
  | .returned _ => polled
  | .panicked _ => polled

namespace Polled

def onto (polled : Polled σ α) (earlier : List LogEvent) : Polled σ α :=
  { polled with log := earlier ++ polled.log }

variable {stop : σ → Bool} {instead : α} {polled : Polled σ α}

theorem raced_onto (earlier : List LogEvent) :
    (polled.onto earlier).raced stop instead = (polled.raced stop instead).onto earlier := by
  obtain ⟨progress, state, log⟩ := polled
  cases progress <;> rfl

theorem raced_of_ended (ended : polled.progress.isPending = false) :
    polled.raced stop instead = polled := by
  unfold raced
  cases progress : polled.progress with
  | returned value => rfl
  | panicked payload => rfl
  | pending woken rest => simp [progress, Progress.isPending] at ended

theorem raced_of_stopped (pending : polled.progress.isPending = true)
    (holds : stop polled.state = true) :
    polled.raced stop instead = { polled with progress := .returned instead } := by
  unfold raced
  cases progress : polled.progress with
  | returned value => simp [progress, Progress.isPending] at pending
  | panicked payload => simp [progress, Progress.isPending] at pending
  | pending woken rest => simp [holds]

theorem raced_of_pending {woken : Bool} {rest : Routine σ α}
    (progress : polled.progress = .pending woken rest) (fails : stop polled.state = false) :
    polled.raced stop instead =
      { polled with progress := .pending woken (rest.unlessStopped stop instead) } := by
  unfold raced
  rw [progress]
  simp [fails]

end Polled

namespace Routine

theorem poll_unless_stopped (stop : σ → Bool) (instead : α) (routine : Routine σ α)
    (now : σ) :
    (routine.unlessStopped stop instead).poll now =
      (routine.poll now).raced stop instead := by
  induction routine generalizing now with
  | done value => rfl
  | panic payload => rfl
  | get next ih => exact ih now now
  | set state next ih => exact ih state
  | log event next ih =>
      simp only [unlessStopped, poll, ih now]
      exact (Polled.raced_onto [event]).symm
  | pause next ih =>
      cases stops : stop now <;> simp [unlessStopped, poll, stops, Polled.raced]
  | wait ready next ih =>
      cases due : ready now with
      | true =>
          simp only [unlessStopped, poll, due, Bool.true_or, if_true]
          exact ih now
      | false =>
          cases stops : stop now with
          | true => simp [unlessStopped, poll, due, stops, Polled.raced]
          | false => simp [unlessStopped, poll, due, stops, Polled.raced]

/-- What is made of the value is made of the replacement as well. -/
theorem unless_stopped_map (stop : σ → Bool) (instead : α) (change : α → β)
    (routine : Routine σ α) :
    (routine.unlessStopped stop instead).bind (fun value => done (change value)) =
      (routine.bind fun value => done (change value)).unlessStopped stop (change instead) := by
  induction routine with
  | done value => rfl
  | panic payload => rfl
  | get next ih => simp only [unlessStopped, bind, ih]
  | set state next ih => simp only [unlessStopped, bind, ih]
  | log event next ih => simp only [unlessStopped, bind, ih]
  | pause next ih =>
      simp only [unlessStopped, bind, ← ih]
      congr 1
      funext state
      split <;> rfl
  | wait ready next ih =>
      simp only [unlessStopped, bind, ← ih]
      congr 2
      funext state
      split <;> rfl

/-- Where so many polls bring a routine, if `outside n` changes the state just before the
poll that comes after `n` others. A routine that has ended is not polled again. -/
def afterPolls (outside : Nat → σ → σ) (routine : Routine σ α) (start : σ) : Nat → Polled σ α
  | 0 => ⟨.pending true routine, start, []⟩
  | count + 1 =>
      let earlier := routine.afterPolls outside start count
      match earlier.progress with
      | .pending _ rest => (rest.poll (outside count earlier.state)).onto earlier.log
      | .returned _ => earlier
      | .panicked _ => earlier

variable {outside : Nat → σ → σ} {routine : Routine σ α} {start : σ} {count : Nat}

theorem after_polls_pending {woken : Bool} {rest : Routine σ α}
    (left : (routine.afterPolls outside start count).progress = .pending woken rest) :
    routine.afterPolls outside start (count + 1) =
      (rest.poll (outside count (routine.afterPolls outside start count).state)).onto
        (routine.afterPolls outside start count).log := by
  simp only [afterPolls]
  split
  · next same =>
      rw [left] at same
      cases same
      rfl
  · next ended =>
      rw [left] at ended
      cases ended
  · next ended =>
      rw [left] at ended
      cases ended

theorem after_polls_ended
    (ended : (routine.afterPolls outside start count).progress.isPending = false) :
    routine.afterPolls outside start (count + 1) = routine.afterPolls outside start count := by
  simp only [afterPolls]
  split
  · next pending =>
      rw [pending] at ended
      cases ended
  · rfl
  · rfl

theorem after_polls_settled
    (ended : (routine.afterPolls outside start count).progress.isPending = false)
    {later : Nat} (order : count ≤ later) :
    routine.afterPolls outside start later = routine.afterPolls outside start count := by
  induction order with
  | refl => rfl
  | step order ih =>
      rw [← ih] at ended
      rw [after_polls_ended ended, ih]

/-- Routines that come to the same in their first poll come to the same in all of them. -/
theorem after_polls_congr {other : Routine σ α}
    (same : routine.poll (outside 0 start) = other.poll (outside 0 start)) (count : Nat) :
    routine.afterPolls outside start (count + 1) =
      other.afterPolls outside start (count + 1) := by
  induction count with
  | zero => exact same
  | succ count ih =>
      rw [afterPolls, ih]
      rfl

/-- A poll leaves the work pending although the condition holds. -/
def StoppedAt (stop : σ → Bool) (outside : Nat → σ → σ) (routine : Routine σ α) (start : σ)
    (poll : Nat) : Prop :=
  (routine.afterPolls outside start (poll + 1)).progress.isPending = true ∧
    stop (routine.afterPolls outside start (poll + 1)).state = true

/-- Up to the first poll that stops the work the race goes through the polls of the work. -/
theorem after_polls_unless_stopped (stop : σ → Bool) (instead : α) (count : Nat)
    (unstopped : ∀ poll < count, ¬ routine.StoppedAt stop outside start poll) :
    (routine.unlessStopped stop instead).afterPolls outside start (count + 1) =
      (routine.afterPolls outside start (count + 1)).raced stop instead := by
  induction count with
  | zero => exact poll_unless_stopped stop instead routine (outside 0 start)
  | succ count ih =>
      have reached := ih fun poll earlier => unstopped poll (Nat.lt_succ_of_lt earlier)
      have last := unstopped count (Nat.lt_succ_self count)
      cases progress : (routine.afterPolls outside start (count + 1)).progress with
      | returned value =>
          have ended : (routine.afterPolls outside start (count + 1)).progress.isPending =
              false := by
            rw [progress]
            rfl
          rw [Polled.raced_of_ended ended] at reached
          rw [after_polls_ended ended, Polled.raced_of_ended ended, ← reached]
          exact after_polls_ended (reached ▸ ended)
      | panicked payload =>
          have ended : (routine.afterPolls outside start (count + 1)).progress.isPending =
              false := by
            rw [progress]
            rfl
          rw [Polled.raced_of_ended ended] at reached
          rw [after_polls_ended ended, Polled.raced_of_ended ended, ← reached]
          exact after_polls_ended (reached ▸ ended)
      | pending woken rest =>
          have goesOn : stop (routine.afterPolls outside start (count + 1)).state = false := by
            apply Bool.eq_false_iff.mpr
            intro holds
            exact last ⟨by rw [progress]; rfl, holds⟩
          rw [Polled.raced_of_pending progress goesOn] at reached
          rw [after_polls_pending progress,
            after_polls_pending (congrArg Polled.progress reached), reached,
            poll_unless_stopped, Polled.raced_onto]

theorem after_polls_of_first (ended : (routine.poll (outside 0 start)).progress.isPending = false)
    (count : Nat) :
    routine.afterPolls outside start (count + 1) = routine.poll (outside 0 start) := by
  have settled : (routine.afterPolls outside start 1).progress.isPending = false := ended
  exact after_polls_settled settled (Nat.le_add_left 1 count)

/-- However a routine goes on after its suspension points, it ends with this or panics. -/
def EndsOnly (post : α → σ → Prop) : Routine σ α → σ → Prop
  | done value, state => post value state
  | panic _, _ => True
  | get next, state => (next state).EndsOnly post state
  | set state next, _ => next.EndsOnly post state
  | log _ next, state => next.EndsOnly post state
  | pause next, _ => ∀ later, next.EndsOnly post later
  | wait ready next, _ => ∀ later, ready later = true → next.EndsOnly post later

section EndsOnly

variable {post : α → σ → Prop} {now : σ}

theorem EndsOnly.imp {second : α → σ → Prop} (ends : routine.EndsOnly post now)
    (implies : ∀ value state, post value state → second value state) :
    routine.EndsOnly second now := by
  induction routine generalizing now with
  | done value => exact implies value now ends
  | panic payload => trivial
  | get next ih => exact ih now ends
  | set state next ih => exact ih ends
  | log event next ih => exact ih ends
  | pause next ih => exact fun later => ih (ends later)
  | wait ready next ih => exact fun later due => ih (ends later due)

theorem ends_only_of_all (always : ∀ value state, post value state) (routine : Routine σ α)
    (now : σ) : routine.EndsOnly post now := by
  induction routine generalizing now with
  | done value => exact always value now
  | panic payload => trivial
  | get next ih => exact ih now now
  | set state next ih => exact ih state
  | log event next ih => exact ih now
  | pause next ih => exact ih
  | wait ready next ih => exact fun later _ => ih later

theorem EndsOnly.bind {continuation : α → Routine σ β} {last : β → σ → Prop}
    (ends : routine.EndsOnly
      (fun value state => (continuation value).EndsOnly last state) now) :
    (routine.bind continuation).EndsOnly last now := by
  induction routine generalizing now with
  | done value => exact ends
  | panic payload => trivial
  | get next ih => exact ih now ends
  | set state next ih => exact ih ends
  | log event next ih => exact ih ends
  | pause next ih => exact fun later => ih (ends later)
  | wait ready next ih => exact fun later due => ih (ends later due)

theorem EndsOnly.unless_stopped {stop : σ → Bool} {instead : α}
    (replaced : ∀ state, stop state = true → post instead state)
    (ends : routine.EndsOnly post now) :
    (routine.unlessStopped stop instead).EndsOnly post now := by
  induction routine generalizing now with
  | done value => exact ends
  | panic payload => trivial
  | get next ih => exact ih now ends
  | set state next ih => exact ih ends
  | log event next ih => exact ih ends
  | pause next ih =>
      change EndsOnly post (if stop now then _ else _) now
      split
      · next holds => exact replaced now holds
      · exact fun later => ih (ends later)
  | wait ready next ih =>
      intro later due
      change EndsOnly post (if ready later then _ else _) later
      split
      · next isReady => exact ih (ends later isReady)
      · next notReady =>
          simp only [notReady, Bool.false_or] at due
          exact replaced later due

/-- What a poll leaves, for a routine that ends only with this. -/
def EndsOnlyAfter (post : α → σ → Prop) (polled : Polled σ α) : Prop :=
  match polled.progress with
  | .returned value => post value polled.state
  | .panicked _ => True
  | .pending _ rest => ∀ later, rest.EndsOnly post later

theorem EndsOnly.poll (ends : routine.EndsOnly post now) :
    EndsOnlyAfter post (routine.poll now) := by
  induction routine generalizing now with
  | done value => exact ends
  | panic payload => trivial
  | get next ih => exact ih now ends
  | set state next ih => exact ih ends
  | log event next ih => exact ih ends
  | pause next ih => exact ends
  | wait ready next ih =>
      simp only [Routine.poll]
      split
      · next due => exact ih (ends now due)
      · exact fun _ => ends

theorem EndsOnly.after_polls (ends : ∀ now, routine.EndsOnly post now) (count : Nat) :
    EndsOnlyAfter post (routine.afterPolls outside start count) := by
  induction count with
  | zero => exact ends
  | succ count ih =>
      simp only [afterPolls]
      cases progress : (routine.afterPolls outside start count).progress with
      | returned value => exact ih
      | panicked payload => exact ih
      | pending woken rest =>
          simp only [EndsOnlyAfter, progress] at ih
          exact (ih _).poll

end EndsOnly

end Routine

end TokenPersistence
