import TokenPersistence.Proofs.Routine.Company
import TokenPersistence.Proofs.Routine.Handlers
import TokenPersistence.Proofs.Routine.Twins
import TokenPersistence.Proofs.Store.Sinks

/-!
# Routines that tell sinks at their end only

A routine is silent if it leaves the sinks alone, whatever others do between its polls. A
routine concludes with something if it is silent until it ends with a value, and tells then,
in the very poll in which it ends, what goes with the value. So nothing is told by a routine
that panics, is dropped, or loses its race against a cancellation.
-/

namespace TokenPersistence

set_option autoImplicit false

variable {σ α β : Type}

namespace Context

theorem levels_tell {first second : Context σ} (same : first.levels = second.levels)
    (tellings : List Telling) : (first.tell tellings).levels = (second.tell tellings).levels := by
  induction tellings generalizing first second with
  | nil => exact same
  | cons telling others ih =>
      apply ih
      simp only [setLevel, same]

theorem levels_report {first second : Context σ} (same : first.levels = second.levels)
    (hints : CallHints) (level : CacheLevel) :
    (hints.report level first).levels = (second.tell (hints.telling level)).levels := by
  rw [hints.report_eq_tell]
  exact levels_tell same (hints.telling level)

end Context

namespace Routine

/-- The handler that goes on with a value, and ends with a panic that it is told of. -/
def containing (continuation : α → Routine σ β) : Except Panic α → Routine σ (Except Panic β)
  | .ok value => (continuation value).catchPanic
  | .error payload => done (.error payload)

theorem catch_panic_bind (routine : Routine σ α) (continuation : α → Routine σ β) :
    (routine.bind continuation).catchPanic =
      routine.catchPanic.bind (containing continuation) := by
  induction routine with
  | done value => rfl
  | panic payload => rfl
  | get next ih => simp only [catchPanic, bind, ih]
  | set state next ih => simp only [catchPanic, bind, ih]
  | log event next ih => simp only [catchPanic, bind, ih]
  | pause next ih => simp only [catchPanic, bind, ih]
  | wait ready next ih => simp only [catchPanic, bind, ih]

/-- A race contains no panic but those of the routine that is raced. -/
theorem catch_panic_unless_stopped (stop : σ → Bool) (instead : α) (routine : Routine σ α) :
    (routine.unlessStopped stop instead).catchPanic =
      routine.catchPanic.unlessStopped stop (.ok instead) := by
  induction routine with
  | done value => rfl
  | panic payload => rfl
  | get next ih => simp only [unlessStopped, catchPanic, ih]
  | set state next ih => simp only [unlessStopped, catchPanic, ih]
  | log event next ih => simp only [unlessStopped, catchPanic, ih]
  | pause next ih =>
      simp only [unlessStopped, catchPanic, ← ih]
      congr 1
      funext state
      split <;> rfl
  | wait ready next ih =>
      simp only [unlessStopped, catchPanic, ← ih]
      congr 2
      funext state
      split <;> rfl

theorem Stays.unless_stopped {keeps : σ → σ → Prop} {routine : Routine σ α} {now : σ}
    (stop : σ → Bool) (instead : α) (stays : routine.Stays keeps now) :
    (routine.unlessStopped stop instead).Stays keeps now := by
  induction routine generalizing now with
  | done value => trivial
  | panic payload => trivial
  | get next ih => exact ih now stays
  | set state next ih => exact ⟨stays.1, ih stays.2⟩
  | log event next ih => exact ih stays
  | pause next ih =>
      simp only [unlessStopped, Stays]
      split
      · trivial
      · exact fun later => ih (stays later)
  | wait ready next ih =>
      intro later
      simp only [Stays]
      split
      · exact ih (stays later)
      · trivial

def Mute (before after : Context σ) : Prop := after.levels = before.levels

def Silent (routine : Routine (Context σ) α) : Prop := ∀ now, routine.Stays Mute now

theorem silent_closed : Closed (σ := Context σ) fun _ routine => routine.Silent where
  done _ _ := trivial
  panic _ _ := trivial
  write _ _ := trivial
  bind first second now := (first now).bind fun value => second value
  catchPanic first now := (first now).catch_panic

theorem silent_with_clock {continuation : Timestamp → Routine (Context σ) α}
    (silent : ∀ time, (continuation time).Silent) : (Context.withClock continuation).Silent := by
  intro now
  simp only [Context.withClock, Stays]
  split
  · trivial
  · exact silent now.now now

theorem Silent.timed {routine : Routine (Context σ) α} (silent : routine.Silent) :
    routine.timed.Silent := by
  apply silent_with_clock
  intro started
  apply silent_closed.bind silent
  intro value
  exact silent_with_clock fun ended => silent_closed.done _

theorem Silent.discard {routine : Routine (Context σ) α} (silent : routine.Silent) :
    (Functor.discard routine : Routine (Context σ) Unit).Silent :=
  silent_closed.bind silent fun _ => silent_closed.done ()

theorem Silent.cancellable {call : Call σ α} (hints : CallHints) (during : Activity)
    (silent : call.run.Silent) : (hints.cancellable during call).run.Silent := by
  intro now
  change Stays Mute (if hints.isCancelled now then _ else _) now
  split
  · trivial
  · exact (silent now).unless_stopped _ _

/-- What a poll owes of a routine whose panic is contained. -/
def Owes (tells : α → List Telling) (begun : Context σ) :
    Terms (Context σ) (Except Panic α) where
  pending now := now.levels = begun.levels
  ended
    | .ok value, now => now.levels = (begun.tell (tells value)).levels
    | .error _, now => now.levels = begun.levels

/-- Whatever others do, the routine tells sinks only when it ends with a value, and then what
goes with the value. -/
def Concludes (tells : α → List Telling) (routine : Routine (Context σ) α) (now : Context σ) :
    Prop :=
  routine.catchPanic.Amid (fun _ _ => True) (Owes tells) (Owes tells now) now

variable {tells : α → List Telling} {now begun : Context σ}

theorem owes_of_levels (same : now.levels = begun.levels) : Owes tells now = Owes tells begun := by
  unfold Owes
  congr
  · rw [same]
  · funext outcome after
    cases outcome with
    | ok value => simp only [Context.levels_tell same (tells value)]
    | error payload => simp only [same]

theorem concludes_done {value : α} (nothing : tells value = []) (now : Context σ) :
    (done value).Concludes tells now := by
  change now.levels = (now.tell (tells value)).levels
  rw [nothing]
  rfl

theorem concludes_step_bind {transition : Context σ → β × Context σ}
    {continuation : β → Routine (Context σ) α} (mute : Mute now (transition now).2)
    (onward : (continuation (transition now).1).Concludes tells (transition now).2) :
    ((step transition).bind continuation).Concludes tells now := by
  change Amid _ _ (continuation (transition now).1).catchPanic (Owes tells now) (transition now).2
  rw [← owes_of_levels mute]
  exact onward

/-- In a poll that has told nothing so far, a silent routine may come before one that
concludes. -/
theorem Stays.then_concludes {routine : Routine (Context σ) β}
    {continuation : β → Routine (Context σ) α} (stays : routine.Stays Mute now)
    (same : now.levels = begun.levels)
    (onward : ∀ value later, (continuation value).Concludes tells later) :
    (routine.bind continuation).catchPanic.Amid (fun _ _ => True) (Owes tells) (Owes tells begun)
      now := by
  induction routine generalizing now begun with
  | done value =>
      rw [← owes_of_levels same]
      exact onward value now
  | panic payload => exact same
  | get next ih => exact ih now stays same
  | set state next ih => exact ih stays.2 (stays.1.trans same)
  | log event next ih => exact ih stays same
  | pause next ih => exact ⟨same, fun later _ => ih (stays later) rfl⟩
  | wait ready next ih =>
      simp only [Routine.bind, catchPanic, Amid]
      split
      · exact ih (stays now) same
      · exact ⟨same, fun later _ _ => ih (stays later) rfl⟩

theorem Silent.concludes {routine : Routine (Context σ) β}
    {continuation : β → Routine (Context σ) α} (silent : routine.Silent)
    (onward : ∀ value later, (continuation value).Concludes tells later) (now : Context σ) :
    (routine.bind continuation).Concludes tells now :=
  (silent now).then_concludes rfl onward

/-- What is told with the value of a call, unless it fails. -/
def unlessFailed (tells : α → List Telling) : Except Failure α → List Telling
  | .ok value => tells value
  | .error _ => []

/-- A race concludes as the work does, and tells nothing if it is lost. -/
theorem Concludes.cancellable {levels : Routine (Context σ) α} (hints : CallHints)
    (during : Activity) (concludes : levels.Concludes tells now) :
    (hints.cancellable during (ExceptT.lift levels)).run.Concludes (unlessFailed tells) now := by
  have lifted : (levels.bind fun value => done (Except.ok value)).catchPanic.Amid
      (fun _ _ => True) (Owes (unlessFailed tells)) (Owes (unlessFailed tells) now) now := by
    have implies : ∀ begun : Context σ, (Owes tells begun).Implies
        (Onward (fun _ _ => True) (Owes (unlessFailed tells))
          (containing fun value => done (Except.ok value)) (Owes (unlessFailed tells) begun)) := by
      intro begun
      refine ⟨fun _ pending => pending, ?_⟩
      intro outcome after ended
      cases outcome <;> exact ended
    rw [catch_panic_bind, ← bind_eq, amid_bind]
    exact concludes.imp (fun _ _ changed => changed) implies (implies now)
  change Amid _ _ (catchPanic (if hints.isCancelled now then _ else _)) _ now
  split
  · exact concludes_done rfl now
  · rw [catch_panic_unless_stopped]
    apply lifted.unless_stopped
    · exact fun _ _ _ => rfl
    · exact fun _ _ pending => pending
    · exact fun _ pending => pending

theorem poll_catch_panic (routine : Routine σ α) (now : σ) :
    routine.catchPanic.poll now = (routine.poll now).handled done := by
  rw [← poll_handled, bind_done]

/-- How a poll leaves a routine that concludes. -/
def Concluded (tells : α → List Telling) (begun : Context σ) (polled : Polled (Context σ) α) :
    Prop :=
  match polled.progress with
  | .returned value => polled.state.levels = (begun.tell (tells value)).levels
  | .panicked _ => polled.state.levels = begun.levels
  | .pending _ rest =>
      polled.state.levels = begun.levels ∧ ∀ later, rest.Concludes tells later

theorem Concludes.poll {routine : Routine (Context σ) α} (concludes : routine.Concludes tells now) :
    Concluded tells now (routine.poll now) := by
  have kept : Kept (fun _ _ => True) (Owes tells) (Owes tells now)
      (routine.catchPanic.poll now).progress (routine.catchPanic.poll now).state :=
    Amid.poll concludes (fun _ _ _ _ _ => trivial) fun _ _ _ => rfl
  rw [poll_catch_panic] at kept
  generalize routine.poll now = polled at kept
  obtain ⟨progress, state, log⟩ := polled
  cases progress with
  | returned value => exact kept
  | panicked payload => exact kept
  | pending woken rest =>
      simp only [Polled.handled, Kept, bind_done] at kept
      exact ⟨kept.1, fun later => kept.2 later trivial⟩

end Routine

end TokenPersistence
