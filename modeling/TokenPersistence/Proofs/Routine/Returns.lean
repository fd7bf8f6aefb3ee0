import TokenPersistence.Hints
import TokenPersistence.Timed

/-!
# Runs that return

A run returns with a condition if it ends with a value, and the value and the last
state meet the condition. Each way of putting routines together has a rule that says
what it needs for this, so that a condition is pushed through a routine from its end
to its start; only the routines of other parties stay in it. A race against a token
that is never cancelled while the work is left pending is no race: it runs as the
work alone.
-/

namespace TokenPersistence

set_option autoImplicit false

variable {σ α β : Type}

namespace Routine

def Returns (routine : Routine σ α) (start : σ) (post : α → σ → Prop) : Prop :=
  ∃ value, (routine.run start).ending = .returned value ∧
    post value (routine.run start).state

theorem Returns.imp {routine : Routine σ α} {start : σ} {first second : α → σ → Prop}
    (returns : routine.Returns start first)
    (implies : ∀ value after, first value after → second value after) :
    routine.Returns start second := by
  obtain ⟨value, ending, holds⟩ := returns
  exact ⟨value, ending, implies value _ holds⟩

theorem Returns.and {routine : Routine σ α} {start : σ} {first second : α → σ → Prop}
    (returnsFirst : routine.Returns start first) (returnsSecond : routine.Returns start second) :
    routine.Returns start fun value after => first value after ∧ second value after := by
  obtain ⟨value, ending, holdsFirst⟩ := returnsFirst
  obtain ⟨other, sameEnding, holdsSecond⟩ := returnsSecond
  have same : value = other := by
    rw [ending] at sameEnding
    exact Ending.returned.inj sameEnding
  subst same
  exact ⟨value, ending, holdsFirst, holdsSecond⟩

theorem Returns.state {routine : Routine σ α} {start : σ} {post : σ → Prop}
    (returns : routine.Returns start fun _ after => post after) :
    post (routine.run start).state := by
  obtain ⟨value, _, holds⟩ := returns
  exact holds

@[simp] theorem returns_pure (value : α) (start : σ) (post : α → σ → Prop) :
    (pure value : Routine σ α).Returns start post ↔ post value start := by
  simp [Returns, pure_eq, run]

@[simp] theorem returns_done (value : α) (start : σ) (post : α → σ → Prop) :
    (done value).Returns start post ↔ post value start :=
  returns_pure value start post

@[simp] theorem returns_bind (routine : Routine σ α) (continuation : α → Routine σ β)
    (start : σ) (post : β → σ → Prop) :
    (routine >>= continuation).Returns start post ↔
      routine.Returns start fun value after => (continuation value).Returns after post := by
  unfold Returns
  rw [bind_eq, run_bind]
  unfold andThen
  cases (routine.run start).ending with
  | returned value => simp
  | panicked payload => simp
  | stalled => simp

@[simp] theorem returns_discard (routine : Routine σ α) (start : σ) (post : Unit → σ → Prop) :
    (Functor.discard routine : Routine σ Unit).Returns start post ↔
      routine.Returns start fun _ after => post () after := by
  change (routine >>= fun _ => pure ()).Returns start post ↔ _
  simp only [returns_bind, returns_pure]

@[simp] theorem returns_write (event : LogEvent) (start : σ) (post : Unit → σ → Prop) :
    (write event).Returns start post ↔ post () start :=
  returns_done () start post

@[simp] theorem returns_modify (change : σ → σ) (start : σ) (post : Unit → σ → Prop) :
    (modify change).Returns start post ↔ post () (change start) :=
  returns_done () (change start) post

@[simp] theorem returns_step (transition : σ → α × σ) (start : σ) (post : α → σ → Prop) :
    (step transition).Returns start post ↔ post (transition start).1 (transition start).2 :=
  returns_done (transition start).1 (transition start).2 post

/-- At no suspension point of the run does the condition hold. -/
def Unstopped (stop : σ → Bool) : Routine σ α → σ → Prop
  | done _, _ => True
  | panic _, _ => True
  | get next, state => (next state).Unstopped stop state
  | set state next, _ => next.Unstopped stop state
  | log _ next, state => next.Unstopped stop state
  | pause next, state => stop state = false ∧ next.Unstopped stop state
  | wait ready next, state =>
      if ready state then next.Unstopped stop state else stop state = false

theorem run_unless_stopped (stop : σ → Bool) (otherwise : α) (routine : Routine σ α)
    (start : σ) (unstopped : routine.Unstopped stop start) :
    (routine.unlessStopped stop otherwise).run start = routine.run start := by
  induction routine generalizing start with
  | done value => rfl
  | panic payload => rfl
  | get next ih => exact ih start start unstopped
  | set state next ih => exact ih state unstopped
  | log event next ih => simp only [unlessStopped, run, ih start unstopped]
  | pause next ih =>
      obtain ⟨goesOn, rest⟩ := unstopped
      simp only [unlessStopped, run, goesOn, Bool.false_eq_true, if_false]
      exact ih start rest
  | wait ready next ih =>
      simp only [Unstopped] at unstopped
      by_cases due : ready start = true
      · simp only [due, if_true] at unstopped
        simp only [unlessStopped, run, due, Bool.true_or, if_true]
        exact ih start unstopped
      · rw [if_neg due] at unstopped
        simp only [unlessStopped, run, due, unstopped, Bool.or_self, Bool.false_eq_true,
          if_false]

theorem unstopped_of_returned (stop : σ → Bool) (instead value : α) (routine : Routine σ α)
    (start : σ) (different : value ≠ instead)
    (ending : ((routine.unlessStopped stop instead).run start).ending = .returned value) :
    routine.Unstopped stop start := by
  induction routine generalizing start with
  | done value => trivial
  | panic payload => trivial
  | get next ih => exact ih start start ending
  | set state next ih => exact ih state ending
  | log event next ih => exact ih start ending
  | pause next ih =>
      simp only [unlessStopped, run] at ending
      split at ending
      · exact absurd (Ending.returned.inj ending).symm different
      · next goesOn => exact ⟨Bool.eq_false_iff.mpr goesOn, ih start ending⟩
  | wait ready next ih =>
      simp only [unlessStopped, run] at ending
      unfold Unstopped
      cases due : ready start with
      | true =>
          simp only [due, Bool.true_or, if_true] at ending ⊢
          exact ih start ending
      | false =>
          simp only [due, Bool.false_or, Bool.false_eq_true, if_false] at ending ⊢
          split at ending
          · exact absurd (Ending.returned.inj ending).symm different
          · next goesOn => exact Bool.eq_false_iff.mpr goesOn

end Routine

namespace Context

@[simp] theorem returns_with_clock (continuation : Timestamp → Routine (Context σ) α)
    (start : Context σ) (post : α → Context σ → Prop) :
    (withClock continuation).Returns start post ↔
      start.clockIsBroken = false ∧ (continuation start.now).Returns start post := by
  unfold Routine.Returns withClock
  cases broken : start.clockIsBroken with
  | false => simp [Routine.run, broken]
  | true => simp [Routine.run, broken]

end Context

@[simp] theorem Routine.returns_timed (routine : Routine (Context σ) α) (start : Context σ)
    (post : Timed α → Context σ → Prop) :
    routine.timed.Returns start post ↔
      start.clockIsBroken = false ∧ routine.Returns start fun value after =>
        after.clockIsBroken = false ∧
          post ⟨value, Timestamp.elapsed start.now after.now⟩ after := by
  unfold Routine.timed
  rw [Context.returns_with_clock]
  change _ ∧ (routine >>= _).Returns start post ↔ _
  simp only [returns_bind, Context.returns_with_clock, returns_done]

namespace Cell

variable {τ : Type}

@[simp] theorem returns_step (cell : Cell σ τ) (transition : τ → α × τ) (start : Context σ)
    (post : α → Context σ → Prop) :
    (cell.step transition).Returns start post ↔
      post (transition (cell.get start.data)).1
        { start with data := cell.put (transition (cell.get start.data)).2 start.data } := by
  simp [step]

@[simp] theorem returns_modify (cell : Cell σ τ) (change : τ → τ) (start : Context σ)
    (post : Unit → Context σ → Prop) :
    (cell.modify change).Returns start post ↔
      post () { start with data := cell.put (change (cell.get start.data)) start.data } := by
  simp [modify]

end Cell

namespace Call

@[simp] theorem returns_lift (routine : Routine (Context σ) α) (start : Context σ)
    (post : Except Failure α → Context σ → Prop) :
    (ExceptT.lift routine : Call σ α).run.Returns start post ↔
      routine.Returns start fun value after => post (.ok value) after := by
  change (routine >>= fun value => pure (Except.ok value)).Returns start post ↔ _
  simp only [Routine.returns_bind, Routine.returns_pure]

@[simp] theorem returns_pure (value : α) (start : Context σ)
    (post : Except Failure α → Context σ → Prop) :
    (pure value : Call σ α).run.Returns start post ↔ post (.ok value) start :=
  Routine.returns_done (Except.ok value) start post

@[simp] theorem returns_log (event : LogEvent) (start : Context σ)
    (post : Except Failure Unit → Context σ → Prop) :
    (Call.log event : Call σ Unit).run.Returns start post ↔ post (.ok ()) start :=
  Routine.returns_done (Except.ok ()) start post

/-- What is left to show of an outcome, when a call follows on it. -/
def Onward (continuation : α → Call σ β) (post : Except Failure β → Context σ → Prop) :
    Except Failure α → Context σ → Prop
  | .ok value, after => (continuation value).run.Returns after post
  | .error failure, after => post (.error failure) after

@[simp] theorem onward_ok (continuation : α → Call σ β)
    (post : Except Failure β → Context σ → Prop) (value : α) (after : Context σ) :
    Onward continuation post (.ok value) after ↔
      (continuation value).run.Returns after post := Iff.rfl

@[simp] theorem onward_error (continuation : α → Call σ β)
    (post : Except Failure β → Context σ → Prop) (failure : Failure) (after : Context σ) :
    Onward continuation post (.error failure) after ↔ post (.error failure) after := Iff.rfl

@[simp] theorem returns_bind (call : Call σ α) (continuation : α → Call σ β)
    (start : Context σ) (post : Except Failure β → Context σ → Prop) :
    (call >>= continuation).run.Returns start post ↔
      call.run.Returns start (Onward continuation post) := by
  change (call.run >>= ExceptT.bindCont continuation).Returns start post ↔ _
  rw [Routine.returns_bind]
  constructor
  · intro returns
    apply returns.imp
    intro outcome after continues
    cases outcome with
    | ok value => exact continues
    | error failure => exact (Routine.returns_done _ after post).mp continues
  · intro returns
    apply returns.imp
    intro outcome after continues
    cases outcome with
    | ok value => exact continues
    | error failure => exact (Routine.returns_done _ after post).mpr continues

end Call

namespace CallHints

/-- The token of the hints is not cancelled when the call starts, nor whenever the call
is left pending. -/
def Uncancelled (hints : CallHints) (call : Call σ α) (start : Context σ) : Prop :=
  hints.isCancelled start = false ∧ call.run.Unstopped hints.isCancelled start

theorem run_cancellable (hints : CallHints) (during : Activity) (call : Call σ α)
    (start : Context σ) (uncancelled : hints.Uncancelled call start) :
    (hints.cancellable during call).run.run start = call.run.run start := by
  obtain ⟨fresh, unstopped⟩ := uncancelled
  change Routine.run (if hints.isCancelled start then _ else _) start = _
  rw [fresh]
  exact Routine.run_unless_stopped _ _ _ start unstopped

theorem uncancelled_of_returned (hints : CallHints) (during : Activity) (call : Call σ α)
    (start : Context σ) (value : α)
    (ending : ((hints.cancellable during call).run.run start).ending = .returned (.ok value)) :
    hints.Uncancelled call start := by
  change (Routine.run (if hints.isCancelled start then _ else _) start).ending = _ at ending
  split at ending
  · cases ending
  · next fresh =>
      exact ⟨Bool.eq_false_iff.mpr fresh,
        Routine.unstopped_of_returned _ _ _ _ start (by simp) ending⟩

theorem returns_cancellable (hints : CallHints) (during : Activity) (call : Call σ α)
    (start : Context σ) (post : Except Failure α → Context σ → Prop)
    (uncancelled : hints.Uncancelled call start) :
    (hints.cancellable during call).run.Returns start post ↔ call.run.Returns start post := by
  unfold Routine.Returns
  rw [run_cancellable hints during call start uncancelled]

theorem returns_refused (hints : CallHints) (during : Activity) (call : Call σ α)
    (start : Context σ) (post : Except Failure α → Context σ → Prop)
    (cancelled : hints.isCancelled start = true) :
    (hints.cancellable during call).run.Returns start post ↔
      post (.error (Failure.cancelled during)) start := by
  change Routine.Returns (Routine.get fun context =>
    if hints.isCancelled context then .done (.error (Failure.cancelled during)) else _)
      start post ↔ _
  unfold Routine.Returns
  simp [Routine.run, cancelled]

theorem returns_uncancelled (hints : CallHints) (during : Activity)
    (levels : Routine (Context σ) α) (now : Context σ)
    (uncancelled : hints.Uncancelled (ExceptT.lift levels) now)
    {post : α → Context σ → Prop} (returns : levels.Returns now post) :
    (hints.cancellable during (ExceptT.lift levels)).run.Returns now fun outcome after =>
      ∃ value, outcome = .ok value ∧ post value after := by
  rw [hints.returns_cancellable during _ now _ uncancelled, Call.returns_lift]
  apply returns.imp
  intro value after holds
  exact ⟨value, rfl, holds⟩

theorem state_uncancelled (hints : CallHints) (during : Activity)
    (levels : Routine (Context σ) α) (now : Context σ)
    (uncancelled : hints.Uncancelled (ExceptT.lift levels) now)
    {post : Context σ → Prop} (returns : levels.Returns now fun _ after => post after) :
    post ((hints.cancellable during (ExceptT.lift levels)).run.run now).state := by
  apply Routine.Returns.state
  apply (returns_uncancelled hints during levels now uncancelled returns).imp
  intro outcome after ended
  obtain ⟨_, _, holds⟩ := ended
  exact holds

@[simp] theorem data_report (hints : CallHints) (level : CacheLevel) (context : Context σ) :
    (hints.report level context).data = context.data := by
  unfold report
  split <;> rfl

@[simp] theorem clock_report (hints : CallHints) (level : CacheLevel) (context : Context σ) :
    (hints.report level context).clockIsBroken = context.clockIsBroken := by
  unfold report
  split <;> rfl

@[simp] theorem uptime_report (hints : CallHints) (level : CacheLevel) (context : Context σ) :
    (hints.report level context).uptime = context.uptime := by
  unfold report
  split <;> rfl

@[simp] theorem returns_report_level (hints : CallHints) (level : CacheLevel)
    (start : Context σ) (post : Unit → Context σ → Prop) :
    (hints.reportLevel level).Returns start post ↔ post () (hints.report level start) :=
  Routine.returns_modify (hints.report level) start post

theorem unstopped_of_no_token (routine : Routine (Context σ) α) (start : Context σ)
    (hints : CallHints) (tokenless : hints.cancellation = Option.none) :
    routine.Unstopped hints.isCancelled start := by
  have never : ∀ state : Context σ, hints.isCancelled state = false := by
    intro state
    simp [isCancelled, tokenless]
  induction routine generalizing start with
  | done value => trivial
  | panic payload => trivial
  | get next ih => exact ih start start
  | set state next ih => exact ih state
  | log event next ih => exact ih start
  | pause next ih => exact ⟨never start, ih start⟩
  | wait ready next ih =>
      simp only [Routine.Unstopped]
      split
      · exact ih start
      · exact never start

end CallHints

end TokenPersistence
