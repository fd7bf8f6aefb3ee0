import TokenPersistence.Proofs.Routine.Handlers
import TokenPersistence.Rehearsal.HookDrill

/-!
# Failures are contained once

A wrapped hook goes through the polls of its hook. The poll in which the hook ends is the
last one, and there what went wrong is logged, shown to the observer and forgotten, so that
the host sees success. A hook that never panics and never fails is not changed by being
wrapped, and a wrapped hook is one of those: layers around it have nothing left to do.
-/

namespace TokenPersistence

set_option autoImplicit false

variable {σ : Type}

/-- How a hook has failed by now, if it has. A panic is a failure of the hook. -/
def Polled.failure? (polled : Polled σ (Except Failure Unit)) : Option Failure :=
  match polled.progress with
  | .returned (.error failure) => some failure
  | .panicked panic => some (Failure.withText .hook panic.report)
  | .returned (.ok ()) => none
  | .pending _ _ => none

namespace SafeWiring

def answer (wiring : SafeWiring σ) (kind : HookKind)
    (outcome : Except Panic (Except Failure Unit)) :
    Routine (Context σ) (Except Failure Unit) :=
  Routine.bind
    (match hookFailure? outcome with
    | none => .done ()
    | some failure => wiring.suppress kind failure)
    fun _ => .done (.ok ())

theorem run_wrap (wiring : SafeWiring σ) (kind : HookKind) (hook : AccessHook σ)
    (access : Access σ) :
    (wiring.wrap kind hook access).run =
      (hook access).run.catchPanic.bind (wiring.answer kind) :=
  Routine.bind_assoc _ _ _

theorem ends_by_notify (wiring : SafeWiring σ) (observed : HookFailure) :
    (wiring.notify observed).EndsBy fun _ => True := by
  unfold notify
  cases wiring.observer with
  | none => trivial
  | some observer =>
      apply (Routine.ends_by_catch_panic (observer observed)).bind
      intro outcome _
      cases outcome <;> trivial

theorem ends_by_answer (wiring : SafeWiring σ) (kind : HookKind)
    (outcome : Except Panic (Except Failure Unit)) :
    (wiring.answer kind outcome).EndsBy (· = .ok ()) := by
  have told : (match hookFailure? outcome with
      | none => .done ()
      | some failure => wiring.suppress kind failure :
        Routine (Context σ) Unit).EndsBy fun _ => True := by
    cases hookFailure? outcome with
    | none => trivial
    | some failure => exact wiring.ends_by_notify ⟨kind, failure⟩
  exact told.bind fun _ _ => rfl

theorem ends_by_wrap (wiring : SafeWiring σ) (kind : HookKind) (hook : AccessHook σ)
    (access : Access σ) : (wiring.wrap kind hook access).run.EndsBy (· = .ok ()) := by
  rw [run_wrap]
  exact (Routine.ends_by_catch_panic (hook access).run).bind fun outcome _ =>
    wiring.ends_by_answer kind outcome

/-- A wrapped hook is not changed by another layer, whatever its kind and its observer. -/
theorem wrap_wrap (outer inner : SafeWiring σ) (outerKind kind : HookKind)
    (hook : AccessHook σ) :
    outer.wrap outerKind (inner.wrap kind hook) = inner.wrap kind hook := by
  funext access
  apply ExceptT.ext
  rw [run_wrap]
  apply (inner.ends_by_wrap kind hook access).catch_panic_bind
  rintro value rfl
  rfl

/-- A hook with layers of safe wiring around it, the outermost one first. -/
def layered (layers : List (SafeWiring σ × HookKind)) (hook : AccessHook σ) : AccessHook σ :=
  layers.foldr (fun layer inner => layer.1.wrap layer.2 inner) hook

theorem layered_wrap (layers : List (SafeWiring σ × HookKind)) (wiring : SafeWiring σ)
    (kind : HookKind) (hook : AccessHook σ) :
    layered layers (wiring.wrap kind hook) = wiring.wrap kind hook := by
  induction layers with
  | nil => rfl
  | cons layer layers ih =>
      change layer.1.wrap layer.2 (layered layers (wiring.wrap kind hook)) = _
      rw [ih]
      exact wrap_wrap layer.1 wiring layer.2 kind hook

section Polls

variable {wiring : SafeWiring σ} {kind : HookKind} {hook : AccessHook σ} {access : Access σ}
  {outside : Nat → Context σ → Context σ} {start : Context σ} {polls : Nat}

theorem handled_of_failure {polled : Polled (Context σ) (Except Failure Unit)}
    {failure : Failure} (failed : polled.failure? = some failure) :
    polled.handled (wiring.answer kind) =
      ((((wiring.notify ⟨kind, failure⟩).bind fun _ => .done (.ok ())).poll polled.state).onto
        [.failureSuppressed kind failure]).onto polled.log := by
  obtain ⟨progress, state, log⟩ := polled
  unfold Polled.failure? at failed
  cases progress with
  | returned outcome =>
      cases outcome with
      | ok done => cases failed
      | error other =>
          cases failed
          rfl
  | panicked payload =>
      cases failed
      rfl
  | pending woken rest => cases failed

/-- What the observer shows when it is told, and what is logged of it. -/
theorem poll_notify {observer : FailureObserver σ} (present : wiring.observer = some observer)
    (observed : HookFailure) (now : Context σ) :
    ((wiring.notify observed).bind fun _ => (.done (.ok ()) : Routine _ (Except Failure Unit))).poll
        now =
      ((observer observed).poll now).handled fun
        | .ok () => .done (.ok ())
        | .error panic => .log (.observerPanicked observed.hook panic.report) (.done (.ok ())) := by
  unfold notify
  rw [present]
  change (Routine.bind (Routine.bind (observer observed).catchPanic _) _).poll now = _
  rw [Routine.bind_assoc, ← Routine.poll_handled]
  congr 2
  funext outcome
  cases outcome <;> rfl

theorem handled_of_success {polled : Polled (Context σ) (Except Failure Unit)}
    (succeeded : polled.progress = .returned (.ok ())) :
    polled.handled (wiring.answer kind) = polled := by
  obtain ⟨progress, state, log⟩ := polled
  obtain rfl : progress = .returned (.ok ()) := succeeded
  simp [Polled.handled, answer, hookFailure?, Routine.bind, Routine.poll, Polled.onto]

theorem after_polls_wrap_pending {woken : Bool}
    {rest : Routine (Context σ) (Except Failure Unit)}
    (pending : ((hook access).run.afterPolls outside start polls).progress =
      .pending woken rest) :
    (wiring.wrap kind hook access).run.afterPolls outside start polls =
      { (hook access).run.afterPolls outside start polls with
        progress := .pending woken (rest.catchPanic.bind (wiring.answer kind)) } := by
  rw [run_wrap, Routine.after_polls_handled polls fun ended => by
    simp [pending, Progress.isPending] at ended]
  rw [Polled.handled, pending]

theorem after_polls_wrap_ended {last : Polled (Context σ) (Except Failure Unit)}
    (handled : ((hook access).run.afterPolls outside start polls).handled
      (wiring.answer kind) = last)
    (ended : last.progress.isPending = false) :
    (wiring.wrap kind hook access).run.afterPolls outside start polls = last := by
  rw [run_wrap, Routine.after_polls_handled polls fun _ => handled ▸ ended, handled]

end Polls

/-- Whatever the hook does, and whatever happens between the polls: while the hook is pending
the wrapped hook is, and nothing is added to what the hook does; a hook that succeeds is left
as it is; and in the poll in which the hook fails or panics the wrapped hook succeeds, after
one warning, one call of the observer with that failure, and one more warning if and only if
the observer has panicked. Further layers, of any kinds, make no difference at all. -/
theorem failures_contained_once (wiring : SafeWiring σ) (kind : HookKind) (hook : AccessHook σ)
    (access : Access σ) (layers : List (SafeWiring σ × HookKind))
    (outside : Nat → Context σ → Context σ) (start : Context σ) :
    layered layers (wiring.wrap kind hook) = wiring.wrap kind hook ∧
    ∀ polls,
      let own := (hook access).run.afterPolls outside start polls
      let wrapped := (wiring.wrap kind hook access).run.afterPolls outside start polls
      (own.progress.isPending = true →
        wrapped.progress.isPending = true ∧ wrapped.state = own.state ∧ wrapped.log = own.log) ∧
      (own.progress = .returned (.ok ()) → wrapped = own) ∧
      ∀ failure, own.failure? = some failure →
        let warned := own.log ++ [.failureSuppressed kind failure]
        (wiring.observer = none → wrapped = ⟨.returned (.ok ()), own.state, warned⟩) ∧
        ∀ observer, wiring.observer = some observer →
          let told := (observer ⟨kind, failure⟩).poll own.state
          (told.progress = .returned () →
            wrapped = ⟨.returned (.ok ()), told.state, warned ++ told.log⟩) ∧
          ∀ panic, told.progress = .panicked panic →
            wrapped = ⟨.returned (.ok ()), told.state,
              warned ++ told.log ++ [.observerPanicked kind panic.report]⟩ := by
  refine ⟨layered_wrap layers wiring kind hook, ?_⟩
  intro polls own wrapped
  refine ⟨?_, ?_, ?_⟩
  · intro pending
    cases progress : own.progress with
    | pending woken rest =>
        have reached : wrapped = _ := after_polls_wrap_pending progress
        rw [reached]
        exact ⟨rfl, rfl, rfl⟩
    | returned outcome => simp [progress, Progress.isPending] at pending
    | panicked payload => simp [progress, Progress.isPending] at pending
  · intro succeeded
    apply after_polls_wrap_ended (handled_of_success succeeded)
    rw [show (Routine.afterPolls _ _ _ _).progress = _ from succeeded]
    rfl
  · intro failure failed warned
    have handled : own.handled (wiring.answer kind) = _ := handled_of_failure failed
    refine ⟨?_, ?_⟩
    · intro absent
      apply after_polls_wrap_ended _ rfl
      rw [handled]
      unfold notify
      rw [absent]
      rfl
    · intro observer present told
      rw [poll_notify present] at handled
      refine ⟨?_, ?_⟩
      · intro returned
        apply after_polls_wrap_ended _ rfl
        rw [handled, Polled.handled, returned]
        simp [Routine.poll, Polled.onto, warned, own, told]
      · intro panic panicked
        apply after_polls_wrap_ended _ rfl
        rw [handled, Polled.handled, panicked]
        simp [Routine.poll, Polled.onto, warned, own, told]

end SafeWiring

namespace Rehearsal

/-- The observer panics once it has written down what it was told. -/
def shakenDrill : HookDrill where
  observer := some .panickingByHook
  hooks := none
  strict := false

def latePanic : HookPart where
  name := "late"
  pausesFirst := true
  ending := .panicked (.message "static message")

def drillStart : Context DrillNotes := Context.initial Timestamp.epoch DrillNotes.empty

/-- The hook panics in its second poll. Two further layers tell nobody anything. -/
theorem late_panic_contained_once :
    let wiring := shakenDrill.wiring
    let failure := Failure.withText .hook "hook panicked: static message"
    let wrapped := (SafeWiring.layered [(wiring, .beforeWrite), (wiring, .beforeAccess)]
      (wiring.wrap .afterAccess latePanic.toHook) idleAccess).run.afterPolls
        (fun _ context => context) drillStart 2
    wrapped.progress = .returned (.ok ()) ∧
      wrapped.state.data = ⟨["late"], [⟨.afterAccess, failure⟩]⟩ ∧
      wrapped.log = [.failureSuppressed .afterAccess failure,
        .observerPanicked .afterAccess "hook panicked: observer gave up on after_access"] := by
  intro wiring failure wrapped
  obtain ⟨unlayered, contained⟩ := SafeWiring.failures_contained_once wiring .afterAccess
    latePanic.toHook idleAccess [(wiring, .beforeWrite), (wiring, .beforeAccess)]
    (fun _ context => context) drillStart
  obtain ⟨_, _, fails⟩ := contained 2
  have reached := ((fails failure rfl).2 _ rfl).2 _ rfl
  rw [← unlayered] at reached
  change wrapped = _ at reached
  rw [reached]
  exact ⟨rfl, rfl, rfl⟩

end Rehearsal

end TokenPersistence
