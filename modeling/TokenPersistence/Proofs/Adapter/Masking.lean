import TokenPersistence.Proofs.Adapter.Watched

/-!
# Safe wiring masks the outcome

A host that is wired safely makes an adapter do what it does for a host that is wired
strictly and contains whatever it meets. The two runs ask the same of the parts, in the
same order, and leave the same behind. They differ in how the invocations end, and in
what the observer has been told: the safe host sees success, and the observer has been
told of each strict invocation that failed, a panic being told as a failure of the hook.
-/

namespace TokenPersistence

set_option autoImplicit false

variable {σ ρ : Type}

/-- How an invocation ends for a host that is wired safely. -/
def Ending.masked : Ending (Except Failure Unit) → Ending (Except Failure Unit)
  | .returned _ => .returned (.ok ())
  | .panicked _ => .returned (.ok ())
  | .stalled => .stalled

def HookFailure.ofEnding? (kind : HookKind) : Ending (Except Failure Unit) → Option HookFailure
  | .returned (.ok ()) => none
  | .returned (.error failure) => some ⟨kind, failure⟩
  | .panicked panic => some ⟨kind, Failure.withText .hook panic.report⟩
  | .stalled => none

namespace AdapterParts

open Watched

variable (parts : AdapterParts σ ρ)

/-- What an observer has been told once there are further failures, if there is one. -/
def informed (told failures : List HookFailure) : List HookFailure :=
  if parts.observer.isSome then told ++ failures else told

theorem informed_nil (told : List HookFailure) : parts.informed told [] = told := by
  unfold informed
  simp

theorem informed_append (told first second : List HookFailure) :
    parts.informed (parts.informed told first) second =
      parts.informed told (first ++ second) := by
  unfold informed
  split
  · exact List.append_assoc told first second
  · rfl

/-- Telling the observer changes nothing but what it keeps, and always succeeds. -/
theorem leaves_suppress (kind : HookKind) (failure : Failure)
    (start : Context (Watched σ ρ)) :
    (SafeWiring.suppress ⟨parts.adapter.observer⟩ kind failure).Leaves start
      fun ending after => ending = .returned () ∧
        ∃ observed, after = observedCell.change observed start ∧
          observed.told = parts.informed start.data.observed.told [⟨kind, failure⟩] := by
  unfold SafeWiring.suppress SafeWiring.notify adapter informed
  rw [Routine.leaves_bind, Routine.leaves_write]
  cases parts.observer with
  | none => exact ⟨rfl, start.data.observed, rfl, rfl⟩
  | some react =>
      simp only [Routine.Follow, Option.map_some]
      rw [Routine.leaves_bind, Routine.leaves_catch_panic, leaves_observer]
      cases (react ⟨kind, failure⟩ start.data.observed.own).1 with
      | none => exact ⟨rfl, _, rfl, rfl⟩
      | some panic => exact ⟨rfl, _, rfl, rfl⟩

/-- One invocation under each wiring, from contexts that may differ in what the observer
keeps: the ending is masked, and the contexts still differ in nothing else. -/
theorem safe_invocation_masks (kind : HookKind) (access : Access σ) (name : String)
    (observed : Observations ρ) (start : Context (Watched σ ρ)) :
    let strict := (parts.adapter.hooks.invoke kind (access.watched name)).run.run start
    (parts.adapter.safeHooks.invoke kind (access.watched name)).run.Leaves
      (observedCell.change observed start) fun ending after =>
        ending = strict.ending.masked ∧ ∃ later,
          after = observedCell.change later strict.state ∧
            later.told =
              parts.informed observed.told (HookFailure.ofEnding? kind strict.ending).toList := by
  intro strict
  -- The strict hook runs alike from both contexts; what safe wiring adds is the telling.
  have blind := parts.blind_hook access name kind observed start
  have told : ∀ failure,
      HookFailure.ofEnding? kind strict.ending = some ⟨kind, failure⟩ →
        (SafeWiring.suppress ⟨parts.adapter.observer⟩ kind failure).Leaves
          (observedCell.change observed strict.state)
          (Call.Succeed fun ending after => ending = .returned (.ok ()) ∧ ∃ later,
            after = observedCell.change later strict.state ∧
              later.told =
                parts.informed observed.told
                  (HookFailure.ofEnding? kind strict.ending).toList) := by
    intro failure failed
    apply (parts.leaves_suppress kind failure _).imp
    rintro ending after ⟨rfl, later, rfl, informed⟩
    refine ⟨rfl, later, rfl, ?_⟩
    rw [failed]
    exact informed
  unfold AccessHooks.invoke Adapter.safeHooks SafeWiring.wrapAll
  rw [AccessHooks.hook_of_kinds, SafeWiring.leaves_wrap]
  unfold Routine.Leaves
  change (parts.adapter.hooks.hook kind (access.watched name)).run.run _ = _ at blind
  rw [blind]
  change SafeWiring.Mask _ kind _ strict.ending (observedCell.change observed strict.state)
  cases ending : strict.ending with
  | returned outcome =>
      cases outcome with
      | ok done => exact ⟨rfl, observed, rfl, (parts.informed_nil observed.told).symm⟩
      | error failure =>
          rw [ending] at told
          exact told failure rfl
  | panicked payload =>
      rw [ending] at told
      exact told payload.asFailure rfl
  | stalled => exact ⟨rfl, observed, rfl, (parts.informed_nil observed.told).symm⟩

end AdapterParts

/-! ## Runs of a host -/

/-- A host invokes a hook, or something happens to the parts between two invocations. -/
inductive HostStep (σ : Type) where
  | invoke (kind : HookKind) (access : Access σ) (collection : String)
  | between (change : Context σ → Context σ)

structure HostRun (σ ρ : Type) where
  endings : List (HookKind × Ending (Except Failure Unit))
  state : Context (Watched σ ρ)

namespace AccessHooks

open Watched

def play (hooks : AccessHooks (Watched σ ρ)) :
    List (HostStep σ) → Context (Watched σ ρ) → HostRun σ ρ
  | [], context => ⟨[], context⟩
  | .invoke kind access collection :: steps, context =>
      let ran := (hooks.invoke kind (access.watched collection)).run.run context
      let rest := hooks.play steps ran.state
      { rest with endings := (kind, ran.ending) :: rest.endings }
  | .between change :: steps, context =>
      hooks.play steps (partsCell.widen (change (partsCell.narrow context)) context)

end AccessHooks

def HostRun.failures (run : HostRun σ ρ) : List HookFailure :=
  run.endings.filterMap fun (kind, ending) => HookFailure.ofEnding? kind ending

theorem HostRun.failures_cons (kind : HookKind) (ending : Ending (Except Failure Unit))
    (run : HostRun σ ρ) :
    HostRun.failures { run with endings := (kind, ending) :: run.endings } =
      (HookFailure.ofEnding? kind ending).toList ++ run.failures := by
  simp only [HostRun.failures, List.filterMap_cons]
  cases HookFailure.ofEnding? kind ending <;> rfl

namespace AdapterParts

open Watched

variable (parts : AdapterParts σ ρ)

/-- From contexts that may differ in what the observer keeps, as `safe_invocation_masks`
needs it of each invocation in turn. -/
theorem safe_run_masks (steps : List (HostStep σ)) (observed : Observations ρ)
    (start : Context (Watched σ ρ)) :
    let strict := parts.adapter.hooks.play steps start
    let safe := parts.adapter.safeHooks.play steps (observedCell.change observed start)
    safe.endings = strict.endings.map (fun (kind, ending) => (kind, ending.masked)) ∧
      ∃ later, safe.state = observedCell.change later strict.state ∧
        later.told = parts.informed observed.told strict.failures := by
  induction steps generalizing observed start with
  | nil => exact ⟨rfl, observed, rfl, (parts.informed_nil observed.told).symm⟩
  | cons step steps ih =>
      cases step with
      | invoke kind access collection =>
          obtain ⟨masked, between, same, informed⟩ :=
            parts.safe_invocation_masks kind access collection observed start
          obtain ⟨endings, later, left, told⟩ := ih between
            ((parts.adapter.hooks.invoke kind (access.watched collection)).run.run start).state
          simp only [AccessHooks.play, masked, same, endings]
          refine ⟨rfl, later, left, ?_⟩
          rw [told, informed, informed_append, HostRun.failures_cons]
      | between change =>
          exact ih observed (partsCell.widen (change (partsCell.narrow start)) start)

/-- Whatever a host invokes, and whatever its adapter meets on the way: under safe wiring
the parts are asked for the same as under strict wiring, in the same order; they and the
rest of the context are left alike; every invocation that comes to an end ends well; and
the observer, if there is one, has been told of the strict failures in their order. -/
theorem safe_wiring_masks_outcomes (steps : List (HostStep σ)) (start : Context (Watched σ ρ)) :
    let strict := parts.adapter.hooks.play steps start
    let safe := parts.adapter.safeHooks.play steps start
    safe.state.data.calls = strict.state.data.calls ∧
      partsCell.narrow safe.state = partsCell.narrow strict.state ∧
      safe.endings = strict.endings.map (fun (kind, ending) => (kind, ending.masked)) ∧
      safe.state.data.observed.told =
        if parts.observer.isSome then start.data.observed.told ++ strict.failures
        else start.data.observed.told := by
  intro strict safe
  obtain ⟨endings, later, left, told⟩ :=
    parts.safe_run_masks steps start.data.observed start
  change safe.state = observedCell.change later strict.state at left
  rw [left]
  exact ⟨rfl, rfl, endings, told⟩

end AdapterParts

end TokenPersistence
