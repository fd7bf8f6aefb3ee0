import TokenPersistence.Proofs.Routine.Returns

/-!
# What a run leaves

A run ends in one of three ways, and leaves a state in each. A condition on both is
pushed through a routine from its end to its start, along every way of ending: what
comes after a part that has panicked, stalled or failed is skipped.
-/

namespace TokenPersistence

set_option autoImplicit false

variable {σ α β : Type}

namespace Routine

def Leaves (routine : Routine σ α) (start : σ) (post : Ending α → σ → Prop) : Prop :=
  post (routine.run start).ending (routine.run start).state

theorem Leaves.imp {routine : Routine σ α} {start : σ} {first second : Ending α → σ → Prop}
    (leaves : routine.Leaves start first)
    (implies : ∀ ending after, first ending after → second ending after) :
    routine.Leaves start second :=
  implies _ _ leaves

theorem Returns.leaves {routine : Routine σ α} {start : σ} {post : Ending α → σ → Prop}
    (returns : routine.Returns start fun value after => post (.returned value) after) :
    routine.Leaves start post := by
  obtain ⟨value, ending, holds⟩ := returns
  unfold Leaves
  rw [ending]
  exact holds

theorem Leaves.returns {routine : Routine σ α} {start : σ} {post : α → σ → Prop}
    (leaves : routine.Leaves start fun ending after =>
      ∃ value, ending = .returned value ∧ post value after) :
    routine.Returns start post :=
  leaves

/-- What is left to show of an ending, when a routine follows on it. -/
def Follow (continuation : α → Routine σ β) (post : Ending β → σ → Prop) :
    Ending α → σ → Prop
  | .returned value, after => (continuation value).Leaves after post
  | .panicked payload, after => post (.panicked payload) after
  | .stalled, after => post .stalled after

@[simp] theorem leaves_step (transition : σ → α × σ) (start : σ)
    (post : Ending α → σ → Prop) :
    (step transition).Leaves start post ↔
      post (.returned (transition start).1) (transition start).2 := Iff.rfl

@[simp] theorem leaves_write (event : LogEvent) (start : σ) (post : Ending Unit → σ → Prop) :
    (write event).Leaves start post ↔ post (.returned ()) start := Iff.rfl

@[simp] theorem leaves_bind (routine : Routine σ α) (continuation : α → Routine σ β)
    (start : σ) (post : Ending β → σ → Prop) :
    (routine >>= continuation).Leaves start post ↔
      routine.Leaves start (Follow continuation post) := by
  unfold Leaves
  rw [bind_eq, run_bind]
  unfold andThen
  cases (routine.run start).ending with
  | returned value => rfl
  | panicked payload => rfl
  | stalled => rfl

def Contain (post : Ending (Except Panic α) → σ → Prop) : Ending α → σ → Prop
  | .returned value, after => post (.returned (.ok value)) after
  | .panicked payload, after => post (.returned (.error payload)) after
  | .stalled, after => post .stalled after

def contained : Ending α → Ending (Except Panic α)
  | .returned value => .returned (.ok value)
  | .panicked payload => .returned (.error payload)
  | .stalled => .stalled

theorem run_catch_panic (routine : Routine σ α) (start : σ) :
    routine.catchPanic.run start =
      ⟨contained (routine.run start).ending, (routine.run start).state,
        (routine.run start).log⟩ := by
  induction routine generalizing start with
  | done value => rfl
  | panic payload => rfl
  | get next ih => exact ih start start
  | set state next ih => exact ih state
  | log event next ih => simp only [catchPanic, run, ih start]
  | pause next ih => exact ih start
  | wait ready next ih =>
      simp only [catchPanic, run]
      split
      · exact ih start
      · rfl

@[simp] theorem leaves_catch_panic (routine : Routine σ α) (start : σ)
    (post : Ending (Except Panic α) → σ → Prop) :
    routine.catchPanic.Leaves start post ↔ routine.Leaves start (Contain post) := by
  unfold Leaves
  rw [run_catch_panic]
  cases (routine.run start).ending <;> rfl

end Routine

namespace Call

/-- What is left to show of an ending, when a call follows on it. -/
def Follow (continuation : α → Call σ β)
    (post : Ending (Except Failure β) → Context σ → Prop) :
    Ending (Except Failure α) → Context σ → Prop
  | .returned (.ok value), after => (continuation value).run.Leaves after post
  | .returned (.error failure), after => post (.returned (.error failure)) after
  | .panicked payload, after => post (.panicked payload) after
  | .stalled, after => post .stalled after

@[simp] theorem leaves_bind (call : Call σ α) (continuation : α → Call σ β)
    (start : Context σ) (post : Ending (Except Failure β) → Context σ → Prop) :
    (call >>= continuation).run.Leaves start post ↔
      call.run.Leaves start (Follow continuation post) := by
  change (call.run >>= ExceptT.bindCont continuation).Leaves start post ↔ _
  rw [Routine.leaves_bind]
  unfold Routine.Leaves
  cases (call.run.run start).ending with
  | returned outcome => cases outcome <;> rfl
  | panicked payload => rfl
  | stalled => rfl

def Succeed (post : Ending (Except Failure α) → Context σ → Prop) :
    Ending α → Context σ → Prop
  | .returned value, after => post (.returned (.ok value)) after
  | .panicked payload, after => post (.panicked payload) after
  | .stalled, after => post .stalled after

@[simp] theorem leaves_lift (routine : Routine (Context σ) α) (start : Context σ)
    (post : Ending (Except Failure α) → Context σ → Prop) :
    (ExceptT.lift routine : Call σ α).run.Leaves start post ↔
      routine.Leaves start (Succeed post) := by
  change (routine >>= fun value => pure (Except.ok value)).Leaves start post ↔ _
  rw [Routine.leaves_bind]
  unfold Routine.Leaves
  cases (routine.run start).ending <;> rfl

def Inspect (post : Ending (Except Failure (Except Failure α)) → Context σ → Prop) :
    Ending (Except Failure α) → Context σ → Prop
  | .returned outcome, after => post (.returned (.ok outcome)) after
  | .panicked payload, after => post (.panicked payload) after
  | .stalled, after => post .stalled after

@[simp] theorem leaves_outcome (call : Call σ α) (start : Context σ)
    (post : Ending (Except Failure (Except Failure α)) → Context σ → Prop) :
    call.outcome.run.Leaves start post ↔ call.run.Leaves start (Inspect post) := by
  change (call.run >>= fun outcome => pure (Except.ok outcome)).Leaves start post ↔ _
  rw [Routine.leaves_bind]
  unfold Routine.Leaves
  cases (call.run.run start).ending <;> rfl

def attempted : Attempt α → Ending (Except Failure α)
  | .returned value => .returned (.ok value)
  | .failed failure => .returned (.error failure)
  | .panicked payload => .panicked payload

theorem returned_of_attempted {attempt : Attempt α} {value : α}
    (same : attempted attempt = .returned (.ok value)) : attempt = .returned value := by
  cases attempt with
  | returned other =>
      cases same
      rfl
  | failed failure => cases same
  | panicked payload => cases same

@[simp] theorem leaves_of_attempt (attempt : Attempt α) (start : Context σ)
    (post : Ending (Except Failure α) → Context σ → Prop) :
    (Call.ofAttempt attempt : Call σ α).run.Leaves start post ↔
      post (attempted attempt) start := by
  cases attempt <;> rfl

@[simp] theorem leaves_step {τ : Type} (cell : Cell σ τ)
    (transition : τ → Except Failure α × τ) (start : Context σ)
    (post : Ending (Except Failure α) → Context σ → Prop) :
    (ExceptT.mk (cell.step transition) : Call σ α).run.Leaves start post ↔
      post (.returned (transition (cell.get start.data)).1)
        { start with data := cell.put (transition (cell.get start.data)).2 start.data } :=
  Iff.rfl

end Call

end TokenPersistence
