import TokenPersistence.Routine.Basic

/-!
# Polling and running routines

`poll` carries a routine to its next suspension point. `run` polls it until it ends
or stays pending without having asked to be polled again; in that case it is
stalled, since nothing else can change its state. `runAmid` does the same while
something else changes the state between the polls.
-/

namespace TokenPersistence

set_option autoImplicit false

variable {σ α β : Type}

inductive Progress (σ α : Type) where
  | returned (value : α)
  | panicked (payload : Panic)
  | pending (woken : Bool) (rest : Routine σ α)

structure Polled (σ α : Type) where
  progress : Progress σ α
  state : σ
  log : List LogEvent

inductive Ending (α : Type) where
  | returned (value : α)
  | panicked (payload : Panic)
  | stalled
  deriving DecidableEq, Repr

structure Run (σ α : Type) where
  ending : Ending α
  state : σ
  log : List LogEvent

def Ending.map (change : α → β) : Ending α → Ending β
  | returned value => returned (change value)
  | panicked payload => panicked payload
  | stalled => stalled

namespace Routine

def poll : Routine σ α → σ → Polled σ α
  | done value, state => ⟨.returned value, state, []⟩
  | panic payload, state => ⟨.panicked payload, state, []⟩
  | get next, state => (next state).poll state
  | set state next, _ => next.poll state
  | log event next, state =>
      let polled := next.poll state
      { polled with log := event :: polled.log }
  | pause next, state => ⟨.pending true next, state, []⟩
  | wait ready next, state =>
      if ready state then next.poll state else ⟨.pending false (wait ready next), state, []⟩

def run : Routine σ α → σ → Run σ α
  | done value, state => ⟨.returned value, state, []⟩
  | panic payload, state => ⟨.panicked payload, state, []⟩
  | get next, state => (next state).run state
  | set state next, _ => next.run state
  | log event next, state =>
      let rest := next.run state
      { rest with log := event :: rest.log }
  | pause next, state => next.run state
  | wait ready next, state =>
      if ready state then next.run state else ⟨.stalled, state, []⟩

/-- Runs a routine that has been polled `polls` times before, while `between`
changes the state just before each further poll, given the number of polls made. -/
def runAmid (between : Nat → σ → σ) : Nat → Routine σ α → σ → Run σ α
  | _, done value, state => ⟨.returned value, state, []⟩
  | _, panic payload, state => ⟨.panicked payload, state, []⟩
  | polls, get next, state => (next state).runAmid between polls state
  | polls, set state next, _ => next.runAmid between polls state
  | polls, log event next, state =>
      let rest := next.runAmid between polls state
      { rest with log := event :: rest.log }
  | polls, pause next, state => next.runAmid between (polls + 1) (between (polls + 1) state)
  | polls, wait ready next, state =>
      if ready state then next.runAmid between polls state else ⟨.stalled, state, []⟩

def andThen (run : Run σ α) (continuation : α → σ → Run σ β) : Run σ β :=
  match run.ending with
  | .returned value =>
      let rest := continuation value run.state
      { rest with log := run.log ++ rest.log }
  | .panicked payload => ⟨.panicked payload, run.state, run.log⟩
  | .stalled => ⟨.stalled, run.state, run.log⟩

theorem run_bind (routine : Routine σ α) (continuation : α → Routine σ β) (state : σ) :
    (routine.bind continuation).run state =
      andThen (routine.run state) fun value after => (continuation value).run after := by
  induction routine generalizing state with
  | done value => simp [bind, run, andThen]
  | panic payload => rfl
  | get next ih => exact ih state state
  | set replacement next ih => exact ih replacement
  | log event next ih =>
      simp only [bind, run, ih]
      unfold andThen
      cases (next.run state).ending <;> rfl
  | pause next ih => exact ih state
  | wait ready next ih =>
      simp only [bind, run]
      split
      · exact ih state
      · rfl

end Routine

end TokenPersistence
