import TokenPersistence.Journal
import TokenPersistence.Panic

/-!
# Routines

A routine is work that is carried out in polls. Between two suspension points it
reads and replaces a state, writes log events, and ends with a value or a panic. At
a suspension point it hands control back: `pause` asks to be polled again at once,
`wait` stays pending until the state meets a condition. A routine is a well-founded
tree, so whatever is computed from it (one poll, a whole run, a race against a
cancellation) is computed by structural recursion.
-/

namespace TokenPersistence

set_option autoImplicit false

inductive Routine (σ α : Type) : Type where
  | done (value : α)
  | panic (payload : Panic)
  | get (next : σ → Routine σ α)
  | set (state : σ) (next : Routine σ α)
  | log (event : LogEvent) (next : Routine σ α)
  | pause (next : Routine σ α)
  | wait (ready : σ → Bool) (next : Routine σ α)

namespace Routine

variable {σ α β γ : Type}

def bind : Routine σ α → (α → Routine σ β) → Routine σ β
  | done value, continuation => continuation value
  | panic payload, _ => panic payload
  | get next, continuation => get fun state => (next state).bind continuation
  | set state next, continuation => set state (next.bind continuation)
  | log event next, continuation => log event (next.bind continuation)
  | pause next, continuation => pause (next.bind continuation)
  | wait ready next, continuation => wait ready (next.bind continuation)

instance : Monad (Routine σ) where
  pure := done
  bind := bind

def read (view : σ → α) : Routine σ α := get fun state => done (view state)

def modify (change : σ → σ) : Routine σ Unit := get fun state => set (change state) (done ())

def step (transition : σ → α × σ) : Routine σ α :=
  get fun state => set (transition state).2 (done (transition state).1)

def write (event : LogEvent) : Routine σ Unit := log event (done ())

/-- Suspends a number of times, asking to be polled again each time. -/
def pauses : Nat → Routine σ Unit
  | 0 => done ()
  | count + 1 => pause (pauses count)

def hang : Routine σ α := wait (fun _ => false) (panic .wordless)

def attempt : Attempt α → Routine σ (Except Failure α)
  | .returned value => done (.ok value)
  | .failed failure => done (.error failure)
  | .panicked payload => panic payload

/-- Contains a panic: the routine ends with its payload instead. -/
def catchPanic : Routine σ α → Routine σ (Except Panic α)
  | done value => done (.ok value)
  | panic payload => done (.error payload)
  | get next => get fun state => (next state).catchPanic
  | set state next => set state next.catchPanic
  | log event next => log event next.catchPanic
  | pause next => pause next.catchPanic
  | wait ready next => wait ready next.catchPanic

/-- Races a routine against a condition on the state. The routine is polled first;
when it is left pending and the condition holds, it is dropped and the race ends
with `instead`. -/
def unlessStopped (stop : σ → Bool) (instead : α) : Routine σ α → Routine σ α
  | done value => done value
  | panic payload => panic payload
  | get next => get fun state => (next state).unlessStopped stop instead
  | set state next => set state (next.unlessStopped stop instead)
  | log event next => log event (next.unlessStopped stop instead)
  | pause next =>
      get fun state => if stop state then done instead else pause (next.unlessStopped stop instead)
  | wait ready next =>
      wait (fun state => ready state || stop state)
        (get fun state => if ready state then next.unlessStopped stop instead else done instead)

theorem bind_assoc (routine : Routine σ α) (first : α → Routine σ β)
    (second : β → Routine σ γ) :
    (routine.bind first).bind second =
      routine.bind fun value => (first value).bind second := by
  induction routine with
  | done value => rfl
  | panic payload => rfl
  | get next ih => simp only [bind, ih]
  | set state next ih => simp only [bind, ih]
  | log event next ih => simp only [bind, ih]
  | pause next ih => simp only [bind, ih]
  | wait ready next ih => simp only [bind, ih]

theorem bind_done (routine : Routine σ α) : routine.bind done = routine := by
  induction routine with
  | done value => rfl
  | panic payload => rfl
  | get next ih => simp only [bind, ih]
  | set state next ih => simp only [bind, ih]
  | log event next ih => simp only [bind, ih]
  | pause next ih => simp only [bind, ih]
  | wait ready next ih => simp only [bind, ih]

theorem bind_eq (routine : Routine σ α) (continuation : α → Routine σ β) :
    routine >>= continuation = routine.bind continuation := rfl

theorem pure_eq (value : α) : (pure value : Routine σ α) = done value := rfl

end Routine

end TokenPersistence
