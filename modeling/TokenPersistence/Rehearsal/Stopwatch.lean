import TokenPersistence.Timed
import TokenPersistence.Routine.Run

/-!
# Timing a scripted routine

The routine lets time pass, sets the clock, or pauses, and ends with a given value.
The clock may also move before the routine is polled for the first time, which the
stopwatch does not see.
-/

namespace TokenPersistence.Rehearsal

set_option autoImplicit false

variable {α : Type}

inductive ClockItem where
  | advance (duration : Duration)
  | setTime (time : Timestamp)
  | pause
  deriving DecidableEq

def passTime : List ClockItem → Routine (Context Unit) Unit
  | [] => pure ()
  | .advance duration :: items => do
      Context.letPass duration
      passTime items
  | .setTime time :: items => do
      Context.setClock time
      passTime items
  | .pause :: items => .pause (passTime items)

structure Stopwatch (α : Type) where
  start : Timestamp
  beforeFirstPoll : Duration
  script : List ClockItem
  value : α

namespace Stopwatch

def timedScript (watch : Stopwatch α) : Routine (Context Unit) (Timed α) :=
  ((passTime watch.script).bind fun _ => .done watch.value).timed

def routine (watch : Stopwatch α) : Routine (Context Unit) (Timed α) := do
  Context.setClock watch.start
  Context.letPass watch.beforeFirstPoll
  watch.timedScript

def run (watch : Stopwatch α) : Ending (Timed α) × Timestamp :=
  let ran := watch.routine.run (Context.initial Timestamp.epoch ())
  (ran.ending, ran.state.now)

end Stopwatch

end TokenPersistence.Rehearsal
