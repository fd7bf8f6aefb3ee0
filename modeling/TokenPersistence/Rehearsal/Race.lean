import TokenPersistence.Hints
import TokenPersistence.Routine.Run

/-!
# Races against a cancellation

A scripted call shows what a cancellation does to it: the script cancels its own
token, pauses, stays pending for good or ends, and the token can also be cancelled
before the race begins or just before one of its polls. The state of a race counts
the items of the script that have been entered.
-/

namespace TokenPersistence.Rehearsal

set_option autoImplicit false

variable {α : Type}

inductive ScriptItem (α : Type) where
  | cancel
  | pause
  | hang
  | finish (result : Except Failure α)

/-- Plays a script on a token; a script without an end ends with `otherwise`. -/
def playScript (token : CancellationToken) (otherwise : α) : List (ScriptItem α) → Call Nat α
  | [] => pure otherwise
  | item :: items => ExceptT.mk do
      Cell.whole.modify fun entered => entered + 1
      match item with
      | .cancel => do
          Routine.modify fun context => context.cancel token
          (playScript token otherwise items).run
      | .pause => .pause (playScript token otherwise items).run
      | .hang => Routine.hang
      | .finish result => pure result

structure Race (α : Type) where
  during : Activity
  startsCancelled : Bool
  throughChild : Bool
  cancelBeforePoll : Option Nat
  script : List (ScriptItem α)
  otherwise : α

namespace Race

def token : CancellationToken := CancellationToken.named "race"

/-- The hints of the call hold the token itself or a child of it. -/
def hints (race : Race α) : CallHints :=
  { CallHints.none with
    cancellation := some (if race.throughChild then token.child "runner" else token) }

def start (race : Race α) : Context Nat :=
  let quiet := Context.initial Timestamp.epoch 0
  if race.startsCancelled then quiet.cancel token else quiet

/-- What happens outside the call before a poll, after `polls` earlier ones. -/
def beforePoll (race : Race α) (polls : Nat) (context : Context Nat) : Context Nat :=
  if race.cancelBeforePoll = some polls then context.cancel token else context

def call (race : Race α) : Call Nat α :=
  race.hints.cancellable race.during (playScript token race.otherwise race.script)

def run (race : Race α) : Ending (Except Failure α) × Nat :=
  let ran := race.call.run.runAmid race.beforePoll 0 (race.beforePoll 0 race.start)
  (ran.ending, ran.state.data)

end Race

end TokenPersistence.Rehearsal
