/-!
# Failures

Every failed activity of the adapter is reported with the kind of activity and
with what caused it. A cause is a plain text, another failure, or an error of a
store or cipher outside this library, which may have a source of its own. The
text of a failure always has two parts: the activity that failed, and the text
of its cause on the next line.
-/

namespace TokenPersistence

set_option autoImplicit false

/-- The kinds of work that can fail. `cancelled` and `hook` stand for work that
was stopped from outside, and for a hook that did not come to an orderly end. -/
inductive Activity where
  | read
  | write
  | remove
  | key
  | protect
  | unprotect
  | serialize
  | deserialize
  | lock
  | cancelled
  | hook
  deriving DecidableEq, Repr, Inhabited

namespace Activity

def all : List Activity :=
  [read, write, remove, key, protect, unprotect, serialize, deserialize, lock,
    cancelled, hook]

def name : Activity → String
  | read => "read"
  | write => "write"
  | remove => "remove"
  | key => "key"
  | protect => "protect"
  | unprotect => "unprotect"
  | serialize => "serialize"
  | deserialize => "deserialize"
  | lock => "lock"
  | cancelled => "cancelled"
  | hook => "hook"

def ofName? (name : String) : Option Activity :=
  all.find? fun activity => activity.name == name

end Activity

/-- What made an activity fail. A `text` is only a wording; every other cause is
an error in its own right, which can be looked at as the failure's source. -/
inductive Cause where
  | text (message : String)
  | failed (activity : Activity) (cause : Cause)
  | foreign (message : String)
  | foreignFrom (message : String) (source : Cause)
  deriving DecidableEq, Repr, Inhabited

structure Failure where
  activity : Activity
  cause : Cause
  deriving DecidableEq, Repr, Inhabited

/-- The first line names the activity, the second one introduces the cause. -/
def failureMessage (activity : Activity) (cause : String) : String :=
  "token cache " ++ activity.name ++ " failed\ncaused by: " ++ cause

namespace Cause

def message : Cause → String
  | text message => message
  | failed activity cause => failureMessage activity cause.message
  | foreign message => message
  | foreignFrom message _ => message

/-- The texts of the errors met when each error is asked for its source, this
cause first. A plain wording is no error, so it ends the list. -/
def chain : Cause → List String
  | text _ => []
  | failed activity cause => failureMessage activity cause.message :: cause.chain
  | foreign message => [message]
  | foreignFrom message source => message :: source.chain

end Cause

namespace Failure

def message (failure : Failure) : String :=
  failureMessage failure.activity failure.cause.message

/-- The texts of the errors below a failure, the nearest first. -/
def sources (failure : Failure) : List String := failure.cause.chain

def isCancelled (failure : Failure) : Bool := failure.activity == .cancelled

def asCause (failure : Failure) : Cause := .failed failure.activity failure.cause

/-- The failure of work that was stopped while it was about `during`. -/
def cancelled (during : Activity) : Failure :=
  ⟨.cancelled, .text (during.name ++ " was cancelled")⟩

def withText (activity : Activity) (message : String) : Failure :=
  ⟨activity, .text message⟩

@[simp] theorem activity_cancelled (during : Activity) :
    (cancelled during).activity = .cancelled := rfl

theorem message_cancelled (during : Activity) :
    (cancelled during).message =
      "token cache cancelled failed\ncaused by: " ++ during.name ++ " was cancelled" := by
  simp [message, cancelled, failureMessage, Activity.name, Cause.message, String.append_assoc]

end Failure

end TokenPersistence
