import TokenPersistence.Failure

/-!
# Panics and attempts

A caller's own code (a key provider, a cipher, a hook, an observer) can fail in
two ways: it returns a failure, or it panics and leaves every caller up to the
one that contains panics. A panic carries a message or some other payload that
has no text. An `Attempt` is the outcome of code that runs to its end at once.
-/

namespace TokenPersistence

set_option autoImplicit false

inductive Panic where
  | message (text : String)
  | wordless
  deriving DecidableEq, Repr, Inhabited

def Panic.report : Panic → String
  | .message text => "hook panicked: " ++ text
  | .wordless => "hook panicked"

inductive Attempt (α : Type) where
  | returned (value : α)
  | failed (failure : Failure)
  | panicked (panic : Panic)
  deriving DecidableEq, Repr

namespace Attempt

def ofExcept {α : Type} : Except Failure α → Attempt α
  | .ok value => returned value
  | .error failure => failed failure

end Attempt

end TokenPersistence
