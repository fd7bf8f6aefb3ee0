import TokenPersistence.Adapter
import TokenPersistence.Cipher.SealedPayload
import TokenPersistence.Text.Search
import TokenPersistence.Tiered.Store

/-!
# Parts for rehearsals

Simple encryptors and key providers, a lock and an observer that write down how they
were called, and retry predicates that write down what they were asked about.
-/

namespace TokenPersistence.Rehearsal

set_option autoImplicit false

variable {σ : Type}

inductive EncryptorPart where
  | tag (marker : UInt8)
  | reverse
  | broken (protect unprotect : Option String)
  | panicking (protect unprotect : Option String)
  | sealing (encryptor : SealingEncryptor)
  deriving DecidableEq

namespace EncryptorPart

def openTagged (marker : UInt8) : Bytes → Attempt Bytes
  | first :: rest =>
      if first = marker then .returned rest
      else .failed (Failure.withText .unprotect "missing marker")
  | [] => .failed (Failure.withText .unprotect "missing marker")

def reverseMarker : UInt8 := 0xee

def openReversed : Bytes → Attempt Bytes
  | first :: rest =>
      if first = reverseMarker then .returned rest.reverse
      else .failed (Failure.withText .unprotect "not protected")
  | [] => .failed (Failure.withText .unprotect "not protected")

/-- The identity, unless a text says how it fails. -/
def unlessFailing (activity : Activity) (failure : Option String) (bytes : Bytes) :
    Attempt Bytes :=
  match failure with
  | some message => .failed (Failure.withText activity message)
  | none => .returned bytes

/-- The identity, unless a text says how it panics. -/
def unlessPanicking (message : Option String) (bytes : Bytes) : Attempt Bytes :=
  match message with
  | some message => .panicked (.message message)
  | none => .returned bytes

def toEncryptor : EncryptorPart → Encryptor
  | tag marker => ⟨fun _ plaintext => .returned (marker :: plaintext), openTagged marker⟩
  | reverse => ⟨fun _ plaintext => .returned (reverseMarker :: plaintext.reverse), openReversed⟩
  | broken protect unprotect =>
      ⟨fun _ plaintext => unlessFailing .protect protect plaintext,
        unlessFailing .unprotect unprotect⟩
  | panicking protect unprotect =>
      ⟨fun _ plaintext => unlessPanicking protect plaintext, unlessPanicking unprotect⟩
  | sealing encryptor => encryptor.toEncryptor

end EncryptorPart

inductive KeyPart where
  | suggested
  | prefixed (keyPrefix : String)
  | suffixed (suffix : String)
  | appCache
  | failing (message : String) (only : Option String)
  | panicking (message : String)
  deriving DecidableEq, Repr

def KeyPart.toProvider : KeyPart → KeyProvider σ
  | suggested => KeyProvider.suggested
  | prefixed keyPrefix => KeyProvider.prefixed keyPrefix
  | suffixed suffix => fun access => .returned (access.suggestedKey ++ suffix)
  | appCache => fun access => .returned (if access.appCache then "app" else access.suggestedKey)
  | failing message only => fun access =>
      if only.all (· == access.suggestedKey) then
        .failed (Failure.withText .key message)
      else .returned access.suggestedKey
  | panicking message => fun _ => .panicked (.message message)

inductive LockCall where
  | lock (key : String)
  | unlock (key : String)
  deriving DecidableEq, Repr

structure LockPart where
  failsLock : List String
  failsUnlock : List String
  panicsLock : List String
  panicsUnlock : List String
  deriving DecidableEq, Repr

namespace LockPart

def perform (cell : Cell σ (List LockCall)) (call : LockCall) (panics fails : Bool)
    (panicText failText : String) : Call σ Unit := ExceptT.mk do
  cell.modify fun calls => calls ++ [call]
  if panics then .panic (.message panicText)
  else if fails then pure (.error (Failure.withText .lock failText))
  else pure (.ok ())

def toLock (part : LockPart) (cell : Cell σ (List LockCall)) : WriteLock σ where
  lock key :=
    perform cell (.lock key) (part.panicsLock.contains key) (part.failsLock.contains key)
      "mock: lock panicked" "mock: lock failed"
  unlock key :=
    perform cell (.unlock key) (part.panicsUnlock.contains key) (part.failsUnlock.contains key)
      "mock: unlock panicked" "mock: unlock failed"

end LockPart

inductive ObserverPart where
  | recording
  | panicking
  | panickingByHook
  | panickingWordless
  deriving DecidableEq, Repr

namespace ObserverPart

def afterwards (part : ObserverPart) (kind : HookKind) : Option Panic :=
  match part with
  | recording => none
  | panicking => some (.message "observer gave up")
  | panickingByHook => some (.message ("observer gave up on " ++ kind.name))
  | panickingWordless => some .wordless

def toObserver (part : ObserverPart) (cell : Cell σ (List HookFailure)) : FailureObserver σ :=
  fun observed => do
    cell.modify fun failures => failures ++ [observed]
    match part.afterwards observed.hook with
    | some panic => .panic panic
    | none => pure ()

end ObserverPart

inductive RetryPart where
  | always
  | notCancelled
  | panicking
  | activities (accepted : List Activity)
  | mentioning (text : String)
  deriving DecidableEq, Repr

namespace RetryPart

def decide? (part : RetryPart) (failure : Failure) : Except Panic Bool :=
  match part with
  | always => .ok true
  | notCancelled => .ok (!failure.isCancelled)
  | panicking => .error (.message "mock: predicate panicked")
  | activities accepted => .ok (accepted.contains failure.activity)
  | mentioning text => .ok (Text.contains failure.message text)

/-- Without a predicate nothing is tried again. -/
def verdict (part : Option RetryPart) (failure : Failure) : Except Panic Bool :=
  match part with
  | some part => part.decide? failure
  | none => .ok false

def toPredicate (part : RetryPart) (cell : Cell σ (List Activity)) : RetryPredicate σ :=
  fun failure => do
    cell.modify fun asked => asked ++ [failure.activity]
    match part.decide? failure with
    | .ok verdict => pure verdict
    | .error panic => .panic panic

end RetryPart

end TokenPersistence.Rehearsal
