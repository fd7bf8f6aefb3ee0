import TokenPersistence.Context

/-!
# Protecting partitions

An encryptor turns a partition into a payload and back; to make a payload it is
given a freshly drawn nonce. A protector applies an encryptor, if there is one. A
payload that the encryptor refuses is taken for a partition that was stored before
encryption was switched on, and is passed on as it is.
-/

namespace TokenPersistence

set_option autoImplicit false

structure Encryptor where
  protect : Nonce → Bytes → Attempt Bytes
  unprotect : Bytes → Attempt Bytes

structure Protector where
  encryptor : Option Encryptor

namespace Protector

variable {σ : Type}

def isEnabled (protector : Protector) : Bool := protector.encryptor.isSome

def protect (protector : Protector) (plaintext : Bytes) : Call σ Bytes :=
  match protector.encryptor with
  | some encryptor => do
      let nonce ← ExceptT.lift (Routine.step Context.drawNonce)
      Call.ofAttempt (encryptor.protect nonce plaintext)
  | none => pure plaintext

def unprotect (protector : Protector) (payload : Bytes) : Call σ Bytes :=
  match protector.encryptor with
  | none => pure payload
  | some encryptor =>
      match encryptor.unprotect payload with
      | .returned plaintext => pure plaintext
      | .failed failure => do
          Call.log (.decryptFallback failure)
          pure payload
      | .panicked panic => Call.ofRoutine (.panic panic)

end Protector

end TokenPersistence
