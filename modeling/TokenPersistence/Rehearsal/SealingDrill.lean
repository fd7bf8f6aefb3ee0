import TokenPersistence.Cipher.SealedPayload

/-!
# Tampering with sealed payloads

A payload is sealed, changed on its way, and opened again, perhaps for another
purpose. The change flips bits of one byte, cuts the payload off, and adds bytes.
-/

namespace TokenPersistence.Rehearsal

set_option autoImplicit false

structure Tampering where
  flip : Option Nat
  mask : UInt8
  keep : Option Nat
  append : Bytes
  deriving DecidableEq

namespace Tampering

/-- Flips bits of the byte at a position, or of the last one before it. -/
def flipBits (position : Nat) (mask : UInt8) (bytes : Bytes) : Bytes :=
  bytes.modify (Nat.min position (bytes.length - 1)) (· ^^^ mask)

def apply (tampering : Tampering) (bytes : Bytes) : Bytes :=
  let flipped :=
    match tampering.flip with
    | some position => flipBits position tampering.mask bytes
    | none => bytes
  let kept :=
    match tampering.keep with
    | some length => flipped.take length
    | none => flipped
  kept ++ tampering.append

end Tampering

structure SealingReport where
  length : Nat
  version : UInt8
  fresh : Bool
  opened : Except Failure Bytes

/-- Seals a plaintext under two nonces, and opens the first payload after tampering. -/
def drillSealing (encryptor : SealingEncryptor) (nonce other : Nonce) (plaintext : Bytes)
    (tampering : Tampering) (purpose : Option String) : SealingReport :=
  let payload := encryptor.payload nonce plaintext
  let opener :=
    match purpose with
    | some purpose => encryptor.withPurpose purpose
    | none => encryptor
  { length := payload.length
    version := payload.headD 0
    fresh := decide (payload ≠ encryptor.payload other plaintext)
    opened := opener.openPayload (tampering.apply payload) }

end TokenPersistence.Rehearsal
