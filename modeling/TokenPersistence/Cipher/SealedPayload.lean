import TokenPersistence.Cipher.Sealing
import TokenPersistence.Protector

/-!
# Sealed payloads

The encryptor of this library seals a partition under a 32-byte key, with its
purpose as associated data, so that a payload made for one purpose does not open
for another. A payload is a version byte, the nonce, the ciphertext and the tag.
-/

namespace TokenPersistence

set_option autoImplicit false

open Cipher

def payloadVersion : UInt8 := 1

def defaultPurpose : String := "token_cache"

structure SealingEncryptor where
  key : CipherKey
  purpose : String
  deriving DecidableEq

namespace SealingEncryptor

def create (key : Bytes) : Except Failure SealingEncryptor :=
  match CipherKey.ofBytes? key with
  | some key => .ok ⟨key, defaultPurpose⟩
  | none => .error ⟨.protect, .foreign "Invalid Length"⟩

def withPurpose (encryptor : SealingEncryptor) (purpose : String) : SealingEncryptor :=
  { encryptor with purpose }

def associated (encryptor : SealingEncryptor) : Bytes := encryptor.purpose.toUTF8.toList

def payload (encryptor : SealingEncryptor) (nonce : Nonce) (plaintext : Bytes) : Bytes :=
  payloadVersion ::
    (nonce.bytes ++ sealBytes encryptor.key nonce encryptor.associated plaintext)

def openPayload (encryptor : SealingEncryptor) : Bytes → Except Failure Bytes
  | [] => .error (Failure.withText .unprotect "payload is empty")
  | version :: rest =>
      if version ≠ payloadVersion then
        .error (Failure.withText .unprotect
          ("unknown payload version " ++ toString version.toNat))
      else if short : rest.length < nonceLength + tagLength then
        .error (Failure.withText .unprotect "payload is truncated")
      else
        let nonce : Nonce :=
          ⟨rest.take nonceLength, by
            simp only [List.length_take]
            omega⟩
        match openBytes encryptor.key nonce encryptor.associated (rest.drop nonceLength) with
        | some plaintext => .ok plaintext
        | none => .error ⟨.unprotect, .foreign "aead::Error"⟩

def toEncryptor (encryptor : SealingEncryptor) : Encryptor where
  protect nonce plaintext := .returned (encryptor.payload nonce plaintext)
  unprotect payload := Attempt.ofExcept (encryptor.openPayload payload)

end SealingEncryptor

end TokenPersistence
