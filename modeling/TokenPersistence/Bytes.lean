/-!
# Bytes

Partitions, payloads and keys of ciphers are lists of bytes. A nonce is the part of
a sealed payload that must not repeat: twelve bytes, drawn for one payload.
-/

namespace TokenPersistence

set_option autoImplicit false

abbrev Bytes := List UInt8

/-- The `count` lowest bytes of a number, the most significant one first. -/
def bigEndian : Nat → Nat → Bytes
  | 0, _ => []
  | count + 1, number => UInt8.ofNat (number / Nat.pow 256 count) :: bigEndian count number

theorem length_big_endian (count number : Nat) : (bigEndian count number).length = count := by
  induction count with
  | zero => rfl
  | succ count ih => simp [bigEndian, ih]

def nonceLength : Nat := 12

structure Nonce where
  bytes : Bytes
  length_eq : bytes.length = nonceLength
  deriving DecidableEq

def Nonce.ofNat (number : Nat) : Nonce :=
  ⟨bigEndian nonceLength number, length_big_endian nonceLength number⟩

end TokenPersistence
