import TokenPersistence.Cipher.Block

/-!
# Authenticated sealing in counter mode

A plaintext is sealed under a key, a nonce and associated data. The ciphertext is
the plaintext with a keystream added, which encrypts one counter block after the
other. The tag evaluates a polynomial over the field of 2^128 elements, whose
coefficients are the associated data, the ciphertext and their lengths, at a point
that depends on the key, and hides the value with the first counter block. Opening
recomputes the tag and refuses any other; adding the keystream again gives the
plaintext back.
-/

namespace TokenPersistence.Cipher

set_option autoImplicit false

def tagLength : Nat := 16

/-- A number whose bytes are given, the most significant one first. -/
def bigEndianValue (bytes : Bytes) : Nat :=
  bytes.foldl (fun value byte => value * 256 + byte.toNat) 0

/-- The product of two elements of the field of 2^128 elements whose coefficients
are read from the top bit down, from the topmost `bits` bits of the first. The
modulus is x^128 + x^7 + x^2 + x + 1. -/
def tagFieldProduct : Nat → Nat → Nat → Nat
  | 0, _, _ => 0
  | bits + 1, left, right =>
      let halved := right / 2
      let shifted := if right % 2 = 0 then halved else halved ^^^ (0xe1 <<< 120)
      (if left.testBit bits then right else 0) ^^^ tagFieldProduct bits left shifted

def tagFieldMul (left right : Nat) : Nat := tagFieldProduct 128 left right

/-- Splits bytes into pieces of sixteen; the last one is filled up with zeros. -/
def paddedBlocks : Nat → Bytes → List Nat
  | 0, _ => []
  | count + 1, bytes =>
      bigEndianValue ((bytes.take 16 ++ List.replicate 16 0).take 16) ::
        paddedBlocks count (bytes.drop 16)

def blockCount (length : Nat) : Nat := (length + 15) / 16

/-- The polynomial in the point `point` whose coefficients come last to first. -/
def authenticator (point : Nat) (associated ciphertext : Bytes) : Nat :=
  let coefficients :=
    paddedBlocks (blockCount associated.length) associated ++
      paddedBlocks (blockCount ciphertext.length) ciphertext ++
      [8 * associated.length * Nat.pow 2 64 + 8 * ciphertext.length]
  coefficients.foldl (fun value coefficient => tagFieldMul (value ^^^ coefficient) point) 0

def counterBlock (keys : List Block) (nonce : Nonce) (counter : Nat) : Bytes :=
  (encryptBlock keys (blockOfBytes (nonce.bytes ++ bigEndian 4 counter))).toBytes

def keystream (keys : List Block) (nonce : Nonce) : Nat → Nat → Bytes
  | 0, _ => []
  | count + 1, counter =>
      counterBlock keys nonce counter ++ keystream keys nonce count (counter + 1)

/-- Adds the keystream, whose first block is hidden from the data: it masks the tag. -/
def applyKeystream (keys : List Block) (nonce : Nonce) (data : Bytes) : Bytes :=
  List.zipWith (· ^^^ ·) data (keystream keys nonce (blockCount data.length) 2)

def tag (keys : List Block) (nonce : Nonce) (associated ciphertext : Bytes) : Bytes :=
  let point := bigEndianValue (encryptBlock keys default).toBytes
  List.zipWith (· ^^^ ·) (bigEndian tagLength (authenticator point associated ciphertext))
    (counterBlock keys nonce 1)

def sealBytes (key : CipherKey) (nonce : Nonce) (associated plaintext : Bytes) : Bytes :=
  let keys := key.roundKeys
  let ciphertext := applyKeystream keys nonce plaintext
  ciphertext ++ tag keys nonce associated ciphertext

/-- The plaintext of a ciphertext with its tag, unless the tag is a wrong one. -/
def openBytes (key : CipherKey) (nonce : Nonce) (associated sealedBytes : Bytes) :
    Option Bytes :=
  let keys := key.roundKeys
  let ciphertext := sealedBytes.take (sealedBytes.length - tagLength)
  if tag keys nonce associated ciphertext = sealedBytes.drop (sealedBytes.length - tagLength) then
    some (applyKeystream keys nonce ciphertext)
  else none

end TokenPersistence.Cipher
