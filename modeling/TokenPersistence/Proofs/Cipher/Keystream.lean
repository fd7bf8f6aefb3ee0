import TokenPersistence.Cipher.Sealing

/-!
# Sealing and opening undo each other

The keystream for some data is as long as the data needs, so that every byte of the
data is added to one byte of it: byte `i` to byte `i % 16` of the block with the counter
`2 + i / 16`. Adding it a second time gives the data back, for any length, partial
blocks and no data at all included. A tag has sixteen bytes, so that what was sealed
can be taken apart again in one way only; opening accepts exactly what sealing gives.
-/

namespace TokenPersistence.Cipher

set_option autoImplicit false

theorem length_counter_block (keys : List Block) (nonce : Nonce) (counter : Nat) :
    (counterBlock keys nonce counter).length = 16 :=
  Block.length_to_bytes _

theorem length_keystream (keys : List Block) (nonce : Nonce) (count counter : Nat) :
    (keystream keys nonce count counter).length = 16 * count := by
  induction count generalizing counter with
  | zero => rfl
  | succ count ih =>
      simp only [keystream, List.length_append, length_counter_block, ih]
      omega

theorem getElem?_keystream (keys : List Block) (nonce : Nonce) (count counter position : Nat)
    (within : position < 16 * count) :
    (keystream keys nonce count counter)[position]? =
      (counterBlock keys nonce (counter + position / 16))[position % 16]? := by
  induction count generalizing counter position with
  | zero => omega
  | succ count ih =>
      simp only [keystream]
      by_cases first : position < 16
      · have block : position / 16 = 0 := Nat.div_eq_of_lt first
        have place : position % 16 = position := Nat.mod_eq_of_lt first
        rw [List.getElem?_append_left (by rw [length_counter_block]; exact first), block, place,
          Nat.add_zero]
      · have block : counter + 1 + (position - 16) / 16 = counter + position / 16 := by omega
        have place : (position - 16) % 16 = position % 16 := by omega
        rw [List.getElem?_append_right (by rw [length_counter_block]; omega),
          length_counter_block, ih (counter + 1) (position - 16) (by omega), block, place]

theorem length_apply_keystream (keys : List Block) (nonce : Nonce) (data : Bytes) :
    (applyKeystream keys nonce data).length = data.length := by
  simp only [applyKeystream, List.length_zipWith, length_keystream, blockCount]
  omega

/-- The byte of the keystream that is added to the byte of the data at a position. -/
def keystreamByte (keys : List Block) (nonce : Nonce) (position : Nat) : UInt8 :=
  (counterBlock keys nonce (2 + position / 16)).getD (position % 16) 0

theorem getElem?_apply_keystream (keys : List Block) (nonce : Nonce) (data : Bytes)
    (position : Nat) :
    (applyKeystream keys nonce data)[position]? =
      data[position]?.map (· ^^^ keystreamByte keys nonce position) := by
  by_cases inside : position < data.length
  · have covered : position < 16 * blockCount data.length := by
      unfold blockCount
      omega
    have place : position % 16 < (counterBlock keys nonce (2 + position / 16)).length := by
      rw [length_counter_block]
      omega
    rw [applyKeystream, List.getElem?_zipWith, getElem?_keystream keys nonce _ 2 position covered,
      List.getElem?_eq_getElem inside, List.getElem?_eq_getElem place]
    simp only [Option.map_some, keystreamByte, List.getD_eq_getElem?_getD,
      List.getElem?_eq_getElem place, Option.getD_some]
  · have outside : data.length ≤ position := Nat.le_of_not_lt inside
    rw [List.getElem?_eq_none (by rw [length_apply_keystream]; exact outside),
      List.getElem?_eq_none outside]
    rfl

theorem apply_keystream_twice (keys : List Block) (nonce : Nonce) (data : Bytes) :
    applyKeystream keys nonce (applyKeystream keys nonce data) = data := by
  apply List.ext_getElem?
  intro position
  rw [getElem?_apply_keystream, getElem?_apply_keystream, Option.map_map]
  cases data[position]? with
  | none => rfl
  | some byte =>
      simp only [Option.map_some, Function.comp_apply, UInt8.xor_assoc, UInt8.xor_self,
        UInt8.xor_zero]

theorem length_tag (keys : List Block) (nonce : Nonce) (associated ciphertext : Bytes) :
    (tag keys nonce associated ciphertext).length = tagLength := by
  simp [tag, length_big_endian, length_counter_block, tagLength]

theorem length_seal_bytes (key : CipherKey) (nonce : Nonce) (associated plaintext : Bytes) :
    (sealBytes key nonce associated plaintext).length = plaintext.length + tagLength := by
  simp only [sealBytes, List.length_append, length_apply_keystream, length_tag]

theorem open_append (key : CipherKey) (nonce : Nonce) (associated ciphertext mark : Bytes)
    (complete : mark.length = tagLength) :
    openBytes key nonce associated (ciphertext ++ mark) =
      if tag key.roundKeys nonce associated ciphertext = mark then
        some (applyKeystream key.roundKeys nonce ciphertext)
      else none := by
  have split : (ciphertext ++ mark).length - tagLength = ciphertext.length := by
    rw [List.length_append, complete, Nat.add_sub_cancel]
  unfold openBytes
  simp only [split, List.take_left, List.drop_left]

theorem open_short (key : CipherKey) (nonce : Nonce) (associated short : Bytes)
    (truncated : short.length < tagLength) : openBytes key nonce associated short = none := by
  have nothing : short.length - tagLength = 0 := by omega
  unfold openBytes
  simp only [nothing, List.take_zero, List.drop_zero]
  apply if_neg
  intro same
  rw [← same, length_tag] at truncated
  exact Nat.lt_irrefl _ truncated

theorem open_seal (key : CipherKey) (nonce : Nonce) (associated plaintext : Bytes) :
    openBytes key nonce associated (sealBytes key nonce associated plaintext) =
      some plaintext := by
  unfold sealBytes
  rw [open_append key nonce associated _ _ (length_tag _ _ _ _), if_pos rfl,
    apply_keystream_twice]

/-- Opening accepts exactly what sealing gives. -/
theorem open_eq_some_iff (key : CipherKey) (nonce : Nonce)
    (associated sealedBytes plaintext : Bytes) :
    openBytes key nonce associated sealedBytes = some plaintext ↔
      sealedBytes = sealBytes key nonce associated plaintext := by
  constructor
  · intro opened
    by_cases truncated : sealedBytes.length < tagLength
    · rw [open_short key nonce associated sealedBytes truncated] at opened
      cases opened
    · obtain ⟨ciphertext, mark, rfl, complete⟩ :
          ∃ ciphertext mark, sealedBytes = ciphertext ++ mark ∧ mark.length = tagLength := by
        refine ⟨sealedBytes.take (sealedBytes.length - tagLength),
          sealedBytes.drop (sealedBytes.length - tagLength), ?_, ?_⟩
        · rw [List.take_append_drop]
        · rw [List.length_drop]
          omega
      rw [open_append key nonce associated ciphertext mark complete] at opened
      split at opened
      · next genuine =>
          cases opened
          unfold sealBytes
          simp only [apply_keystream_twice, genuine]
      · cases opened
  · rintro rfl
    exact open_seal key nonce associated plaintext

end TokenPersistence.Cipher
