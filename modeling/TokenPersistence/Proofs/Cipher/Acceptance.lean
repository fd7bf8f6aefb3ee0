import TokenPersistence.Cipher.SealedPayload
import TokenPersistence.Proofs.Adapter.Hooks
import TokenPersistence.Proofs.Cipher.Keystream

/-!
# The sealing encryptor accepts exactly what it can produce

A payload is laid out as a version byte, a nonce, the ciphertext and the tag. The
lengths of nonce and tag are fixed, so a payload has one layout only. It opens if the
version is the known one and the tag is the one of the ciphertext; it is then the
payload that sealing gives for the plaintext under the nonce. So a change of the version
or the tag alone is refused, and a protector passes on whatever it did not seal.
-/

namespace TokenPersistence

set_option autoImplicit false

open Cipher

variable {σ : Type}

namespace SealingEncryptor

def ciphertext (encryptor : SealingEncryptor) (nonce : Nonce) (plaintext : Bytes) : Bytes :=
  applyKeystream encryptor.key.roundKeys nonce plaintext

def ciphertextTag (encryptor : SealingEncryptor) (nonce : Nonce) (ciphertext : Bytes) : Bytes :=
  tag encryptor.key.roundKeys nonce encryptor.purpose.toUTF8.toList ciphertext

def layout (version : UInt8) (nonce : Nonce) (ciphertext mark : Bytes) : Bytes :=
  version :: (nonce.bytes ++ (ciphertext ++ mark))

variable {encryptor : SealingEncryptor} {nonce : Nonce} {plaintext payload : Bytes}

theorem payload_eq_layout (encryptor : SealingEncryptor) (nonce : Nonce) (plaintext : Bytes) :
    encryptor.payload nonce plaintext =
      layout payloadVersion nonce (encryptor.ciphertext nonce plaintext)
        (encryptor.ciphertextTag nonce (encryptor.ciphertext nonce plaintext)) := rfl

theorem length_ciphertext (encryptor : SealingEncryptor) (nonce : Nonce) (plaintext : Bytes) :
    (encryptor.ciphertext nonce plaintext).length = plaintext.length :=
  length_apply_keystream _ nonce plaintext

theorem length_ciphertext_tag (encryptor : SealingEncryptor) (nonce : Nonce)
    (ciphertext : Bytes) : (encryptor.ciphertextTag nonce ciphertext).length = tagLength :=
  length_tag _ nonce _ ciphertext

theorem length_payload (encryptor : SealingEncryptor) (nonce : Nonce) (plaintext : Bytes) :
    (encryptor.payload nonce plaintext).length = plaintext.length + 29 := by
  simp only [payload_eq_layout, layout, List.length_cons, List.length_append, nonce.length_eq,
    length_ciphertext, length_ciphertext_tag, nonceLength, tagLength]
  omega

theorem layout_injective {version otherVersion : UInt8} {nonce otherNonce : Nonce}
    {ciphertext otherCiphertext mark otherMark : Bytes}
    (same : layout version nonce ciphertext mark =
      layout otherVersion otherNonce otherCiphertext otherMark)
    (sameLength : mark.length = otherMark.length) :
    version = otherVersion ∧ nonce = otherNonce ∧ ciphertext = otherCiphertext ∧
      mark = otherMark := by
  obtain ⟨versions, rest⟩ := List.cons.inj same
  obtain ⟨nonces, sealedParts⟩ :=
    List.append_inj rest (nonce.length_eq.trans otherNonce.length_eq.symm)
  obtain ⟨ciphertexts, marks⟩ := List.append_inj' sealedParts sameLength
  obtain ⟨bytes, length_eq⟩ := nonce
  obtain ⟨otherBytes, otherLength⟩ := otherNonce
  cases nonces
  exact ⟨versions, rfl, ciphertexts, marks⟩

theorem open_payload_iff (encryptor : SealingEncryptor) (payload plaintext : Bytes) :
    encryptor.openPayload payload = .ok plaintext ↔
      ∃ nonce, payload = encryptor.payload nonce plaintext := by
  constructor
  · intro opened
    cases payload with
    | nil => cases opened
    | cons version rest =>
        unfold openPayload at opened
        simp only at opened
        split at opened
        · cases opened
        · next known =>
            split at opened
            · cases opened
            · next long =>
                have complete : (rest.take nonceLength).length = nonceLength := by
                  rw [List.length_take]
                  omega
                refine ⟨⟨rest.take nonceLength, complete⟩, ?_⟩
                split at opened
                · next plain unsealed =>
                    cases opened
                    have parts := (open_eq_some_iff _ _ _ _ _).mp unsealed
                    rw [Classical.not_not.mp known, payload, ← parts, List.take_append_drop]
                · cases opened
  · rintro ⟨nonce, rfl⟩
    have long : ¬ (nonce.bytes ++ sealBytes encryptor.key nonce encryptor.associated
        plaintext).length < nonceLength + tagLength := by
      rw [List.length_append, nonce.length_eq, length_seal_bytes]
      omega
    have ahead : (nonce.bytes ++ sealBytes encryptor.key nonce encryptor.associated
        plaintext).take nonceLength = nonce.bytes := by
      rw [← nonce.length_eq, List.take_left]
    have behind : (nonce.bytes ++ sealBytes encryptor.key nonce encryptor.associated
        plaintext).drop nonceLength =
          sealBytes encryptor.key nonce encryptor.associated plaintext := by
      rw [← nonce.length_eq, List.drop_left]
    unfold payload openPayload
    simp only [ne_eq, not_true_eq_false, if_false, dif_neg long, ahead, behind, open_seal]

theorem unprotect_returned_iff (encryptor : SealingEncryptor) (payload plaintext : Bytes) :
    encryptor.toEncryptor.unprotect payload = .returned plaintext ↔
      encryptor.openPayload payload = .ok plaintext := by
  change Attempt.ofExcept (encryptor.openPayload payload) = _ ↔ _
  cases encryptor.openPayload payload with
  | ok opened => simp [Attempt.ofExcept]
  | error failure => simp [Attempt.ofExcept]

theorem unprotect_failed_of_unsealed (unsealed : ∀ nonce plaintext,
    payload ≠ encryptor.payload nonce plaintext) :
    ∃ failure, encryptor.toEncryptor.unprotect payload = .failed failure := by
  cases outcome : encryptor.openPayload payload with
  | ok plaintext =>
      obtain ⟨nonce, same⟩ := (open_payload_iff encryptor payload plaintext).mp outcome
      exact absurd same (unsealed nonce plaintext)
  | error failure =>
      refine ⟨failure, ?_⟩
      change Attempt.ofExcept (encryptor.openPayload payload) = _
      rw [outcome]
      rfl

theorem unsealed_of_changed {version : UInt8} {mark : Bytes} (complete : mark.length = tagLength)
    (changed : version ≠ payloadVersion ∨
      mark ≠ encryptor.ciphertextTag nonce (encryptor.ciphertext nonce plaintext))
    (otherNonce : Nonce) (other : Bytes) :
    layout version nonce (encryptor.ciphertext nonce plaintext) mark ≠
      encryptor.payload otherNonce other := by
  intro same
  obtain ⟨versions, rfl, ciphertexts, marks⟩ :=
    layout_injective same (complete.trans (length_ciphertext_tag _ _ _).symm)
  rcases changed with version | mark
  · exact version versions
  · rw [← ciphertexts] at marks
    exact mark marks

theorem opening_unsealed (unsealed : ∀ nonce plaintext,
    payload ≠ encryptor.payload nonce plaintext) :
    Protector.opening ⟨some encryptor.toEncryptor⟩ payload = .returned (.ok payload) := by
  obtain ⟨failure, refused⟩ := unprotect_failed_of_unsealed unsealed
  simp only [Protector.opening, refused]

/-- A payload opens to a plaintext exactly if it is the version byte, some nonce, and the
ciphertext and the tag of the plaintext, and that is the payload which the plaintext is
sealed to under the nonce. -/
theorem accepts_exactly_its_payloads (encryptor : SealingEncryptor) :
    (∀ payload plaintext,
      encryptor.toEncryptor.unprotect payload = .returned plaintext ↔
        ∃ nonce : Nonce,
          let ciphertext := encryptor.ciphertext nonce plaintext
          let mark := encryptor.ciphertextTag nonce ciphertext
          nonce.bytes.length = 12 ∧ ciphertext.length = plaintext.length ∧ mark.length = 16 ∧
            payload = 0x01 :: (nonce.bytes ++ (ciphertext ++ mark)) ∧
            encryptor.toEncryptor.protect nonce plaintext = .returned payload) ∧
    (∀ nonce plaintext, ∃ payload,
      encryptor.toEncryptor.protect nonce plaintext = .returned payload ∧
        encryptor.toEncryptor.unprotect payload = .returned plaintext ∧
        payload.length = plaintext.length + 29) ∧
    (∀ nonce plaintext version mark,
      let ciphertext := encryptor.ciphertext nonce plaintext
      mark.length = 16 →
        version ≠ 0x01 ∨ mark ≠ encryptor.ciphertextTag nonce ciphertext →
          ∃ failure, encryptor.toEncryptor.unprotect
            (version :: (nonce.bytes ++ (ciphertext ++ mark))) = .failed failure) ∧
    ∀ payload, (∀ nonce plaintext,
        encryptor.toEncryptor.protect nonce plaintext ≠ .returned payload) →
      ∀ now : Context σ,
        (Protector.unprotect ⟨some encryptor.toEncryptor⟩ payload : Call σ Bytes).run.Leaves now
          fun ending after => ending = .returned (.ok payload) ∧ after = now := by
  refine ⟨?_, ?_, ?_, ?_⟩
  · intro payload plaintext
    rw [unprotect_returned_iff, open_payload_iff]
    constructor
    · rintro ⟨nonce, rfl⟩
      exact ⟨nonce, nonce.length_eq, length_ciphertext encryptor nonce plaintext,
        length_ciphertext_tag encryptor nonce _, rfl, rfl⟩
    · rintro ⟨nonce, _, _, _, same, _⟩
      exact ⟨nonce, same⟩
  · intro nonce plaintext
    refine ⟨encryptor.payload nonce plaintext, rfl, ?_, length_payload encryptor nonce plaintext⟩
    rw [unprotect_returned_iff, open_payload_iff]
    exact ⟨nonce, rfl⟩
  · intro nonce plaintext version mark ciphertext complete changed
    exact unprotect_failed_of_unsealed (unsealed_of_changed complete changed)
  · intro payload unproduced now
    have unsealed : ∀ nonce plaintext, payload ≠ encryptor.payload nonce plaintext := by
      intro nonce plaintext same
      exact unproduced nonce plaintext (congrArg Attempt.returned same.symm)
    rw [Protector.leaves_unprotect, opening_unsealed unsealed]
    exact ⟨rfl, rfl⟩

section KnownAnswers

/-! A key and a nonce for which ciphertexts and tags are known. -/

def sampleKey : CipherKey :=
  ⟨bigEndian 32 0xfeffe9928665731c6d6a8f9467308308feffe9928665731c6d6a8f9467308308, rfl⟩

def sampleNonce : Nonce := ⟨bigEndian 12 0xcafebabefacedbaddecaf888, rfl⟩

def samplePlaintext : Bytes :=
  bigEndian 32 0xd9313225f88406e5a55909c5aff5269a86a7a9531534f7da2e4c303d8a318a72 ++
    bigEndian 32 0x1c3c0c95956809532fcf0e2449a6b525b16aedf5aa0de657ba637b391aafd255

def sampleCiphertext : Bytes :=
  bigEndian 32 0x522dc1f099567d07f47f37a32a84427d643a8cdcbfe5c0c97598a2bd2555d1aa ++
    bigEndian 32 0x8cb08e48590dbb3da7b08b1056828838c5f61e6393ba7a0abcc9f662898015ad

def sampleTag : Bytes := bigEndian 16 0xb094dac5d93471bdec1a502270e3cc6c

def sampleAssociated : Bytes := bigEndian 20 0xfeedfacedeadbeeffeedfacedeadbeefabaddad2

def sampleAssociatedTag : Bytes := bigEndian 16 0x76fc6ece0f4e1768cddf8853bb2d551b

/-- Sixty-four bytes without associated data, and the first sixty of them with some. -/
theorem sample_sealed :
    sealBytes sampleKey sampleNonce [] samplePlaintext = sampleCiphertext ++ sampleTag ∧
    sealBytes sampleKey sampleNonce sampleAssociated (samplePlaintext.take 60) =
      sampleCiphertext.take 60 ++ sampleAssociatedTag := by
  decide +kernel

/-- The known answers hold. For a purpose without text nothing is associated with a plaintext,
and the known payload is what the encryptor gives and accepts; with another version or with a
bit of every byte of the tag flipped it is refused, and a single byte is passed on. -/
theorem sample_key_accepts_exactly_its_payloads :
    let encryptor : SealingEncryptor := ⟨sampleKey, ""⟩
    let known := 0x01 :: (sampleNonce.bytes ++ (sampleCiphertext ++ sampleTag))
    sealBytes sampleKey sampleNonce sampleAssociated (samplePlaintext.take 60) =
      sampleCiphertext.take 60 ++ sampleAssociatedTag ∧
    encryptor.toEncryptor.protect sampleNonce samplePlaintext = .returned known ∧
    encryptor.toEncryptor.unprotect known = .returned samplePlaintext ∧
    (∃ failure, encryptor.toEncryptor.unprotect
      (0x02 :: (sampleNonce.bytes ++ (sampleCiphertext ++ sampleTag))) = .failed failure) ∧
    (∃ failure, encryptor.toEncryptor.unprotect
      (0x01 :: (sampleNonce.bytes ++ (sampleCiphertext ++ sampleTag.map (· ^^^ 1)))) =
        .failed failure) ∧
    (Protector.unprotect ⟨some encryptor.toEncryptor⟩ [1] : Call Unit Bytes).run.Leaves
      (Context.initial Timestamp.epoch ()) fun ending after =>
        ending = .returned (.ok [1]) ∧ after = Context.initial Timestamp.epoch () := by
  intro encryptor known
  obtain ⟨_, sealing, changing, passing⟩ :=
    accepts_exactly_its_payloads (σ := Unit) encryptor
  obtain ⟨sealed, sealedWithData⟩ := sample_sealed
  have purpose : encryptor.associated = [] := by simp [encryptor, associated]
  have protects : encryptor.payload sampleNonce samplePlaintext = known := by
    rw [payload, purpose]
    exact congrArg (fun sealedBytes => 0x01 :: (sampleNonce.bytes ++ sealedBytes)) sealed
  -- the ciphertext and the tag are what is left behind version and nonce
  obtain ⟨_, _, ciphertext, mark⟩ := layout_injective
    ((payload_eq_layout encryptor sampleNonce samplePlaintext).symm.trans protects)
    (length_ciphertext_tag encryptor sampleNonce _)
  refine ⟨sealedWithData, congrArg Attempt.returned protects, ?_, ?_, ?_, ?_⟩
  · obtain ⟨other, same, opened, _⟩ := sealing sampleNonce samplePlaintext
    obtain rfl := Attempt.returned.inj (same.symm.trans (congrArg Attempt.returned protects))
    exact opened
  · rw [← ciphertext]
    exact changing sampleNonce samplePlaintext 2 sampleTag rfl (Or.inl (by decide))
  · rw [← ciphertext]
    exact changing sampleNonce samplePlaintext 1 (sampleTag.map (· ^^^ 1)) rfl
      (Or.inr (by rw [mark]; decide))
  · have unproduced : ∀ other plaintext,
        encryptor.toEncryptor.protect other plaintext ≠ .returned [1] := by
      intro other plaintext produced
      have short := congrArg List.length (Attempt.returned.inj produced)
      rw [length_payload] at short
      simp at short
    exact passing [1] unproduced _

end KnownAnswers

end SealingEncryptor

end TokenPersistence
