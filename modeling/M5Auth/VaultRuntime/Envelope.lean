import M5Auth.Core.Endian
import M5Auth.VaultRuntime.Runtime

/-!
# The stored form of an envelope

The framing that `NvsPersistence` writes into a slot: a magic, the little-endian versions, the
identifiers and the ciphertext with its length. `decodeEnvelope_encodeEnvelope`: what is written
reads back as the same envelope.
-/

namespace M5Auth.VaultRuntime

open Vault

/-- `kEnvelopeMagic`. -/
def envelopeMagic : List UInt8 := ascii "M5AVLT2" ++ [0]

/-- `valid_envelope` of the persistence. -/
def validEnvelope (envelope : VaultEnvelope) : Bool :=
  envelope.storageSchemaVersion == targetStorageSchemaVersion &&
    isSupportedVaultFormat envelope.vaultFormatVersion && envelope.generation != 0 &&
    !envelope.ciphertext.isEmpty && envelope.ciphertext.length ≤ maxPersistedCiphertextBytes &&
    envelope.ciphertext.length ≤ 4294967295

/-- `encode_envelope`. -/
def encodeEnvelope (envelope : VaultEnvelope) : Except Status (List UInt8) :=
  if !validEnvelope envelope then .error .invalidArgument
  else .ok <| envelopeMagic ++ (appendLE 2 envelope.storageSchemaVersion.toNat ++
    (appendLE 2 envelope.vaultFormatVersion.toNat ++ (envelope.vaultId.1 ++
      (appendLE 8 envelope.generation.toNat ++ (envelope.nonce.1 ++ (envelope.tag.1 ++
        (appendLE 4 envelope.ciphertext.length ++ envelope.ciphertext)))))))

/-- The fixed-width fields, as `decode_envelope` reads them: the candidate without its ciphertext,
the ciphertext size and the rest of the input. -/
def readEnvelopeHeader (encoded : List UInt8) : Option (VaultEnvelope × Nat × List UInt8) := do
  let (magic, input) ← readExact 8 encoded
  if magic.1 ≠ envelopeMagic then none
  let (schema, input) ← readExact 2 input
  let (format, input) ← readExact 2 input
  let (vaultId, input) ← readExact 16 input
  let (generation, input) ← readExact 8 input
  let (nonce, input) ← readExact 12 input
  let (tag, input) ← readExact 16 input
  let (ciphertextSize, input) ← readExact 4 input
  some
    ({ storageSchemaVersion := UInt16.ofNat (valueLE schema.1)
       vaultFormatVersion := UInt16.ofNat (valueLE format.1)
       vaultId, generation := UInt64.ofNat (valueLE generation.1), nonce, tag },
      valueLE ciphertextSize.1, input)

/-- `decode_envelope`. -/
def decodeEnvelope (encoded : List UInt8) : Except Status VaultEnvelope :=
  match readEnvelopeHeader encoded with
  | none => .error .corrupt
  | some (candidate, ciphertextSize, input) =>
    if ciphertextSize = 0 ∨ ciphertextSize > maxPersistedCiphertextBytes then .error .corrupt
    else if candidate.storageSchemaVersion ≠ targetStorageSchemaVersion then .error .corrupt
    else if !isSupportedVaultFormat candidate.vaultFormatVersion then .error .unsupportedVaultFormat
    else
      let envelope := { candidate with ciphertext := input.take ciphertextSize }
      if input.length ≠ ciphertextSize ∨ !validEnvelope envelope then .error .corrupt
      else .ok envelope

/-! ## Round trip and validity -/

/-- The persistence's framing check is the runtime's. -/
theorem validEnvelope_eq (envelope : VaultEnvelope) :
    validEnvelope envelope = validEnvelopeFraming envelope := by
  have hle : envelope.ciphertext.length ≤ maxPersistedCiphertextBytes →
      envelope.ciphertext.length ≤ 4294967295 := by
    simp only [maxPersistedCiphertextBytes]
    omega
  rw [Bool.eq_iff_iff]
  simp only [validEnvelope, validEnvelopeFraming, Bool.and_eq_true, decide_eq_true_eq]
  constructor
  · rintro ⟨⟨⟨⟨⟨h1, h2⟩, h3⟩, h4⟩, h5⟩, _⟩
    exact ⟨⟨⟨⟨h2, h1⟩, h3⟩, h4⟩, h5⟩
  · rintro ⟨⟨⟨⟨h2, h1⟩, h3⟩, h4⟩, h5⟩
    exact ⟨⟨⟨⟨⟨h1, h2⟩, h3⟩, h4⟩, h5⟩, hle h5⟩

theorem decodeEnvelope_valid {encoded : List UInt8} {envelope : VaultEnvelope}
    (h : decodeEnvelope encoded = .ok envelope) : validEnvelopeFraming envelope = true := by
  unfold decodeEnvelope at h
  split at h
  · simp at h
  · split at h
    · simp at h
    · split at h
      · simp at h
      · split at h
        · simp at h
        · simp only at h
          split at h
          · simp at h
          · rename_i hok
            cases h
            rw [← validEnvelope_eq]
            simp only [not_or, Bool.not_eq_true', Bool.not_eq_false] at hok
            exact hok.2

/-- What is written into a slot reads back as the same envelope. -/
theorem decodeEnvelope_encodeEnvelope {envelope : VaultEnvelope}
    (h : validEnvelopeFraming envelope = true) :
    ∃ encoded, encodeEnvelope envelope = .ok encoded ∧ decodeEnvelope encoded = .ok envelope := by
  have hv : validEnvelope envelope = true := (validEnvelope_eq envelope).trans h
  refine ⟨_, by rw [encodeEnvelope, hv]; rfl, ?_⟩
  have hmagic := readExact_append (⟨envelopeMagic, by decide⟩ : Bytes 8)
  have hle {n : Nat} (value : Nat) := readExact_append (⟨appendLE n value, by simp⟩ : Bytes n)
  have hheader : readEnvelopeHeader (envelopeMagic ++
      (appendLE 2 envelope.storageSchemaVersion.toNat ++
      (appendLE 2 envelope.vaultFormatVersion.toNat ++ (envelope.vaultId.1 ++
        (appendLE 8 envelope.generation.toNat ++ (envelope.nonce.1 ++ (envelope.tag.1 ++
          (appendLE 4 envelope.ciphertext.length ++ envelope.ciphertext)))))))) =
      some ({ envelope with ciphertext := [] }, envelope.ciphertext.length,
        envelope.ciphertext) := by
    have hschema := valueLE_appendLE 2 _ envelope.storageSchemaVersion.toNat_lt
    have hformat := valueLE_appendLE 2 _ envelope.vaultFormatVersion.toNat_lt
    have hgen := valueLE_appendLE 8 _ envelope.generation.toNat_lt
    have hsize : envelope.ciphertext.length < 256 ^ 4 := by
      simp only [validEnvelope, Bool.and_eq_true, decide_eq_true_eq] at hv
      omega
    simp [readEnvelopeHeader, hmagic, hle, readExact_append, hschema, hformat, hgen,
      valueLE_appendLE 4 _ hsize]
  have hv' := hv
  simp only [validEnvelope, Bool.and_eq_true, beq_iff_eq, bne_iff_ne, ne_eq, Bool.not_eq_true',
    List.isEmpty_eq_false_iff, decide_eq_true_eq] at hv'
  obtain ⟨⟨⟨⟨⟨hs, hf⟩, _⟩, hne⟩, hmax⟩, _⟩ := hv'
  simp only [decodeEnvelope, hheader]
  rw [if_neg (by simp [hne, Nat.not_lt.2 hmax]), if_neg (by simp [hs]), if_neg (by simp [hf]),
    if_neg (by simpa using hv)]
  simp

end M5Auth.VaultRuntime
