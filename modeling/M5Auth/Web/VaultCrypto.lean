import M5Auth.Web.VaultFormat

/-!
# Sealing the Vault in the Web application

`encryptVaultForFormat` of `vault-crypto.ts`. AES-GCM is the platform's: `AesGcm` is a parameter,
and `AesGcm.Tags` what is known of the length of its results.
-/

namespace M5Auth.Web

def vaultIdBytes : Nat := 16
def vaultTargetStorageSchemaVersion : Nat := 2
def aesGcmKeyBytes : Nat := 32
def aesGcmNonceBytes : Nat := 12
def aesGcmTagBytes : Nat := 16

/-- `crypto.subtle.encrypt` for AES-GCM with a tag of 128 bits: the ciphertext, then the tag. -/
structure AesGcm where
  encrypt (key nonce plaintext aad : List UInt8) : List UInt8

/-- The ciphertext is as long as the plaintext. -/
def AesGcm.Tags (aes : AesGcm) : Prop :=
  ∀ key nonce plaintext aad,
    (aes.encrypt key nonce plaintext aad).length = plaintext.length + aesGcmTagBytes

/-- `EncryptedVaultEnvelope`. -/
structure EncryptedVaultEnvelope where
  vaultFormatVersion : VaultFormatVersion
  storageSchemaVersion : Nat
  vaultId : List UInt8
  generation : Nat
  nonce : List UInt8
  ciphertext : List UInt8
  tag : List UInt8
  ciphertextLength : Nat
  deriving DecidableEq

/-- `assertLength` and `assertFixedLength`. -/
def assertLength (value : List UInt8) (expected : Nat) (field : String) : Except Thrown Unit :=
  require (value.length == expected) s!"{field} must be {expected} bytes"

def vaultAadMagicV1 : List UInt8 := textEncode (literal "M5AUTH-VLT-AAD1\x00")
def vaultAadMagicV2 : List UInt8 := textEncode (literal "M5AUTH-VLT-AAD2\x00")

/-- `buildVaultAad`. -/
def buildVaultAad (vaultId : List UInt8) (generation : Nat) (version : VaultFormatVersion) :
    Except Thrown (List UInt8) := do
  assertLength vaultId vaultIdBytes "vaultId"
  let format ← ByteWriter.u16 (.integer version.number)
  let schema ← ByteWriter.u16 (.integer vaultTargetStorageSchemaVersion)
  require (decide (generation ≤ 0xffffffffffffffff)) "u64 out of range"
  let magic := match version with
    | .legacy => vaultAadMagicV1
    | .current => vaultAadMagicV2
  .ok (magic ++ format ++ schema ++ vaultId ++ appendBE 8 generation)

/-- `splitCiphertextAndTag`. -/
def splitCiphertextAndTag (combined : List UInt8) : Except Thrown (List UInt8 × List UInt8) := do
  require (decide (aesGcmTagBytes ≤ combined.length))
    "AES-GCM result is shorter than the authentication tag"
  .ok (combined.take (combined.length - aesGcmTagBytes),
    combined.drop (combined.length - aesGcmTagBytes))

/-- `aesGcmEncrypt`. -/
def aesGcmEncrypt (aes : AesGcm) (key nonce plaintext aad : List UInt8) :
    Except Thrown (List UInt8 × List UInt8) := do
  assertLength nonce aesGcmNonceBytes "AES-GCM nonce"
  assertLength key aesGcmKeyBytes "AES-256 key"
  splitCiphertextAndTag (aes.encrypt key nonce plaintext aad)

/-- `encryptVaultForFormat`, with the nonce it draws. -/
def encryptVaultForFormat (aes : AesGcm) (nonce plaintext vmk vaultId : List UInt8)
    (generation : Nat) (version : VaultFormatVersion) : Except Thrown EncryptedVaultEnvelope := do
  assertLength vmk aesGcmKeyBytes "VMK"
  assertLength vaultId vaultIdBytes "vaultId"
  let aad ← buildVaultAad vaultId generation version
  let (ciphertext, tag) ← aesGcmEncrypt aes vmk nonce plaintext aad
  .ok
    { vaultFormatVersion := version, storageSchemaVersion := vaultTargetStorageSchemaVersion
      vaultId, generation, nonce, ciphertext, tag, ciphertextLength := ciphertext.length }

/-! ## What is sealed -/

theorem assertLength_ok {value : List UInt8} {expected : Nat} {field : String} :
    assertLength value expected field = .ok () ↔ value.length = expected := by
  rw [assertLength, require_ok, beq_iff_eq]

theorem assertLength_bind {α : Type} {value : List UInt8} {expected : Nat} {field : String}
    {rest : Except Thrown α} (h : value.length = expected) :
    (do assertLength value expected field; rest) = rest := by
  rw [assertLength_ok.2 h]
  rfl

theorem buildVaultAad_ok {vaultId : List UInt8} (hid : vaultId.length = vaultIdBytes)
    {generation : Nat} (hgeneration : generation ≤ 0xffffffffffffffff)
    (version : VaultFormatVersion) : ∃ aad, buildVaultAad vaultId generation version = .ok aad := by
  unfold buildVaultAad
  rw [assertLength_bind hid, decide_eq_true hgeneration]
  cases version with
  | legacy => exact ⟨_, rfl⟩
  | current => exact ⟨_, rfl⟩

/-- Sealing succeeds and keeps the length. -/
theorem encryptVaultForFormat_ok {aes : AesGcm} (htags : aes.Tags) {vmk vaultId nonce : Text}
    (hvmk : vmk.length = aesGcmKeyBytes) (hid : vaultId.length = vaultIdBytes)
    (hnonce : nonce.length = aesGcmNonceBytes) {generation : Nat}
    (hgeneration : generation ≤ 0xffffffffffffffff) (version : VaultFormatVersion)
    (plaintext : List UInt8) :
    ∃ ciphertext tag, ciphertext.length = plaintext.length ∧ tag.length = aesGcmTagBytes ∧
      encryptVaultForFormat aes nonce plaintext vmk vaultId generation version = .ok
        { vaultFormatVersion := version, storageSchemaVersion := vaultTargetStorageSchemaVersion
          vaultId, generation, nonce, ciphertext, tag, ciphertextLength := ciphertext.length } := by
  obtain ⟨aad, haad⟩ := buildVaultAad_ok hid hgeneration version
  have hlength := htags vmk nonce plaintext aad
  refine ⟨(aes.encrypt vmk nonce plaintext aad).take plaintext.length,
    (aes.encrypt vmk nonce plaintext aad).drop plaintext.length, ?_, ?_, ?_⟩
  · rw [List.length_take, hlength]
    omega
  · rw [List.length_drop, hlength]
    omega
  · have hsplit : aesGcmEncrypt aes vmk nonce plaintext aad =
        .ok ((aes.encrypt vmk nonce plaintext aad).take plaintext.length,
          (aes.encrypt vmk nonce plaintext aad).drop plaintext.length) := by
      rw [aesGcmEncrypt, assertLength_bind hnonce, assertLength_bind hvmk, splitCiphertextAndTag,
        require_bind, hlength, Nat.add_sub_cancel]
      exact ⟨decide_eq_true (by omega), rfl⟩
    rw [encryptVaultForFormat, assertLength_bind hvmk, assertLength_bind hid, haad]
    exact bind_ok.2 ⟨_, rfl, bind_ok.2 ⟨_, hsplit, rfl⟩⟩

end M5Auth.Web
