import M5Auth.Web.Passphrase
import M5Auth.Web.VaultCrypto

/-!
# Opening a Vault and wrapping its key

`decryptVault`, `wrapVmkWithPassphraseForFormat` and `unwrapVmkWithPassphrase` of
`vault-crypto.ts`. The platform's functions are the parameter `Platform`; `Platform.Correct` is
what is known of them.
-/

namespace M5Auth.Web

def recoveryPackageVersion : Nat := 1
def vmkWrapVersion : Nat := 1
def argon2idVersion : Nat := 19
def argon2idMemoryKiB : Nat := 32768
def argon2idIterations : Nat := 3
def argon2idParallelism : Nat := 1
def argon2idSaltBytes : Nat := 32
def argon2idOutputBytes : Nat := 32

/-- AES-GCM, Argon2id and the normalization of texts. `decrypt` fails where the tag does not fit. -/
structure Platform extends AesGcm where
  decrypt (key nonce combined aad : List UInt8) : Option (List UInt8)
  argon2id (password salt : List UInt8) (parallelism iterations memorySize hashLength : Nat) :
    List UInt8
  normalize : JsString → JsString

/-- What was encrypted is decrypted, and the results have their documented lengths. -/
structure Platform.Correct (platform : Platform) : Prop where
  tags : platform.Tags
  decrypt_encrypt : ∀ key nonce plaintext aad,
    platform.decrypt key nonce (platform.encrypt key nonce plaintext aad) aad = some plaintext
  decrypt_length : ∀ key nonce combined aad plaintext,
    platform.decrypt key nonce combined aad = some plaintext →
      combined.length = plaintext.length + aesGcmTagBytes
  argon2id_length : ∀ password salt parallelism iterations memorySize hashLength,
    (platform.argon2id password salt parallelism iterations memorySize hashLength).length =
      hashLength

/-- `Argon2idKdfMetadata`. Its algorithm is always Argon2id. -/
structure Argon2idKdfMetadata where
  version : Nat
  memoryKiB : Nat
  iterations : Nat
  parallelism : Nat
  salt : List UInt8
  outputBytes : Nat
  deriving DecidableEq

/-- `PassphraseWrappedVmk`. -/
structure PassphraseWrappedVmk where
  packageVersion : Nat
  wrapVersion : Nat
  vaultFormatVersion : VaultFormatVersion
  vaultId : List UInt8
  kdf : Argon2idKdfMetadata
  nonce : List UInt8
  ciphertext : List UInt8
  tag : List UInt8
  deriving DecidableEq

/-! ## The Vault -/

/-- `joinCiphertextAndTag`. -/
def joinCiphertextAndTag (ciphertext tag : List UInt8) : Except Thrown (List UInt8) := do
  assertLength tag aesGcmTagBytes "AES-GCM tag"
  .ok (ciphertext ++ tag)

/-- `crypto.subtle.decrypt`: it throws an `OperationError` where the tag does not fit. -/
def subtleDecrypt (platform : Platform) (key nonce combined aad : List UInt8) :
    Except Thrown (List UInt8) :=
  match platform.decrypt key nonce combined aad with
  | some plaintext => .ok plaintext
  | none => .error (.error "OperationError")

/-- `aesGcmDecrypt`. -/
def aesGcmDecrypt (platform : Platform) (key nonce ciphertext tag aad : List UInt8) :
    Except Thrown (List UInt8) := do
  assertLength nonce aesGcmNonceBytes "AES-GCM nonce"
  assertLength key aesGcmKeyBytes "AES-256 key"
  let combined ← joinCiphertextAndTag ciphertext tag
  subtleDecrypt platform key nonce combined aad

/-- `validateVaultEnvelope`; the type has the supported formats only. -/
def validateVaultEnvelope (envelope : EncryptedVaultEnvelope) : Except Thrown Unit := do
  require (envelope.storageSchemaVersion == vaultTargetStorageSchemaVersion)
    s!"unsupported storage schema version: {envelope.storageSchemaVersion}"
  assertLength envelope.vaultId vaultIdBytes "vaultId"
  assertLength envelope.nonce aesGcmNonceBytes "vault nonce"
  assertLength envelope.tag aesGcmTagBytes "vault tag"
  require (envelope.ciphertextLength == envelope.ciphertext.length)
    "vault ciphertext length framing mismatch"

/-- `decryptVault`. -/
def decryptVault (platform : Platform) (envelope : EncryptedVaultEnvelope) (vmk : List UInt8) :
    Except Thrown (List UInt8) := do
  validateVaultEnvelope envelope
  assertLength vmk aesGcmKeyBytes "VMK"
  let aad ← buildVaultAad envelope.vaultId envelope.generation envelope.vaultFormatVersion
  aesGcmDecrypt platform vmk envelope.nonce envelope.ciphertext envelope.tag aad

/-! ## The key -/

/-- `createArgon2idMetadata`, with the salt it draws. -/
def createArgon2idMetadata (salt : List UInt8) : Argon2idKdfMetadata where
  version := argon2idVersion
  memoryKiB := argon2idMemoryKiB
  iterations := argon2idIterations
  parallelism := argon2idParallelism
  salt := salt
  outputBytes := argon2idOutputBytes

/-- `validateKdfMetadata`. -/
def validateKdfMetadata (metadata : Argon2idKdfMetadata) : Except Thrown Unit := do
  require (metadata.version == argon2idVersion)
    s!"unsupported Argon2id version: {metadata.version}"
  require (metadata.memoryKiB == argon2idMemoryKiB && metadata.iterations == argon2idIterations &&
    metadata.parallelism == argon2idParallelism && metadata.outputBytes == argon2idOutputBytes)
    "unsupported Argon2id parameter set"
  assertLength metadata.salt argon2idSaltBytes "Argon2id salt"

/-- `derivePassphraseKek`. -/
def derivePassphraseKek (platform : Platform) (passphrase : JsString)
    (metadata : Argon2idKdfMetadata) : Except Thrown (List UInt8) := do
  validateKdfMetadata metadata
  let encoded ← normalizeAndValidatePassphrase platform.normalize passphrase
  .ok (platform.argon2id encoded metadata.salt metadata.parallelism metadata.iterations
    metadata.memoryKiB metadata.outputBytes)

def vmkWrapAadMagic : List UInt8 := textEncode (literal "M5AUTH-VMK-WRAP1\x00")

/-- `writeVersion`. -/
def writeVersion (version expected : Nat) (field : String) : Except Thrown (List UInt8) := do
  require (version == expected) s!"unsupported {field}: {version}"
  ByteWriter.u16 (.integer version)

/-- `buildVmkWrapAad`. -/
def buildVmkWrapAad (vaultId : List UInt8) (packageVersion wrapVersion : Nat) :
    Except Thrown (List UInt8) := do
  assertLength vaultId vaultIdBytes "vaultId"
  let package ← writeVersion packageVersion recoveryPackageVersion "Recovery Package version"
  let wrap ← writeVersion wrapVersion vmkWrapVersion "VMK wrap version"
  .ok (vmkWrapAadMagic ++ package ++ wrap ++ vaultId)

/-- `validateWrappedVmk`; the type has the supported formats only. -/
def validateWrappedVmk (value : PassphraseWrappedVmk) : Except Thrown Unit := do
  require (value.packageVersion == recoveryPackageVersion)
    s!"unsupported Recovery Package version: {value.packageVersion}"
  require (value.wrapVersion == vmkWrapVersion)
    s!"unsupported VMK wrap version: {value.wrapVersion}"
  assertLength value.vaultId vaultIdBytes "vaultId"
  assertLength value.nonce aesGcmNonceBytes "VMK wrap nonce"
  assertLength value.tag aesGcmTagBytes "VMK wrap tag"
  require (value.ciphertext.length == aesGcmKeyBytes) "wrapped VMK ciphertext must be 32 bytes"
  validateKdfMetadata value.kdf

/-- `wrapVmkWithPassphraseForFormat`, with the salt and the nonce it draws. -/
def wrapVmkWithPassphraseForFormat (platform : Platform) (salt nonce vmk vaultId : List UInt8)
    (passphrase : JsString) (version : VaultFormatVersion) : Except Thrown PassphraseWrappedVmk := do
  assertLength vmk aesGcmKeyBytes "VMK"
  assertLength vaultId vaultIdBytes "vaultId"
  let _ ← normalizeAndValidateNewRecoveryPassphrase platform.normalize passphrase
  let kdf := createArgon2idMetadata salt
  validateKdfMetadata kdf
  let kek ← derivePassphraseKek platform passphrase kdf
  let aad ← buildVmkWrapAad vaultId recoveryPackageVersion vmkWrapVersion
  let (ciphertext, tag) ← aesGcmEncrypt platform.toAesGcm kek nonce vmk aad
  .ok
    { packageVersion := recoveryPackageVersion, wrapVersion := vmkWrapVersion
      vaultFormatVersion := version, vaultId, kdf, nonce, ciphertext, tag }

/-- `unwrapVmkWithPassphrase`. -/
def unwrapVmkWithPassphrase (platform : Platform) (wrapped : PassphraseWrappedVmk)
    (passphrase : JsString) : Except Thrown (List UInt8) := do
  validateWrappedVmk wrapped
  let kek ← derivePassphraseKek platform passphrase wrapped.kdf
  let aad ← buildVmkWrapAad wrapped.vaultId wrapped.packageVersion wrapped.wrapVersion
  let vmk ← aesGcmDecrypt platform kek wrapped.nonce wrapped.ciphertext wrapped.tag aad
  assertLength vmk aesGcmKeyBytes "unwrapped VMK"
  .ok vmk

end M5Auth.Web
