import Mathlib.Data.List.DropRight
import M5Auth.Core.Bytes
import M5Auth.Web.Base64
import M5Auth.Web.JsonText
import M5Auth.Web.VmkWrap

/-!
# The browser's Vault state and the Recovery Package

`browser-vault.ts` and `browser-vmk-rekey.ts`: the state that the browser stores, the wrapping of
the VMK under the browser's own key, and the Recovery Package with its export, parser and import.
Checks stand in the source's order. What a call draws at random is an argument.
-/

namespace M5Auth.Web

def browserStateVersion : Nat := 1
def bukWrapVersion : Nat := 1
def registrationIdBytes : Nat := 16
def brkPublicRawBytes : Nat := 65
def recoveryPackageMaxChars : Nat := 2000000

/-! ## Types -/

inductive KeyType where
  | secretKey | privateKey | publicKey
  deriving DecidableEq

inductive KeyUsage where
  | encrypt | decrypt | sign | verify
  deriving DecidableEq

/-- The algorithms of the keys that are checked. -/
inductive KeyAlgorithm where
  | aesGcm | ecdsaP256 | other
  deriving DecidableEq

/-- `CryptoKey`. `material` is what a key that is not extractable keeps inside the platform. -/
structure CryptoKey where
  type : KeyType
  extractable : Bool
  algorithm : KeyAlgorithm
  usages : List KeyUsage
  material : List UInt8
  deriving DecidableEq

inductive TrustedBrowserStatus where
  | active | replacementPending
  deriving DecidableEq

structure BrowserWrappedVmk where
  version : Nat
  nonce : List UInt8
  ciphertext : List UInt8
  tag : List UInt8
  deriving DecidableEq

structure TrustedBrowserRegistration where
  registrationId : List UInt8
  epoch : Nat
  status : TrustedBrowserStatus
  buk : CryptoKey
  brkPrivateKey : CryptoKey
  brkPublicKeyRaw : List UInt8
  wrappedVmk : BrowserWrappedVmk
  deriving DecidableEq

structure BrowserDeviceMetadata where
  deviceId : JsString
  deriving DecidableEq

structure BrowserCanonicalState where
  stateVersion : Nat
  vault : EncryptedVaultEnvelope
  recoveryWrappedVmk : PassphraseWrappedVmk
  trustedBrowser : TrustedBrowserRegistration
  deviceMetadata : Option BrowserDeviceMetadata
  deriving DecidableEq

/-- `sameBytes`. -/
def sameBytes (left right : List UInt8) : Bool :=
  left.length == right.length &&
    (List.zipWith (· ^^^ ·) left right).foldl (· ||| ·) 0 == 0

/-! ## Checks -/

/-- The checks of `validateStateFraming` on the Vault. -/
def validateVaultFraming (vault : EncryptedVaultEnvelope) : Except Thrown Unit := do
  require (vault.storageSchemaVersion == vaultTargetStorageSchemaVersion)
    "unsupported target storage schema"
  assertLength vault.vaultId vaultIdBytes "vaultId"
  assertLength vault.nonce aesGcmNonceBytes "Vault nonce"
  assertLength vault.tag aesGcmTagBytes "Vault tag"
  require (vault.ciphertextLength == vault.ciphertext.length) "Vault ciphertext framing mismatch"

/-- Its checks on the recovery wrapper. -/
def validateWrapperFraming (vault : EncryptedVaultEnvelope) (wrapped : PassphraseWrappedVmk) :
    Except Thrown Unit := do
  require (wrapped.packageVersion == recoveryPackageVersion) "unsupported Recovery Package version"
  require (wrapped.wrapVersion == vmkWrapVersion) "unsupported VMK wrap version"
  require (wrapped.vaultFormatVersion == vault.vaultFormatVersion)
    "Vault and wrapped VMK format mismatch"
  assertLength wrapped.vaultId vaultIdBytes "wrapped VMK vaultId"
  require (sameBytes vault.vaultId wrapped.vaultId) "Vault and wrapped VMK vault_id mismatch"
  assertLength wrapped.nonce aesGcmNonceBytes "wrapped VMK nonce"
  assertLength wrapped.tag aesGcmTagBytes "wrapped VMK tag"
  require (wrapped.ciphertext.length == aesGcmKeyBytes) "wrapped VMK ciphertext must be 32 bytes"

/-- Its checks on the registration. -/
def validateRegistrationFraming (registration : TrustedBrowserRegistration) :
    Except Thrown Unit := do
  assertLength registration.registrationId registrationIdBytes "registrationId"
  require (decide (registration.epoch ≤ 9007199254740991) && decide (1 ≤ registration.epoch))
    "registration epoch must be a positive safe integer"
  require (registration.buk.type == .secretKey) "BUK must be a secret CryptoKey"
  require (registration.buk.extractable == false) "BUK must be non-extractable"
  require (registration.buk.algorithm == .aesGcm) "BUK must use AES-GCM"
  require (registration.buk.usages.contains .encrypt && registration.buk.usages.contains .decrypt)
    "BUK usages are invalid"
  require (registration.brkPrivateKey.type == .privateKey) "BRK private key is invalid"
  require (registration.brkPrivateKey.extractable == false)
    "BRK private key must be non-extractable"
  require (registration.brkPrivateKey.algorithm == .ecdsaP256) "BRK must use ECDSA P-256"
  require (registration.brkPrivateKey.usages.contains .sign) "BRK private key must permit signing"
  assertLength registration.brkPublicKeyRaw brkPublicRawBytes "BRK public key"
  require (registration.wrappedVmk.version == bukWrapVersion) "unsupported BUK VMK wrap version"
  assertLength registration.wrappedVmk.nonce aesGcmNonceBytes "BUK VMK wrap nonce"
  assertLength registration.wrappedVmk.tag aesGcmTagBytes "BUK VMK wrap tag"
  require (registration.wrappedVmk.ciphertext.length == aesGcmKeyBytes)
    "BUK wrapped VMK ciphertext must be 32 bytes"

/-- `validateStateFraming`; the types have the supported formats and statuses only. -/
def validateStateFraming (state : BrowserCanonicalState) : Except Thrown Unit := do
  require (state.stateVersion == browserStateVersion)
    s!"unsupported browser state version: {state.stateVersion}"
  validateVaultFraming state.vault
  validateWrapperFraming state.vault state.recoveryWrappedVmk
  validateRegistrationFraming state.trustedBrowser
  match state.deviceMetadata with
  | some metadata => require (decide (0 < metadata.deviceId.length)) "deviceId must not be empty"
  | none => .ok ()

/-- `sanitizeBrowserCanonicalState`: a copy of a state that passes the checks. -/
def sanitizeBrowserCanonicalState (state : BrowserCanonicalState) :
    Except Thrown BrowserCanonicalState := do
  validateStateFraming state
  .ok state

/-! ## The browser's wrapper -/

/-- `toHex`. -/
def toHex (value : List UInt8) : JsString :=
  value.flatMap fun byte => [hexUnit (byte / 16).toUInt16, hexUnit (byte % 16).toUInt16]

/-- `buildBukWrapAad`. -/
def buildBukWrapAad (vaultId registrationId : List UInt8) (epoch : Nat) :
    Except Thrown (List UInt8) := do
  assertLength vaultId vaultIdBytes "vaultId"
  assertLength registrationId registrationIdBytes "registrationId"
  require (decide (epoch ≤ 9007199254740991) && decide (1 ≤ epoch))
    "registration epoch must be positive"
  .ok (textEncode (literal "M5AUTH-BUK-WRAP1\x00" ++ toHex vaultId ++ [58] ++
    toHex registrationId ++ [58] ++ literal (toString epoch)))

/-- What a registration draws: its identifier, its keys and the nonce of its wrapper. The raw
public key of P-256 has 65 bytes. -/
structure RegistrationDraw where
  registrationId : Bytes 16
  buk : Bytes 32
  brk : List UInt8
  brkPublicKeyRaw : Bytes 65
  wrapNonce : Bytes 12

/-- The BUK of `generateTrustedBrowserKeys`, as `generateKey` makes it. -/
def generatedBuk (draw : RegistrationDraw) : CryptoKey where
  type := .secretKey
  extractable := false
  algorithm := .aesGcm
  usages := [.encrypt, .decrypt]
  material := draw.buk.1

/-- Its private BRK. -/
def generatedBrk (draw : RegistrationDraw) : CryptoKey where
  type := .privateKey
  extractable := false
  algorithm := .ecdsaP256
  usages := [.sign]
  material := draw.brk

/-- `splitCiphertextAndTag` of `browser-vault.ts`. -/
def splitWrappedVmk (combined : List UInt8) : Except Thrown (List UInt8 × List UInt8) := do
  require (decide (aesGcmTagBytes ≤ combined.length)) "AES-GCM result is shorter than the tag"
  .ok (combined.take (combined.length - aesGcmTagBytes),
    combined.drop (combined.length - aesGcmTagBytes))

/-- `wrapVmkWithBuk`. -/
def wrapVmkWithBuk (platform : Platform) (nonce vmk : List UInt8) (buk : CryptoKey)
    (vaultId registrationId : List UInt8) (epoch : Nat) : Except Thrown BrowserWrappedVmk := do
  assertLength vmk aesGcmKeyBytes "VMK"
  let aad ← buildBukWrapAad vaultId registrationId epoch
  let (ciphertext, tag) ← splitWrappedVmk (platform.encrypt buk.material nonce vmk aad)
  .ok { version := bukWrapVersion, nonce, ciphertext, tag }

/-- `unwrapVmkForTrustedBrowser`. -/
def unwrapVmkForTrustedBrowser (platform : Platform) (state : BrowserCanonicalState) :
    Except Thrown (List UInt8) := do
  validateStateFraming state
  let wrapped := state.trustedBrowser.wrappedVmk
  let aad ← buildBukWrapAad state.vault.vaultId state.trustedBrowser.registrationId
    state.trustedBrowser.epoch
  let combined ← joinCiphertextAndTag wrapped.ciphertext wrapped.tag
  let vmk ← subtleDecrypt platform state.trustedBrowser.buk.material wrapped.nonce combined aad
  assertLength vmk aesGcmKeyBytes "unwrapped VMK"
  .ok vmk

/-- `createBrowserCanonicalState`. -/
def createBrowserCanonicalState (platform : Platform) (draw : RegistrationDraw)
    (vault : EncryptedVaultEnvelope) (recoveryWrappedVmk : PassphraseWrappedVmk) (vmk : List UInt8)
    (epoch : Nat) (status : TrustedBrowserStatus) (deviceMetadata : Option BrowserDeviceMetadata) :
    Except Thrown BrowserCanonicalState := do
  assertLength vmk aesGcmKeyBytes "VMK"
  require (sameBytes vault.vaultId recoveryWrappedVmk.vaultId)
    "Vault and recovery wrapper vault_id mismatch"
  require (vault.vaultFormatVersion == recoveryWrappedVmk.vaultFormatVersion)
    "Vault and recovery wrapper format mismatch"
  let wrappedVmk ← wrapVmkWithBuk platform draw.wrapNonce.1 vmk (generatedBuk draw) vault.vaultId
    draw.registrationId.1 epoch
  sanitizeBrowserCanonicalState
    { stateVersion := browserStateVersion, vault, recoveryWrappedVmk
      trustedBrowser :=
        { registrationId := draw.registrationId.1, epoch, status, buk := generatedBuk draw
          brkPrivateKey := generatedBrk draw, brkPublicKeyRaw := draw.brkPublicKeyRaw.1
          wrappedVmk }
      deviceMetadata }

/-! ## Base64url -/

/-- `toBase64Url`. -/
def toBase64Url (value : List UInt8) : JsString :=
  let replaced := ((btoa value).map fun unit => if unit = 43 then 45 else unit).map
    fun unit => if unit = 47 then 95 else unit
  replaced.rdropWhile (· == equalsSign)

/-- `/^[A-Za-z0-9_-]*$/`. -/
def isBase64Url (value : JsString) : Bool :=
  value.all fun unit => (65 ≤ unit && unit ≤ 90) || (97 ≤ unit && unit ≤ 122) || isDigit unit ||
    unit == 95 || unit == 45

/-- `padEnd` with equals signs. -/
def padEnd (value : JsString) (length : Nat) : JsString :=
  value ++ List.replicate (length - value.length) equalsSign

/-- `fromBase64Url`. -/
def fromBase64Url (value : Option JsonValue) (field : String) : Except Thrown (List UInt8) :=
  match JsonValue.string? value with
  | none => .error (.error s!"{field} is not valid base64url")
  | some value => do
    require (isBase64Url value) s!"{field} is not valid base64url"
    let replaced := (value.map fun unit => if unit = 45 then 43 else unit).map
      fun unit => if unit = 95 then 47 else unit
    match atob (padEnd replaced ((value.length + 3) / 4 * 4)) with
    | some bytes => .ok bytes
    | none => .error (.error s!"{field} is not valid base64url")

/-! ## Members of the package -/

/-- `asObject`. -/
def asObject (value : Option JsonValue) (field : String) : Except Thrown JsonValue :=
  match value with
  | some (.object members) => .ok (.object members)
  | _ => .error (.error s!"{field} must be an object")

/-- `asInteger`. -/
def asInteger (value : Option JsonValue) (field : String) (minimum : Nat) : Except Thrown Nat :=
  match JsonValue.number? value with
  | none => .error (.error s!"{field} must be a safe integer")
  | some value => do
    require (value.isSafeInteger && value.inRange minimum 9007199254740991)
      s!"{field} must be a safe integer"
    .ok value.toNat

/-- `asString`. -/
def asString (value : Option JsonValue) (field : String) : Except Thrown JsString :=
  match JsonValue.string? value with
  | some value => .ok value
  | none => .error (.error s!"{field} must be a string")

/-- `parseGeneration`. -/
def parseGeneration (value : Option JsonValue) : Except Thrown Nat := do
  let encoded ← asString value "vault.generation"
  require (isU64Decimal encoded) "vault.generation is invalid"
  let generation := bigInt encoded
  require (decide (generation ≤ 0xffffffffffffffff)) "vault.generation exceeds u64"
  .ok generation

/-- `parseVaultFormatVersion`. -/
def parseVaultFormatVersion (value : Option JsonValue) (field : String) :
    Except Thrown VaultFormatVersion := do
  let version ← asInteger value field 1
  if version = VaultFormatVersion.legacy.number then .ok .legacy
  else if version = VaultFormatVersion.current.number then .ok .current
  else .error (.error s!"unsupported {field}")

/-! ## The Recovery Package -/

/-- The value that `exportRecoveryPackage` prints. -/
def packageJson (state : BrowserCanonicalState) : Printable :=
  let vault := state.vault
  let wrapped := state.recoveryWrappedVmk
  .object
    [("packageVersion", .integer recoveryPackageVersion),
      ("vault", .object
        [("vaultFormatVersion", .integer vault.vaultFormatVersion.number),
          ("storageSchemaVersion", .integer vault.storageSchemaVersion),
          ("vaultId", .string (toBase64Url vault.vaultId)),
          ("generation", .string (literal (toString vault.generation))),
          ("nonce", .string (toBase64Url vault.nonce)),
          ("ciphertext", .string (toBase64Url vault.ciphertext)),
          ("tag", .string (toBase64Url vault.tag)),
          ("ciphertextLength", .integer vault.ciphertextLength)]),
      ("wrappedVmk", .object
        [("packageVersion", .integer wrapped.packageVersion),
          ("wrapVersion", .integer wrapped.wrapVersion),
          ("vaultFormatVersion", .integer wrapped.vaultFormatVersion.number),
          ("vaultId", .string (toBase64Url wrapped.vaultId)),
          ("kdf", .object
            [("algorithm", .string (literal "argon2id")),
              ("version", .integer wrapped.kdf.version),
              ("memoryKiB", .integer wrapped.kdf.memoryKiB),
              ("iterations", .integer wrapped.kdf.iterations),
              ("parallelism", .integer wrapped.kdf.parallelism),
              ("salt", .string (toBase64Url wrapped.kdf.salt)),
              ("outputBytes", .integer wrapped.kdf.outputBytes)]),
          ("nonce", .string (toBase64Url wrapped.nonce)),
          ("ciphertext", .string (toBase64Url wrapped.ciphertext)),
          ("tag", .string (toBase64Url wrapped.tag))]),
      ("previousRegistration", .object
        [("registrationId", .string (toBase64Url state.trustedBrowser.registrationId)),
          ("epoch", .integer state.trustedBrowser.epoch)]),
      ("deviceMetadata", match state.deviceMetadata with
        | some metadata => .object [("deviceId", .string metadata.deviceId)]
        | none => .null)]

/-- `exportRecoveryPackage`. -/
def exportRecoveryPackage (state : BrowserCanonicalState) : Except Thrown JsString := do
  let safe ← sanitizeBrowserCanonicalState state
  .ok (jsonStringify (packageJson safe))

structure PreviousRegistration where
  registrationId : List UInt8
  epoch : Nat
  deriving DecidableEq

/-- What `parseRecoveryPackage` returns. -/
structure RecoveryPackage where
  vault : EncryptedVaultEnvelope
  wrappedVmk : PassphraseWrappedVmk
  previousRegistration : PreviousRegistration
  deviceMetadata : Option BrowserDeviceMetadata
  deriving DecidableEq

def parsePackageVault (vaultJson : JsonValue) : Except Thrown EncryptedVaultEnvelope := do
  let vaultFormatVersion ← parseVaultFormatVersion (vaultJson.get "vaultFormatVersion")
    "vault.vaultFormatVersion"
  let storageSchemaVersion ← asInteger (vaultJson.get "storageSchemaVersion")
    "vault.storageSchemaVersion" 1
  let vaultId ← fromBase64Url (vaultJson.get "vaultId") "vault.vaultId"
  let generation ← parseGeneration (vaultJson.get "generation")
  let nonce ← fromBase64Url (vaultJson.get "nonce") "vault.nonce"
  let ciphertext ← fromBase64Url (vaultJson.get "ciphertext") "vault.ciphertext"
  let tag ← fromBase64Url (vaultJson.get "tag") "vault.tag"
  let ciphertextLength ← asInteger (vaultJson.get "ciphertextLength") "vault.ciphertextLength" 0
  .ok
    { vaultFormatVersion, storageSchemaVersion, vaultId, generation, nonce, ciphertext, tag
      ciphertextLength }

def parsePackageKdf (kdfJson : JsonValue) : Except Thrown Argon2idKdfMetadata := do
  let version ← asInteger (kdfJson.get "version") "wrappedVmk.kdf.version" 1
  let memoryKiB ← asInteger (kdfJson.get "memoryKiB") "wrappedVmk.kdf.memoryKiB" 1
  let iterations ← asInteger (kdfJson.get "iterations") "wrappedVmk.kdf.iterations" 1
  let parallelism ← asInteger (kdfJson.get "parallelism") "wrappedVmk.kdf.parallelism" 1
  let salt ← fromBase64Url (kdfJson.get "salt") "wrappedVmk.kdf.salt"
  let outputBytes ← asInteger (kdfJson.get "outputBytes") "wrappedVmk.kdf.outputBytes" 1
  .ok { version, memoryKiB, iterations, parallelism, salt, outputBytes }

def parsePackageWrapper (wrappedJson : JsonValue) : Except Thrown PassphraseWrappedVmk := do
  let kdfJson ← asObject (wrappedJson.get "kdf") "wrappedVmk.kdf"
  let algorithm ← asString (kdfJson.get "algorithm") "wrappedVmk.kdf.algorithm"
  require (algorithm == literal "argon2id") "unsupported Recovery Package KDF"
  let packageVersion ← asInteger (wrappedJson.get "packageVersion") "wrappedVmk.packageVersion" 1
  let wrapVersion ← asInteger (wrappedJson.get "wrapVersion") "wrappedVmk.wrapVersion" 1
  let vaultFormatVersion ← parseVaultFormatVersion (wrappedJson.get "vaultFormatVersion")
    "wrappedVmk.vaultFormatVersion"
  let vaultId ← fromBase64Url (wrappedJson.get "vaultId") "wrappedVmk.vaultId"
  let kdf ← parsePackageKdf kdfJson
  let nonce ← fromBase64Url (wrappedJson.get "nonce") "wrappedVmk.nonce"
  let ciphertext ← fromBase64Url (wrappedJson.get "ciphertext") "wrappedVmk.ciphertext"
  let tag ← fromBase64Url (wrappedJson.get "tag") "wrappedVmk.tag"
  .ok
    { packageVersion, wrapVersion, vaultFormatVersion, vaultId, kdf, nonce, ciphertext, tag }

def parsePreviousRegistration (previousJson : JsonValue) : Except Thrown PreviousRegistration := do
  let registrationId ← fromBase64Url (previousJson.get "registrationId")
    "previousRegistration.registrationId"
  let epoch ← asInteger (previousJson.get "epoch") "previousRegistration.epoch" 1
  assertLength registrationId registrationIdBytes "previous registrationId"
  .ok { registrationId, epoch }

def parsePackageDevice (value : Option JsonValue) :
    Except Thrown (Option BrowserDeviceMetadata) :=
  match value with
  | none | some .null => .ok none
  | some value => do
    let deviceJson ← asObject (some value) "deviceMetadata"
    let deviceId ← asString (deviceJson.get "deviceId") "deviceMetadata.deviceId"
    require (decide (0 < deviceId.length) && decide (deviceId.length ≤ 256))
      "deviceMetadata.deviceId length is invalid"
    .ok (some ⟨deviceId⟩)

/-- The last checks of `parseRecoveryPackage`. -/
def checkPackage (vault : EncryptedVaultEnvelope) (wrappedVmk : PassphraseWrappedVmk) :
    Except Thrown Unit := do
  require (vault.storageSchemaVersion == vaultTargetStorageSchemaVersion)
    "unsupported storage schema version"
  assertLength vault.vaultId vaultIdBytes "vaultId"
  assertLength vault.nonce aesGcmNonceBytes "Vault nonce"
  assertLength vault.tag aesGcmTagBytes "Vault tag"
  require (vault.ciphertextLength == vault.ciphertext.length) "Vault ciphertext framing mismatch"
  require (sameBytes vault.vaultId wrappedVmk.vaultId) "Vault and wrapped VMK vault_id mismatch"
  require (vault.vaultFormatVersion == wrappedVmk.vaultFormatVersion)
    "Vault and wrapped VMK format mismatch"

/-- `parseRecoveryPackage`. -/
def parseRecoveryPackage (serialized : JsString) : Except Thrown RecoveryPackage := do
  require (decide (0 < serialized.length) && decide (serialized.length ≤ recoveryPackageMaxChars))
    "Recovery Package size is invalid"
  match jsonParse serialized with
  | none => .error (.error "Recovery Package is not valid JSON")
  | some parsed => do
    let root ← asObject (some parsed) "Recovery Package"
    let packageVersion ← asInteger (root.get "packageVersion") "packageVersion" 1
    require (packageVersion == recoveryPackageVersion) "unsupported Recovery Package version"
    let vaultJson ← asObject (root.get "vault") "vault"
    let vault ← parsePackageVault vaultJson
    let wrappedJson ← asObject (root.get "wrappedVmk") "wrappedVmk"
    let wrappedVmk ← parsePackageWrapper wrappedJson
    let previousJson ← asObject (root.get "previousRegistration") "previousRegistration"
    let previousRegistration ← parsePreviousRegistration previousJson
    let deviceMetadata ← parsePackageDevice (root.get "deviceMetadata")
    checkPackage vault wrappedVmk
    .ok { vault, wrappedVmk, previousRegistration, deviceMetadata }

/-- `importRecoveryPackage`. -/
def importRecoveryPackage (platform : Platform) (draw : RegistrationDraw) (serialized : JsString)
    (passphrase : JsString) : Except Thrown BrowserCanonicalState := do
  let parsed ← parseRecoveryPackage serialized
  let vmk ← unwrapVmkWithPassphrase platform parsed.wrappedVmk passphrase
  let plaintext ← decryptVault platform parsed.vault vmk
  let _ ← decodeVaultPlaintext plaintext (some parsed.vault.vaultFormatVersion)
  let nextEpoch := parsed.previousRegistration.epoch + 1
  require (decide (nextEpoch ≤ 9007199254740991)) "registration epoch overflow"
  createBrowserCanonicalState platform draw parsed.vault parsed.wrappedVmk vmk nextEpoch
    .replacementPending parsed.deviceMetadata

/-! ## Changes of the state -/

/-- `changeRecoveryPassphrase`, with the salt and the nonce it draws. -/
def changeRecoveryPassphrase (platform : Platform) (salt nonce : List UInt8)
    (state : BrowserCanonicalState) (currentPassphrase newPassphrase : JsString) :
    Except Thrown BrowserCanonicalState := do
  let safe ← sanitizeBrowserCanonicalState state
  let vmk ← unwrapVmkWithPassphrase platform safe.recoveryWrappedVmk currentPassphrase
  let _ ← decryptVault platform safe.vault vmk
  let replacement ← wrapVmkWithPassphraseForFormat platform salt nonce vmk safe.vault.vaultId
    newPassphrase safe.vault.vaultFormatVersion
  sanitizeBrowserCanonicalState { safe with recoveryWrappedVmk := replacement }

/-- `sameBrowserWrappedVmk`. -/
def sameBrowserWrappedVmk (left right : BrowserWrappedVmk) : Bool :=
  left.version == right.version && sameBytes left.nonce right.nonce &&
    sameBytes left.ciphertext right.ciphertext && sameBytes left.tag right.tag

/-- `mergeVaultAdvanceWithCurrentBrowserState`. -/
def mergeVaultAdvanceWithCurrentBrowserState (current incoming : BrowserCanonicalState)
    (expectedGeneration : Nat) : Except Thrown BrowserCanonicalState := do
  let safeCurrent ← sanitizeBrowserCanonicalState current
  let safeIncoming ← sanitizeBrowserCanonicalState incoming
  let isSingleGenerationAdvance := safeIncoming.vault.generation == expectedGeneration + 1
  let sameVault := sameBytes safeCurrent.vault.vaultId safeIncoming.vault.vaultId
  let sameBrowserVmk := sameBrowserWrappedVmk safeCurrent.trustedBrowser.wrappedVmk
    safeIncoming.trustedBrowser.wrappedVmk
  if !isSingleGenerationAdvance || !sameVault || !sameBrowserVmk then .ok safeIncoming
  else
    sanitizeBrowserCanonicalState
      { safeCurrent with
        vault := safeIncoming.vault
        recoveryWrappedVmk :=
          { safeCurrent.recoveryWrappedVmk with
            vaultFormatVersion := safeIncoming.vault.vaultFormatVersion } }

/-- `rekeyTrustedBrowserState`, with the nonce it draws. -/
def rekeyTrustedBrowserState (platform : Platform) (nonce : List UInt8)
    (current : BrowserCanonicalState) (nextVault : EncryptedVaultEnvelope)
    (nextRecoveryWrappedVmk : PassphraseWrappedVmk) (nextVmk : List UInt8) :
    Except Thrown BrowserCanonicalState := do
  let current ← sanitizeBrowserCanonicalState current
  require (nextVmk.length == aesGcmKeyBytes) "VMK must be 32 bytes"
  require (sameBytes current.vault.vaultId nextVault.vaultId) "VMK re-key cannot change vault_id"
  require (sameBytes nextVault.vaultId nextRecoveryWrappedVmk.vaultId)
    "re-keyed Vault and Recovery wrapper vault_id mismatch"
  require (nextVault.generation == current.vault.generation + 1)
    "VMK re-key must advance exactly one Vault generation"
  let aad ← buildBukWrapAad current.vault.vaultId current.trustedBrowser.registrationId
    current.trustedBrowser.epoch
  let combined := platform.encrypt current.trustedBrowser.buk.material nonce nextVmk aad
  require (combined.length == aesGcmKeyBytes + aesGcmTagBytes) "BUK VMK wrap length is invalid"
  sanitizeBrowserCanonicalState
    { current with
      vault := nextVault
      recoveryWrappedVmk := nextRecoveryWrappedVmk
      trustedBrowser :=
        { current.trustedBrowser with
          wrappedVmk :=
            { version := bukWrapVersion, nonce, ciphertext := combined.take aesGcmKeyBytes
              tag := combined.drop aesGcmKeyBytes } } }

end M5Auth.Web
