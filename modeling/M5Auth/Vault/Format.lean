import M5Auth.Core.Endian

/-!
# Vault envelopes and the plaintext format

The encrypted envelope the Device stores, the big-endian plaintext format of the decrypted Vault
(`decodePlaintext` and `encodePlaintext`, both format versions) and the authenticated header
(`buildVaultAad`).
-/

namespace M5Auth.Vault

/-! ## Constants and types -/

def vaultFormatVersion1 : UInt16 := 1
def vaultFormatVersion2 : UInt16 := 2
def targetStorageSchemaVersion : UInt16 := 2
def maxCredentials : Nat := 32
def maxFieldBytes : Nat := 1024
def maxSecretBytes : Nat := 512
def minAutoLockDays : UInt8 := 1
def maxAutoLockDays : UInt8 := 31

abbrev VaultId := Bytes 16
abbrev CredentialId := Bytes 16
abbrev VaultNonce := Bytes 12
abbrev VaultTag := Bytes 16
abbrev Vmk := Bytes 32

/-- `is_supported_vault_format`. -/
def isSupportedVaultFormat (version : UInt16) : Bool :=
  version = vaultFormatVersion1 || version = vaultFormatVersion2

/-- `VaultEnvelope`; the default values are those of `VaultEnvelope{}`. -/
structure VaultEnvelope where
  vaultFormatVersion : UInt16 := vaultFormatVersion1
  storageSchemaVersion : UInt16 := targetStorageSchemaVersion
  vaultId : VaultId := Bytes.zero 16
  generation : UInt64 := 0
  nonce : VaultNonce := Bytes.zero 12
  ciphertext : List UInt8 := []
  tag : VaultTag := Bytes.zero 16
  deriving DecidableEq, Inhabited

/-- `CredentialRecord`. The algorithm is always SHA-1. -/
structure CredentialRecord where
  credentialId : CredentialId
  secret : List UInt8
  issuer : Text
  account : Text
  displayName : Text
  digits : UInt8
  periodSeconds : UInt16
  manualOrder : UInt16
  deriving DecidableEq

structure WifiRecord where
  ssid : Text
  password : Text
  deriving DecidableEq

structure VaultPlaintext where
  credentials : List CredentialRecord
  wifi : Option WifiRecord
  autoLockDays : Option UInt8
  deriving DecidableEq

/-! ## UTF-8 -/

/-- `is_continuation`. -/
def isContinuation (byte : UInt8) : Bool := byte &&& 0xc0 = 0x80

/-- `is_valid_utf8`. -/
def isValidUtf8 : Text → Bool
  | [] => true
  | first :: rest =>
    if first ≤ 0x7f then isValidUtf8 rest
    else if 0xc2 ≤ first ∧ first ≤ 0xdf then
      match rest with
      | second :: rest => isContinuation second && isValidUtf8 rest
      | [] => false
    else if 0xe0 ≤ first ∧ first ≤ 0xef then
      match rest with
      | second :: third :: rest =>
        isContinuation third &&
          (if first = 0xe0 then 0xa0 ≤ second && second ≤ 0xbf
           else if first = 0xed then 0x80 ≤ second && second ≤ 0x9f
           else isContinuation second) && isValidUtf8 rest
      | _ => false
    else if 0xf0 ≤ first ∧ first ≤ 0xf4 then
      match rest with
      | second :: third :: fourth :: rest =>
        isContinuation third && isContinuation fourth &&
          (if first = 0xf0 then 0x90 ≤ second && second ≤ 0xbf
           else if first = 0xf4 then 0x80 ≤ second && second ≤ 0x8f
           else isContinuation second) && isValidUtf8 rest
      | _ => false
    else false

/-! ## Reading

A reader is the rest of the input; each read returns its value and the input after it. -/

/-- `read_bytes`. -/
def readBytes (length : Nat) (input : List UInt8) : Option (List UInt8 × List UInt8) :=
  if length > input.length then none else some (input.take length, input.drop length)

def readU8 : List UInt8 → Option (UInt8 × List UInt8)
  | a :: rest => some (a, rest)
  | _ => none

/-- `read_u16`, big-endian. -/
def readU16 : List UInt8 → Option (UInt16 × List UInt8)
  | a :: b :: rest => some ((a.toUInt16 <<< 8) ||| b.toUInt16, rest)
  | _ => none

/-- `read_sized_bytes`: a 16-bit length, then that many bytes. -/
def readSizedBytes (maximum : Nat) (input : List UInt8) : Option (List UInt8 × List UInt8) := do
  let (length, input) ← readU16 input
  if length.toNat > maximum then none else readBytes length.toNat input

/-- `read_sized_text`. -/
def readSizedText (input : List UInt8) : Option (Text × List UInt8) := do
  let (value, input) ← readSizedBytes maxFieldBytes input
  if isValidUtf8 value then some (value, input) else none

/-- `valid_credential`; the algorithm byte was checked when it was read. -/
def validCredential (record : CredentialRecord) : Bool :=
  record.secret ≠ [] && record.secret.length ≤ maxSecretBytes && 1 ≤ record.digits &&
    record.digits ≤ 10 && 1 ≤ record.periodSeconds

/-- One round of the credential loop of `decode_common_body`; `ids` are the identifiers read so
far. -/
def readCredential (ids : List CredentialId) (input : List UInt8) :
    Option (CredentialRecord × List UInt8) := do
  let (credentialId, input) ← readExact 16 input
  if credentialId ∈ ids then none
  let (secret, input) ← readSizedBytes maxSecretBytes input
  if secret = [] then none
  let (issuer, input) ← readSizedText input
  let (account, input) ← readSizedText input
  let (displayName, input) ← readSizedText input
  let (algorithm, input) ← readU8 input
  if algorithm ≠ 1 then none
  let (digits, input) ← readU8 input
  let (periodSeconds, input) ← readU16 input
  let (manualOrder, input) ← readU16 input
  let record : CredentialRecord :=
    { credentialId, secret, issuer, account, displayName, digits, periodSeconds, manualOrder }
  if validCredential record then some (record, input) else none

/-- The credential loop: `count` more records after `records`. -/
def readCredentials : Nat → List CredentialRecord → List UInt8 →
    Option (List CredentialRecord × List UInt8)
  | 0, records, input => some (records, input)
  | count + 1, records, input =>
    match readCredential (records.map (·.credentialId)) input with
    | none => none
    | some (record, input) => readCredentials count (records ++ [record]) input

/-- `decode_common_body`. -/
def decodeCommonBody (input : List UInt8) : Option (VaultPlaintext × List UInt8) := do
  let (count, input) ← readU16 input
  if count.toNat > maxCredentials then none
  let (credentials, input) ← readCredentials count.toNat [] input
  let (wifiPresent, input) ← readU8 input
  if wifiPresent > 1 then none
  if wifiPresent = 1 then
    let (ssid, input) ← readSizedText input
    let (password, input) ← readSizedText input
    some (⟨credentials, some ⟨ssid, password⟩, none⟩, input)
  else
    some (⟨credentials, none, none⟩, input)

/-- `kPlaintextMagicV1` and `kPlaintextMagicV2`, with the terminating zero byte that
`sizeof` counts. -/
def plaintextMagicV1 : List UInt8 := ascii "M5AUTH-VLT-PT1" ++ [0]
def plaintextMagicV2 : List UInt8 := ascii "M5AUTH-VLT-PT2" ++ [0]

/-- The automatic-lock policy that ends a format 2 plaintext. -/
def readAutoLockDays (input : List UInt8) : Option (Option UInt8 × List UInt8) := do
  let (present, input) ← readU8 input
  if present > 1 then none
  if present = 1 then
    let (days, input) ← readU8 input
    if days < minAutoLockDays ∨ maxAutoLockDays < days then none else some (some days, input)
  else some (none, input)

/-- `decode_plaintext`: the plaintext and the format version it was written in. -/
def decodePlaintext (encoded : List UInt8) : Option (VaultPlaintext × UInt16) := do
  let (magic, input) ← readBytes plaintextMagicV1.length encoded
  let detectedFormat ←
    if magic = plaintextMagicV1 then some vaultFormatVersion1
    else if magic = plaintextMagicV2 then some vaultFormatVersion2
    else none
  let (encodedVersion, input) ← readU16 input
  if encodedVersion ≠ detectedFormat then none
  let (candidate, input) ← decodeCommonBody input
  let (autoLockDays, input) ←
    if detectedFormat = vaultFormatVersion1 then some (none, input) else readAutoLockDays input
  if input ≠ [] then none
  some ({ candidate with autoLockDays }, detectedFormat)

/-! ## Writing -/

/-- `append_sized_bytes`. -/
def appendSizedBytes (maximum : Nat) (value : List UInt8) : Option (List UInt8) :=
  if value.length > maximum ∨ value.length > 0xffff then none
  else some (appendBE 2 value.length ++ value)

/-- `append_sized_text`. -/
def appendSizedText (value : Text) : Option (List UInt8) :=
  if isValidUtf8 value then appendSizedBytes maxFieldBytes value else none

/-- One round of the loop of `encode_plaintext`; `ids` are the identifiers written so far. -/
def encodeCredential (ids : List CredentialId) (record : CredentialRecord) :
    Option (List UInt8) := do
  if !validCredential record || ids.contains record.credentialId then none
  else
    let secret ← appendSizedBytes maxSecretBytes record.secret
    let issuer ← appendSizedText record.issuer
    let account ← appendSizedText record.account
    let displayName ← appendSizedText record.displayName
    some (record.credentialId.1 ++ secret ++ issuer ++ account ++ displayName ++
      [1, record.digits] ++ appendBE 2 record.periodSeconds.toNat ++
      appendBE 2 record.manualOrder.toNat)

/-- The loop. -/
def encodeCredentials (ids : List CredentialId) : List CredentialRecord → Option (List UInt8)
  | [] => some []
  | record :: records => do
    let bytes ← encodeCredential ids record
    let rest ← encodeCredentials (ids ++ [record.credentialId]) records
    some (bytes ++ rest)

def encodeWifi : Option WifiRecord → Option (List UInt8)
  | none => some [0]
  | some wifi => do
    let ssid ← appendSizedText wifi.ssid
    let password ← appendSizedText wifi.password
    some (1 :: (ssid ++ password))

/-- The automatic-lock policy that ends a format 2 plaintext. -/
def encodeAutoLockDays : Option UInt8 → List UInt8
  | none => [0]
  | some days => [1, days]

/-- `valid_auto_lock_days`. -/
def validAutoLockDays : Option UInt8 → Bool
  | none => true
  | some days => minAutoLockDays ≤ days && days ≤ maxAutoLockDays

/-- `plaintext_magic`. -/
def plaintextMagic (format : UInt16) : List UInt8 :=
  if format = vaultFormatVersion1 then plaintextMagicV1 else plaintextMagicV2

/-- `encode_plaintext`. -/
def encodePlaintext (value : VaultPlaintext) (format : UInt16) : Option (List UInt8) :=
  if !isSupportedVaultFormat format || decide (value.credentials.length > maxCredentials) ||
      !validAutoLockDays value.autoLockDays ||
      (decide (format = vaultFormatVersion1) && value.autoLockDays.isSome) then none
  else do
    let credentials ← encodeCredentials [] value.credentials
    let wifi ← encodeWifi value.wifi
    some (plaintextMagic format ++ appendBE 2 format.toNat ++
      appendBE 2 value.credentials.length ++ credentials ++ wifi ++
      if format = vaultFormatVersion2 then encodeAutoLockDays value.autoLockDays else [])

/-! ## The authenticated header and decryption -/

def aadMagic (format : UInt16) : Option (List UInt8) :=
  if format = vaultFormatVersion1 then some (ascii "M5AUTH-VLT-AAD1" ++ [0])
  else if format = vaultFormatVersion2 then some (ascii "M5AUTH-VLT-AAD2" ++ [0])
  else none

/-- `build_vault_aad`. -/
def buildVaultAad (envelope : VaultEnvelope) : Option (List UInt8) :=
  if !isSupportedVaultFormat envelope.vaultFormatVersion ||
      envelope.storageSchemaVersion != targetStorageSchemaVersion then none
  else
    (aadMagic envelope.vaultFormatVersion).map fun magic =>
      magic ++ appendBE 2 envelope.vaultFormatVersion.toNat ++
        appendBE 2 envelope.storageSchemaVersion.toNat ++ envelope.vaultId.1 ++
        appendBE 8 envelope.generation.toNat

/-- AES-GCM opening: key, nonce, associated data, ciphertext and tag to the plaintext. -/
abbrev GcmOpen := Vmk → VaultNonce → List UInt8 → List UInt8 → VaultTag → Option (List UInt8)

/-- `decrypt_vault`. -/
def decryptVault (gcm : GcmOpen) (envelope : VaultEnvelope) (vmk : Vmk) : Option (List UInt8) :=
  match buildVaultAad envelope with
  | none => none
  | some aad => gcm vmk envelope.nonce aad envelope.ciphertext envelope.tag

end M5Auth.Vault
