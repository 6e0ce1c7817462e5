import M5Auth.Core.Endian
import M5Auth.Web.Text

/-!
# The Vault plaintext of the Web application

`encodeVaultPlaintext` and `decodeVaultPlaintext` of `vault-format.ts`, with their checks in the
source's order. A writer is the bytes it has taken; a reader is the rest of the input.
-/

namespace M5Auth.Web

/-! ## Constants and types -/

/-- `SupportedVaultFormatVersion`: `LEGACY_VAULT_FORMAT_VERSION` and `VAULT_FORMAT_VERSION`. -/
inductive VaultFormatVersion where
  | legacy
  | current
  deriving DecidableEq, Repr

def VaultFormatVersion.number : VaultFormatVersion → Nat
  | legacy => 1
  | current => 2

def credentialIdBytes : Nat := 16
def maxVaultCredentials : Nat := 32
def algorithmSha1 : Nat := 1
def maxFieldBytes : Nat := 1024
def maxSecretBytes : Nat := 512

def vaultPlaintextMagicV1 : List UInt8 := textEncode (literal "M5AUTH-VLT-PT1\x00")
def vaultPlaintextMagicV2 : List UInt8 := textEncode (literal "M5AUTH-VLT-PT2\x00")

/-- `VaultCredentialRecord`. The only algorithm of the type is SHA-1. -/
structure VaultCredentialRecord where
  credentialId : List UInt8
  secret : List UInt8
  issuer : JsString
  account : JsString
  displayName : JsString
  digits : Number
  periodSeconds : Number
  manualOrder : Number
  deriving DecidableEq

structure VaultWifiRecord where
  ssid : JsString
  password : JsString
  deriving DecidableEq

/-- `VaultPlaintext`. `none` is `null`, and for the policy also `undefined`, which every reader of
the field turns into `null`. -/
structure VaultPlaintext where
  credentials : List VaultCredentialRecord
  wifi : Option VaultWifiRecord
  autoLockDays : Option Number
  deriving DecidableEq

/-! ## Checks -/

/-- `assertIntegerRange`. -/
def assertIntegerRange (value : Number) (min max : Int) (field : String) : Except Thrown Unit :=
  require (value.inRange min max) s!"{field} out of range"

/-- `normalizeAutoLockDays`. -/
def normalizeAutoLockDays : Option Number → Except Thrown (Option Number)
  | none => .ok none
  | some days => do
    assertIntegerRange days 1 31 "auto_lock_days"
    .ok (some days)

/-- `validateCredential`. -/
def validateCredential (record : VaultCredentialRecord) : Except Thrown Unit := do
  require (record.credentialId.length == credentialIdBytes) "credentialId must be 16 bytes"
  require (decide (1 ≤ record.secret.length) && decide (record.secret.length ≤ maxSecretBytes))
    "secret length is outside the vault limit"
  assertIntegerRange record.digits 1 10 "digits"
  assertIntegerRange record.periodSeconds 1 0xffff "periodSeconds"
  assertIntegerRange record.manualOrder 0 0xffff "manualOrder"

/-! ## Writing -/

namespace ByteWriter

def u8 (value : Number) : Except Thrown (List UInt8) := do
  assertIntegerRange value 0 0xff "u8"
  .ok [UInt8.ofNat value.toNat]

def u16 (value : Number) : Except Thrown (List UInt8) := do
  assertIntegerRange value 0 0xffff "u16"
  .ok (appendBE 2 value.toNat)

def sizedBytes (value : List UInt8) (maxLength : Nat) (field : String) :
    Except Thrown (List UInt8) := do
  require (decide (value.length ≤ maxLength) && decide (value.length ≤ 0xffff))
    s!"{field} exceeds encoded length limit"
  let length ← u16 (.integer value.length)
  .ok (length ++ value)

def sizedText (value : JsString) (field : String) : Except Thrown (List UInt8) :=
  sizedBytes (textEncode value) maxFieldBytes field

end ByteWriter

open ByteWriter in
/-- One round of the loop of `writeCommonPlaintext`; `ids` are the identifiers written so far. -/
def writeCredential (ids : List (List UInt8)) (record : VaultCredentialRecord) :
    Except Thrown (List UInt8) := do
  validateCredential record
  require (!ids.contains record.credentialId) "duplicate credentialId"
  let secret ← sizedBytes record.secret maxSecretBytes "secret"
  let issuer ← sizedText record.issuer "issuer"
  let account ← sizedText record.account "account"
  let displayName ← sizedText record.displayName "displayName"
  let algorithm ← u8 (.integer algorithmSha1)
  let digits ← u8 record.digits
  let periodSeconds ← u16 record.periodSeconds
  let manualOrder ← u16 record.manualOrder
  .ok (record.credentialId ++ secret ++ issuer ++ account ++ displayName ++ algorithm ++ digits ++
    periodSeconds ++ manualOrder)

/-- The loop. -/
def writeCredentials (ids : List (List UInt8)) :
    List VaultCredentialRecord → Except Thrown (List UInt8)
  | [] => .ok []
  | record :: records => do
    let bytes ← writeCredential ids record
    let rest ← writeCredentials (ids ++ [record.credentialId]) records
    .ok (bytes ++ rest)

def writeWifi : Option VaultWifiRecord → Except Thrown (List UInt8)
  | none => ByteWriter.u8 (.integer 0)
  | some wifi => do
    let present ← ByteWriter.u8 (.integer 1)
    let ssid ← ByteWriter.sizedText wifi.ssid "wifi ssid"
    let password ← ByteWriter.sizedText wifi.password "wifi password"
    .ok (present ++ ssid ++ password)

/-- `writeCommonPlaintext`. -/
def writeCommonPlaintext (value : VaultPlaintext) : Except Thrown (List UInt8) := do
  require (decide (value.credentials.length ≤ maxVaultCredentials))
    "vault supports at most 32 credentials"
  let count ← ByteWriter.u16 (.integer value.credentials.length)
  let credentials ← writeCredentials [] value.credentials
  let wifi ← writeWifi value.wifi
  .ok (count ++ credentials ++ wifi)

/-- The policy at the end of a format 2 plaintext. -/
def writeAutoLockDays : Option Number → Except Thrown (List UInt8)
  | none => ByteWriter.u8 (.integer 0)
  | some days => do
    let present ← ByteWriter.u8 (.integer 1)
    let days ← ByteWriter.u8 days
    .ok (present ++ days)

/-- `encodeVaultPlaintext`. -/
def encodeVaultPlaintext (value : VaultPlaintext) (version : VaultFormatVersion) :
    Except Thrown (List UInt8) :=
  match version with
  | .legacy => do
    let autoLockDays ← normalizeAutoLockDays value.autoLockDays
    require autoLockDays.isNone "Vault Format 1 cannot encode auto_lock_days"
    let format ← ByteWriter.u16 (.integer VaultFormatVersion.legacy.number)
    let common ← writeCommonPlaintext value
    .ok (vaultPlaintextMagicV1 ++ format ++ common)
  | .current => do
    let format ← ByteWriter.u16 (.integer VaultFormatVersion.current.number)
    let common ← writeCommonPlaintext value
    let autoLockDays ← normalizeAutoLockDays value.autoLockDays
    let policy ← writeAutoLockDays autoLockDays
    .ok (vaultPlaintextMagicV2 ++ format ++ common ++ policy)

/-! ## Reading -/

namespace ByteReader

def take (length : Nat) (field : String) (input : List UInt8) :
    Except Thrown (List UInt8 × List UInt8) :=
  if length ≤ input.length then .ok (input.take length, input.drop length)
  else .error (.error s!"truncated {field}")

def u8 (field : String) (input : List UInt8) : Except Thrown (Nat × List UInt8) := do
  let (value, input) ← take 1 field input
  .ok (valueBE value, input)

def u16 (field : String) (input : List UInt8) : Except Thrown (Nat × List UInt8) := do
  let (value, input) ← take 2 field input
  .ok (valueBE value, input)

def sizedBytes (maxLength : Nat) (field : String) (input : List UInt8) :
    Except Thrown (List UInt8 × List UInt8) := do
  let (length, input) ← u16 s!"{field} length" input
  require (decide (length ≤ maxLength)) s!"{field} exceeds encoded length limit"
  take length field input

def sizedText (field : String) (input : List UInt8) : Except Thrown (JsString × List UInt8) := do
  let (value, input) ← sizedBytes maxFieldBytes field input
  let text ← textDecode value
  .ok (text, input)

def expectEnd (input : List UInt8) : Except Thrown Unit :=
  require input.isEmpty "unexpected trailing vault plaintext data"

end ByteReader

open ByteReader

/-- `expectMagic`. -/
def expectMagic (expected : List UInt8) (field : String) (input : List UInt8) :
    Except Thrown (List UInt8) := do
  let (actual, input) ← take expected.length field input
  require (actual == expected) s!"unsupported {field}"
  .ok input

/-- One round of the loop of `readCommonPlaintext`; `ids` are the identifiers read so far. -/
def readCredential (ids : List (List UInt8)) (input : List UInt8) :
    Except Thrown (VaultCredentialRecord × List UInt8) := do
  let (credentialId, input) ← take credentialIdBytes "credentialId" input
  require (!ids.contains credentialId) "duplicate credentialId"
  let (secret, input) ← sizedBytes maxSecretBytes "secret" input
  require (decide (1 ≤ secret.length)) "secret must not be empty"
  let (issuer, input) ← sizedText "issuer" input
  let (account, input) ← sizedText "account" input
  let (displayName, input) ← sizedText "displayName" input
  let (algorithmCode, input) ← u8 "algorithm" input
  require (algorithmCode == algorithmSha1) s!"unsupported TOTP algorithm code: {algorithmCode}"
  let (digits, input) ← u8 "digits" input
  let (periodSeconds, input) ← u16 "periodSeconds" input
  let (manualOrder, input) ← u16 "manualOrder" input
  let record : VaultCredentialRecord :=
    { credentialId, secret, issuer, account, displayName, digits := .integer digits
      periodSeconds := .integer periodSeconds, manualOrder := .integer manualOrder }
  validateCredential record
  .ok (record, input)

/-- The loop: `count` more records after `records`. -/
def readCredentials : Nat → List VaultCredentialRecord → List UInt8 →
    Except Thrown (List VaultCredentialRecord × List UInt8)
  | 0, records, input => .ok (records, input)
  | count + 1, records, input => do
    let (record, input) ← readCredential (records.map (·.credentialId)) input
    readCredentials count (records ++ [record]) input

def readWifi (input : List UInt8) : Except Thrown (Option VaultWifiRecord × List UInt8) := do
  let (present, input) ← u8 "wifi presence" input
  require (present == 0 || present == 1) "unsupported wifi presence value"
  if present = 1 then
    let (ssid, input) ← sizedText "wifi ssid" input
    let (password, input) ← sizedText "wifi password" input
    .ok (some ⟨ssid, password⟩, input)
  else .ok (none, input)

/-- `readCommonPlaintext`; the policy is not part of it. -/
def readCommonPlaintext (input : List UInt8) : Except Thrown (VaultPlaintext × List UInt8) := do
  let (count, input) ← u16 "credential count" input
  require (decide (count ≤ maxVaultCredentials)) "vault supports at most 32 credentials"
  let (credentials, input) ← readCredentials count [] input
  let (wifi, input) ← readWifi input
  .ok (⟨credentials, wifi, none⟩, input)

/-- The policy at the end of a format 2 plaintext. -/
def readAutoLockDays (input : List UInt8) : Except Thrown (Option Number × List UInt8) := do
  let (present, input) ← u8 "auto_lock_present" input
  require (present == 0 || present == 1) "unsupported auto_lock_present value"
  if present = 1 then
    let (days, input) ← u8 "auto_lock_days" input
    let days ← normalizeAutoLockDays (some (.integer days))
    .ok (days, input)
  else .ok (none, input)

/-- One round of `decodeVaultPlaintext`. -/
def decodeVersion (version : VaultFormatVersion) (encoded : List UInt8) :
    Except Thrown VaultPlaintext :=
  match version with
  | .legacy => do
    let input ← expectMagic vaultPlaintextMagicV1 "vault plaintext magic" encoded
    let (encodedVersion, input) ← u16 "vault format version" input
    require (encodedVersion == VaultFormatVersion.legacy.number)
      s!"unsupported vault format version: {encodedVersion}"
    let (common, input) ← readCommonPlaintext input
    expectEnd input
    .ok { common with autoLockDays := none }
  | .current => do
    let input ← expectMagic vaultPlaintextMagicV2 "vault plaintext magic" encoded
    let (encodedVersion, input) ← u16 "vault format version" input
    require (encodedVersion == VaultFormatVersion.current.number)
      s!"unsupported vault format version: {encodedVersion}"
    let (common, input) ← readCommonPlaintext input
    let (autoLockDays, input) ← readAutoLockDays input
    expectEnd input
    .ok { common with autoLockDays }

/-- `decodeVaultPlaintext`: without an expected version, the first one that fits. -/
def decodeVaultPlaintext (encoded : List UInt8) (expected : Option VaultFormatVersion) :
    Except Thrown VaultPlaintext :=
  match expected with
  | some version => decodeVersion version encoded
  | none =>
    match decodeVersion .legacy encoded with
    | .ok value => .ok value
    | .error _ =>
      match decodeVersion .current encoded with
      | .ok value => .ok value
      | .error _ => .error (.error "unsupported vault plaintext format")

end M5Auth.Web
