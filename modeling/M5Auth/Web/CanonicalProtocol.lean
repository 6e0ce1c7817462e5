import M5Auth.Web.Base64Url
import M5Auth.Web.Json
import M5Auth.Web.VaultFormat

/-!
# Canonical responses in the Web application

`parseCanonicalV2Response` and `parseCanonicalHelloData` of `canonical-protocol-v2.ts`, with their
checks in the source's order. `JSON.parse` is the parameter `parseJson`.
-/

namespace M5Auth.Web

open JsonValue

/-! ## The envelope of a response -/

/-- What `parseCanonicalV2Response` makes of a response: its data, or the code with which the
Device rejects the request. -/
inductive CanonicalOutcome where
  | data (data : JsonValue)
  | rejected (code : JsString)

/-- The code of an error response. -/
def errorCode? (response : JsonValue) : Option JsString :=
  match response.get "error" with
  | some error =>
    if error.isRecord then (string? (error.get "code")).filter (!·.isEmpty) else none
  | none => none

/-- `parseCanonicalV2Response`, where a `CanonicalProtocolV2Error` is an outcome. -/
def parseCanonicalV2Response (parseJson : JsString → Option JsonValue) (raw : JsString)
    (expectedId : Number) : Except Thrown CanonicalOutcome := do
  require (expectedId.inRange 0 9007199254740991) "Invalid request id"
  match parseJson raw with
  | none => .error (.error "Device returned invalid JSON")
  | some parsed =>
    require parsed.isRecord "Device returned invalid response"
    require (number? (parsed.get "v") == some (.integer 2)) "Unsupported protocol version"
    require (number? (parsed.get "id") == some expectedId) "Response id mismatch"
    match bool? (parsed.get "ok") with
    | some false =>
      match errorCode? parsed with
      | some code => .ok (.rejected code)
      | none => .error (.error "Device returned invalid error response")
    | some true =>
      match parsed.get "data" with
      | some data =>
        require data.isRecord "Device returned invalid response"
        .ok (.data data)
      | none => .error (.error "Device returned invalid response")
    | none => .error (.error "Device returned invalid response")

/-! ## Fields -/

/-- `parseSupportedVaultFormats`: the loop, with the formats seen so far. -/
def parseVaultFormats : List JsonValue → List Number → Except Thrown (List Number)
  | [], seen => .ok seen
  | item :: items, seen =>
    match number? (some item) with
    | some format =>
      if format.inRange 1 0xffff && !seen.contains format then
        parseVaultFormats items (seen ++ [format])
      else .error (.error "Device returned invalid supported_vault_formats")
    | none => .error (.error "Device returned invalid supported_vault_formats")

/-- `parseSupportedVaultFormats`. -/
def parseSupportedVaultFormats : Option JsonValue → Except Thrown (List Number)
  | none => .ok []
  | some (.array items) =>
    if items.length ≤ 32 then parseVaultFormats items []
    else .error (.error "Device returned invalid supported_vault_formats")
  | some _ => .error (.error "Device returned invalid supported_vault_formats")

/-- A decimal digit. -/
def isDigit (unit : UInt16) : Bool := 48 ≤ unit && unit ≤ 57

/-- `/^(0|[1-9][0-9]{0,19})$/`. -/
def isU64Decimal : JsString → Bool
  | [] => false
  | first :: rest =>
    (first == 48 && rest.isEmpty) ||
      (isDigit first && first != 48 && decide (rest.length ≤ 19) && rest.all isDigit)

/-- `BigInt` of decimal digits. -/
def bigInt (value : JsString) : Nat :=
  value.foldl (fun parsed unit => 10 * parsed + (unit.toNat - 48)) 0

/-- `parseU64Decimal`. -/
def parseU64Decimal (value : Option JsonValue) (field : String) : Except Thrown Nat :=
  match string? value with
  | some value =>
    if isU64Decimal value && decide (bigInt value ≤ 0xffffffffffffffff) then .ok (bigInt value)
    else .error (.error s!"Device returned invalid {field}")
  | none => .error (.error s!"Device returned invalid {field}")

/-- `decodeFixed`. -/
def decodeFixed (value : Option JsonValue) (length : Nat) (field : String) :
    Except Thrown (List UInt8) :=
  match string? value with
  | some value =>
    match decodeBase64UrlCanonical value (some length) with
    | .ok decoded =>
      if decoded.length = length then .ok decoded
      else .error (.error s!"Device returned invalid {field}")
    | .error _ => .error (.error s!"Device returned invalid {field}")
  | none => .error (.error s!"Device returned invalid {field}")

/-- `isSupportedVaultFormatVersion` of a number member. -/
def supportedVaultFormat? (value : Option JsonValue) : Option VaultFormatVersion :=
  match number? value with
  | some (.integer 1) => some .legacy
  | some (.integer 2) => some .current
  | _ => none

/-- `isRuntimeState` of a string member. -/
def runtimeState? (value : Option JsonValue) : Option JsString :=
  (string? value).filter fun state =>
    state == literal "unprovisioned" || state == literal "reprovision_required" ||
      state == literal "locked" || state == literal "unlocked" || state == literal "error"

/-! ## The data of `hello` -/

/-- `CanonicalHelloData`. The protocol and the storage schema are always 2. -/
structure CanonicalHelloData where
  device : JsString
  deviceId : JsString
  firmware : JsString
  vaultFormat : VaultFormatVersion
  supportedVaultFormats : List Number
  buildCommit : JsString
  state : JsString
  storageReady : Bool
  recoveryResetRequired : Bool
  factoryResetPresenceRequired : Bool
  vaultPresent : Bool
  vaultId : Option (List UInt8)
  generation : Nat
  registrationPresent : Bool
  registrationId : Option (List UInt8)
  registrationEpoch : Nat
  brkPublicKey : Option (List UInt8)
  deriving DecidableEq

/-- What the first check of `parseCanonicalHelloData` looks at. -/
structure HelloMetadata where
  device : JsString
  deviceId : JsString
  firmware : JsString
  vaultFormat : VaultFormatVersion
  buildCommit : JsString
  state : JsString
  storageReady : Bool
  recoveryResetRequired : Option Bool
  factoryResetPresenceRequired : Option Bool
  vaultPresent : Bool
  registrationPresent : Bool
  registrationEpoch : Number

/-- The first check of `parseCanonicalHelloData`. -/
def readHelloMetadata (data : JsonValue) : Option HelloMetadata := do
  let device ← (string? (data.get "device")).filter (!·.isEmpty)
  let deviceId ← (string? (data.get "device_id")).filter fun id =>
    !id.isEmpty && decide (id.length ≤ 128)
  let firmware ← string? (data.get "firmware")
  guard (number? (data.get "protocol") = some (.integer 2))
  guard (number? (data.get "storage_schema") = some (.integer 2))
  let vaultFormat ← supportedVaultFormat? (data.get "vault_format")
  let buildCommit ← string? (data.get "build_commit")
  let state ← runtimeState? (data.get "state")
  let storageReady ← bool? (data.get "storage_ready")
  let recoveryResetRequired ← optionalBool? (data.get "recovery_reset_required")
  let factoryResetPresenceRequired ← optionalBool? (data.get "factory_reset_presence_required")
  let vaultPresent ← bool? (data.get "vault_present")
  let registrationPresent ← bool? (data.get "registration_present")
  let registrationEpoch ← (number? (data.get "registration_epoch")).filter
    (·.inRange 0 9007199254740991)
  some { device, deviceId, firmware, vaultFormat, buildCommit, state, storageReady,
         recoveryResetRequired, factoryResetPresenceRequired, vaultPresent, registrationPresent,
         registrationEpoch }

/-- `value === null`. -/
def isNull : Option JsonValue → Bool
  | some .null => true
  | _ => false

/-- The Vault of `parseCanonicalHelloData`, with its generation. -/
def parseHelloVault (data : JsonValue) (present : Bool) (generation : Nat) :
    Except Thrown (Option (List UInt8)) :=
  if present then do
    let vaultId ← decodeFixed (data.get "vault_id") 16 "vault_id"
    require (generation != 0) "Provisioned Device generation must be positive"
    .ok (some vaultId)
  else do
    require (isNull (data.get "vault_id") && generation == 0)
      "Unprovisioned Device returned Vault metadata"
    .ok none

/-- The registration of `parseCanonicalHelloData`: its identifier and its BRK. -/
def parseHelloRegistration (data : JsonValue) (present : Bool) (epoch : Number) :
    Except Thrown (Option (List UInt8) × Option (List UInt8)) :=
  if present then do
    let registrationId ← decodeFixed (data.get "registration_id") 16 "registration_id"
    let brkPublicKey ← decodeFixed (data.get "brk_public_key") 65 "brk_public_key"
    require (epoch.inRange 1 9007199254740991) "Active registration epoch must be positive"
    .ok (some registrationId, some brkPublicKey)
  else do
    require (isNull (data.get "registration_id") && isNull (data.get "brk_public_key") &&
      epoch == .integer 0) "Unregistered Device returned registration metadata"
    .ok (none, none)

/-- `parseCanonicalHelloData`. -/
def parseCanonicalHelloData (data : JsonValue) : Except Thrown CanonicalHelloData :=
  match readHelloMetadata data with
  | none => .error (.error "Device returned incompatible canonical metadata")
  | some m => do
    let recoveryResetRequired := m.recoveryResetRequired == some true
    let supportedVaultFormats ← parseSupportedVaultFormats (data.get "supported_vault_formats")
    let generation ← parseU64Decimal (data.get "generation") "generation"
    let vaultId ← parseHelloVault data m.vaultPresent generation
    let (registrationId, brkPublicKey) ←
      parseHelloRegistration data m.registrationPresent m.registrationEpoch
    require (m.vaultPresent == m.registrationPresent || recoveryResetRequired)
      "Device returned a partial Vault/registration security state"
    .ok
      { device := m.device, deviceId := m.deviceId, firmware := m.firmware
        vaultFormat := m.vaultFormat, supportedVaultFormats, buildCommit := m.buildCommit
        state := m.state, storageReady := m.storageReady, recoveryResetRequired
        factoryResetPresenceRequired := m.factoryResetPresenceRequired == some true
        vaultPresent := m.vaultPresent, vaultId, generation
        registrationPresent := m.registrationPresent, registrationId
        registrationEpoch := m.registrationEpoch.toNat, brkPublicKey }

end M5Auth.Web
