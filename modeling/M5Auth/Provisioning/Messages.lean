import M5Auth.Core.Json
import M5Auth.Provisioning.FactoryResetAuthorization
import M5Auth.Provisioning.SessionBinding
import M5Auth.Session.AttemptCoordinator
import M5Auth.Time.TrustedClock

/-!
# Protocol messages

The lines of Protocol v2: the frame that both handlers check, the parameters of each request, and
the responses. A response is kept as its fields; `Response.ok` is what `response_ok` reads back
from its serialized form.
-/

namespace M5Auth.Provisioning

open Registration (P256PublicKey)
open Session (AttemptId AttemptDescriptor BeginContext)
open Vault (VaultEnvelope VaultNonce VaultTag Vmk)

def maxCanonicalMessageBytes : Nat := 96 * 1024
def maxSessionMessageBytes : Nat := 2048

/-! ## Operations -/

/-- The operations of `StagedSessionV2Handler`; `other` is any other text behind `session.`. -/
inductive SessionRequest where
  | sessionBegin | authorize | status | complete | cancel | other
  deriving DecidableEq, Repr

/-- The operations of `CanonicalProtocolV2Handler`. -/
inductive RequestOperation where
  | session (request : SessionRequest)
  | hello
  | factoryResetBegin | factoryResetStatus | factoryResetCancel | factoryResetCommit
  | recoveryBegin | recoveryStatus | recoveryComplete
  | vaultInstall | vaultUpdate | vaultRekey
  | timeStatus | timeSync
  | deviceLock
  | factoryReset
  | unsupported
  deriving DecidableEq, Repr

namespace RequestOperation

/-- The operation texts that are compared with, in the order of the source. -/
def names : List (String × RequestOperation) :=
  [("session.begin", .session .sessionBegin), ("session.authorize", .session .authorize),
    ("session.status", .session .status), ("session.complete", .session .complete),
    ("session.cancel", .session .cancel), ("hello", .hello),
    ("factory_reset.begin", .factoryResetBegin), ("factory_reset.status", .factoryResetStatus),
    ("factory_reset.cancel", .factoryResetCancel), ("factory_reset.commit", .factoryResetCommit),
    ("factory_reset.recovery_begin", .recoveryBegin),
    ("factory_reset.recovery_status", .recoveryStatus),
    ("factory_reset.recovery_complete", .recoveryComplete), ("vault.install", .vaultInstall),
    ("vault.update", .vaultUpdate), ("vault.rekey", .vaultRekey), ("time.status", .timeStatus),
    ("time.sync", .timeSync), ("device.lock", .deviceLock), ("factory_reset", .factoryReset)]

/-- The dispatch on the operation text. -/
def parse (text : Text) : RequestOperation :=
  match names.find? fun entry => text == ascii entry.1 with
  | some entry => entry.2
  | none => if (ascii "session.").isPrefixOf text then .session .other else .unsupported

end RequestOperation

/-! ## Frames -/

/-- A request whose frame was accepted. -/
structure Frame where
  id : Nat
  operation : RequestOperation
  params : Json

/-- The frame checks, in order: the id and the code of the error response, or the request. -/
def readFrame (parse : List UInt8 → Option Json) (line : List UInt8) :
    Except (Nat × String) Frame :=
  match parse line with
  | none => .error (0, "invalid_json")
  | some root =>
    if !root.isObject then .error (0, "invalid_json")
    else
      match readNonnegativeInt (root.getItem "id") with
      | none => .error (0, "invalid_id")
      | some id =>
        if readNonnegativeInt (root.getItem "v") ≠ some Session.protocolVersion then
          .error (id, "unsupported_version")
        else
          match Json.string? (root.getItem "op"), root.getItem "params" with
          | some operation, some params =>
            if params.isObject then .ok { id, operation := .parse operation, params }
            else .error (id, "invalid_request")
          | _, _ => .error (id, "invalid_request")

/-! ## Parameters -/

/-- `parse_session_operation`. -/
def parseSessionOperation (params : Json) : Option Session.Operation :=
  (Json.string? (params.getItem "operation")).bind Session.Operation.parse

/-- `parse_begin_context`. -/
def parseBeginContext (params : Json) : Option BeginContext := do
  let operation ← (readString params "operation" 32).bind Session.Operation.parse
  let deviceId ← readString params "device_id" Session.maxDeviceIdBytes
  let vaultId ← readBinary 16 params "vault_id"
  let registrationId ← readBinary 16 params "registration_id"
  let registrationEpoch ← readU32AllowZero (params.getItem "registration_epoch")
  let currentBrkPublicKey ← readBinary 65 params "current_brk_public_key"
  let proposedBrkPublicKey ← readBinary 65 params "proposed_brk_public_key"
  let expectedGeneration ← readU64Decimal (params.getItem "expected_generation")
  some
    { operation, deviceId, vaultId, expectedGeneration, registrationId, registrationEpoch
      currentBrkPublicKey, proposedBrkPublicKey }

def readAttemptId (params : Json) : Option AttemptId := readBinary 16 params "attempt_id"

/-- `read_optional_signature`: empty if the field is absent. -/
def readOptionalSignature (params : Json) : Option (List UInt8) :=
  match params.getItem "brk_signature" with
  | none => some []
  | some item =>
    ((Json.string? (some item)).bind base64urlDecode).filter
      (·.length = Session.brkSignatureBytes)

structure AuthorizeParams where
  attemptId : AttemptId
  webPublicKey : P256PublicKey
  signature : List UInt8

def parseAuthorize (params : Json) : Option AuthorizeParams := do
  let attemptId ← readAttemptId params
  let webPublicKey ← readBinary 65 params "web_public_key"
  let signature ← readOptionalSignature params
  some { attemptId, webPublicKey, signature }

structure CompleteParams where
  attemptId : AttemptId
  nonce : VaultNonce
  ciphertext : Vmk
  tag : VaultTag

def parseComplete (params : Json) : Option CompleteParams := do
  let attemptId ← readAttemptId params
  let nonce ← readBinary 12 params "nonce"
  let ciphertext ← readBinary 32 params "ciphertext"
  let tag ← readBinary 16 params "tag"
  some { attemptId, nonce, ciphertext, tag }

/-- `read_ciphertext`. -/
def readCiphertext (params : Json) : Option (List UInt8) :=
  ((Json.string? (params.getItem "ciphertext")).bind base64urlDecode).filter fun bytes =>
    !bytes.isEmpty && bytes.length ≤ VaultRuntime.maxPersistedCiphertextBytes

/-- `read_envelope`. -/
def readEnvelope (params : Json) : Option VaultEnvelope := do
  let vaultFormat ← readNonnegativeInt (params.getItem "vault_format_version")
  let storageSchema ← readNonnegativeInt (params.getItem "storage_schema_version")
  if vaultFormat ≠ Vault.vaultFormatVersion1.toNat ∧
      vaultFormat ≠ Vault.vaultFormatVersion2.toNat then none
  if storageSchema ≠ Vault.targetStorageSchemaVersion.toNat then none
  let vaultId ← readBinary 16 params "vault_id"
  let generation ← readU64Decimal (params.getItem "generation")
  if generation = 0 then none
  let nonce ← readBinary 12 params "nonce"
  let tag ← readBinary 16 params "tag"
  let ciphertext ← readCiphertext params
  let ciphertextLength ← readNonnegativeInt (params.getItem "ciphertext_length")
  if ciphertextLength = 0 ∨ ciphertextLength ≠ ciphertext.length then none
  some
    { vaultFormatVersion := UInt16.ofNat vaultFormat
      storageSchemaVersion := UInt16.ofNat storageSchema
      vaultId, generation, nonce, ciphertext, tag }

/-- The parameters of `vault.update` and `vault.rekey`. -/
def parseReplacement (params : Json) : Option (VaultEnvelope × UInt64) := do
  let envelope ← readEnvelope params
  let expectedGeneration ← readU64Decimal (params.getItem "expected_generation")
  some (envelope, expectedGeneration)

/-! ## Responses -/

/-- The members of `core::DeviceMetadata` that `hello` reports. -/
structure DeviceMetadata where
  device : String
  firmware : String
  buildCommit : String
  deriving DecidableEq

/-- The data of a `hello` response, as far as it varies. -/
structure Hello where
  metadata : DeviceMetadata
  deviceId : Text
  vaultFormat : UInt16
  state : VaultRuntime.State
  storageReady : Bool
  recoveryResetRequired : Bool
  vault : Option (Text × UInt64)
  registration : Option (Text × UInt32 × Text)
  deriving DecidableEq

inductive ResponseData where
  | empty
  | hello (hello : Hello)
  | session (attemptId challenge devicePublicKey : Text) (expiresInMs : UInt64)
  | reset (attemptId : Text) (expiresInMs : UInt64)
  | state (name : String)
  | time (readiness source sourceAuthenticity : String) (lastSyncUnixSeconds : UInt64)
      (ageSeconds : Int) (resyncDue : Bool)
  deriving DecidableEq

inductive Response where
  | error (id : Nat) (code : String)
  | success (id : Nat) (data : ResponseData)
  deriving DecidableEq

/-- `response_ok`. -/
def Response.ok : Response → Bool
  | .error .. => false
  | .success .. => true

/-- `empty_success`. -/
def emptySuccess (id : Nat) : Response := .success id .empty

/-- `begin_success`. -/
def beginSuccess (id : Nat) (descriptor : AttemptDescriptor) (nowMs : UInt64) : Response :=
  .success id <| .session (base64urlEncode descriptor.attemptId.1)
    (base64urlEncode descriptor.challenge.1) (base64urlEncode descriptor.devicePublicKey.1)
    (if descriptor.expiresAtMs > nowMs then descriptor.expiresAtMs - nowMs else 0)

/-- `state_name`. -/
def stateName : Session.AttemptState → String
  | .idle => "cancelled"
  | .awaitingAuthorization => "awaiting_authorization"
  | .awaitingPresence => "awaiting_presence"
  | .confirmed => "confirmed"

/-- `state_success`. -/
def stateSuccess (id : Nat) (state : String) : Response := .success id (.state state)

/-- `recovery_reset_begin_success`. -/
def resetBeginSuccess (id : Nat) (attemptId : AttemptId) : Response :=
  .success id (.reset (base64urlEncode attemptId.1) Session.attemptTtlMs)

/-- `recovery_reset_status_success`. -/
def resetStatusSuccess (id : Nat) (confirmed : Bool) : Response :=
  .success id (.state (if confirmed then "confirmed" else "awaiting_confirmation"))

/-- `hello_success`. -/
def helloSuccess (id : Nat) (metadata : DeviceMetadata) (runtime : VaultRuntime.Metadata)
    (registration : Registration.Snapshot) (recoveryResetRequired : Bool) : Response :=
  .success id <| .hello
    { metadata
      deviceId := Registration.deviceIdText registration.deviceId
      vaultFormat :=
        if runtime.hasVault then runtime.vaultFormatVersion else Vault.vaultFormatVersion2
      state := runtime.state
      storageReady := runtime.schemaReady
      recoveryResetRequired
      vault :=
        if runtime.hasVault then some (base64urlEncode runtime.vaultId.1, runtime.generation)
        else none
      registration :=
        if registration.registrationPresent then
          some (base64urlEncode registration.registrationId.1, registration.epoch,
            base64urlEncode registration.brkPublicKey.1)
        else none }

/-- `time_status_success`. -/
def timeStatusSuccess (id : Nat) (snapshot : Time.Snapshot) : Response :=
  .success id <| .time (Time.readinessName snapshot.readiness) (Time.sourceName snapshot.source)
    (Time.sourceAuthenticityName snapshot.source) snapshot.lastSyncUnixSeconds snapshot.ageSeconds
    snapshot.resyncDue

end M5Auth.Provisioning
