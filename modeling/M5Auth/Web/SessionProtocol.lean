import M5Auth.Core.Endian
import M5Auth.Session.Transcript
import M5Auth.Web.Text

/-!
# The session transcript of the Web application

`encodeSessionTranscript` of `session-protocol-v2.ts`: the checks in the source's order, then the
bytes.
-/

namespace M5Auth.Web

open Session (Operation)

def sessionProtocolVersion : UInt8 := 2
def sessionTranscriptVersion : UInt8 := 1
def sessionMaxDeviceIdBytes : Nat := 64

/-- `OPERATION_BYTE`. -/
def operationByte : Operation → UInt8
  | .trustedBrowserUnlock => 1
  | .initialProvisioning => 2
  | .recovery => 3
  | .browserReplacement => 4
  | .vmkRekey => 5

/-- `SessionTranscriptInput`. The generation is a `bigint`, the epoch a number. -/
structure SessionTranscriptInput where
  operation : Operation
  deviceId : JsString
  vaultId : List UInt8
  expectedGeneration : Int
  registrationId : List UInt8
  registrationEpoch : Number
  attemptId : List UInt8
  challenge : List UInt8
  deviceEphemeralPublicKey : List UInt8
  webEphemeralPublicKey : List UInt8
  currentBrkPublicKey : List UInt8
  proposedBrkPublicKey : List UInt8
  deriving DecidableEq

/-- `assertBytes`. -/
def assertBytes (value : List UInt8) (expectedLength : Nat) (field : String) :
    Except Thrown Unit :=
  require (value.length == expectedLength) s!"{field} must be {expectedLength} bytes"

/-- `isZero`. -/
def isZero (value : List UInt8) : Bool := value.all (· == 0)

/-- `assertOptionalP256Identity`. -/
def assertOptionalP256Identity (value : List UInt8) (field : String) : Except Thrown Unit := do
  assertBytes value 65 field
  require (isZero value || value.head? == some 0x04)
    s!"{field} must be zero or an uncompressed P-256 public key"

/-- The operation checks of `encodeSessionTranscript`. -/
def assertOperationFields (input : SessionTranscriptInput) : Except Thrown Unit :=
  match input.operation with
  | .trustedBrowserUnlock =>
    require (!isZero input.currentBrkPublicKey && decide (0 < input.registrationEpoch.toNat))
      "Trusted Browser unlock requires an active registration"
  | .initialProvisioning =>
    require (isZero input.currentBrkPublicKey && !isZero input.proposedBrkPublicKey &&
        input.registrationEpoch.toNat == 0) "Initial provisioning requires only a proposed BRK"
  | .recovery | .browserReplacement =>
    require (!isZero input.proposedBrkPublicKey) "Recovery/replacement requires a proposed BRK"
  | .vmkRekey =>
    require (!isZero input.currentBrkPublicKey && decide (0 < input.registrationEpoch.toNat))
      "VMK re-key requires an active registration"

/-- `encodeSessionTranscript`. -/
def encodeSessionTranscript (input : SessionTranscriptInput) : Except Thrown (List UInt8) := do
  let deviceId := textEncode input.deviceId
  require (decide (0 < deviceId.length) && decide (deviceId.length ≤ sessionMaxDeviceIdBytes))
    "Device ID has invalid length"
  assertBytes input.vaultId 16 "vault_id"
  require (decide (0 ≤ input.expectedGeneration) &&
      decide (input.expectedGeneration ≤ 0xffffffffffffffff))
    "expected generation is out of range"
  assertBytes input.registrationId 16 "registration id"
  require (input.registrationEpoch.isSafeInteger && input.registrationEpoch.inRange 0 0xffffffff)
    "registration epoch is out of range"
  assertBytes input.attemptId 16 "attempt id"
  assertBytes input.challenge 32 "Device challenge"
  assertBytes input.deviceEphemeralPublicKey 65 "Device ephemeral public key"
  assertBytes input.webEphemeralPublicKey 65 "Web ephemeral public key"
  require (input.deviceEphemeralPublicKey.head? == some 0x04)
    "Device ephemeral public key must be uncompressed P-256"
  require (input.webEphemeralPublicKey.head? == some 0x04)
    "Web ephemeral public key must be uncompressed P-256"
  assertOptionalP256Identity input.currentBrkPublicKey "current BRK public key"
  assertOptionalP256Identity input.proposedBrkPublicKey "proposed BRK public key"
  assertOperationFields input
  .ok ([0x4d, 0x35, 0x41, 0x53, sessionTranscriptVersion, sessionProtocolVersion,
      operationByte input.operation, UInt8.ofNat deviceId.length] ++ deviceId ++ input.vaultId ++
    appendBE 8 input.expectedGeneration.toNat ++ input.registrationId ++
    appendBE 4 input.registrationEpoch.toNat ++ input.attemptId ++ input.challenge ++
    input.deviceEphemeralPublicKey ++ input.webEphemeralPublicKey ++ input.currentBrkPublicKey ++
    input.proposedBrkPublicKey)

end M5Auth.Web
