import M5Auth.Registration.Store
import M5Auth.Session.Presence
import M5Auth.Vault.Format

/-!
# Session operations and their transcript

The context a session request binds itself to, and the byte string that a BRK signs and that keys
the VMK delivery.
-/

namespace M5Auth.Session

open Registration (RegistrationId P256PublicKey validP256PublicKey)
open Vault (VaultId)

abbrev DeviceChallenge := Bytes 32

def protocolVersion : Nat := 2
def transcriptVersion : UInt8 := 1
def maxDeviceIdBytes : Nat := 64

inductive Operation where
  | trustedBrowserUnlock | initialProvisioning | recovery | browserReplacement | vmkRekey
  deriving DecidableEq, Repr

namespace Operation

/-- The value of the enumerator. -/
def code : Operation → UInt8
  | trustedBrowserUnlock => 1
  | initialProvisioning => 2
  | recovery => 3
  | browserReplacement => 4
  | vmkRekey => 5

/-- `operation_name`. -/
def name : Operation → String
  | trustedBrowserUnlock => "trusted_browser_unlock"
  | initialProvisioning => "initial_provisioning"
  | recovery => "recovery"
  | browserReplacement => "browser_replacement"
  | vmkRekey => "vmk_rekey"

/-- `parse_operation`. -/
def parse (value : Text) : Option Operation :=
  [trustedBrowserUnlock, initialProvisioning, recovery, browserReplacement, vmkRekey].find?
    fun operation => value == ascii operation.name

/-- `presence_operation`. -/
def presenceOperation : Operation → PresenceOperation
  | trustedBrowserUnlock => .trustedBrowserUnlock
  | initialProvisioning => .initialProvisioning
  | recovery => .recovery
  | browserReplacement => .browserReplacement
  | vmkRekey => .vmkRekey

/-- `brk_signature_required`. -/
def signatureRequired : Operation → Bool
  | trustedBrowserUnlock | vmkRekey => true
  | _ => false

/-- `destroys_runtime_vmk`. -/
def destroysRuntimeVmk : Operation → Bool
  | recovery | browserReplacement | vmkRekey => true
  | _ => false

end Operation

/-- `BeginContext`. -/
structure BeginContext where
  operation : Operation := .trustedBrowserUnlock
  deviceId : Text := []
  vaultId : VaultId := Bytes.zero 16
  expectedGeneration : UInt64 := 0
  registrationId : RegistrationId := Bytes.zero 16
  registrationEpoch : UInt32 := 0
  currentBrkPublicKey : P256PublicKey := Bytes.zero 65
  proposedBrkPublicKey : P256PublicKey := Bytes.zero 65
  deriving DecidableEq

/-- `AttemptDescriptor`. -/
structure AttemptDescriptor where
  attemptId : AttemptId := Bytes.zero 16
  challenge : DeviceChallenge := Bytes.zero 32
  devicePublicKey : P256PublicKey := Bytes.zero 65
  expiresAtMs : UInt64 := 0
  deriving DecidableEq

/-- `valid_optional_p256_identity`. -/
def validOptionalP256Identity (importKey : P256PublicKey → Bool) (key : P256PublicKey) : Bool :=
  key.allZero || validP256PublicKey importKey key

/-- The operation checks of `encode_transcript`. -/
def BeginContext.transcriptFields (context : BeginContext) : Bool :=
  match context.operation with
  | .trustedBrowserUnlock | .vmkRekey =>
    !context.currentBrkPublicKey.allZero && context.registrationEpoch != 0
  | .initialProvisioning =>
    context.currentBrkPublicKey.allZero && !context.proposedBrkPublicKey.allZero &&
      context.registrationEpoch == 0
  | .recovery | .browserReplacement => !context.proposedBrkPublicKey.allZero

/-- `encode_transcript`, of the context, the attempt and the browser's ephemeral key. -/
def encodeTranscript (importKey : P256PublicKey → Bool) (context : BeginContext)
    (descriptor : AttemptDescriptor) (webPublicKey : P256PublicKey) : Option (List UInt8) :=
  if context.deviceId.length = 0 ∨ context.deviceId.length > maxDeviceIdBytes then none
  else if !validP256PublicKey importKey descriptor.devicePublicKey ||
      !validP256PublicKey importKey webPublicKey then none
  else if !validOptionalP256Identity importKey context.currentBrkPublicKey ||
      !validOptionalP256Identity importKey context.proposedBrkPublicKey then none
  else if !context.transcriptFields then none
  else some <| ascii "M5AS" ++
    [transcriptVersion, UInt8.ofNat protocolVersion, context.operation.code,
      UInt8.ofNat context.deviceId.length] ++ context.deviceId ++ context.vaultId.1 ++
    appendBE 8 context.expectedGeneration.toNat ++ context.registrationId.1 ++
    appendBE 4 context.registrationEpoch.toNat ++ descriptor.attemptId.1 ++
    descriptor.challenge.1 ++ descriptor.devicePublicKey.1 ++ webPublicKey.1 ++
    context.currentBrkPublicKey.1 ++ context.proposedBrkPublicKey.1

/-- `context_valid`. -/
def BeginContext.valid (importKey : P256PublicKey → Bool) (context : BeginContext) : Bool :=
  context.deviceId.length != 0 && decide (context.deviceId.length ≤ maxDeviceIdBytes) &&
    !context.registrationId.allZero &&
    validOptionalP256Identity importKey context.currentBrkPublicKey &&
    validOptionalP256Identity importKey context.proposedBrkPublicKey &&
    match context.operation with
    | .trustedBrowserUnlock | .vmkRekey =>
      context.registrationEpoch != 0 && !context.currentBrkPublicKey.allZero
    | .initialProvisioning =>
      context.registrationEpoch == 0 && context.currentBrkPublicKey.allZero &&
        !context.proposedBrkPublicKey.allZero
    | .recovery | .browserReplacement =>
      context.registrationEpoch != 0 && !context.proposedBrkPublicKey.allZero

end M5Auth.Session
