import M5Auth.Provisioning.RecoveryReset
import M5Auth.Session.Transcript

/-!
# What a session request must match

`bindingSnapshot` is what the Device currently is: its identity, its Vault and its registration.
`beginMatchesSnapshot` compares the context of a session request with it, for each operation.
-/

namespace M5Auth.Provisioning

open Session (BeginContext)
open Registration (RegistrationId P256PublicKey)
open Vault (VaultId)

/-- `SessionV2DeviceSnapshot`. -/
structure SessionDeviceSnapshot where
  deviceId : Text := []
  vaultPresent : Bool := false
  vaultId : VaultId := Bytes.zero 16
  generation : UInt64 := 0
  registrationPresent : Bool := false
  registrationId : RegistrationId := Bytes.zero 16
  registrationEpoch : UInt32 := 0
  brkPublicKey : P256PublicKey := Bytes.zero 65
  deriving DecidableEq

/-- `CanonicalBindingSource::snapshot`: none while the Vault and the registration do not belong to
each other. -/
def bindingSnapshot {σ : Type} (runtime : VaultRuntime.Runtime σ)
    (registration : Registration.Store) : Option SessionDeviceSnapshot :=
  match runtime.metadata, registration.readSnapshot with
  | .ok metadata, (.ok, snapshot) =>
    if metadata.hasVault ≠ snapshot.registrationPresent then none
    else if metadata.hasVault ∧ metadata.vaultId ≠ snapshot.vaultId then none
    else
      let deviceId := Registration.deviceIdText snapshot.deviceId
      if deviceId.isEmpty then none
      else some
        { deviceId
          vaultPresent := metadata.hasVault
          vaultId := if metadata.hasVault then metadata.vaultId else Bytes.zero 16
          generation := if metadata.hasVault then metadata.generation else 0
          registrationPresent := snapshot.registrationPresent
          registrationId :=
            if snapshot.registrationPresent then snapshot.registrationId else Bytes.zero 16
          registrationEpoch := if snapshot.registrationPresent then snapshot.epoch else 0
          brkPublicKey :=
            if snapshot.registrationPresent then snapshot.brkPublicKey else Bytes.zero 65 }
  | _, _ => none

variable (context : BeginContext) (snapshot : SessionDeviceSnapshot)

/-- `existing_vault_matches`. -/
def existingVaultMatches : Bool :=
  snapshot.vaultPresent && context.vaultId.sameBytes snapshot.vaultId &&
    context.expectedGeneration == snapshot.generation

/-- `existing_registration_matches`. -/
def existingRegistrationMatches : Bool :=
  snapshot.registrationPresent && context.registrationId.sameBytes snapshot.registrationId &&
    context.registrationEpoch == snapshot.registrationEpoch

/-- `replacement_registration_is_next`. -/
def replacementRegistrationIsNext : Bool :=
  snapshot.registrationPresent && snapshot.registrationEpoch != 4294967295 &&
    !context.registrationId.allZero &&
    !context.registrationId.sameBytes snapshot.registrationId &&
    context.registrationEpoch == snapshot.registrationEpoch + 1

/-- `current_brk_is_device_owned`. -/
def currentBrkIsDeviceOwned (optional : Bool) : Bool :=
  if !snapshot.registrationPresent || snapshot.brkPublicKey.allZero then false
  else if context.currentBrkPublicKey.allZero then optional
  else context.currentBrkPublicKey.sameBytes snapshot.brkPublicKey

/-- `clean_unprovisioned_snapshot`. -/
def cleanUnprovisionedSnapshot : Bool :=
  !snapshot.vaultPresent && snapshot.generation == 0 && snapshot.vaultId.allZero &&
    !snapshot.registrationPresent && snapshot.registrationEpoch == 0 &&
    snapshot.registrationId.allZero && snapshot.brkPublicKey.allZero

/-- `clean_device_recovery_matches`. -/
def cleanDeviceRecoveryMatches : Bool :=
  cleanUnprovisionedSnapshot snapshot && !context.vaultId.allZero &&
    context.expectedGeneration != 0 && context.registrationEpoch == 1 &&
    !context.registrationId.allZero && context.currentBrkPublicKey.allZero &&
    !context.proposedBrkPublicKey.allZero

/-- The checks that a recovery onto an existing Vault and a browser replacement share. -/
def replacementMatches : Bool :=
  existingVaultMatches context snapshot && replacementRegistrationIsNext context snapshot &&
    currentBrkIsDeviceOwned context snapshot true && !context.proposedBrkPublicKey.allZero &&
    !context.proposedBrkPublicKey.sameBytes snapshot.brkPublicKey

/-- `session_v2_begin_matches_snapshot`. -/
def beginMatchesSnapshot : Bool :=
  !snapshot.deviceId.isEmpty && context.deviceId == snapshot.deviceId &&
    match context.operation with
    | .initialProvisioning =>
      cleanUnprovisionedSnapshot snapshot && context.expectedGeneration == 0 &&
        context.registrationEpoch == 0 && !context.registrationId.allZero &&
        context.currentBrkPublicKey.allZero && !context.proposedBrkPublicKey.allZero
    | .trustedBrowserUnlock | .vmkRekey =>
      existingVaultMatches context snapshot && existingRegistrationMatches context snapshot &&
        currentBrkIsDeviceOwned context snapshot false && context.proposedBrkPublicKey.allZero
    | .recovery =>
      cleanDeviceRecoveryMatches context snapshot || replacementMatches context snapshot
    | .browserReplacement => replacementMatches context snapshot

end M5Auth.Provisioning
