import M5Auth.Vault.Format

/-!
# The Vault runtime

`Runtime` keeps the Device's RAM view of its encrypted Vault: the envelope last read from the
persistence, the Vault master key while unlocked, and the state. It works over any `Persistence`
(`VaultRuntime/NvsPersistence.lean` is the firmware's own); AES-GCM opening is a parameter.

Every operation returns its status and the runtime after it. The field `unlocks` is history: the
keys put in force so far, newest first. No operation reads it.
-/

namespace M5Auth.VaultRuntime

open Vault

/-! ## Statuses and states -/

inductive Status where
  | ok | notReady | unprovisioned | locked | invalidState | invalidArgument | notFound
  | reprovisionRequired | unsupportedSchema | unsupportedVaultFormat | generationMismatch
  | authenticationFailed | corrupt | io
  deriving DecidableEq, Repr

/-- `status_code`: the error code sent to the host. -/
def statusCode : Status → String
  | .ok => "ok"
  | .notReady => "not_ready"
  | .unprovisioned => "unprovisioned"
  | .locked => "locked"
  | .invalidState => "invalid_state"
  | .invalidArgument => "invalid_argument"
  | .notFound => "not_found"
  | .reprovisionRequired => "reprovision_required"
  | .unsupportedSchema => "unsupported_schema"
  | .unsupportedVaultFormat => "unsupported_vault_format"
  | .generationMismatch => "generation_mismatch"
  | .authenticationFailed => "authentication_failed"
  | .corrupt => "corrupt"
  | .io => "io_error"

inductive State where
  | unprovisioned | reprovisionRequired | locked | unlocked | error
  deriving DecidableEq, Repr

def storageSchemaVersion : UInt32 := 2
def maxPersistedCiphertextBytes : Nat := 64 * 1024
def millisecondsPerDay : Nat := 86400000

/-! ## The persistence interface -/

/-- What `load` reads. -/
structure PersistedSnapshot where
  schemaReady : Bool := false
  hasVault : Bool := false
  envelope : VaultEnvelope := {}
  lastUsed : Option CredentialId := none
  deriving DecidableEq, Inhabited

/-- The virtual interface `Persistence`, over the storage states `σ`. An outcome that is not
determined by the stored bytes (a failing read or write) is part of `σ`. -/
structure Persistence (σ : Type) where
  load : σ → (Status × PersistedSnapshot) × σ
  formatSchema2 : σ → Status × σ
  replaceEnvelope : UInt64 → VaultEnvelope → σ → Status × σ
  setLastUsed : Option CredentialId → σ → Status × σ
  eraseAll : σ → Status × σ

/-! ## Classification of envelopes and statuses -/

/-- `valid_envelope_framing`. -/
def validEnvelopeFraming (envelope : VaultEnvelope) : Bool :=
  isSupportedVaultFormat envelope.vaultFormatVersion &&
    envelope.storageSchemaVersion == targetStorageSchemaVersion && envelope.generation != 0 &&
    !envelope.ciphertext.isEmpty && envelope.ciphertext.length ≤ maxPersistedCiphertextBytes

/-- `same_envelope`. -/
def sameEnvelope (left right : VaultEnvelope) : Bool :=
  left.vaultFormatVersion == right.vaultFormatVersion &&
    left.storageSchemaVersion == right.storageSchemaVersion && left.vaultId == right.vaultId &&
    left.generation == right.generation && left.nonce == right.nonce &&
    left.ciphertext == right.ciphertext && left.tag == right.tag

@[simp] theorem sameEnvelope_iff {left right : VaultEnvelope} :
    sameEnvelope left right = true ↔ left = right := by
  cases left
  cases right
  simp [sameEnvelope, and_assoc, Subtype.ext_iff]

@[simp] theorem sameEnvelope_eq_false {left right : VaultEnvelope} :
    sameEnvelope left right = false ↔ left ≠ right := by
  rw [← Bool.not_eq_true, sameEnvelope_iff]

/-- `explicit_reset_recovery_status`. -/
def explicitResetRecoveryStatus (status : Status) : Bool :=
  status == .corrupt || status == .unsupportedSchema || status == .reprovisionRequired

/-! ## The runtime -/

structure Runtime (σ : Type) where
  persistence : σ
  initialized : Bool := false
  schemaReady : Bool := false
  hasVault : Bool := false
  recoveryResetAllowed : Bool := false
  state : State := .unprovisioned
  envelope : VaultEnvelope := {}
  lastUsed : Option CredentialId := none
  vmk : Vmk := Bytes.zero 32
  vmkPresent : Bool := false
  autoLockDays : Option UInt8 := none
  unlockedSinceMs : UInt64 := 0
  unlockSessionActive : Bool := false
  unlocks : List Vmk := []

/-- `Metadata`. -/
structure Metadata where
  state : State
  schemaReady : Bool
  hasVault : Bool
  recoveryResetAllowed : Bool
  storageSchemaVersion : UInt32
  vaultFormatVersion : UInt16
  vaultId : VaultId
  generation : UInt64
  lastUsed : Option CredentialId
  deriving DecidableEq

/-- `CredentialMetadata`. -/
structure CredentialMetadata where
  credentialId : CredentialId
  issuer : Text
  account : Text
  displayName : Text
  manualOrder : UInt16
  deriving DecidableEq

namespace Runtime

variable {σ : Type} (P : Persistence σ) (gcm : GcmOpen)

/-- The runtime after a call of the persistence that left it in the state `persistence`. -/
def withPersistence (rt : Runtime σ) (persistence : σ) : Runtime σ := { rt with persistence }

/-- `wipe_vmk`. -/
def wipeVmk (rt : Runtime σ) : Runtime σ :=
  { rt with vmk := Bytes.zero 32, vmkPresent := false }

/-- `clear_unlock_session_state`. -/
def clearUnlockSessionState (rt : Runtime σ) : Runtime σ :=
  { rt.wipeVmk with autoLockDays := none, unlockedSinceMs := 0, unlockSessionActive := false }

/-- `begin_unlock_session`. -/
def beginUnlockSession (rt : Runtime σ) (autoLockDays : Option UInt8) (nowMs : UInt64) :
    Runtime σ :=
  { rt with autoLockDays, unlockedSinceMs := nowMs, unlockSessionActive := true }

/-- Enter `kError`, with the reset permission `allowed` (the pair of assignments that ends every
failing path). -/
def fail (rt : Runtime σ) (allowed : Bool) : Runtime σ :=
  { rt with state := .error, recoveryResetAllowed := allowed }

/-- `initialize`. -/
def initializeRuntime (rt : Runtime σ) : Status × Runtime σ :=
  let rt := { rt.clearUnlockSessionState with
    initialized := true, schemaReady := false, hasVault := false, recoveryResetAllowed := false,
    envelope := {}, lastUsed := none, state := .unprovisioned }
  match P.load rt.persistence with
  | ((status, snapshot), persistence) =>
    let rt := rt.withPersistence persistence
    if status = .unprovisioned then (status, rt)
    else if status = .reprovisionRequired then
      (status, { rt with state := .reprovisionRequired, recoveryResetAllowed := true })
    else if status ≠ .ok then (status, rt.fail (explicitResetRecoveryStatus status))
    else if !snapshot.schemaReady then (.corrupt, rt.fail true)
    else
      let rt := { rt with schemaReady := true, lastUsed := snapshot.lastUsed }
      if !snapshot.hasVault then (.unprovisioned, rt)
      else if !validEnvelopeFraming snapshot.envelope then
        let supportedFormat := isSupportedVaultFormat snapshot.envelope.vaultFormatVersion
        (if supportedFormat then .corrupt else .unsupportedVaultFormat, rt.fail supportedFormat)
      else
        (.ok, { rt with hasVault := true, envelope := snapshot.envelope, state := .locked })

/-- `reload_after_persistence`. -/
def reloadAfterPersistence (rt : Runtime σ) : Status × Runtime σ :=
  match P.load rt.persistence with
  | ((status, snapshot), persistence) =>
    let rt := rt.withPersistence persistence
    if status ≠ .ok ∨ !snapshot.schemaReady then
      (if status = .ok then .corrupt else status,
        (rt.fail (status == .ok || explicitResetRecoveryStatus status)).clearUnlockSessionState)
    else
      let rt := { rt with
        recoveryResetAllowed := false, schemaReady := true, lastUsed := snapshot.lastUsed,
        hasVault := snapshot.hasVault }
      if !snapshot.hasVault then
        (.ok, { rt with envelope := {}, state := .unprovisioned }.clearUnlockSessionState)
      else if !validEnvelopeFraming snapshot.envelope then
        let supportedFormat := isSupportedVaultFormat snapshot.envelope.vaultFormatVersion
        (if supportedFormat then .corrupt else .unsupportedVaultFormat,
          (rt.fail supportedFormat).clearUnlockSessionState)
      else
        (.ok, { rt with envelope := snapshot.envelope, state := .locked }.clearUnlockSessionState)

/-- `format_for_schema2`. -/
def formatForSchema2 (rt : Runtime σ) : Status × Runtime σ :=
  if !rt.initialized then (.notReady, rt)
  else
    let rt := rt.clearUnlockSessionState
    match P.formatSchema2 rt.persistence with
    | (status, persistence) =>
      let rt := rt.withPersistence persistence
      if status ≠ .ok then (status, rt.fail (explicitResetRecoveryStatus status))
      else rt.reloadAfterPersistence P

/-- `validate_envelope_with_key`: the automatic-lock policy of an envelope the key opens, or the
status of the failing check. -/
def validateEnvelopeWithKey (envelope : VaultEnvelope) (vmk : Vmk) :
    Except Status (Option UInt8) :=
  if !validEnvelopeFraming envelope then
    .error (if isSupportedVaultFormat envelope.vaultFormatVersion then .invalidArgument
      else .unsupportedVaultFormat)
  else
    match decryptVault gcm envelope vmk with
    | none => .error .authenticationFailed
    | some encodedPlaintext =>
      match decodePlaintext encodedPlaintext with
      | none => .error .corrupt
      | some (plaintext, decodedFormat) =>
        if decodedFormat ≠ envelope.vaultFormatVersion then .error .corrupt
        else .ok plaintext.autoLockDays

def installEncryptedVault (rt : Runtime σ) (envelope : VaultEnvelope) (vmk : Vmk) :
    Status × Runtime σ :=
  if !rt.initialized then (.notReady, rt)
  else if !rt.schemaReady then (.notReady, rt)
  else if rt.state ≠ .unprovisioned ∨ rt.hasVault then (.invalidState, rt)
  else
    match validateEnvelopeWithKey gcm envelope vmk with
    | .error status => (status, rt)
    | .ok _ =>
      match P.replaceEnvelope 0 envelope rt.persistence with
      | (status, persistence) =>
        let rt := rt.withPersistence persistence
        if status ≠ .ok then (status, rt)
        else
          match rt.reloadAfterPersistence P with
          | (status, rt) =>
            if status ≠ .ok ∨ !rt.hasVault ∨ !sameEnvelope rt.envelope envelope then
              (if status = .ok then .corrupt else status,
                (rt.fail (status == .ok || explicitResetRecoveryStatus status)
                  ).clearUnlockSessionState)
            else (.ok, rt)

def unlock (rt : Runtime σ) (vmk : Vmk) (nowMs : UInt64) : Status × Runtime σ :=
  if !rt.initialized then (.notReady, rt)
  else if rt.state ≠ .locked ∨ !rt.hasVault then (.invalidState, rt)
  else
    match validateEnvelopeWithKey gcm rt.envelope vmk with
    | .error status => (status, rt)
    | .ok policy =>
      let rt := { rt.clearUnlockSessionState with
        vmk, vmkPresent := true, unlocks := vmk :: rt.unlocks }
      (.ok, { rt.beginUnlockSession policy nowMs with
        state := .unlocked, recoveryResetAllowed := false })

def lock (rt : Runtime σ) : Status × Runtime σ :=
  if !rt.initialized then (.notReady, rt)
  else
    let rt := rt.clearUnlockSessionState
    if rt.state = .error then (.invalidState, rt)
    else (.ok, { rt with state := if rt.hasVault then .locked else .unprovisioned })

/-- `enter_recovery_boundary`; `enter_registration_replacement_boundary` calls it. -/
def enterRecoveryBoundary (rt : Runtime σ) : Status × Runtime σ :=
  if !rt.initialized then (.notReady, rt)
  else
    let rt := rt.clearUnlockSessionState
    if rt.state = .error then (.invalidState, rt)
    else (.ok, { rt with state := if rt.hasVault then .locked else .unprovisioned })

/-- `enter_vmk_rekey_boundary`: the automatic-lock policy and its origin stay. -/
def enterVmkRekeyBoundary (rt : Runtime σ) : Status × Runtime σ :=
  if !rt.initialized then (.notReady, rt)
  else if rt.state ≠ .unlocked ∨ !rt.vmkPresent ∨ !rt.hasVault ∨ !rt.unlockSessionActive then
    (.invalidState, rt)
  else (.ok, { rt.wipeVmk with state := .locked })

/-- `fatal_security_error`. -/
def fatalSecurityError (rt : Runtime σ) : Status × Runtime σ :=
  if !rt.initialized then (.notReady, rt)
  else (.ok, rt.clearUnlockSessionState.fail true)

def unlocked (rt : Runtime σ) : Bool :=
  rt.initialized && rt.state == .unlocked && rt.vmkPresent

/-- `automatic_lock_due`. -/
def automaticLockDue (rt : Runtime σ) (nowMs : UInt64) : Bool :=
  if !rt.unlocked || !rt.unlockSessionActive then false
  else
    match rt.autoLockDays with
    | none => false
    | some days =>
      if nowMs < rt.unlockedSinceMs then false
      else days.toNat * millisecondsPerDay ≤ (nowMs - rt.unlockedSinceMs).toNat

/-- The generation and format checks that `update_encrypted_vault` and `rekey_encrypted_vault`
share. -/
def checkSuccessor (rt : Runtime σ) (expectedGeneration : UInt64) (envelope : VaultEnvelope) :
    Status :=
  if expectedGeneration ≠ rt.envelope.generation ∨ expectedGeneration = 18446744073709551615 ∨
      envelope.generation ≠ expectedGeneration + 1 ∨ envelope.vaultId ≠ rt.envelope.vaultId then
    .generationMismatch
  else if !isSupportedVaultFormat envelope.vaultFormatVersion then .unsupportedVaultFormat
  else if rt.envelope.vaultFormatVersion = vaultFormatVersion2 ∧
      envelope.vaultFormatVersion = vaultFormatVersion1 then .invalidArgument
  else .ok

/-- The reload after a commit does not show the committed envelope. -/
def reloadDiffers (status : Status) (snapshot : PersistedSnapshot) (envelope : VaultEnvelope) :
    Bool :=
  status != .ok || !snapshot.schemaReady || !snapshot.hasVault ||
    !sameEnvelope snapshot.envelope envelope

/-- `update_encrypted_vault`. The flag is `*automatic_lock_due_after_commit`. -/
def updateEncryptedVault (rt : Runtime σ) (expectedGeneration : UInt64) (envelope : VaultEnvelope)
    (nowMs : UInt64) : (Status × Bool) × Runtime σ :=
  if !rt.initialized then ((.notReady, false), rt)
  else if rt.state ≠ .unlocked ∨ !rt.vmkPresent ∨ !rt.hasVault then ((.locked, false), rt)
  else if rt.checkSuccessor expectedGeneration envelope ≠ .ok then
    ((rt.checkSuccessor expectedGeneration envelope, false), rt)
  else
    match validateEnvelopeWithKey gcm envelope rt.vmk with
    | .error status => ((status, false), rt)
    | .ok candidatePolicy =>
      match P.replaceEnvelope expectedGeneration envelope rt.persistence with
      | (status, persistence) =>
        let rt := rt.withPersistence persistence
        if status ≠ .ok then ((status, false), rt)
        else
          match P.load rt.persistence with
          | ((status, snapshot), persistence) =>
            let rt := rt.withPersistence persistence
            if reloadDiffers status snapshot envelope then
              ((if status = .ok then .corrupt else status, false), rt.fatalSecurityError.2)
            else
              let rt := { rt with
                envelope := snapshot.envelope, lastUsed := snapshot.lastUsed, schemaReady := true,
                hasVault := true, recoveryResetAllowed := false, state := .unlocked,
                autoLockDays := candidatePolicy }
              ((.ok, rt.automaticLockDue nowMs), rt)

/-- `rekey_encrypted_vault`. A failed reload enters `kError` here without an assignment to the
reset permission. -/
def rekeyEncryptedVault (rt : Runtime σ) (expectedGeneration : UInt64) (envelope : VaultEnvelope)
    (vmk : Vmk) : Status × Runtime σ :=
  if !rt.initialized then (.notReady, rt)
  else if rt.state ≠ .locked ∨ rt.vmkPresent ∨ !rt.hasVault ∨ !rt.unlockSessionActive then
    (.invalidState, rt)
  else if rt.checkSuccessor expectedGeneration envelope ≠ .ok then
    (rt.checkSuccessor expectedGeneration envelope, rt)
  else
    match validateEnvelopeWithKey gcm envelope vmk with
    | .error status => (status, rt)
    | .ok policy =>
      match P.replaceEnvelope expectedGeneration envelope rt.persistence with
      | (status, persistence) =>
        let rt := rt.withPersistence persistence
        if status ≠ .ok then (status, rt)
        else
          match P.load rt.persistence with
          | ((status, snapshot), persistence) =>
            let rt := rt.withPersistence persistence
            if reloadDiffers status snapshot envelope then
              (if status = .ok then .corrupt else status,
                { rt with state := .error }.clearUnlockSessionState)
            else
              let rt := { rt with
                envelope := snapshot.envelope, lastUsed := snapshot.lastUsed, schemaReady := true,
                hasVault := true }
              (.ok, { rt.wipeVmk with
                vmk, vmkPresent := true, autoLockDays := policy, state := .unlocked,
                recoveryResetAllowed := false, unlocks := vmk :: rt.unlocks })

/-- The fields that `metadata` copies out. -/
def report (rt : Runtime σ) : Metadata where
  state := rt.state
  schemaReady := rt.schemaReady
  hasVault := rt.hasVault
  recoveryResetAllowed := rt.recoveryResetAllowed
  storageSchemaVersion := if rt.schemaReady then storageSchemaVersion else 0
  vaultFormatVersion := if rt.hasVault then rt.envelope.vaultFormatVersion else 0
  vaultId := if rt.hasVault then rt.envelope.vaultId else Bytes.zero 16
  generation := if rt.hasVault then rt.envelope.generation else 0
  lastUsed := rt.lastUsed

def metadata (rt : Runtime σ) : Except Status Metadata :=
  if !rt.initialized then .error .notReady else .ok rt.report

/-- The prologue of `list_credentials`, `with_credential`, `with_wifi` and `set_last_used`: open
the stored Vault with the resident key, or fail closed. -/
def openResident (rt : Runtime σ) : Except (Status × Runtime σ) VaultPlaintext :=
  if !rt.initialized then .error (.notReady, rt)
  else if rt.state ≠ .unlocked ∨ !rt.vmkPresent ∨ !rt.hasVault then .error (.locked, rt)
  else
    match decryptVault gcm rt.envelope rt.vmk with
    | none => .error (.authenticationFailed, rt.fatalSecurityError.2)
    | some encodedPlaintext =>
      match decodePlaintext encodedPlaintext with
      | none => .error (.corrupt, rt.fatalSecurityError.2)
      | some (plaintext, decodedFormat) =>
        if decodedFormat ≠ rt.envelope.vaultFormatVersion then
          .error (.corrupt, rt.fatalSecurityError.2)
        else .ok plaintext

/-- `list_credentials`: sorted by `manual_order`, stably. -/
def listCredentials (rt : Runtime σ) : (Status × List CredentialMetadata) × Runtime σ :=
  match rt.openResident gcm with
  | .error (status, rt) => ((status, []), rt)
  | .ok plaintext =>
    let credentials := plaintext.credentials.map fun credential =>
      { credentialId := credential.credentialId, issuer := credential.issuer
        account := credential.account, displayName := credential.displayName
        manualOrder := credential.manualOrder : CredentialMetadata }
    ((.ok, credentials.mergeSort fun left right => left.manualOrder ≤ right.manualOrder), rt)

/-- `with_credential`: the consumer's status decides whether the use is recorded. -/
def withCredential (rt : Runtime σ) (credentialId : CredentialId)
    (consumer : CredentialRecord → Status) : Status × Runtime σ :=
  match rt.openResident gcm with
  | .error (status, rt) => (status, rt)
  | .ok plaintext =>
    match plaintext.credentials.find? (·.credentialId == credentialId) with
    | none => (.notFound, rt)
    | some found =>
      if consumer found ≠ .ok then (consumer found, rt)
      else
        match P.setLastUsed (some credentialId) rt.persistence with
        | (status, persistence) =>
          let rt := rt.withPersistence persistence
          if status = .ok then (.ok, { rt with lastUsed := some credentialId }) else (status, rt)

/-- `with_wifi`. -/
def withWifi (rt : Runtime σ) (consumer : WifiRecord → Status) : Status × Runtime σ :=
  match rt.openResident gcm with
  | .error (status, rt) => (status, rt)
  | .ok plaintext =>
    match plaintext.wifi with
    | none => (.notFound, rt)
    | some wifi => (consumer wifi, rt)

/-- `set_last_used`. -/
def setLastUsed (rt : Runtime σ) (credentialId : CredentialId) : Status × Runtime σ :=
  match rt.openResident gcm with
  | .error (status, rt) => (status, rt)
  | .ok plaintext =>
    if !plaintext.credentials.any (·.credentialId == credentialId) then (.notFound, rt)
    else
      match P.setLastUsed (some credentialId) rt.persistence with
      | (status, persistence) =>
        let rt := rt.withPersistence persistence
        if status = .ok then (.ok, { rt with lastUsed := some credentialId }) else (status, rt)

/-- `factory_reset`. -/
def factoryReset (rt : Runtime σ) : Status × Runtime σ :=
  if !rt.initialized then (.notReady, rt)
  else
    let rt := rt.clearUnlockSessionState
    match P.eraseAll rt.persistence with
    | (status, persistence) =>
      let rt := rt.withPersistence persistence
      if status ≠ .ok then (status, rt.fail false)
      else
        (.ok, { rt with
          schemaReady := false, hasVault := false, recoveryResetAllowed := false, envelope := {},
          lastUsed := none, state := .unprovisioned })

end Runtime

end M5Auth.VaultRuntime
