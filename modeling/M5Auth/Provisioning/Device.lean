import M5Auth.Provisioning.Messages

/-!
# The Device and its VMK sink

`Device` is the state behind the serial protocol: the runtime, the registration store, the session
attempt with its presence gate, the pending Vault master key and the two reset attempts. What the
Device does not contain is in `Env`: the persistence, the cryptographic library, the JSON parser
and the random source.

The second half is `CanonicalVmkSink`: how a delivered key reaches the runtime, at once or, for
a Vault yet to be supplied, by way of the pending slot.
-/

namespace M5Auth.Provisioning

open Session (AttemptCoordinator AttemptId BeginContext)
open Vault (VaultEnvelope Vmk)
open VaultRuntime (Persistence Runtime)

/-- What a reset attempt draws: a random identifier, drawn again while it is zero. -/
abbrev ResetAttemptId := { id : AttemptId // id.allZero = false }

structure Env (σ : Type) where
  persistence : Persistence σ
  prims : Session.Primitives
  parse : List UInt8 → Option Json
  resetAttemptId : Nat → ResetAttemptId
  metadata : DeviceMetadata

/-- The members of `CanonicalVmkSink`. -/
structure VmkSink where
  vmk : Vmk := Bytes.zero 32
  context : BeginContext := {}
  pending : Bool := false
  deadlineArmed : Bool := false
  expiresAtMs : UInt64 := 0
  deriving DecidableEq

/-- The Device. The field `resetDraws` counts the reset attempt identifiers drawn. -/
structure Device (σ : Type) where
  runtime : Runtime σ
  registration : Registration.Store
  coordinator : AttemptCoordinator := {}
  context : BeginContext := {}
  contextActive : Bool := false
  sink : VmkSink := {}
  healthyReset : FactoryResetAuthorization := {}
  recoveryReset : RecoveryReset := {}
  clock : Time.TrustedClock := {}
  resetDraws : Nat := 0

/-- `kPendingVaultVmkTtlMs`. -/
def pendingVaultVmkTtlMs : UInt64 := 30000

namespace Device

variable {σ : Type} (env : Env σ) (d : Device σ)

def withRuntime (runtime : Runtime σ) : Device σ := { d with runtime }

def withRegistration (registration : Registration.Store) : Device σ := { d with registration }

def withCoordinator (coordinator : AttemptCoordinator) : Device σ := { d with coordinator }

def withSink (sink : VmkSink) : Device σ := { d with sink }

def withHealthyReset (healthyReset : FactoryResetAuthorization) : Device σ :=
  { d with healthyReset }

def withRecoveryReset (recoveryReset : RecoveryReset) : Device σ := { d with recoveryReset }

/-- The presence gate is the session coordinator's; the resets use the same one. -/
def presence : Session.CanonicalPresence := d.coordinator.presence

def withPresence (presence : Session.CanonicalPresence) : Device σ :=
  d.withCoordinator (d.coordinator.withPresence presence)

/-- The Device after an operation of its runtime, and whether that succeeded. -/
def applied (result : VaultRuntime.Status × Runtime σ) : Bool × Device σ :=
  (result.1 == .ok, d.withRuntime result.2)

/-! ## The VMK sink -/

/-- `cancel_pending`. -/
def cancelPending : Device σ := d.withSink {}

/-- The assignments that keep a delivered key. -/
def holdPending (context : BeginContext) (vmk : Vmk) : Device σ :=
  d.withSink { vmk, context, pending := true }

/-- `prepare_attempt`. -/
def prepareAttempt (context : BeginContext) : Bool × Device σ :=
  let d := d.cancelPending
  match d.runtime.metadata with
  | .error _ => (false, d)
  | .ok metadata =>
    let unprovisioned : Bool :=
      metadata.state == .unprovisioned || metadata.state == .reprovisionRequired
    match context.operation with
    | .initialProvisioning => (!metadata.hasVault && unprovisioned, d)
    | .trustedBrowserUnlock => (metadata.hasVault && metadata.state == .locked, d)
    | .recovery =>
      if !metadata.hasVault then (unprovisioned, d) else d.applied d.runtime.enterRecoveryBoundary
    | .browserReplacement =>
      if !metadata.hasVault then (false, d) else d.applied d.runtime.enterRecoveryBoundary
    | .vmkRekey =>
      if !metadata.hasVault || !d.runtime.unlocked then (false, d)
      else d.applied d.runtime.enterVmkRekeyBoundary

/-- The branches of `install_vmk` for a Vault whose registration is replaced. -/
def installReplacement (context : BeginContext) (vmk : Vmk) (timerMs : UInt64) :
    Bool × Device σ :=
  if context.registrationEpoch = 0 then (false, d)
  else
    match d.runtime.unlock env.prims.gcm vmk timerMs with
    | (status, runtime) =>
      let d := d.withRuntime runtime
      if status ≠ .ok then (false, d)
      else
        match d.registration.replace env.prims.importKey (context.registrationEpoch - 1)
            { vaultId := context.vaultId, registrationId := context.registrationId
              epoch := context.registrationEpoch
              brkPublicKey := context.proposedBrkPublicKey } with
        | (status, registration) =>
          let d := d.withRegistration registration
          if status ≠ .ok then (false, d.withRuntime d.runtime.lock.2) else (true, d)

/-- `install_vmk`; `timerMs` is `runtime_monotonic_ms`. -/
def installVmk (context : BeginContext) (vmk : Vmk) (timerMs : UInt64) : Bool × Device σ :=
  let d := d.cancelPending
  match context.operation with
  | .trustedBrowserUnlock => d.applied (d.runtime.unlock env.prims.gcm vmk timerMs)
  | .recovery =>
    match d.runtime.metadata with
    | .error _ => (false, d)
    | .ok metadata =>
      if metadata.hasVault then d.installReplacement env context vmk timerMs
      else if (metadata.state ≠ .unprovisioned ∧ metadata.state ≠ .reprovisionRequired) ∨
          context.expectedGeneration = 0 ∨ context.registrationEpoch ≠ 1 ∨
          !context.currentBrkPublicKey.allZero then (false, d)
      else (true, d.holdPending context vmk)
  | .browserReplacement => d.installReplacement env context vmk timerMs
  | .initialProvisioning | .vmkRekey => (true, d.holdPending context vmk)

/-- `arm_pending_deadline`. -/
def armPendingDeadline (nowMs : UInt64) : Device σ :=
  if !d.sink.pending then d
  else d.withSink { d.sink with
    deadlineArmed := true
    expiresAtMs :=
      if nowMs > 18446744073709551615 - pendingVaultVmkTtlMs then 18446744073709551615
      else nowMs + pendingVaultVmkTtlMs }

/-- `expire_pending`. -/
def expirePending (nowMs : UInt64) : Device σ :=
  if !d.sink.pending ∨ !d.sink.deadlineArmed ∨ nowMs < d.sink.expiresAtMs then d
  else d.cancelPending

/-- `pending_valid`, after its `expire_pending`. -/
def pendingValid (operation : Session.Operation) : Bool :=
  d.sink.pending && d.sink.deadlineArmed && d.sink.context.operation == operation

/-- `envelope_matches_pending`. -/
def envelopeMatchesPending (envelope : VaultEnvelope) (context : BeginContext)
    (generation : UInt64) : Bool :=
  Vault.isSupportedVaultFormat envelope.vaultFormatVersion &&
    envelope.storageSchemaVersion == Vault.targetStorageSchemaVersion &&
    envelope.vaultId == context.vaultId && envelope.generation == generation &&
    !envelope.ciphertext.isEmpty

/-- Format, install and unlock, as far as they succeed. -/
def provision (runtime : Runtime σ) (envelope : VaultEnvelope) (vmk : Vmk) (nowMs : UInt64) :
    VaultRuntime.Status × Runtime σ :=
  match runtime.formatForSchema2 env.persistence with
  | (.ok, runtime) =>
    match runtime.installEncryptedVault env.persistence env.prims.gcm envelope vmk with
    | (.ok, runtime) => runtime.unlock env.prims.gcm vmk nowMs
    | failed => failed
  | failed => failed

/-- The common end of `install_initial_vault` and `install_recovered_vault`: a failure rolls the
Vault back. -/
def installVault (envelope : VaultEnvelope) (nowMs : UInt64) : Bool × Device σ :=
  let context := d.sink.context
  match provision env d.runtime envelope d.sink.vmk nowMs with
  | (status, runtime) =>
    if status ≠ .ok then
      (false, (d.withRuntime (runtime.factoryReset env.persistence).2).cancelPending)
    else
      match d.registration.installInitial env.prims.importKey
          { vaultId := context.vaultId, registrationId := context.registrationId, epoch := 1
            brkPublicKey := context.proposedBrkPublicKey } with
      | (status, registration) =>
        if status ≠ .ok then
          (false, ((d.withRegistration registration).withRuntime
            (runtime.factoryReset env.persistence).2).cancelPending)
        else (true, ((d.withRegistration registration).withRuntime runtime).cancelPending)

/-- `install_initial_vault`. -/
def installInitialVault (envelope : VaultEnvelope) (nowMs : UInt64) : Bool × Device σ :=
  let d := d.expirePending nowMs
  let context := d.sink.context
  if !d.pendingValid .initialProvisioning || context.expectedGeneration != 0 ||
      context.registrationEpoch != 0 || context.registrationId.allZero ||
      !envelopeMatchesPending envelope context 1 then (false, d.cancelPending)
  else d.installVault env envelope nowMs

/-- `install_recovered_vault`. -/
def installRecoveredVault (envelope : VaultEnvelope) (nowMs : UInt64) : Bool × Device σ :=
  let d := d.expirePending nowMs
  let context := d.sink.context
  if !d.pendingValid .recovery || context.expectedGeneration == 0 ||
      context.registrationEpoch != 1 || !context.currentBrkPublicKey.allZero ||
      context.registrationId.allZero ||
      !envelopeMatchesPending envelope context context.expectedGeneration then
    (false, d.cancelPending)
  else d.installVault env envelope nowMs

/-- `install_rekeyed_vault`. -/
def installRekeyedVault (expectedGeneration : UInt64) (envelope : VaultEnvelope)
    (nowMs : UInt64) : Bool × Device σ :=
  let d := d.expirePending nowMs
  let context := d.sink.context
  if !d.pendingValid .vmkRekey || expectedGeneration != context.expectedGeneration ||
      expectedGeneration == 18446744073709551615 ||
      !envelopeMatchesPending envelope context (expectedGeneration + 1) then
    (false, d.cancelPending)
  else
    match d.runtime.rekeyEncryptedVault env.persistence env.prims.gcm expectedGeneration envelope
        d.sink.vmk with
    | (status, runtime) => (status == .ok, (d.withRuntime runtime).cancelPending)

end Device

end M5Auth.Provisioning
