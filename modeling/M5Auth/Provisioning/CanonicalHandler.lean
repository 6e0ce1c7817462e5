import M5Auth.Provisioning.SessionHandler
import M5Auth.VaultRuntime.Call

/-!
# The canonical handler and the Device's steps

`CanonicalProtocolV2Handler`: the router over all requests of Protocol v2. It forwards `session.*`
lines to the session handler and owns the two reset attempts. `Input` collects everything that
moves the Device: a line, a housekeeping tick, a disconnect, the button and the uses of the
resident key by the Device's own screens; `step` is one of them.
-/

namespace M5Auth.Provisioning

open Session (AttemptId)
open VaultRuntime (Call Reply Runtime)

/-- The Device over a persistence that records its calls. -/
def Env.logged {σ : Type} (env : Env σ) : Env (σ × List Reply) :=
  { env with persistence := env.persistence.logged }

namespace Device

variable {σ : Type} (env : Env σ) (d : Device σ)

/-- `cancel_healthy_factory_reset`. -/
def cancelHealthyReset : Device σ :=
  (if d.healthyReset.active then d.withPresence d.presence.cancelPresence else d).withHealthyReset
    .cancel

/-- `cancel_recovery_reset`. -/
def cancelRecoveryReset : Device σ :=
  (if d.recoveryReset.active then d.withPresence d.presence.cancelPresence else d
    ).withRecoveryReset {}

/-- `disconnect`. -/
def disconnect : Device σ :=
  d.disconnectSession.cancelPending.cancelHealthyReset.cancelRecoveryReset

/-- `lock_security_boundary`: a disconnect, then the lock. -/
def lockSecurityBoundary : VaultRuntime.Status × Device σ :=
  let d := d.disconnect
  (d.runtime.lock.1, d.withRuntime d.runtime.lock.2)

/-- The reset attempts that `housekeeping` expires. -/
def expireResets (nowMs : UInt64) : Device σ :=
  let d := if d.healthyReset.expired nowMs then d.cancelHealthyReset else d
  if d.recoveryReset.active ∧ d.recoveryReset.deadlineMs ≤ nowMs then d.cancelRecoveryReset else d

/-- `housekeeping`. -/
def housekeeping (nowMs : UInt64) : Device σ :=
  let d := ((d.expireSession nowMs).expirePending nowMs).expireResets nowMs
  if d.runtime.automaticLockDue nowMs then d.lockSecurityBoundary.2 else d

def decision : RecoveryResetDecision := recoveryResetDecision d.runtime d.registration

/-- The condition of a healthy reset. -/
def healthyResetAllowed : Bool := d.decision == .notRequired && d.runtime.state == .unlocked

/-- Draw a reset attempt identifier. -/
def drawResetId : ResetAttemptId × Device σ :=
  (env.resetAttemptId d.resetDraws, { d with resetDraws := d.resetDraws + 1 })

/-! ## Requests -/

/-- The `session.` branch of `handle_line`. -/
def handleSessionRequest (frame : Frame) (request : SessionRequest) (line : List UInt8)
    (m : Moment) : Response × Device σ :=
  let d := d.cancelHealthyReset.cancelRecoveryReset
  let operation := parseSessionOperation frame.params
  if line.length > maxSessionMessageBytes then (.error 0 "message_too_large", d.disconnect)
  else if request = .sessionBegin ∧ operation = none then
    (.error frame.id "invalid_request", d.disconnect)
  else
    match d.handleSessionLine env line m with
    | (response, d) =>
      if request = .sessionBegin ∧ response.ok then
        match d.prepareAttempt { operation := operation.getD .trustedBrowserUnlock } with
        | (true, d) => (response, d)
        | (false, d) => (.error frame.id "invalid_state", d.disconnectSession.cancelPending)
      else if request = .complete ∧ response.ok then (response, d.armPendingDeadline m.nowMs)
      else if request = .cancel then (response, d.cancelPending)
      else (response, d)

def handleHello (id : Nat) : Response × Device σ :=
  match d.runtime.metadata with
  | .error _ => (.error id "invalid_state", d)
  | .ok metadata =>
    if d.decision = .unavailable then (.error id "invalid_state", d)
    else
      (helloSuccess id env.metadata metadata d.registration.readSnapshot.2
        (d.decision == .required), d)

def factoryResetBegin (id : Nat) (nowMs : UInt64) : Response × Device σ :=
  if !d.healthyResetAllowed then (.error id "invalid_state", d)
  else
    match d.disconnect.drawResetId env with
    | (attemptId, d) =>
      (resetBeginSuccess id attemptId.1,
        (d.withPresence (d.presence.beginPresence .factoryReset attemptId.1 nowMs)
          ).withHealthyReset (.start attemptId.1 nowMs))

/-- `factory_reset.status` and `factory_reset.cancel`, which differ in what they do for the active
attempt. -/
def withHealthyAttempt (id : Nat) (params : Json) (nowMs : UInt64)
    (act : AttemptId → Response × Device σ) : Response × Device σ :=
  match readAttemptId params with
  | none => (.error id "invalid_request", d)
  | some attemptId =>
    match d.healthyReset.check attemptId nowMs with
    | .expired => (.error id "expired", d.cancelHealthyReset)
    | .ok => act attemptId
    | _ => (.error id "invalid_state", d)

def factoryResetStatus (id : Nat) (params : Json) (nowMs : UInt64) : Response × Device σ :=
  d.withHealthyAttempt id params nowMs fun _ =>
    (resetStatusSuccess id d.presence.presenceConfirmed, d)

def factoryResetCancel (id : Nat) (params : Json) (nowMs : UInt64) : Response × Device σ :=
  d.withHealthyAttempt id params nowMs fun _ => (emptySuccess id, d.cancelHealthyReset)

/-- The destructive part of `factory_reset.commit`: the Vault first, then the registration. -/
def commitReset (id : Nat) : Response × Device σ :=
  match d.runtime.factoryReset env.persistence with
  | (vaultStatus, runtime) =>
    let d := d.withRuntime runtime
    if vaultStatus ≠ .ok then (.error id "reset_failed", d)
    else
      match d.registration.clearRegistration with
      | (clearStatus, registration) =>
        (if clearStatus = .ok then emptySuccess id else .error id "reset_failed",
          d.withRegistration registration)

def factoryResetCommit (id : Nat) (params : Json) (nowMs : UInt64) : Response × Device σ :=
  d.withHealthyAttempt id params nowMs fun attemptId =>
    match d.presence.consumePresence attemptId nowMs with
    | (false, presence) => (.error id "presence_required", d.withPresence presence)
    | (true, presence) =>
      let d := (d.withPresence presence).withHealthyReset .cancel
      if !d.healthyResetAllowed then (.error id "invalid_state", d)
      else d.disconnectSession.cancelPending.cancelRecoveryReset.commitReset env id

def recoveryBegin (id : Nat) (nowMs : UInt64) : Response × Device σ :=
  if d.decision ≠ .required then (.error id "invalid_state", d)
  else
    let d := d.disconnect
    let boundary :=
      if d.runtime.state = .error then
        (if d.runtime.recoveryResetAllowed then .ok else .invalidState, d.runtime)
      else d.runtime.enterRecoveryBoundary
    let d := d.withRuntime boundary.2
    if boundary.1 ≠ .ok then (.error id "invalid_state", d)
    else
      match d.drawResetId env with
      | (attemptId, d) =>
        (resetBeginSuccess id attemptId.1,
          (d.withPresence (d.presence.beginPresence .factoryReset attemptId.1 nowMs)
            ).withRecoveryReset
            { attemptId := attemptId.1, deadlineMs := Session.deadlineFrom nowMs, active := true })

/-- `factory_reset.recovery_status` and `factory_reset.recovery_complete`, up to what they do for
the active attempt. -/
def withRecoveryAttempt (id : Nat) (params : Json) (nowMs : UInt64)
    (act : AttemptId → Response × Device σ) : Response × Device σ :=
  match readAttemptId params with
  | none => (.error id "invalid_request", d)
  | some attemptId =>
    if !d.recoveryReset.names attemptId then (.error id "invalid_state", d)
    else if d.recoveryReset.deadlineMs ≤ nowMs then (.error id "expired", d.cancelRecoveryReset)
    else act attemptId

def recoveryStatus (id : Nat) (params : Json) (nowMs : UInt64) : Response × Device σ :=
  d.withRecoveryAttempt id params nowMs fun _ =>
    (resetStatusSuccess id d.presence.presenceConfirmed, d)

/-- The destructive part of `factory_reset.recovery_complete`: the registration first, then the
Vault. -/
def completeReset (id : Nat) : Response × Device σ :=
  match (if d.registration.readSnapshot.1 = .corrupt then
      d.registration.clearCorruptRegistrationForRecovery
    else d.registration.clearRegistration) with
  | (clearStatus, registration) =>
    let d := d.withRegistration registration
    if clearStatus ≠ .ok then (.error id "reset_failed", d)
    else
      match d.runtime.factoryReset env.persistence with
      | (vaultStatus, runtime) =>
        (if vaultStatus = .ok then emptySuccess id else .error id "reset_failed",
          d.withRuntime runtime)

def recoveryComplete (id : Nat) (params : Json) (nowMs : UInt64) : Response × Device σ :=
  d.withRecoveryAttempt id params nowMs fun attemptId =>
    match d.presence.consumePresence attemptId nowMs with
    | (false, presence) => (.error id "presence_required", d.withPresence presence)
    | (true, presence) =>
      let d := (d.withPresence presence).withRecoveryReset {}
      if d.decision ≠ .required then (.error id "invalid_state", d)
      else d.completeReset env id

def vaultInstall (id : Nat) (params : Json) (nowMs : UInt64) : Response × Device σ :=
  match readEnvelope params with
  | none => (.error id "invalid_request", d.cancelPending)
  | some envelope =>
    if !d.sink.pending then (.error id "invalid_state", d)
    else
      match (match d.sink.context.operation with
        | .initialProvisioning => d.installInitialVault env envelope nowMs
        | .recovery => d.installRecoveredVault env envelope nowMs
        | _ => (false, d.cancelPending)) with
      | (true, d) => (emptySuccess id, d)
      | (false, d) => (.error id "invalid_state", d)

/-- The response for a status of the runtime. -/
def statusResponse (id : Nat) (status : VaultRuntime.Status) : Response :=
  if status = .ok then emptySuccess id else .error id (VaultRuntime.statusCode status)

def vaultUpdate (id : Nat) (params : Json) (nowMs : UInt64) : Response × Device σ :=
  match parseReplacement params with
  | none => (.error id "invalid_request", d)
  | some (envelope, expectedGeneration) =>
    match d.runtime.updateEncryptedVault env.persistence env.prims.gcm expectedGeneration envelope
        nowMs with
    | ((status, lockDue), runtime) =>
      let d := d.withRuntime runtime
      if status = .ok ∧ lockDue then
        (statusResponse id d.lockSecurityBoundary.1, d.lockSecurityBoundary.2)
      else (statusResponse id status, d)

def vaultRekey (id : Nat) (params : Json) (nowMs : UInt64) : Response × Device σ :=
  match parseReplacement params with
  | none => (.error id "invalid_request", d.cancelPending)
  | some (envelope, expectedGeneration) =>
    match d.installRekeyedVault env expectedGeneration envelope nowMs with
    | (false, d) => (.error id "invalid_state", d)
    | (true, d) =>
      if d.runtime.automaticLockDue nowMs then
        (statusResponse id d.lockSecurityBoundary.1, d.lockSecurityBoundary.2)
      else (emptySuccess id, d)

def timeSync (id : Nat) (params : Json) (m : Moment) : Response × Device σ :=
  match readU64Decimal (params.getItem "unix_seconds") with
  | none => (.error id "invalid_request", d)
  | some unixSeconds =>
    match Time.syncFromUsb d.clock d.runtime.unlocked m.clockSettable unixSeconds m.timerUs with
    | (result, clock) =>
      (if result = .ok then emptySuccess id else .error id (Time.syncResultCode result),
        { d with clock })

def deviceLock (id : Nat) : Response × Device σ :=
  (statusResponse id d.lockSecurityBoundary.1, d.lockSecurityBoundary.2)

/-- `factory_reset` without an attempt: it never resets. -/
def legacyFactoryReset (id : Nat) : Response × Device σ :=
  (.error id (if d.healthyResetAllowed then "presence_required" else "invalid_state"), d)

def handleRequest (frame : Frame) (line : List UInt8) (m : Moment) : Response × Device σ :=
  match frame.operation with
  | .session request => d.handleSessionRequest env frame request line m
  | .hello => d.handleHello env frame.id
  | .factoryResetBegin => d.factoryResetBegin env frame.id m.nowMs
  | .factoryResetStatus => d.factoryResetStatus frame.id frame.params m.nowMs
  | .factoryResetCancel => d.factoryResetCancel frame.id frame.params m.nowMs
  | .factoryResetCommit => d.factoryResetCommit env frame.id frame.params m.nowMs
  | .recoveryBegin => d.recoveryBegin env frame.id m.nowMs
  | .recoveryStatus => d.recoveryStatus frame.id frame.params m.nowMs
  | .recoveryComplete => d.recoveryComplete env frame.id frame.params m.nowMs
  | .vaultInstall => d.vaultInstall env frame.id frame.params m.nowMs
  | .vaultUpdate => d.vaultUpdate env frame.id frame.params m.nowMs
  | .vaultRekey => d.vaultRekey env frame.id frame.params m.nowMs
  | .timeStatus => (timeStatusSuccess frame.id (d.clock.snapshot m.timerUs), d)
  | .timeSync => d.timeSync frame.id frame.params m
  | .deviceLock => d.deviceLock frame.id
  | .factoryReset => d.legacyFactoryReset frame.id
  | .unsupported => (.error frame.id "unsupported_op", d)

/-- `handle_line`, after its `housekeeping`. -/
def dispatch (line : List UInt8) (m : Moment) : Response × Device σ :=
  if line.isEmpty then (.error 0 "invalid_request", d)
  else if line.length > maxCanonicalMessageBytes then (.error 0 "message_too_large", d.disconnect)
  else
    match readFrame env.parse line with
    | .error (id, code) => (.error id code, d.disconnect)
    | .ok frame => d.handleRequest env frame line m

/-- `handle_line`. -/
def handleLine (line : List UInt8) (m : Moment) : Response × Device σ :=
  (d.housekeeping m.nowMs).dispatch env line m

/-! ## Steps -/

/-- A use of the resident key by the Device itself: its account list, its codes and its time
synchronization. -/
inductive ResidentCall where
  | listCredentials
  | withCredential (credentialId : Vault.CredentialId)
      (consumer : Vault.CredentialRecord → VaultRuntime.Status)
  | withWifi (consumer : Vault.WifiRecord → VaultRuntime.Status)
  | setLastUsed (credentialId : Vault.CredentialId)

def ResidentCall.call : ResidentCall → Call
  | .listCredentials => .listCredentials
  | .withCredential credentialId consumer => .withCredential credentialId consumer
  | .withWifi consumer => .withWifi consumer
  | .setLastUsed credentialId => .setLastUsed credentialId

inductive Input where
  | line (line : List UInt8) (m : Moment)
  | housekeeping (nowMs : UInt64)
  | disconnect
  | observeButton (pressed : Bool)
  | buttonPressed (nowMs : UInt64)
  | expirePresence (nowMs : UInt64)
  | resident (use : ResidentCall)

/-- One step of the Device. -/
def step : Input → Device σ
  | .line line m => (d.handleLine env line m).2
  | .housekeeping nowMs => d.housekeeping nowMs
  | .disconnect => d.disconnect
  | .observeButton pressed => d.withPresence (d.presence.observeButtonState pressed)
  | .buttonPressed nowMs => d.withPresence (d.presence.buttonPressed nowMs)
  | .expirePresence nowMs => d.withPresence (d.presence.expirePresence nowMs)
  | .resident use => d.withRuntime (d.runtime.step env.persistence env.prims.gcm use.call)

/-- Power-on: the registration store, then the runtime. -/
def boot (storage : σ) (nvs : Registration.Nvs) (candidate : Registration.DeviceIdCandidate) :
    Device σ where
  registration :=
    (({ nvs } : Registration.Store).initializeStore env.prims.importKey candidate).2
  runtime := ((Runtime.new storage).initializeRuntime env.persistence).2

end Device

end M5Auth.Provisioning
