import M5Auth.Web.Management
import M5Auth.Web.VaultRequest

/-!
# The writes of the management

The operations that stage a candidate and ask the Device to commit it, the two resets
(`factoryReset` and `CanonicalRecoveryResetController`), and the writes of `security-panel.ts`. Each
is one section under the lock of the browser's state, but for the recovery reset: it takes the lock
only where it stages its intent and where it cleans up.
-/

namespace M5Auth.Web

open CrashProgram

namespace Manage

variable (platform : Platform)

/-! ## Writes of an active browser -/

/-- `requireActiveWriter`: the state that writes. -/
def activeWriter : Manage BrowserCanonicalState := do
  let this ← self
  match this.state with
  | none => throw (.error "Canonical writes require an active Trusted Browser")
  | some state =>
    if this.ownership ≠ .active then
      throw (.error "Canonical writes require an active Trusted Browser")
    else do
      let _ ← CanonicalDeviceManagement.requireActiveWriter state this.hello
      pure state

/-- Stage a transaction, make its requests and find out what became of it. -/
def transact (pending : BrowserPendingTransaction) (requests : Manage Unit) : Manage Unit := do
  journalStage pending
  let operation ← requests.outcome
  resolvePendingOperation pending operation

/-- `mutateVault`. -/
def mutateVault (nonce : List UInt8) (mutator : VaultPlaintext → Except Thrown VaultPlaintext)
    (requireFormat2 : Bool) : Manage Unit := do
  refreshHelloAndBrowserState
  let state ← activeWriter
  let this ← self
  let candidate ← CanonicalDeviceManagement.mutateVault platform nonce this.hello mutator
    requireFormat2 state
  transact ⟨.vaultUpdate, state.vault.generation, candidate⟩ do
    let _ ← encryptedVaultParams candidate.vault
    request (.update state.vault.generation candidate.vault)

open CanonicalDeviceManagement (RekeyDraw) in
/-- `rotateVmk`. -/
def rotateVmk (draw : RekeyDraw) (recoveryPassphrase : JsString) : Manage Unit := do
  let _ ← require (decide (recoveryPassphrase.length ≠ 0))
    "VMK re-key requires the Recovery Passphrase"
  refreshHelloAndBrowserState
  let state ← activeWriter
  let this ← self
  let candidate ← CanonicalDeviceManagement.rotateVmk platform draw this.hello recoveryPassphrase
    state
  transact ⟨.vmkRekey, state.vault.generation, candidate⟩ do
    request (.deliver (unlockDelivery .vmkRekey this.hello.deviceId state draw.vmk.1))
    let _ ← encryptedVaultParams candidate.vault
    request (.rekey state.vault.generation candidate.vault)

/-! ## Provisioning -/

/-- The session that registers a candidate on a Device without a Vault. -/
def provisionDelivery (operation : Session.Operation) (deviceId : JsString)
    (expectedGeneration registrationEpoch : Nat) (candidate : BrowserCanonicalState)
    (vmk : List UInt8) : SessionDelivery where
  operation := operation
  deviceId := deviceId
  vaultId := candidate.vault.vaultId
  expectedGeneration := expectedGeneration
  registrationId := candidate.trustedBrowser.registrationId
  registrationEpoch := registrationEpoch
  currentBrkPublicKey := absentBrkIdentity
  proposedBrkPublicKey := candidate.trustedBrowser.brkPublicKeyRaw
  vmk := vmk

open CanonicalDeviceManagement (ProvisionDraw ImportedCredential) in
/-- `initialProvision`. -/
def initialProvision (draw : ProvisionDraw) (imported : List ImportedCredential)
    (passphrase : JsString) : Manage Unit := do
  let hello ← helloAgain
  reconcilePendingForHello hello
  let candidate ← CanonicalDeviceManagement.initialProvision platform draw hello imported passphrase
  transact ⟨.initialProvisioning, 0, candidate⟩ do
    request (.deliver (provisionDelivery .initialProvisioning hello.deviceId 0 0 candidate
      draw.vmk.1))
    let _ ← encryptedVaultParams candidate.vault
    request (.install candidate.vault)

/-- `cleanRecoveryCandidates`. -/
def cleanRecoveryCandidates : Manage (List BrowserCanonicalState) := do
  let states ← vaultList
  pure (states.filter (·.trustedBrowser.status == .replacementPending))

/-- `recoverImportedVaultToCleanDevice`. -/
def recoverImportedVaultToCleanDevice (draw : RegistrationDraw) : Manage Unit := do
  refreshHelloAndBrowserState
  let this ← self
  let hello := this.hello
  let _ ← require hello.clean "Recovery provisioning requires a clean unprovisioned Device"
  match ← cleanRecoveryCandidates with
  | [] => throw (.error
      "Import a Recovery Package before provisioning a replacement Device")
  | [state] => do
    let _ ← require (state.vault.vaultFormatVersion == .legacy || deviceCanWriteFormat2 hello)
      ("This Recovery Package contains Vault Format 2, but the connected Device does not " ++
        "advertise Format 2 support")
    match ← journalGet state.vault.vaultId with
    | some _ => throw pendingTransaction
    | none => do
      let vmk ← unwrapVmkForTrustedBrowser platform state
      let candidate ← createBrowserCanonicalState platform draw state.vault
        state.recoveryWrappedVmk vmk 1 .active (some ⟨hello.deviceId⟩)
      transact ⟨.recoveryProvisioning, state.vault.generation, candidate⟩ do
        request (.deliver (provisionDelivery .recovery hello.deviceId state.vault.generation 1
          candidate vmk))
        let _ ← encryptedVaultParams state.vault
        request (.install state.vault)
  | _ => throw (.error ("Multiple Recovery Package candidates are pending; keep exactly one " ++
      "replacement-pending Vault before provisioning"))

/-! ## Factory reset -/

/-- What a round of a loop that waits for a confirmation sees: whether the signal was aborted, and
whether the response came too late or after an abort. -/
structure Poll where
  aborted : Bool
  late : Bool
  abortedAfter : Bool

/-- `FactoryResetCancelledError`. -/
def factoryResetCancelled : Thrown :=
  .error "Factory Reset canceled. Device and browser canonical state were not cleared."

/-- `FactoryResetExpiredError`. -/
def factoryResetExpired : Thrown :=
  .error ("Factory Reset confirmation expired. Device and browser canonical state were not " ++
    "cleared.")

/-- The rounds of `factoryReset` before the deadline, up to a confirmation. -/
def awaitReset (attemptId : List UInt8) : List Poll → Manage Unit
  | [] => throw factoryResetExpired
  | poll :: polls =>
    if poll.aborted then throw factoryResetCancelled
    else do
      let confirmed ← request (.resetStatus attemptId)
      if !confirmed then awaitReset attemptId polls
      else if poll.late then throw factoryResetExpired
      else if poll.abortedAfter then throw factoryResetCancelled
      else pure ()

/-- What `factoryReset` stages before it commits. -/
def stageReset (deviceId : JsString) (state : BrowserCanonicalState) : Manage Unit := do
  resetStage ⟨deviceId, [⟨state.vault.vaultId, state.vault.generation⟩]⟩
  tryCatch (journalStage ⟨.factoryReset, state.vault.generation, state⟩) fun error => do
    resetDelete deviceId
    throw error

/-- `bestEffortCancelFactoryReset`. -/
def bestEffortCancelFactoryReset (attemptId : List UInt8) : Manage Unit :=
  tryCatch (request (.resetCancel attemptId)) fun _ => pure ()

/-- `resolveFactoryReset`, after what the commit ended with. -/
def resolveFactoryReset (deviceId : JsString) (operation : Except Thrown Unit) : Manage Unit := do
  tryCatch refreshHelloAndBrowserState fun error => do
    match ← resetGet deviceId with
    | none => throw error
    | some _ => do
      assign fun this => { this with unlockRequired := false }
      conflict ("Factory Reset outcome is not yet provable. The durable reset intent is " ++
        "retained; reconnect to reconcile before any further write.")
  match ← resetGet deviceId with
  | some _ => throw pendingTransaction
  | none => do
    let this ← self
    if this.hello.clean then
      assign fun this => { this with state := none, ownership := .none, unlockRequired := false }
    else
      match operation with
      | .error _ => throw (.error ("Factory Reset did not complete. The original Device/browser " ++
          "binding remains active; no browser canonical state was cleared."))
      | .ok _ => throw (.error "Device did not enter UNPROVISIONED after Factory Reset")

/-- `factoryReset`, with the rounds that its deadline allows. -/
def factoryReset (abortedFirst : Bool) (polls : List Poll) : Manage Unit := do
  refreshHelloAndBrowserState
  let state ← activeWriter
  let this ← self
  let deviceId := this.hello.deviceId
  let _ ← require this.hello.factoryResetPresenceRequired
    ("Secure Factory Reset requires updated firmware with fresh M5StickS3 confirmation. Update " ++
      "firmware before resetting; this Web app will not use the legacy one-shot reset.")
  if abortedFirst then throw factoryResetCancelled
  else do
    let attemptId ← request .resetBegin
    tryCatch
      (do
        awaitReset attemptId polls
        stageReset deviceId state)
      fun error => do
        bestEffortCancelFactoryReset attemptId
        throw error
    let operation ← (request (.resetCommit attemptId)).outcome
    resolveFactoryReset deviceId operation

/-! ## Recovery reset -/

/-- `affected.set`: an entry keeps its place in the map. -/
def setAffected (affected : List BrowserResetAffectedVault) (entry : BrowserResetAffectedVault) :
    List BrowserResetAffectedVault :=
  if affected.any fun other => displayVaultId other.vaultId == displayVaultId entry.vaultId then
    affected.map fun other =>
      if displayVaultId other.vaultId == displayVaultId entry.vaultId then entry else other
  else affected ++ [entry]

/-- The Vault of a state, as a reset intent names it. -/
def affectedVault (state : BrowserCanonicalState) : BrowserResetAffectedVault :=
  ⟨state.vault.vaultId, state.vault.generation⟩

/-- The map that `buildResetIntent` fills: the Vault that the Device reports, the Vaults that the
browser stores for the Device, and the candidates in the journal. -/
def affectedVaults (hello : CanonicalHelloData) (states : List BrowserCanonicalState)
    (pending : List BrowserPendingTransaction) : List BrowserResetAffectedVault :=
  let reported := match hello.vaultId with
    | some vaultId =>
      if hello.vaultPresent && decide (0 < hello.generation) then [⟨vaultId, hello.generation⟩]
      else []
    | none => []
  let stored := (states.filter (·.belongsTo hello.deviceId)).map affectedVault
  let staged := pending.map fun transaction => affectedVault transaction.candidate
  staged.foldl setAffected (stored.foldl setAffected reported)

/-- `buildResetIntent`. -/
def buildResetIntent (hello : CanonicalHelloData) : Manage BrowserResetIntent := do
  let states ← vaultList
  let pending ← journalListForDevice hello.deviceId
  pure ⟨hello.deviceId, affectedVaults hello states pending⟩

/-- The body of the loop of `cleanupFromResetIntent`, with the states that it read before. -/
def cleanupAffected (states : List BrowserCanonicalState) (affected : BrowserResetAffectedVault) :
    Manage Unit := do
  match states.find? fun state =>
      displayVaultId state.vault.vaultId == displayVaultId affected.vaultId with
  | none => pure ()
  | some current =>
    if current.vault.generation ≠ affected.generation then
      throw (.error "Browser canonical state changed while Recovery Factory Reset was pending")
    else vaultDelete affected.vaultId (some affected.generation)
  journalDelete affected.vaultId

/-- `cleanupFromResetIntent`. -/
def cleanupFromResetIntent (deviceId : JsString) : Manage Unit := do
  match ← resetGet deviceId with
  | none => throw (.error "Recovery Factory Reset is missing its durable browser reset intent")
  | some intent => do
    let states ← vaultList
    Prog.each (cleanupAffected states) intent.affectedVaults
    resetDelete intent.deviceId

/-- `refresh` of the recovery reset. -/
def refreshRecovery (deviceId : JsString) : Manage CanonicalHelloData := do
  let next ← request .hello
  let _ ← require (next.deviceId == deviceId)
    "Connected Device identity changed during Recovery Factory Reset"
  pure next

/-- The intent of a recovery reset, if there is none yet. -/
def stageRecoveryIntent (hello : CanonicalHelloData) : Manage Unit := do
  match ← resetGet hello.deviceId with
  | some _ => pure ()
  | none => do
    let intent ← buildResetIntent hello
    resetStage intent

/-- `complete` of the recovery reset. -/
def completeRecoveryReset (hello : CanonicalHelloData) (attemptId : List UInt8) :
    Manage Unit := do
  stageRecoveryIntent hello
  let operation ← (request (.recoveryComplete attemptId)).outcome
  let next ← tryCatch (refreshRecovery hello.deviceId) fun _ => throw (.error
    ("Recovery Factory Reset outcome is not yet provable. The durable reset intent is retained; " ++
      "reconnect this Device to reconcile before further canonical writes."))
  if next.recoveryResetRequired || !next.clean then
    match operation with
    | .error _ => throw (.error ("Recovery Factory Reset did not produce a provably clean " ++
        "Device. The durable reset intent is retained for fail-closed reconciliation."))
    | .ok _ => throw (.error ("Device did not return to canonical unprovisioned state after " ++
        "Recovery Factory Reset"))
  else cleanupFromResetIntent hello.deviceId

/-- The rounds of `perform` before the deadline, up to a confirmation. -/
def awaitRecovery (attemptId : List UInt8) : Nat → Manage Unit
  | 0 => throw (.error "Recovery Factory Reset confirmation expired")
  | polls + 1 => do
    let confirmed ← request (.recoveryStatus attemptId)
    if !confirmed then awaitRecovery attemptId polls else pure ()

/-- `perform` of the recovery reset, with the rounds that its deadline allows. -/
def performRecoveryReset (polls : Nat) : Manage Unit := do
  let this ← self
  let hello ← refreshRecovery this.hello.deviceId
  let _ ← require hello.recoveryResetRequired "Recovery Factory Reset is no longer required"
  let attemptId ← request .recoveryBegin
  awaitRecovery attemptId polls
  completeRecoveryReset hello attemptId

/-- What connects a Device that requires a recovery reset. -/
def connectRecovery : Manage Unit := do
  let hello ← request .hello
  let _ ← require hello.recoveryResetRequired
    "Recovery Factory Reset is not available for this Device state"
  assign fun _ => { hello }

/-! ## The security panel -/

/-- `assertNoPendingSecurityMutation`. -/
def assertNoPendingSecurityMutation (state : BrowserCanonicalState) : Manage Unit := do
  match ← journalGet state.vault.vaultId with
  | some _ => throw (.error ("Recovery export and Passphrase mutation are blocked until the " ++
      "pending Device outcome is reconciled."))
  | none => do
    let intents ← resetList
    let _ ← require (!intents.any fun intent => state.belongsTo intent.deviceId ||
        intent.affectedVaults.any fun affected => sameBytes affected.vaultId state.vault.vaultId)
      ("Recovery export and Passphrase mutation are blocked until the pending Device reset " ++
        "outcome is reconciled.")
    pure ()

/-- The state that the panel works on. -/
def latestState (vaultId : List UInt8) (missing blocked : String) :
    Manage BrowserCanonicalState := do
  match ← vaultGet vaultId with
  | none => throw (.error missing)
  | some latest => do
    assertNoPendingSecurityMutation latest
    let _ ← require (latest.trustedBrowser.status == .active) blocked
    pure latest

/-- The export of a Recovery Package. -/
def exportPackage (vaultId : List UInt8) : Manage JsString := do
  let latest ← latestState vaultId
    "Canonical Vault state changed before Recovery Package export; refresh and retry"
    ("Recovery Package export is blocked until Device replacement is confirmed and this browser " ++
      "becomes active")
  exportRecoveryPackage latest

/-- The import of a Recovery Package. -/
def importPackage (draw : RegistrationDraw) (serialized passphrase : JsString) : Manage Unit := do
  let _ ← require (decide (passphrase.length ≠ 0)) "Enter the Recovery Passphrase"
  let imported ← importRecoveryPackage platform draw serialized passphrase
  match ← vaultGet imported.vault.vaultId with
  | some _ => throw (.error ("This browser already has canonical state for that Vault. Import " ++
      "will not overwrite an active or pending Trusted Browser implicitly."))
  | none => do
    assertNoPendingSecurityMutation imported
    vaultPut imported none

/-- The change of the Recovery Passphrase. -/
def changePassphrase (vaultId salt nonce : List UInt8)
    (currentPassphrase newPassphrase confirmPassphrase : JsString) : Manage Unit := do
  let _ ← require (newPassphrase == confirmPassphrase) "New Passphrase confirmation does not match"
  let latest ← latestState vaultId
    "Canonical Vault state changed before Passphrase update; refresh and retry"
    "Recovery Passphrase changes are blocked while Device replacement is pending"
  let updated ← changeRecoveryPassphrase platform salt nonce latest currentPassphrase newPassphrase
  vaultPut updated (some latest.vault.generation)

end Manage

end M5Auth.Web
