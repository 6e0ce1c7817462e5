import M5Auth.Lib.CrashProgram
import M5Auth.Web.BrowserStores
import M5Auth.Web.SessionProtocol

/-!
# The management of a Device

`CanonicalDeviceManagement` of `canonical-management.ts`, as programs over the transactions of the
browser's stores and the requests to the Device: a program may stop before any of them. A session
that delivers a key counts as one request here. What a call draws at random, and what it sees of
the clock, are arguments.
-/

namespace M5Auth.Web

open CrashProgram

/-! ## Calls -/

/-- `CanonicalDeviceSnapshot["browserOwnership"]`. -/
inductive BrowserOwnership where
  | none | active | replacementPending | conflict
  deriving DecidableEq

def TrustedBrowserStatus.ownership : TrustedBrowserStatus → BrowserOwnership
  | .active => .active
  | .replacementPending => .replacementPending

/-- The fields of `CanonicalDeviceManagement`. -/
structure Management where
  hello : CanonicalHelloData
  state : Option BrowserCanonicalState := none
  ownership : BrowserOwnership := .none
  unlockRequired : Bool := false

/-- `SessionV2DeliveryInput`. -/
structure SessionDelivery where
  operation : Session.Operation
  deviceId : JsString
  vaultId : List UInt8
  expectedGeneration : Nat
  registrationId : List UInt8
  registrationEpoch : Nat
  currentBrkPublicKey : List UInt8
  proposedBrkPublicKey : List UInt8
  brkPrivateKey : Option CryptoKey := none
  vmk : List UInt8

/-- A request, with what it carries. `deliver` are the requests of one session. -/
inductive DeviceRequest where
  | hello
  | deliver (delivery : SessionDelivery)
  | install (vault : EncryptedVaultEnvelope)
  | update (expectedGeneration : Nat) (vault : EncryptedVaultEnvelope)
  | rekey (expectedGeneration : Nat) (vault : EncryptedVaultEnvelope)
  | lock
  | resetBegin
  | resetStatus (attemptId : List UInt8)
  | resetCancel (attemptId : List UInt8)
  | resetCommit (attemptId : List UInt8)
  | recoveryBegin
  | recoveryStatus (attemptId : List UInt8)
  | recoveryComplete (attemptId : List UInt8)

/-- What the response of a request is parsed to: a reset attempt, or whether it is confirmed. -/
def DeviceRequest.Result : DeviceRequest → Type
  | hello => CanonicalHelloData
  | resetBegin | recoveryBegin => List UInt8
  | resetStatus _ | recoveryStatus _ => Bool
  | _ => Unit

/-- A step of a program: `self` reads the fields, and `assign` changes them. -/
inductive ManagementCall where
  | self
  | assign (change : Management → Management)
  | store (call : StoreCall)
  | request (request : DeviceRequest)

def ManagementCall.Result : ManagementCall → Type
  | self => Management
  | assign _ => Unit
  | store call => call.Result
  | request r => r.Result

abbrev Manage (α : Type) : Type := Prog ManagementCall ManagementCall.Result Thrown α

/-! ## What a `hello` says -/

/-- `exactBindingMatches`. -/
def exactBindingMatches (state : BrowserCanonicalState) (hello : CanonicalHelloData) : Bool :=
  (assertActiveDeviceBinding state hello).isOk

/-- The Device is clean: without Vault, without registration, unprovisioned. -/
def CanonicalHelloData.clean (hello : CanonicalHelloData) : Bool :=
  !hello.vaultPresent && !hello.registrationPresent && hello.state == literal "unprovisioned"

namespace Manage

/-! ## Single calls -/

def self : Manage Management := .perform ManagementCall.self

def assign (change : Management → Management) : Manage Unit :=
  .perform (ManagementCall.assign change)

def store (call : StoreCall) : Manage call.Result := .perform (ManagementCall.store call)

def request (r : DeviceRequest) : Manage r.Result := .perform (ManagementCall.request r)

def vaultGet (vaultId : List UInt8) : Manage (Option BrowserCanonicalState) :=
  store (.vaultGet vaultId)
def vaultList : Manage (List BrowserCanonicalState) := store .vaultList
def vaultPut (state : BrowserCanonicalState) (expectedGeneration : Option Nat) : Manage Unit :=
  store (.vaultPut state expectedGeneration)
def vaultDelete (vaultId : List UInt8) (expectedGeneration : Option Nat) : Manage Unit :=
  store (.vaultDelete vaultId expectedGeneration)

def journalGet (vaultId : List UInt8) : Manage (Option BrowserPendingTransaction) :=
  store (.journalGet vaultId)
def journalListForDevice (deviceId : JsString) : Manage (List BrowserPendingTransaction) :=
  store (.journalListForDevice deviceId)
def journalStage (value : BrowserPendingTransaction) : Manage Unit :=
  store (.journalStage value)
def journalDelete (vaultId : List UInt8) : Manage Unit :=
  store (.journalDelete vaultId)

def resetGet (deviceId : JsString) : Manage (Option BrowserResetIntent) :=
  store (.resetGet deviceId)
def resetList : Manage (List BrowserResetIntent) := store .resetList
def resetStage (value : BrowserResetIntent) : Manage Unit := store (.resetStage value)
def resetDelete (deviceId : JsString) : Manage Unit := store (.resetDelete deviceId)

/-- `this.ownership = "conflict"`, before an exception. -/
def conflict {α : Type} (message : String) : Manage α := do
  assign fun this => { this with ownership := .conflict }
  throw (.error message)

/-! ## Reconciliation -/

/-- Delete the record of a Vault that a reset destroyed, if there is one. -/
def deleteReset (vaultId : List UInt8) (generation : Nat) (message : String) : Manage Unit := do
  match ← vaultGet vaultId with
  | none => pure ()
  | some current =>
    if current.vault.generation ≠ generation then conflict message
    else vaultDelete vaultId (some generation)

/-- The body of the loop of `reconcileResetIntentForHello`. -/
def cleanAffected (affected : BrowserResetAffectedVault) : Manage Unit := do
  deleteReset affected.vaultId affected.generation
    "Browser canonical state changed while Device reset was pending"
  journalDelete affected.vaultId

/-- Its end where the outcome of the reset is not known. -/
def resetUnprovable : Manage Unit :=
  conflict ("A Device reset outcome is not yet provable. Canonical writes remain blocked until " ++
    "the durable reset intent reconciles.")

/-- `reconcileResetIntentForHello`. -/
def reconcileResetIntentForHello (hello : CanonicalHelloData) : Manage Unit := do
  match ← resetGet hello.deviceId with
  | none => pure ()
  | some intent =>
    if hello.clean then do
      Prog.each cleanAffected intent.affectedVaults
      resetDelete intent.deviceId
    else
      match intent.affectedVaults with
      | [affected] => do
        let current ← vaultGet affected.vaultId
        if current.any fun current => current.vault.generation == affected.generation &&
            exactBindingMatches current hello then resetDelete intent.deviceId
        else resetUnprovable
      | _ => resetUnprovable

/-- An entry of the journal on a Device without a Vault. -/
def reconcileClean (pending : BrowserPendingTransaction) : Manage Unit :=
  match pending.kind with
  | .factoryReset => do
    deleteReset pending.candidate.vault.vaultId pending.expectedGeneration
      "Browser state changed while Factory Reset was pending"
    journalDelete pending.candidate.vault.vaultId
  | .initialProvisioning =>
    if pending.expectedGeneration = 0 then journalDelete pending.candidate.vault.vaultId
    else pure ()
  | .recoveryProvisioning => journalDelete pending.candidate.vault.vaultId
  | _ => pure ()

/-- Store a candidate that the Device has committed. -/
def promote (pending : BrowserPendingTransaction) (current : Option BrowserCanonicalState)
    (hello : CanonicalHelloData) : Manage Unit :=
  match current with
  | none =>
    if pending.expectedGeneration ≠ 0 then
      throw (.error "Committed browser state disappeared while a transaction was pending")
    else vaultPut pending.candidate none
  | some current =>
    if current.vault.generation = pending.expectedGeneration then
      vaultPut pending.candidate (some pending.expectedGeneration)
    else if current.vault.generation = pending.candidate.vault.generation then
      if exactBindingMatches current hello then pure ()
      else throw (.error
        "Committed browser state does not match the Device after pending promotion")
    else throw (.error "Browser transaction generations cannot be reconciled")

/-- The journal's entry of the Device's Vault. -/
def reconcileVault (hello : CanonicalHelloData) (vaultId : List UInt8) : Manage Unit := do
  match ← journalGet vaultId with
  | none => pure ()
  | some pending =>
    let candidate := pending.candidate
    if !candidate.belongsTo hello.deviceId || !sameBytes candidate.vault.vaultId vaultId then
      conflict "Pending browser transaction belongs to a different Device/Vault"
    else do
      let current ← vaultGet vaultId
      if pending.kind = .factoryReset then
        if current.any fun current => exactBindingMatches candidate hello &&
            exactBindingMatches current hello then journalDelete candidate.vault.vaultId
        else conflict "Pending Factory Reset cannot be reconciled with the connected Device"
      else if exactBindingMatches candidate hello then do
        promote pending current hello
        journalDelete candidate.vault.vaultId
      else if pending.kind ≠ .initialProvisioning ∧ pending.kind ≠ .recoveryProvisioning ∧
          hello.generation = pending.expectedGeneration ∧
          current.any (exactBindingMatches · hello) then journalDelete candidate.vault.vaultId
      else
        conflict "Pending canonical transaction cannot be reconciled with the connected Device"

/-- `reconcilePendingForHello`. -/
def reconcilePendingForHello (hello : CanonicalHelloData) : Manage Unit := do
  reconcileResetIntentForHello hello
  match (if hello.vaultPresent then hello.vaultId else none) with
  | some vaultId => reconcileVault hello vaultId
  | none =>
    if hello.state == literal "unprovisioned" && !hello.registrationPresent then do
      let pendingForDevice ← journalListForDevice hello.deviceId
      Prog.each reconcileClean pendingForDevice
    else pure ()

/-- `reloadBrowserState`. -/
def reloadBrowserState (hello : CanonicalHelloData) : Manage Unit := do
  match (if hello.vaultPresent then hello.vaultId else none) with
  | none => assign fun this => { this with state := none, ownership := .none }
  | some vaultId =>
    match ← vaultGet vaultId with
    | none => assign fun this => { this with state := none, ownership := .conflict }
    | some state =>
      if !state.belongsTo hello.deviceId then
        assign fun this => { this with state := none, ownership := .conflict }
      else
        assign fun this =>
          { this with state := some state, ownership := state.trustedBrowser.status.ownership }

/-- `this.hello = parseCanonicalHelloData(…)`. -/
def helloAgain : Manage CanonicalHelloData := do
  let hello ← request .hello
  assign fun this => { this with hello }
  pure hello

/-- `refreshHelloAndBrowserState`. -/
def refreshHelloAndBrowserState : Manage Unit := do
  let hello ← helloAgain
  reconcilePendingForHello hello
  reloadBrowserState hello

/-- `resolvePendingOperation`, after what the requests of the operation ended with. -/
def resolvePendingOperation (pending : BrowserPendingTransaction)
    (operation : Except Thrown Unit) : Manage Unit := do
  tryCatch refreshHelloAndBrowserState fun error => do
    match ← journalGet pending.candidate.vault.vaultId with
    | none => throw error
    | some _ => do
      assign fun this => { this with unlockRequired := false }
      conflict ("Device outcome is not yet provable. The encrypted candidate remains durably " ++
        "journaled; reconnect to reconcile before any further write.")
  match ← journalGet pending.candidate.vault.vaultId with
  | some _ => do
    assign fun this => { this with ownership := .conflict }
    throw pendingTransaction
  | none => do
    let this ← self
    if this.state.any fun state =>
        state.vault.generation == pending.candidate.vault.generation &&
          exactBindingMatches state this.hello then
      assign fun this =>
        { this with ownership := .active, unlockRequired := this.hello.state == literal "locked" }
    else
      match operation with
      | .error error => throw error
      | .ok _ => throw (.error "Device did not commit the staged canonical transaction")

/-! ## Connection and unlock -/

/-- `absentBrkIdentity`. -/
def absentBrkIdentity : List UInt8 := List.replicate 65 0

/-- The session that delivers the key of a state under its own registration. -/
def unlockDelivery (operation : Session.Operation) (deviceId : JsString)
    (state : BrowserCanonicalState) (vmk : List UInt8) : SessionDelivery where
  operation := operation
  deviceId := deviceId
  vaultId := state.vault.vaultId
  expectedGeneration := state.vault.generation
  registrationId := state.trustedBrowser.registrationId
  registrationEpoch := state.trustedBrowser.epoch
  currentBrkPublicKey := state.trustedBrowser.brkPublicKeyRaw
  proposedBrkPublicKey := absentBrkIdentity
  brkPrivateKey := some state.trustedBrowser.brkPrivateKey
  vmk := vmk

variable (platform : Platform)

/-- `quickUnlock`, of a state that matched `hello` before. -/
def quickUnlock (hello : CanonicalHelloData) (state : BrowserCanonicalState) : Manage Unit := do
  let _ ← assertActiveDeviceBinding state hello
  let vmk ← unwrapVmkForTrustedBrowser platform state
  request (.deliver (unlockDelivery .trustedBrowserUnlock hello.deviceId state vmk))
  let hello ← helloAgain
  let _ ← assertActiveDeviceBinding state hello
  let _ ← require (hello.state == literal "unlocked")
    "Device did not enter UNLOCKED after Trusted Browser approval"
  pure ()

/-- The end of `completePendingReplacement`: the state is stored as the active one. -/
def storeActivated (activated : BrowserCanonicalState) (unlockRequired : Bool) : Manage Unit := do
  vaultPut activated (some activated.vault.generation)
  assign fun this => { this with state := some activated, ownership := .active, unlockRequired }

/-- The session that replaces the registration of the Device by the state's. -/
def replacementDelivery (hello : CanonicalHelloData) (brkPublicKey : List UInt8)
    (state : BrowserCanonicalState) (vmk : List UInt8) : SessionDelivery :=
  { unlockDelivery .browserReplacement hello.deviceId state vmk with
    currentBrkPublicKey := brkPublicKey
    proposedBrkPublicKey := state.trustedBrowser.brkPublicKeyRaw
    brkPrivateKey := none }

/-- `completePendingReplacement`, of a state that is replacement-pending. -/
def completePendingReplacement (hello : CanonicalHelloData) (state : BrowserCanonicalState) :
    Manage Unit :=
  match hello.vaultId, hello.registrationId, hello.brkPublicKey with
  | some vaultId, some registrationId, some brkPublicKey =>
    if !(hello.vaultPresent && hello.registrationPresent) then
      conflict "Recovery replacement requires an existing canonical Device registration"
    else do
      let _ ← assertCanonicalGeneration state vaultId hello.generation hello.vaultFormat
      if state.belongsTo hello.deviceId && registrationMatches state.trustedBrowser registrationId
          hello.registrationEpoch brkPublicKey then do
        let activated ← sanitizeBrowserCanonicalState state.activated
        storeActivated activated (hello.state == literal "locked")
      else if state.trustedBrowser.epoch != hello.registrationEpoch + 1 ||
          sameBytes state.trustedBrowser.registrationId registrationId ||
          sameBytes state.trustedBrowser.brkPublicKeyRaw brkPublicKey then
        conflict "Recovery replacement registration does not advance the Device epoch"
      else do
        let vmk ← unwrapVmkForTrustedBrowser platform state
        request (.deliver (replacementDelivery hello brkPublicKey state vmk))
        let confirmed ← helloAgain
        let activated ← sanitizeBrowserCanonicalState
          { state.activated with deviceMetadata := some ⟨confirmed.deviceId⟩ }
        let _ ← assertActiveDeviceBinding activated confirmed
        let _ ← require (confirmed.state == literal "unlocked")
          "Device did not unlock after Browser replacement"
        storeActivated activated false
  | _, _, _ => conflict "Recovery replacement requires an existing canonical Device registration"

/-- `initialize`, of a management that was made with `hello`. -/
def initializeManagement (hello : CanonicalHelloData) : Manage Unit := do
  reconcilePendingForHello hello
  reloadBrowserState hello
  let this ← self
  if !hello.vaultPresent then
    assign fun this => { this with ownership := .none, unlockRequired := false }
  else
    match this.state with
    | none => assign fun this => { this with ownership := .conflict, unlockRequired := false }
    | some state =>
      if state.trustedBrowser.status = .replacementPending then
        completePendingReplacement platform hello state
      else if !exactBindingMatches state hello then do
        assign fun this => { this with unlockRequired := false }
        conflict ("Trusted Browser registration does not match the Device; use Recovery Package " ++
          "replacement")
      else if hello.state == literal "locked" then
        assign fun this => { this with ownership := .active, unlockRequired := true }
      else if hello.state == literal "unlocked" then
        assign fun this => { this with ownership := .active, unlockRequired := false }
      else do
        assign fun this => { this with unlockRequired := false }
        conflict "Device is not available for Trusted Browser unlock"

/-- What connects a Device: its `hello`, a management made with it, and `initialize`. -/
def connect : Manage Unit := do
  let hello ← request .hello
  assign fun _ => { hello }
  initializeManagement platform hello

/-- `requestUnlock`. -/
def requestUnlock : Manage Unit := do
  refreshHelloAndBrowserState
  let this ← self
  match this.state with
  | none => throw (.error "Active Trusted Browser state is required for unlock")
  | some state =>
    if state.trustedBrowser.status ≠ .active ∨ this.ownership ≠ .active then
      throw (.error "Active Trusted Browser state is required for unlock")
    else do
      let _ ← assertActiveDeviceBinding state this.hello
      if this.hello.state == literal "unlocked" then
        assign fun this => { this with unlockRequired := false }
      else do
        let _ ← require (this.hello.state == literal "locked") "Device is not available for unlock"
        tryCatch
          (do
            quickUnlock platform this.hello state
            assign fun this => { this with unlockRequired := false })
          fun error => do
            assign fun this => { this with ownership := .active, unlockRequired := true }
            throw error

end Manage

end M5Auth.Web
