import M5Auth.Web.BrowserVault
import M5Auth.Web.VaultMutation

/-!
# The browser's state over its life

The calls of `CanonicalDeviceManagement` that make a new browser state: each returns the state that
is staged for the Device or stored. `Held` are the states that the browser stores over its life,
with the Passphrase that was chosen last; a store of an advanced Vault goes through
`mergeVaultAdvanceWithCurrentBrowserState`.
-/

namespace M5Auth.Web

/-- A `hello` that the application accepted. The epoch of a Device is a `std::uint32_t`. -/
structure DeviceHello where
  data : JsonValue
  value : CanonicalHelloData
  accepted : parseCanonicalHelloData data = .ok value
  epoch_u32 : value.registrationEpoch ≤ 0xffffffff

/-- `deviceSupportsVaultFormat` for format 2. -/
def deviceCanWriteFormat2 (hello : CanonicalHelloData) : Bool :=
  hello.supportedVaultFormats.contains (.integer VaultFormatVersion.current.number)

/-- `initialVaultFormat`. -/
def initialVaultFormat (hello : CanonicalHelloData) : VaultFormatVersion :=
  if deviceCanWriteFormat2 hello then .current else .legacy

/-- `registrationMatches`. -/
def registrationMatches (registration : TrustedBrowserRegistration) (registrationId : List UInt8)
    (epoch : Nat) (brkPublicKey : List UInt8) : Bool :=
  registration.epoch == epoch && sameBytes registration.registrationId registrationId &&
    sameBytes registration.brkPublicKeyRaw brkPublicKey

/-- `assertCanonicalGeneration`. -/
def assertCanonicalGeneration (state : BrowserCanonicalState) (vaultId : List UInt8)
    (generation : Nat) (version : VaultFormatVersion) : Except Thrown Unit :=
  require (sameBytes state.vault.vaultId vaultId && state.vault.generation == generation &&
    state.vault.vaultFormatVersion == version)
    ("Canonical Vault generation conflict; recovery or explicit conflict resolution is " ++
      "required")

/-- The device that a state belongs to. -/
def BrowserCanonicalState.belongsTo (state : BrowserCanonicalState) (deviceId : JsString) : Bool :=
  state.deviceMetadata.map (·.deviceId) == some deviceId

/-- A state as the active one. -/
def BrowserCanonicalState.activated (state : BrowserCanonicalState) : BrowserCanonicalState :=
  { state with trustedBrowser := { state.trustedBrowser with status := .active } }

/-- `assertActiveDeviceBinding`. -/
def assertActiveDeviceBinding (state : BrowserCanonicalState) (hello : CanonicalHelloData) :
    Except Thrown Unit :=
  match hello.vaultId, hello.registrationId, hello.brkPublicKey with
  | some vaultId, some registrationId, some brkPublicKey => do
    require (hello.vaultPresent && hello.registrationPresent)
      "Device is not canonically provisioned"
    require (state.belongsTo hello.deviceId) "Browser Vault belongs to a different Device ID"
    assertCanonicalGeneration state vaultId hello.generation hello.vaultFormat
    require (registrationMatches state.trustedBrowser registrationId hello.registrationEpoch
      brkPublicKey)
      ("Trusted Browser registration no longer matches the Device; explicit recovery is " ++
        "required")
  | _, _, _ => .error (.error "Device is not canonically provisioned")

namespace CanonicalDeviceManagement

/-! ## New states -/

structure ImportedCredential where
  secret : List UInt8
  issuer : JsString
  account : JsString

/-- What `initialProvision` draws. `credentialId` gives the identifiers in the accounts' order. -/
structure ProvisionDraw where
  vmk : Bytes 32
  vaultId : Bytes 16
  credentialId : Nat → Bytes 16
  vaultNonce : Bytes 12
  salt : Bytes 32
  wrapNonce : Bytes 12
  registration : RegistrationDraw

/-- The plaintext of `initialProvision`. -/
def provisionPlaintext (draw : ProvisionDraw) (imported : List ImportedCredential) :
    VaultPlaintext where
  credentials := imported.mapIdx fun order account =>
    { credentialId := (draw.credentialId order).1, secret := account.secret
      issuer := account.issuer, account := account.account, displayName := []
      digits := .integer 6, periodSeconds := .integer 30, manualOrder := .integer order }
  wifi := none
  autoLockDays := none

/-- `initialProvision`. -/
def initialProvision (platform : Platform) (draw : ProvisionDraw) (hello : CanonicalHelloData)
    (imported : List ImportedCredential) (passphrase : JsString) :
    Except Thrown BrowserCanonicalState := do
  require (!(hello.vaultPresent || hello.registrationPresent))
    "Initial provisioning requires an unprovisioned Device"
  require (decide (imported.length ≠ 0) && decide (imported.length ≤ maxVaultCredentials))
    "Initial provisioning requires 1 to 32 accounts"
  let format := initialVaultFormat hello
  let encoded ← encodeVaultPlaintext (provisionPlaintext draw imported) format
  let vault ← encryptVaultForFormat platform.toAesGcm draw.vaultNonce.1 encoded draw.vmk.1
    draw.vaultId.1 1 format
  let recoveryWrappedVmk ← wrapVmkWithPassphraseForFormat platform draw.salt.1 draw.wrapNonce.1
    draw.vmk.1 draw.vaultId.1 passphrase format
  createBrowserCanonicalState platform draw.registration vault recoveryWrappedVmk draw.vmk.1 1
    .active (some ⟨hello.deviceId⟩)

/-- `recoverImportedVaultToCleanDevice`, with the stored states and whether the journal has an
entry of the Vault. -/
def recoverImportedVaultToCleanDevice (platform : Platform) (draw : RegistrationDraw)
    (hello : CanonicalHelloData) (stored : List BrowserCanonicalState) (pending : Bool) :
    Except Thrown BrowserCanonicalState := do
  require (!(hello.vaultPresent || hello.registrationPresent ||
    hello.state != literal "unprovisioned"))
    "Recovery provisioning requires a clean unprovisioned Device"
  match stored.filter (·.trustedBrowser.status == .replacementPending) with
  | [] =>
    .error (.error "Import a Recovery Package before provisioning a replacement Device")
  | [state] => do
    require (state.vault.vaultFormatVersion == .legacy || deviceCanWriteFormat2 hello)
      ("This Recovery Package contains Vault Format 2, but the connected Device does not " ++
        "advertise Format 2 support")
    require (!pending) "A canonical browser transaction is already pending reconciliation"
    let vmk ← unwrapVmkForTrustedBrowser platform state
    createBrowserCanonicalState platform draw state.vault state.recoveryWrappedVmk vmk 1 .active
      (some ⟨hello.deviceId⟩)
  | _ =>
    .error (.error ("Multiple Recovery Package candidates are pending; keep exactly one " ++
      "replacement-pending Vault before provisioning"))

/-- `completePendingReplacement`: `delivered` is the outcome of the session that replaces the
registration, `confirmed` the `hello` after it. There is nothing to do for an active state. -/
def completePendingReplacement (platform : Platform) (state : BrowserCanonicalState)
    (hello : CanonicalHelloData) (delivered : Except Thrown Unit)
    (confirmed : CanonicalHelloData) : Except Thrown (Option BrowserCanonicalState) :=
  if state.trustedBrowser.status ≠ .replacementPending then .ok none
  else
  match hello.vaultId, hello.registrationId, hello.brkPublicKey with
  | some vaultId, some registrationId, some brkPublicKey => do
    require (hello.vaultPresent && hello.registrationPresent)
      "Recovery replacement requires an existing canonical Device registration"
    assertCanonicalGeneration state vaultId hello.generation hello.vaultFormat
    if state.belongsTo hello.deviceId && registrationMatches state.trustedBrowser registrationId
        hello.registrationEpoch brkPublicKey then do
      let activated ← sanitizeBrowserCanonicalState state.activated
      .ok (some activated)
    else do
      require (!(state.trustedBrowser.epoch != hello.registrationEpoch + 1 ||
        sameBytes state.trustedBrowser.registrationId registrationId ||
        sameBytes state.trustedBrowser.brkPublicKeyRaw brkPublicKey))
        "Recovery replacement registration does not advance the Device epoch"
      let _ ← unwrapVmkForTrustedBrowser platform state
      delivered
      let activated ← sanitizeBrowserCanonicalState
        { state.activated with deviceMetadata := some ⟨confirmed.deviceId⟩ }
      assertActiveDeviceBinding activated confirmed
      require (confirmed.state == literal "unlocked")
        "Device did not unlock after Browser replacement"
      .ok (some activated)
  | _, _, _ =>
    .error (.error "Recovery replacement requires an existing canonical Device registration")

/-! ## Writes of an active browser -/

/-- `requireActiveWriter`. -/
def requireActiveWriter (state : BrowserCanonicalState) (hello : CanonicalHelloData) :
    Except Thrown Unit := do
  require (state.trustedBrowser.status == .active)
    "Canonical writes require an active Trusted Browser"
  require (hello.state == literal "unlocked") "Device must be UNLOCKED before canonical writes"
  assertActiveDeviceBinding state hello

/-- `migratedRecoveryWrapper`. -/
def migratedRecoveryWrapper (state : BrowserCanonicalState) (targetFormat : VaultFormatVersion) :
    PassphraseWrappedVmk :=
  { state.recoveryWrappedVmk with vaultFormatVersion := targetFormat }

/-- The candidate of `mutateVault`, with the nonce that it draws. -/
def mutateVault (platform : Platform) (nonce : List UInt8) (hello : CanonicalHelloData)
    (mutator : VaultPlaintext → Except Thrown VaultPlaintext) (requireFormat2 : Bool)
    (state : BrowserCanonicalState) : Except Thrown BrowserCanonicalState := do
  requireActiveWriter state hello
  let targetFormat ← nextMutationVaultFormat state.vault.vaultFormatVersion
    (deviceCanWriteFormat2 hello) requireFormat2
  let vmk ← unwrapVmkForTrustedBrowser platform state
  let decrypted ← decryptVault platform state.vault vmk
  let plaintext ← decodeVaultPlaintext decrypted (some state.vault.vaultFormatVersion)
  let plaintext ← mutator plaintext
  let encoded ← encodeVaultPlaintext plaintext targetFormat
  let nextGeneration := state.vault.generation + 1
  require (decide (nextGeneration ≤ 0xffffffffffffffff)) "Canonical Vault generation overflow"
  let nextVault ← encryptVaultForFormat platform.toAesGcm nonce encoded vmk state.vault.vaultId
    nextGeneration targetFormat
  sanitizeBrowserCanonicalState
    { state with
      vault := nextVault, recoveryWrappedVmk := migratedRecoveryWrapper state targetFormat }

/-- What `rotateVmk` draws. -/
structure RekeyDraw where
  vmk : Bytes 32
  vaultNonce : Bytes 12
  salt : Bytes 32
  wrapNonce : Bytes 12
  bukNonce : Bytes 12

/-- The candidate of `rotateVmk`. -/
def rotateVmk (platform : Platform) (draw : RekeyDraw) (hello : CanonicalHelloData)
    (recoveryPassphrase : JsString) (state : BrowserCanonicalState) :
    Except Thrown BrowserCanonicalState := do
  require (decide (recoveryPassphrase.length ≠ 0)) "VMK re-key requires the Recovery Passphrase"
  requireActiveWriter state hello
  let targetFormat ← nextMutationVaultFormat state.vault.vaultFormatVersion
    (deviceCanWriteFormat2 hello) false
  let currentVmk ← unwrapVmkForTrustedBrowser platform state
  let nextGeneration := state.vault.generation + 1
  require (decide (nextGeneration ≤ 0xffffffffffffffff)) "Canonical Vault generation overflow"
  let verifiedRecoveryVmk ← unwrapVmkWithPassphrase platform state.recoveryWrappedVmk
    recoveryPassphrase
  require (sameBytes currentVmk verifiedRecoveryVmk)
    "Recovery Passphrase does not match the current canonical Vault"
  let decrypted ← decryptVault platform state.vault currentVmk
  let plaintext ← decodeVaultPlaintext decrypted (some state.vault.vaultFormatVersion)
  let encoded ← encodeVaultPlaintext plaintext targetFormat
  let nextVault ← encryptVaultForFormat platform.toAesGcm draw.vaultNonce.1 encoded draw.vmk.1
    state.vault.vaultId nextGeneration targetFormat
  let nextRecoveryWrappedVmk ← wrapVmkWithPassphraseForFormat platform draw.salt.1
    draw.wrapNonce.1 draw.vmk.1 state.vault.vaultId recoveryPassphrase targetFormat
  rekeyTrustedBrowserState platform draw.bukNonce.1 state nextVault nextRecoveryWrappedVmk
    draw.vmk.1

end CanonicalDeviceManagement

/-! ## The states that are held -/

open CanonicalDeviceManagement

/-- The stored record `current` when a write that started from `base` is stored: at most its
recovery wrapper was replaced since. -/
structure Rewrapped (base current : BrowserCanonicalState) : Prop where
  vault : current.vault = base.vault
  trustedBrowser : current.trustedBrowser = base.trustedBrowser

/-- The states that the browser holds, each with the Passphrase that was chosen for it. -/
inductive Held (platform : Platform) : JsString → BrowserCanonicalState → Prop
  | provisioned {draw : ProvisionDraw} {hello : DeviceHello} {imported : List ImportedCredential}
      {passphrase : JsString} {state : BrowserCanonicalState}
      (h : initialProvision platform draw hello.value imported passphrase = .ok state) :
      Held platform passphrase state
  | imported {draw : RegistrationDraw} {serialized passphrase : JsString}
      {state : BrowserCanonicalState}
      (h : importRecoveryPackage platform draw serialized passphrase = .ok state) :
      Held platform passphrase state
  | recovered {draw : RegistrationDraw} {hello : DeviceHello}
      {stored : List BrowserCanonicalState} {pending : Bool} {passphrase : JsString}
      {state : BrowserCanonicalState}
      (hstored : ∀ s ∈ stored, s.trustedBrowser.status = .replacementPending →
        Held platform passphrase s)
      (h : recoverImportedVaultToCleanDevice platform draw hello.value stored pending =
        .ok state) : Held platform passphrase state
  | replaced {hello confirmed : DeviceHello} {delivered : Except Thrown Unit}
      {passphrase : JsString} {state state' : BrowserCanonicalState}
      (hstate : Held platform passphrase state)
      (h : completePendingReplacement platform state hello.value delivered confirmed.value =
        .ok (some state')) : Held platform passphrase state'
  | mutated {nonce : Bytes 12} {hello : DeviceHello}
      {mutator : VaultPlaintext → Except Thrown VaultPlaintext} {requireFormat2 : Bool}
      {passphrase : JsString} {base candidate current state : BrowserCanonicalState}
      (hcurrent : Held platform passphrase current) (hbase : Rewrapped base current)
      (h : CanonicalDeviceManagement.mutateVault platform nonce.1 hello.value mutator
        requireFormat2 base = .ok candidate)
      (hmerge : mergeVaultAdvanceWithCurrentBrowserState current candidate
        base.vault.generation = .ok state) : Held platform passphrase state
  | rekeyed {draw : RekeyDraw} {hello : DeviceHello} {passphrase chosen : JsString}
      {base candidate current state : BrowserCanonicalState}
      (hcurrent : Held platform passphrase current) (hbase : Rewrapped base current)
      (h : rotateVmk platform draw hello.value chosen base = .ok candidate)
      (hmerge : mergeVaultAdvanceWithCurrentBrowserState current candidate
        base.vault.generation = .ok state) :
      Held platform (if sameBrowserWrappedVmk current.trustedBrowser.wrappedVmk
        candidate.trustedBrowser.wrappedVmk then passphrase else chosen) state
  | passphraseChanged {salt : Bytes 32} {nonce : Bytes 12} {passphrase current chosen : JsString}
      {state state' : BrowserCanonicalState} (hstate : Held platform passphrase state)
      (h : changeRecoveryPassphrase platform salt.1 nonce.1 state current chosen = .ok state') :
      Held platform chosen state'

end M5Auth.Web
