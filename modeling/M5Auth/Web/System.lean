import M5Auth.Web.ManagementWrites

/-!
# The browser and the Device as a system

One browser and one Device. Every section under the browser's lock is a program whose transactions
and requests are steps of the pair (`Pair.step`); it may stop before any of them. A request is
handled, or its response is lost, or it is still in flight after the connection dropped and handled
before the next request or never (`late`). Between sections the Device may restart, or be away with
other browsers and come back; and the next section may be another tab's.

The Device is a parameter (`DeviceModel`). `DeviceData` is what a Device keeps, with all that it may
do for a request (`Effect`) and all that it may say (`Answers`): the Device of a `System`. The
firmware is another one, whose runs are runs of such a Device (`Firmware.simulated`).

Two fields are history: `origin` is the Device as it last came back, and `sent` are the requests so
far, newest first, with the stores at the time.
-/

namespace M5Auth.Web

open CrashProgram

/-! ## The Device -/

/-- A Device as a browser meets it: what it is when it comes, what a request may make of it, with
the response if there is one, and what a restart may. -/
structure DeviceModel (δ : Type) where
  Comes : δ → Prop
  Handles : δ → (r : DeviceRequest) → Option r.Result → δ → Prop
  Restarts : δ → δ → Prop

/-- A Trusted Browser registration on the Device. -/
structure DeviceRegistration where
  registrationId : List UInt8
  epoch : Nat
  brkPublicKey : List UInt8
  deriving DecidableEq

/-- What the Device keeps: its Vault and registration, and the session whose key waits for a
Vault. -/
structure DeviceData where
  vault : Option EncryptedVaultEnvelope := none
  registration : Option DeviceRegistration := none
  grant : Option SessionDelivery := none

namespace DeviceData

/-- The registration that a session proposes. -/
def proposed (delivery : SessionDelivery) (epoch : Nat) : DeviceRegistration :=
  ⟨delivery.registrationId, epoch, delivery.proposedBrkPublicKey⟩

/-- A successor of the Device's Vault. -/
def Succeeds (d : DeviceData) (expectedGeneration : Nat) (vault : EncryptedVaultEnvelope) : Prop :=
  ∃ old, d.vault = some old ∧ old.vaultId = vault.vaultId ∧ old.generation = expectedGeneration ∧
    vault.generation = expectedGeneration + 1

/-- What the Device may do for a request. A reset or an installation may be interrupted between
the Vault and the registration, and a waiting key may expire at any time. -/
inductive Effect (d : DeviceData) : DeviceRequest → DeviceData → Prop
  | nothing {r : DeviceRequest} : Effect d r d
  | dropped {r : DeviceRequest} : Effect d r { d with grant := none }
  | granted {delivery : SessionDelivery} :
      Effect d (.deliver delivery) { d with grant := some delivery }
  | replaced {delivery : SessionDelivery} (hvault : d.vault.isSome)
      (h : delivery.operation = .browserReplacement ∨ delivery.operation = .recovery) :
      Effect d (.deliver delivery)
        { d with
          registration := some (proposed delivery delivery.registrationEpoch), grant := none }
  | installed {vault : EncryptedVaultEnvelope} {delivery : SessionDelivery}
      (hvault : d.vault = none) (hregistration : d.registration = none)
      (hgrant : d.grant = some delivery) (hid : delivery.vaultId = vault.vaultId) :
      Effect d (.install vault) ⟨some vault, some (proposed delivery 1), none⟩
  | interrupted {vault : EncryptedVaultEnvelope} (hvault : d.vault = none)
      (hregistration : d.registration = none) : Effect d (.install vault) ⟨some vault, none, none⟩
  | updated {expectedGeneration : Nat} {vault : EncryptedVaultEnvelope}
      (h : d.Succeeds expectedGeneration vault) :
      Effect d (.update expectedGeneration vault) { d with vault := some vault, grant := none }
  | rekeyed {expectedGeneration : Nat} {vault : EncryptedVaultEnvelope}
      (h : d.Succeeds expectedGeneration vault) :
      Effect d (.rekey expectedGeneration vault) { d with vault := some vault, grant := none }
  | erased {attemptId : List UInt8} :
      Effect d (.resetCommit attemptId) { d with vault := none, grant := none }
  | reset {attemptId : List UInt8} : Effect d (.resetCommit attemptId) {}
  | unregistered {attemptId : List UInt8} :
      Effect d (.recoveryComplete attemptId) { d with registration := none, grant := none }
  | recovered {attemptId : List UInt8} : Effect d (.recoveryComplete attemptId) {}

/-- What a `hello` says of the Device. A Device that fails may say less than it keeps. -/
structure Reports (deviceId : JsString) (hello : CanonicalHelloData) (d : DeviceData) : Prop where
  deviceId : hello.deviceId = deviceId
  vault : hello.vaultPresent = true → ∃ vault, d.vault = some vault ∧
    hello.vaultId = some vault.vaultId ∧ hello.generation = vault.generation ∧
    hello.vaultFormat = vault.vaultFormatVersion
  registration : hello.registrationPresent = true → ∃ registration,
    d.registration = some registration ∧ hello.registrationId = some registration.registrationId ∧
    hello.registrationEpoch = registration.epoch ∧
    hello.brkPublicKey = some registration.brkPublicKey
  clean : hello.clean = true → d.vault = none ∧ d.registration = none

/-- The response of a request that the Device handled. After a session the key waits or is gone. -/
def Answers (deviceId : JsString) (d : DeviceData) : (r : DeviceRequest) → r.Result → Prop
  | .hello, hello => Reports deviceId hello d
  | .deliver delivery, _ => d.grant = none ∨ d.grant = some delivery
  | _, _ => True

/-- The Device that keeps this data and has the Device ID. It may come with anything. -/
def model (deviceId : JsString) : DeviceModel DeviceData where
  Comes _ := True
  Handles d r answer d' := d.Effect r d' ∧ ∀ result, answer = some result →
    d'.Answers deviceId r result
  Restarts d d' := d' = { d with grant := none }

end DeviceData

/-! ## Steps -/

/-- A request that was sent, with the stores at the time. -/
structure Sent where
  request : DeviceRequest
  stores : BrowserStores

/-- The browser and the Device. -/
structure Pair (δ : Type) where
  memory : Management
  stores : BrowserStores
  device : δ
  late : Option δ
  origin : δ
  sent : List Sent

abbrev System := Pair DeviceData

namespace Pair

variable {δ : Type}

/-- The Device may be `d` by now: the request in flight was handled or not. -/
def MayBe (s : Pair δ) (d : δ) : Prop := d = s.device ∨ s.late = some d

def withMemory (s : Pair δ) (memory : Management) : Pair δ := { s with memory }

def withStores (s : Pair δ) (stores : BrowserStores) : Pair δ := { s with stores }

/-- After a request, with what the Device is and what it still may become. -/
def requested (s : Pair δ) (request : DeviceRequest) (device : δ) (late : Option δ) : Pair δ :=
  { s with device, late, sent := ⟨request, s.stores⟩ :: s.sent }

/-- The Device as it is after a restart, or after it was away. -/
def returned (s : Pair δ) (device origin : δ) : Pair δ := { s with device, late := none, origin }

end Pair

section
variable {δ : Type} (M : DeviceModel δ)

/-- A transaction takes place or fails. -/
def StoreStep (call : StoreCall) (s : Pair δ) (r : Except Thrown call.Result) (s' : Pair δ) :
    Prop :=
  (∃ result, call.apply s.stores = .ok result ∧ r = .ok result.1 ∧ s' = s.withStores result.2) ∨
    ∃ e, r = .error e ∧ s' = s

/-- A request is handled and answered, handled without an answer, or left in flight. -/
inductive RequestStep (request : DeviceRequest) (s : Pair δ) :
    Except Thrown request.Result → Pair δ → Prop
  | answered {d d' : δ} {result : request.Result} (hd : s.MayBe d)
      (h : M.Handles d request (some result) d') :
      RequestStep request s (.ok result) (s.requested request d' none)
  | failed {d d' : δ} {e : Thrown} (hd : s.MayBe d) (h : M.Handles d request none d') :
      RequestStep request s (.error e) (s.requested request d' none)
  | inFlight {d d' : δ} {e : Thrown} (hd : s.MayBe d) (h : M.Handles d request none d') :
      RequestStep request s (.error e) (s.requested request d (some d'))

/-- The steps of the programs. -/
def Pair.step : Step ManagementCall ManagementCall.Result Thrown (Pair δ)
  | .self, s, r, s' => r = .ok s.memory ∧ s' = s
  | .assign change, s, r, s' => r = .ok () ∧ s' = s.withMemory (change s.memory)
  | .store call, s, r, s' => StoreStep call s r s'
  | .request request, s, r, s' => RequestStep M request s r s'

end

/-- The steps with the Device of a `System`. -/
abbrev systemStep (deviceId : JsString) :
    Step ManagementCall ManagementCall.Result Thrown System :=
  Pair.step (DeviceData.model deviceId)

/-! ## Runs -/

open CanonicalDeviceManagement (ProvisionDraw ImportedCredential RekeyDraw)

/-- What the pages do, one after the other, as the lock has it. The requests of a recovery reset are
made without the lock; another tab's section between them is not among the runs. -/
inductive Action where
  | connect
  | requestUnlock
  | refresh
  | lock
  | mutateVault (nonce : List UInt8) (mutator : VaultPlaintext → Except Thrown VaultPlaintext)
      (requireFormat2 : Bool)
  | rotateVmk (draw : RekeyDraw) (recoveryPassphrase : JsString)
  | initialProvision (draw : ProvisionDraw) (imported : List ImportedCredential)
      (passphrase : JsString)
  | recoverImportedVaultToCleanDevice (draw : RegistrationDraw)
  | factoryReset (abortedFirst : Bool) (polls : List Manage.Poll)
  | connectRecovery
  | performRecoveryReset (polls : Nat)
  | importPackage (draw : RegistrationDraw) (serialized passphrase : JsString)
  | changePassphrase (vaultId salt nonce : List UInt8)
      (currentPassphrase newPassphrase confirmPassphrase : JsString)

def Action.program (platform : Platform) : Action → Manage Unit
  | connect => Manage.connect platform
  | requestUnlock => Manage.requestUnlock platform
  | refresh => Manage.refreshHelloAndBrowserState
  | lock => Manage.request .lock
  | mutateVault nonce mutator requireFormat2 =>
    Manage.mutateVault platform nonce mutator requireFormat2
  | rotateVmk draw recoveryPassphrase => Manage.rotateVmk platform draw recoveryPassphrase
  | initialProvision draw imported passphrase =>
    Manage.initialProvision platform draw imported passphrase
  | recoverImportedVaultToCleanDevice draw =>
    Manage.recoverImportedVaultToCleanDevice platform draw
  | factoryReset abortedFirst polls => Manage.factoryReset abortedFirst polls
  | connectRecovery => Manage.connectRecovery
  | performRecoveryReset polls => Manage.performRecoveryReset polls
  | importPackage draw serialized passphrase =>
    Manage.importPackage platform draw serialized passphrase
  | changePassphrase vaultId salt nonce currentPassphrase newPassphrase confirmPassphrase =>
    Manage.changePassphrase platform vaultId salt nonce currentPassphrase newPassphrase
      confirmPassphrase

/-- What a section relies on: a drawn Vault identifier is new to the browser, and a Passphrase that
opens a recovery wrapper is the one that wrapped it. -/
def Action.Assumes (platform : Platform) (stores : BrowserStores) : Action → Prop
  | initialProvision draw _ _ =>
    stores.vault draw.vaultId.1 = none ∧ stores.pending draw.vaultId.1 = none
  | changePassphrase vaultId _ _ currentPassphrase _ _ => ∀ state vmk,
    stores.vault vaultId = some state →
    unwrapVmkWithPassphrase platform state.recoveryWrappedVmk currentPassphrase = .ok vmk →
    unwrapVmkForTrustedBrowser platform state = .ok vmk
  | _ => True

/-- The states of a browser that starts without records, and a Device that comes. -/
inductive Pair.Reachable {δ : Type} (platform : Platform) (M : DeviceModel δ) : Pair δ → Prop
  | start {d : δ} (memory : Management) (hd : M.Comes d) :
      Reachable platform M ⟨memory, .empty, d, none, d, []⟩
  | action {a : Action} {s s' : Pair δ} {outcome : Option (Except Thrown Unit)}
      (h : Reachable platform M s) (hassumes : a.Assumes platform s.stores)
      (hrun : Stops (Pair.step M) (a.program platform) s outcome s') : Reachable platform M s'
  | tab {s : Pair δ} (memory : Management) (h : Reachable platform M s) :
      Reachable platform M (s.withMemory memory)
  | restarted {s : Pair δ} {d d' : δ} (h : Reachable platform M s) (hd : s.MayBe d)
      (hrestart : M.Restarts d d') : Reachable platform M (s.returned d' s.origin)
  | away {s : Pair δ} {d : δ} (h : Reachable platform M s) (hd : M.Comes d) :
      Reachable platform M (s.returned d d)

/-- The states with the Device of a `System`. -/
abbrev Reachable (platform : Platform) (deviceId : JsString) : System → Prop :=
  Pair.Reachable platform (DeviceData.model deviceId)

end M5Auth.Web
