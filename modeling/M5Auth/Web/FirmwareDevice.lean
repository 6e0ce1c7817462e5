import M5Auth.Provisioning.HelloData
import M5Auth.Provisioning.Proof.StoredRuns
import M5Auth.Web.Proof.DeviceOpening
import M5Auth.Web.System

/-!
# The firmware as the browser's Device

`Firmware.model`: the Device of `Provisioning`, with its NVS, as a `DeviceModel`. A request is a
line that the firmware accepts and that carries the request (`Carried`), and a session is a begin
and a completion; in between, before and after, the Device handles any other inputs that neither
store nor begin nor complete a session (`Idles`). A request may be lost, and the power may be lost
at any NVS call of any input, after which the Device starts again. The NVS calls themselves work.

`Firmware.data` is what such a Device keeps, in the terms of the Web application.
-/

namespace M5Auth.Web.Firmware

open Provisioning Vault VaultRuntime
open Provisioning.Device (Accepted Takes)
open Registration (DeviceIdCandidate HasDeviceId)

variable {σ : Type}

/-! ## Requests and responses -/

/-- The parameters that the browser sends for the Vault. A generation has 64 bits. -/
def CarriesVault (operation : VaultOperation) (expectedGeneration : Nat)
    (vault : EncryptedVaultEnvelope) (params : Json) : Prop :=
  ∃ (expected : UInt64) (members : List (String × RequestParam)),
    expected.toNat = expectedGeneration ∧
      operation.params expectedGeneration vault = .ok members ∧ params = sentParams members

def NamesAttempt (attemptId : List UInt8) (params : Json) : Prop :=
  ∃ id, readAttemptId params = some id ∧ id.1 = attemptId

/-- The frame carries the request. A session has no single frame. -/
def Carried : DeviceRequest → Frame → Prop
  | .hello, frame => frame.operation = .hello
  | .deliver _, _ => False
  | .install vault, frame =>
    frame.operation = .vaultInstall ∧ CarriesVault .install 0 vault frame.params
  | .update expectedGeneration vault, frame =>
    frame.operation = .vaultUpdate ∧ CarriesVault .update expectedGeneration vault frame.params
  | .rekey expectedGeneration vault, frame =>
    frame.operation = .vaultRekey ∧ CarriesVault .rekey expectedGeneration vault frame.params
  | .lock, frame => frame.operation = .deviceLock
  | .resetBegin, frame => frame.operation = .factoryResetBegin
  | .resetStatus attemptId, frame =>
    frame.operation = .factoryResetStatus ∧ NamesAttempt attemptId frame.params
  | .resetCancel attemptId, frame =>
    frame.operation = .factoryResetCancel ∧ NamesAttempt attemptId frame.params
  | .resetCommit attemptId, frame =>
    frame.operation = .factoryResetCommit ∧ NamesAttempt attemptId frame.params
  | .recoveryBegin, frame => frame.operation = .recoveryBegin
  | .recoveryStatus attemptId, frame =>
    frame.operation = .recoveryStatus ∧ NamesAttempt attemptId frame.params
  | .recoveryComplete attemptId, frame =>
    frame.operation = .recoveryComplete ∧ NamesAttempt attemptId frame.params

/-- The context is the delivery's, as far as the Device may store it. -/
structure Describes (context : Session.BeginContext) (delivery : SessionDelivery) : Prop where
  operation : context.operation = delivery.operation
  vaultId : context.vaultId.1 = delivery.vaultId
  registrationId : context.registrationId.1 = delivery.registrationId
  registrationEpoch : context.registrationEpoch.toNat = delivery.registrationEpoch
  proposedBrkPublicKey : context.proposedBrkPublicKey.1 = delivery.proposedBrkPublicKey

instance (context : Session.BeginContext) (delivery : SessionDelivery) :
    Decidable (Describes context delivery) :=
  decidable_of_iff (context.operation = delivery.operation ∧ context.vaultId.1 = delivery.vaultId ∧
      context.registrationId.1 = delivery.registrationId ∧
      context.registrationEpoch.toNat = delivery.registrationEpoch ∧
      context.proposedBrkPublicKey.1 = delivery.proposedBrkPublicKey)
    ⟨fun ⟨h₁, h₂, h₃, h₄, h₅⟩ => ⟨h₁, h₂, h₃, h₄, h₅⟩,
      fun ⟨h₁, h₂, h₃, h₄, h₅⟩ => ⟨h₁, h₂, h₃, h₄, h₅⟩⟩

/-- The context asks for the session of the delivery. -/
def Asks (context : Session.BeginContext) (delivery : SessionDelivery) : Prop :=
  context.deviceId = textEncode delivery.deviceId ∧
    context.expectedGeneration.toNat = delivery.expectedGeneration ∧
    context.currentBrkPublicKey.1 = delivery.currentBrkPublicKey ∧ Describes context delivery

instance (context : Session.BeginContext) (delivery : SessionDelivery) :
    Decidable (Asks context delivery) :=
  inferInstanceAs (Decidable (_ ∧ _ ∧ _ ∧ _))

/-- The frame begins the session of the delivery. -/
structure Begins (delivery : SessionDelivery) (frame : Frame) : Prop where
  operation : frame.operation = .session .sessionBegin
  context : ∃ context, parseBeginContext frame.params = some context ∧ Asks context delivery

/-- The Web application reads the result in the response. -/
def ReadsAs (response : Response) : (r : DeviceRequest) → r.Result → Prop
  | .hello => fun result => ∃ id hello, response = .success id (.hello hello) ∧
    parseCanonicalHelloData (JsonValue.received hello.data) = .ok result
  | .resetBegin | .recoveryBegin => fun attemptId => ∃ id attempt,
    response = resetBeginSuccess id attempt ∧ attemptId = attempt.1
  | .resetStatus _ | .recoveryStatus _ => fun confirmed => ∃ id,
    response = resetStatusSuccess id confirmed
  | _ => fun _ => response.ok = true

/-! ## The Device over time -/

/-- Inputs that neither store nor begin nor complete a session, and losses of power. -/
inductive Idles (env : Env σ) (x : Device AuthNvs) : Device AuthNvs → Prop
  | refl : Idles env x x
  | tail {y z : Device AuthNvs} {i : Device.Input} (h : Idles env x y) (hi : i.Neutral env)
      (ht : Takes env y i z) : Idles env x z

/-- The request is lost, or handled, or the power is lost while it is. -/
inductive Serves (env : Env σ) (x : Device AuthNvs) :
    (r : DeviceRequest) → Option r.Result → Device AuthNvs → Prop
  | lost {r : DeviceRequest} : Serves env x r none x
  | handled {r : DeviceRequest} {answer : Option r.Result} {line : List UInt8} {m : Moment}
      {frame : Frame} (hcarried : Carried r frame) (hacc : Accepted env.onNvs line frame)
      (hanswer : ∀ result, answer = some result →
        ReadsAs (x.handleLine env.onNvs line m).1 r result) :
      Serves env x r answer (x.step env.onNvs (.line line m))
  | cut {r : DeviceRequest} {line : List UInt8} {m : Moment} {frame : Frame} {z : Device AuthNvs}
      (hcarried : Carried r frame) (hacc : Accepted env.onNvs line frame)
      (ht : Takes env x (.line line m) z) : Serves env x r none z
  | begun {delivery : SessionDelivery} {line : List UInt8} {m : Moment} {frame : Frame}
      {z : Device AuthNvs} (hbegins : Begins delivery frame) (hacc : Accepted env.onNvs line frame)
      (ht : Takes env x (.line line m) z) : Serves env x (.deliver delivery) none z
  | delivered {delivery : SessionDelivery} {answer : Option Unit} {line line' : List UInt8}
      {m m' : Moment} {frame frame' : Frame} {y z : Device AuthNvs}
      (hbegins : Begins delivery frame) (hacc : Accepted env.onNvs line frame)
      (hok : (x.handleLine env.onNvs line m).1.ok = true)
      (hidles : Idles env (x.step env.onNvs (.line line m)) y)
      (hcomplete : frame'.operation = .session .complete) (hacc' : Accepted env.onNvs line' frame')
      (ht : Takes env y (.line line' m') z)
      (hanswer : answer.isSome = true → z = y.step env.onNvs (.line line' m') ∧
        (y.handleLine env.onNvs line' m').1.ok = true) : Serves env x (.deliver delivery) answer z

/-- The states of a Device with this Device ID, whatever it was used for before. -/
inductive Comes (env : Env σ) (deviceId : DeviceIdCandidate) : Device AuthNvs → Prop
  | boot (vault : Partition) {registration : Registration.NvsContent}
      (hid : HasDeviceId deviceId registration) (candidate : DeviceIdCandidate) :
      Comes env deviceId (.boot env.onNvs (.reliable vault) (.reliable registration) candidate)
  | takes {x y : Device AuthNvs} {i : Device.Input} (h : Comes env deviceId x)
      (ht : Takes env x i y) : Comes env deviceId y

/-- The firmware as a Device. -/
def model (env : Env σ) (deviceId : DeviceIdCandidate) : DeviceModel (Device AuthNvs) where
  Comes := Comes env deviceId
  Handles x r answer x' := ∃ y z, Idles env x y ∧ Serves env y r answer z ∧ Idles env z x'
  Restarts x x' := ∃ candidate, x' = x.restart env candidate

/-! ## What the Device keeps -/

/-- The Device ID as the Web application has it. -/
def deviceIdString (deviceId : DeviceIdCandidate) : JsString :=
  (Registration.deviceIdText deviceId.1).map (·.toUInt16)

/-- A Vault of the Device, in the terms of the Web application. -/
def encrypted (envelope : VaultEnvelope) : EncryptedVaultEnvelope where
  vaultFormatVersion := if envelope.vaultFormatVersion = 1 then .legacy else .current
  storageSchemaVersion := vaultTargetStorageSchemaVersion
  vaultId := envelope.vaultId.1
  generation := envelope.generation.toNat
  nonce := envelope.nonce.1
  ciphertext := envelope.ciphertext
  tag := envelope.tag.1
  ciphertextLength := envelope.ciphertext.length

/-- A registration of the Device. -/
def registered (r : Registration.Record) : DeviceRegistration :=
  ⟨r.registrationId.1, r.epoch.toNat, r.brkPublicKey.1⟩

/-- What the Device keeps. The key that waits is not stored. -/
def data (env : Env σ) (x : Device AuthNvs) : DeviceData where
  vault := x.keptVault.map encrypted
  registration := (x.keptRecord env.prims.importKey).map registered

end M5Auth.Web.Firmware
