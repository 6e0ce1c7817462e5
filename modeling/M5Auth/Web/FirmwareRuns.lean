import M5Auth.Provisioning.Proof.UnlockAuthorization
import M5Auth.Web.FaultFree
import M5Auth.Web.FirmwareDevice
import M5Auth.Web.Proof.AccountRuns

/-!
# Runs of the firmware without faults

A `Script` has the lines that carry the browser's requests, and between the first and the last line
of a session what else the Device handles. `Firmware.serve` answers a request with the response of
the firmware to its line; a request that the script does not have is lost. `serve_handles`: the
firmware may do what `serve` says.

`life` is the script of a Device that is provisioned and whose Vault is then re-keyed.
-/

namespace M5Auth.Web.Firmware

open CanonicalDeviceManagement (ProvisionDraw RekeyDraw provisionPlaintext)
open Provisioning Vault VaultRuntime
open Provisioning.Device (Accepted binary ones sampleKey sampleRequest)
open Registration (DeviceIdCandidate)

variable {σ : Type} {env : Env σ} {deviceId : DeviceIdCandidate}

/-! ## Scripts -/

/-- A line that the firmware accepts. -/
structure AcceptedLine (env : Env σ) where
  line : List UInt8
  frame : Frame
  accepted : Accepted env.onNvs line frame

/-- A line that carries the request. -/
structure RequestLine (env : Env σ) (r : DeviceRequest) extends AcceptedLine env where
  carried : Carried r frame

/-- The first and the last line of a session, and what the Device handles in between. -/
structure SessionLines (env : Env σ) (delivery : SessionDelivery) where
  first : AcceptedLine env
  begins : Begins delivery first.frame
  between : List Device.Input
  neutral : ∀ i ∈ between, i.Neutral env
  last : AcceptedLine env
  completes : last.frame.operation = .session .complete

structure Script (env : Env σ) where
  request : (r : DeviceRequest) → Option (RequestLine env r)
  session : (delivery : SessionDelivery) → Option (SessionLines env delivery)

/-! ## Serving -/

/-- The data of the response to a `hello`. -/
def helloIn : Response → Option CanonicalHelloData
  | .success _ (.hello hello) =>
    (parseCanonicalHelloData (JsonValue.received hello.data)).toOption
  | _ => none

/-- The confirmation of a request without data. -/
def confirmationIn (response : Response) : Option Unit := if response.ok then some () else none

/-- What the Web application reads in the response, but for the attempts of a reset. -/
def resultIn (response : Response) : (r : DeviceRequest) → Option r.Result
  | .hello => helloIn response
  | .resetBegin | .recoveryBegin | .resetStatus _ | .recoveryStatus _ => none
  | .deliver _ | .install _ | .update _ _ | .rekey _ _ | .lock | .resetCancel _ | .resetCommit _
  | .recoveryComplete _ => confirmationIn response

theorem ok_of_confirmationIn {response : Response} {u : Unit}
    (h : confirmationIn response = some u) : response.ok = true := by
  unfold confirmationIn at h
  split at h
  · assumption
  · cases h

theorem readsAs_of_resultIn {response : Response} {r : DeviceRequest} {result : r.Result}
    (h : resultIn response r = some result) : ReadsAs response r result := by
  cases r with
  | hello =>
    cases response with
    | error => cases h
    | success id data =>
      cases data with
      | hello hello => exact ⟨id, hello, rfl, toOption_some h⟩
      | _ => cases h
  | resetBegin | recoveryBegin | resetStatus | recoveryStatus => cases h
  | _ => exact ok_of_confirmationIn h

/-- The Device does not answer. -/
def unanswered : Thrown := .error "timeout"

def answered {α : Type} : Option α → Except Thrown α
  | some a => .ok a
  | none => .error unanswered

theorem answered_toOption {α : Type} (o : Option α) : (answered o).toOption = o := by
  cases o <;> rfl

variable (script : Script env) (m : Moment)

/-- The requests of a session. Its key is delivered only after it began. -/
def serveSession {delivery : SessionDelivery} (lines : SessionLines env delivery)
    (x : Device AuthNvs) : Except Thrown Unit × Device AuthNvs :=
  let begun := x.step env.onNvs (.line lines.first.line m)
  if (x.handleLine env.onNvs lines.first.line m).1.ok then
    let y := lines.between.foldl (Device.step env.onNvs) begun
    (answered (confirmationIn (y.handleLine env.onNvs lines.last.line m).1),
      y.step env.onNvs (.line lines.last.line m))
  else (.error unanswered, begun)

/-- The response to a request, and the Device after it. -/
def serve : (r : DeviceRequest) → Device AuthNvs → Except Thrown r.Result × Device AuthNvs
  | .deliver delivery, x =>
    match script.session delivery with
    | some lines => serveSession m lines x
    | none => (.error unanswered, x)
  | r, x =>
    match script.request r with
    | some line =>
      (answered (resultIn (x.handleLine env.onNvs line.line m).1 r),
        x.step env.onNvs (.line line.line m))
    | none => (.error unanswered, x)

theorem idles_foldl {inputs : List Device.Input} (h : ∀ i ∈ inputs, i.Neutral env)
    {x y : Device AuthNvs} (hidles : Idles env x y) :
    Idles env x (inputs.foldl (Device.step env.onNvs) y) := by
  induction inputs generalizing y with
  | nil => exact hidles
  | cons i inputs ih =>
    exact ih (fun j hj => h j (List.mem_cons_of_mem _ hj))
      (hidles.tail (h i List.mem_cons_self) .handled)

theorem serveSession_serves {delivery : SessionDelivery} (lines : SessionLines env delivery)
    (x : Device AuthNvs) : Serves env x (.deliver delivery) (serveSession m lines x).1.toOption
      (serveSession m lines x).2 := by
  unfold serveSession
  dsimp only
  split
  · rename_i hok
    refine .delivered lines.begins lines.first.accepted hok (idles_foldl lines.neutral .refl)
      lines.completes lines.last.accepted .handled fun hanswer => ⟨rfl, ?_⟩
    rw [answered_toOption] at hanswer
    obtain ⟨result, hresult⟩ := Option.isSome_iff_exists.1 hanswer
    exact ok_of_confirmationIn hresult
  · exact .begun lines.begins lines.first.accepted .handled

theorem serve_serves (r : DeviceRequest) (x : Device AuthNvs) :
    Serves env x r (serve script m r x).1.toOption (serve script m r x).2 := by
  cases r with
  | deliver delivery =>
    simp only [serve]
    split
    · exact serveSession_serves m _ x
    · exact .lost
  | _ =>
    simp only [serve]
    split
    · rename_i line _
      refine .handled line.carried line.accepted fun result h => readsAs_of_resultIn ?_
      rwa [answered_toOption] at h
    · exact .lost

/-- **The firmware may do what the script says.** -/
theorem serve_handles (r : DeviceRequest) (x : Device AuthNvs) :
    (model env deviceId).Handles x r (serve script m r x).1.toOption (serve script m r x).2 :=
  ⟨x, _, .refl, serve_serves script m r x, .refl⟩

/-! ## A life -/

def someDeviceId : DeviceIdCandidate := ⟨ones 16, Device.ones_nonzero⟩

/-- What the browser draws, without a zero identifier. -/
def nonzeroProvision : ProvisionDraw :=
  { someProvision with
    vaultId := ones 16
    registration :=
      { someProvision.registration with registrationId := ones 16, brkPublicKeyRaw := sampleKey } }

def nonzeroRekey : RekeyDraw := { someRekey with vmk := ones 32 }

def accountBytes : List UInt8 :=
  (encodeVaultPlaintext (provisionPlaintext nonzeroProvision twoAccounts) .current).toOption.getD []

/-- The Vault that the browser installs. -/
def installedVault : EncryptedVaultEnvelope where
  vaultFormatVersion := .current
  storageSchemaVersion := vaultTargetStorageSchemaVersion
  vaultId := nonzeroProvision.vaultId.1
  generation := 1
  nonce := nonzeroProvision.vaultNonce.1
  ciphertext := accountBytes
  tag := (Bytes.zero 16).1
  ciphertextLength := accountBytes.length

/-- The same under the second key. -/
def rekeyedVault : EncryptedVaultEnvelope := { installedVault with generation := 2 }

def provisionContext : Session.BeginContext where
  operation := .initialProvisioning
  deviceId := Registration.deviceIdText someDeviceId.1
  vaultId := nonzeroProvision.vaultId
  registrationId := nonzeroProvision.registration.registrationId
  proposedBrkPublicKey := nonzeroProvision.registration.brkPublicKeyRaw

def rekeyContext : Session.BeginContext :=
  { provisionContext with
    operation := .vmkRekey
    expectedGeneration := 1
    registrationEpoch := 1
    currentBrkPublicKey := provisionContext.proposedBrkPublicKey
    proposedBrkPublicKey := Bytes.zero 65 }

def beginFields (operation generation : String) (context : Session.BeginContext) :
    List (String × Json) :=
  [("operation", .string (ascii operation)), ("device_id", .string context.deviceId),
    ("vault_id", binary context.vaultId), ("registration_id", binary context.registrationId),
    ("registration_epoch", .number (some context.registrationEpoch.toNat)),
    ("current_brk_public_key", binary context.currentBrkPublicKey),
    ("proposed_brk_public_key", binary context.proposedBrkPublicKey),
    ("expected_generation", .string (ascii generation))]

def authorizeFields (signature : List (String × Json)) : List (String × Json) :=
  [("attempt_id", binary (ones 16)), ("web_public_key", binary sampleKey)] ++ signature

def completeFields (vmk : Vmk) : List (String × Json) :=
  [("attempt_id", binary (ones 16)), ("nonce", binary (Bytes.zero 12)),
    ("ciphertext", binary vmk), ("tag", binary (Bytes.zero 16))]

def vaultFields (operation : VaultOperation) (expectedGeneration : Nat)
    (vault : EncryptedVaultEnvelope) : List (String × Json) :=
  ((operation.params expectedGeneration vault).toOption.getD []).map fun member =>
    (member.1, member.2.sent)

/-- A parser of nine lines: `hello`, then the requests of a provisioning and of a re-key. -/
def lifeParse : List UInt8 → Option Json
  | [0] => some (sampleRequest "hello" [])
  | [1] => some (sampleRequest "session.begin"
      (beginFields "initial_provisioning" "0" provisionContext))
  | [2] => some (sampleRequest "session.authorize" (authorizeFields []))
  | [3] => some (sampleRequest "session.complete" (completeFields nonzeroProvision.vmk))
  | [4] => some (sampleRequest "vault.install" (vaultFields .install 0 installedVault))
  | [5] => some (sampleRequest "session.begin" (beginFields "vmk_rekey" "1" rekeyContext))
  | [6] => some (sampleRequest "session.authorize"
      (authorizeFields [("brk_signature", binary (Bytes.zero 64))]))
  | [7] => some (sampleRequest "session.complete" (completeFields nonzeroRekey.vmk))
  | [8] => some (sampleRequest "vault.rekey" (vaultFields .rekey 1 rekeyedVault))
  | _ => none

/-- A firmware that reads them, on the platform without secrets. -/
def lifeEnv : Env PersistedSnapshot :=
  { Device.sampleEnv with
    prims :=
      { Device.sampleEnv.prims with
        openVmk := fun _ _ _ _ _ ciphertext _ _ => some ciphertext
        gcm := plainDeviceGcm }
    parse := lifeParse
    metadata := metadataFor "unknown" }

def lifeFrame (operation : String) (fields : List (String × Json)) : Frame :=
  ⟨1, .parse (ascii operation), .object (fields.map fun field => (ascii field.1, field.2))⟩

theorem operation_life {operation : String} {fields : List (String × Json)}
    {expected : RequestOperation} (h : RequestOperation.parse (ascii operation) = expected) :
    (lifeFrame operation fields).operation = expected := h

/-- A line of the parser. -/
def lifeLine (byte : UInt8) {operation : String} {fields : List (String × Json)}
    (h : lifeParse [byte] = some (sampleRequest operation fields)) : AcceptedLine lifeEnv where
  line := [byte]
  frame := lifeFrame operation fields
  accepted :=
    { nonempty := rfl
      short := by simp [maxCanonicalMessageBytes]
      read := by
        have hparse : lifeEnv.onNvs.parse [byte] = some (sampleRequest operation fields) := h
        rw [readFrame, hparse]
        rfl }

theorem carriesVault_life {operation : VaultOperation} (expected : UInt64)
    {vault : EncryptedVaultEnvelope} (h : (operation.params expected.toNat vault).isOk = true)
    (name : String) : CarriesVault operation expected.toNat vault
      (lifeFrame name (vaultFields operation expected.toNat vault)).params := by
  obtain ⟨members, hmembers⟩ := ok_of_isOk h
  refine ⟨expected, members, rfl, hmembers, ?_⟩
  rw [lifeFrame, vaultFields, hmembers]
  exact congrArg Json.object (List.map_map ..)

/-- A session in this context, with the user at the button. -/
def lifeSession {delivery : SessionDelivery} (context : Session.BeginContext)
    (first authorize last : UInt8) {fields signature : List (String × Json)} {vmk : Vmk}
    (hfirst : lifeParse [first] = some (sampleRequest "session.begin" fields))
    (hcontext : parseBeginContext (lifeFrame "session.begin" fields).params = some context)
    (hasks : Asks context delivery)
    (hauthorize : lifeParse [authorize] =
      some (sampleRequest "session.authorize" (authorizeFields signature)))
    (hlast : lifeParse [last] = some (sampleRequest "session.complete" (completeFields vmk))) :
    SessionLines lifeEnv delivery where
  first := lifeLine first hfirst
  begins := ⟨operation_life (by decide), context, hcontext, hasks⟩
  between := [.line [authorize] { nowMs := 0 }, .observeButton false, .observeButton false,
    .observeButton true, .buttonPressed 0]
  neutral i hi := by
    have hop : (lifeFrame "session.authorize" (authorizeFields signature)).operation =
        .session .authorize := operation_life (by decide)
    simp only [List.mem_cons, List.not_mem_nil, or_false] at hi
    rcases hi with rfl | rfl | rfl | rfl | rfl
    · exact .of_accepted (lifeLine authorize hauthorize).accepted (by rw [lifeLine, hop]; rfl)
        (by simp [lifeLine, hop]) (by simp [lifeLine, hop])
    all_goals exact .of_not_line fun _ _ h => by cases h
  last := lifeLine last hlast
  completes := operation_life (by decide)

theorem life_evaluated :
    (VaultOperation.install.params 0 installedVault).isOk = true ∧
    (VaultOperation.rekey.params 1 rekeyedVault).isOk = true ∧
    parseBeginContext (lifeFrame "session.begin"
      (beginFields "initial_provisioning" "0" provisionContext)).params = some provisionContext ∧
    parseBeginContext (lifeFrame "session.begin"
      (beginFields "vmk_rekey" "1" rekeyContext)).params = some rekeyContext := by
  decide +kernel

def life : Script lifeEnv where
  request
    | .hello => some ⟨lifeLine 0 rfl, operation_life (by decide)⟩
    | .install vault =>
      if h : vault = installedVault then
        some ⟨lifeLine 4 rfl, operation_life (by decide), by
          rw [h]
          exact carriesVault_life 0 life_evaluated.1 _⟩
      else none
    | .rekey expectedGeneration vault =>
      if h : expectedGeneration = 1 ∧ vault = rekeyedVault then
        some ⟨lifeLine 8 rfl, operation_life (by decide), by
          rw [h.1, h.2]
          exact carriesVault_life 1 life_evaluated.2.1 _⟩
      else none
    | _ => none
  session delivery :=
    if h : Asks provisionContext delivery then
      some (lifeSession provisionContext 1 2 3 rfl life_evaluated.2.2.1 h rfl rfl)
    else if h : Asks rekeyContext delivery then
      some (lifeSession rekeyContext 5 6 7 rfl life_evaluated.2.2.2 h rfl rfl)
    else none

/-- The firmware on these lines. -/
def serveLife (r : DeviceRequest) (x : Device AuthNvs) :
    Except Thrown r.Result × Device AuthNvs :=
  Firmware.serve life { nowMs := 0 } r x

theorem serveLife_handles (r : DeviceRequest) (x : Device AuthNvs) :
    (model lifeEnv someDeviceId).Handles x r (serveLife r x).1.toOption (serveLife r x).2 :=
  serve_handles life _ r x

end M5Auth.Web.Firmware
