import M5Auth.Web.System

/-!
# Runs without faults

Every transaction takes place if its checks pass, and every request is served at once, as a function
says. `faultFree_step`: these are steps of the pair where the Device may do what the function says.
`DeviceData.serve` is such a function.
-/

namespace M5Auth.Web

open CrashProgram

namespace DeviceData

variable (deviceId : JsString) (d : DeviceData)

/-- The `hello` of a Device that is unlocked whenever it can be. -/
def greeting : CanonicalHelloData where
  device := literal "M5StickS3"
  deviceId := deviceId
  firmware := literal "1.0.0"
  vaultFormat := (d.vault.map (·.vaultFormatVersion)).getD .current
  supportedVaultFormats := [.integer 1, .integer 2]
  buildCommit := literal "0"
  state := if d.vault.isSome || d.registration.isSome then literal "unlocked"
    else literal "unprovisioned"
  storageReady := true
  recoveryResetRequired := d.vault.isSome != d.registration.isSome
  factoryResetPresenceRequired := true
  vaultPresent := d.vault.isSome
  vaultId := d.vault.map (·.vaultId)
  generation := (d.vault.map (·.generation)).getD 0
  registrationPresent := d.registration.isSome
  registrationId := d.registration.map (·.registrationId)
  registrationEpoch := (d.registration.map (·.epoch)).getD 0
  brkPublicKey := d.registration.map (·.brkPublicKey)

theorem greeting_reports : Reports deviceId (d.greeting deviceId) d := by
  obtain ⟨vault, registration, grant⟩ := d
  refine ⟨rfl, fun h => ?_, fun h => ?_, fun h => ?_⟩
  · obtain ⟨vault, rfl⟩ := Option.isSome_iff_exists.1 h
    exact ⟨vault, rfl, rfl, rfl, rfl⟩
  · obtain ⟨registration, rfl⟩ := Option.isSome_iff_exists.1 h
    exact ⟨registration, rfl, rfl, rfl, rfl⟩
  · simp only [CanonicalHelloData.clean, greeting, Bool.and_eq_true, Bool.not_eq_true',
      Option.isSome_eq_false_iff, Option.isNone_iff_eq_none] at h
    exact h.1

/-- The Device refuses. -/
def refused : Thrown := .error "refused"

/-- A successor is stored where it fits. -/
def advance (expectedGeneration : Nat) (vault : EncryptedVaultEnvelope) :
    Except Thrown Unit × DeviceData :=
  match d.vault with
  | some old =>
    if old.vaultId = vault.vaultId ∧ old.generation = expectedGeneration ∧
        vault.generation = expectedGeneration + 1 then
      (.ok (), { d with vault := some vault, grant := none })
    else (.error refused, d)
  | none => (.error refused, d)

/-- A Vault is installed where there is none and its key waits. -/
def accept (vault : EncryptedVaultEnvelope) : Except Thrown Unit × DeviceData :=
  match d.vault, d.registration, d.grant with
  | none, none, some delivery =>
    if delivery.vaultId = vault.vaultId then
      (.ok (), ⟨some vault, some (proposed delivery 1), none⟩)
    else (.error refused, d)
  | _, _, _ => (.error refused, d)

/-- A key is delivered: it replaces the registration, or waits. -/
def takeSession (delivery : SessionDelivery) : DeviceData :=
  if delivery.operation = .browserReplacement ∧ d.vault.isSome = true then
    { d with registration := some (proposed delivery delivery.registrationEpoch), grant := none }
  else { d with grant := some delivery }

/-- The response to a request, and the Device after it. -/
def serve : (r : DeviceRequest) → Except Thrown r.Result × DeviceData
  | .hello => (.ok (d.greeting deviceId), d)
  | .deliver delivery => (.ok (), d.takeSession delivery)
  | .install vault => d.accept vault
  | .update expectedGeneration vault => d.advance expectedGeneration vault
  | .rekey expectedGeneration vault => d.advance expectedGeneration vault
  | .lock => (.ok (), { d with grant := none })
  | .resetBegin => (.ok (Bytes.zero 16).1, d)
  | .resetStatus _ => (.ok true, d)
  | .resetCancel _ => (.ok (), d)
  | .resetCommit _ => (.ok (), {})
  | .recoveryBegin => (.ok (Bytes.zero 16).1, d)
  | .recoveryStatus _ => (.ok true, d)
  | .recoveryComplete _ => (.ok (), {})

theorem advance_cases (expectedGeneration : Nat) (vault : EncryptedVaultEnvelope) :
    (d.advance expectedGeneration vault).2 = d ∨ d.Succeeds expectedGeneration vault ∧
      (d.advance expectedGeneration vault).2 = { d with vault := some vault, grant := none } := by
  unfold advance
  split
  · rename_i old hold
    split
    · rename_i h
      exact .inr ⟨⟨old, hold, h⟩, rfl⟩
    · exact .inl rfl
  · exact .inl rfl

/-- What the Device does is one of its effects. -/
theorem serve_effect (r : DeviceRequest) : d.Effect r (d.serve deviceId r).2 := by
  cases r with
  | deliver delivery =>
    change d.Effect (.deliver delivery) (d.takeSession delivery)
    unfold takeSession
    split
    · rename_i h
      exact .replaced h.2 (.inl h.1)
    · exact .granted
  | install vault =>
    change d.Effect (.install vault) (d.accept vault).2
    unfold accept
    split
    · rename_i delivery hvault hregistration hgrant
      split
      · rename_i hid
        exact .installed hvault hregistration hgrant hid
      · exact .nothing
    · exact .nothing
  | update expectedGeneration vault =>
    change d.Effect _ (d.advance expectedGeneration vault).2
    rcases d.advance_cases expectedGeneration vault with h | ⟨hsucceeds, h⟩
    · rw [h]
      exact .nothing
    · rw [h]
      exact .updated hsucceeds
  | rekey expectedGeneration vault =>
    change d.Effect _ (d.advance expectedGeneration vault).2
    rcases d.advance_cases expectedGeneration vault with h | ⟨hsucceeds, h⟩
    · rw [h]
      exact .nothing
    · rw [h]
      exact .rekeyed hsucceeds
  | lock => exact .dropped
  | resetCommit attemptId => exact .reset
  | recoveryComplete attemptId => exact .recovered
  | _ => exact .nothing

theorem serve_answers (r : DeviceRequest) (result : r.Result)
    (h : (d.serve deviceId r).1 = .ok result) :
    (d.serve deviceId r).2.Answers deviceId r result := by
  cases r with
  | hello =>
    cases h
    exact d.greeting_reports deviceId
  | deliver delivery =>
    change (d.takeSession delivery).grant = none ∨ (d.takeSession delivery).grant = some delivery
    unfold takeSession
    split
    · exact .inl rfl
    · exact .inr rfl
  | _ => trivial

/-- A Device that serves so is a Device of its model. -/
theorem serve_handles (r : DeviceRequest) : (model deviceId).Handles d r
    (d.serve deviceId r).1.toOption (d.serve deviceId r).2 :=
  ⟨d.serve_effect deviceId r, fun result h =>
    d.serve_answers deviceId r result (toOption_some h)⟩

end DeviceData

section
variable {δ : Type} (serve : (r : DeviceRequest) → δ → Except Thrown r.Result × δ)

/-- A request is made and served. -/
def serveRequest (r : DeviceRequest) (s : Pair δ) : Except Thrown r.Result × Pair δ :=
  ((serve r s.device).1, s.requested r (serve r s.device).2 none)

/-- A transaction takes place, or its check fails. -/
def applyStore (call : StoreCall) (s : Pair δ) : Except Thrown call.Result × Pair δ :=
  match call.apply s.stores with
  | .ok result => (.ok result.1, s.withStores result.2)
  | .error e => (.error e, s)

/-- The call without faults. -/
def faultFree : (call : ManagementCall) → Pair δ → Except Thrown call.Result × Pair δ
  | .self, s => (.ok s.memory, s)
  | .assign change, s => (.ok (), s.withMemory (change s.memory))
  | .store call, s => applyStore call s
  | .request r, s => serveRequest serve r s

theorem applyStore_step (call : StoreCall) (s : Pair δ) :
    StoreStep call s (applyStore call s).1 (applyStore call s).2 := by
  unfold applyStore
  split
  · rename_i result hresult
    exact .inl ⟨result, hresult, rfl, rfl⟩
  · rename_i e he
    exact .inr ⟨e, rfl, rfl⟩

variable {serve} {M : DeviceModel δ}

theorem serveRequest_step {r : DeviceRequest} {s : Pair δ}
    (h : M.Handles s.device r (serve r s.device).1.toOption (serve r s.device).2) :
    RequestStep M r s (serveRequest serve r s).1 (serveRequest serve r s).2 := by
  unfold serveRequest
  cases hresult : (serve r s.device).1 with
  | ok result =>
    rw [hresult] at h
    exact .answered (.inl rfl) h
  | error e =>
    rw [hresult] at h
    exact .failed (.inl rfl) h

/-- A Device that serves as its model allows makes steps of the pair. -/
theorem faultFree_step (h : ∀ r d, M.Handles d r (serve r d).1.toOption (serve r d).2)
    (call : ManagementCall) (s : Pair δ) :
    Pair.step M call s (faultFree serve call s).1 (faultFree serve call s).2 := by
  cases call with
  | self => exact ⟨rfl, rfl⟩
  | assign change => exact ⟨rfl, rfl⟩
  | store call => exact applyStore_step call s
  | request r => exact serveRequest_step (h r s.device)

/-! ## Actions -/

variable (serve) (platform : Platform)

/-- What an action leaves. -/
def Action.after (a : Action) (s : Pair δ) : Pair δ :=
  ((a.program platform).run (faultFree serve) s).2

/-- What an action leaves that stops after its first request for which `last` holds. -/
def Action.cutAfter (last : DeviceRequest → Bool) (a : Action) (s : Pair δ) : Pair δ :=
  (a.program platform).runUntil (fun | .request r => last r | _ => false) (faultFree serve) s

variable {serve platform} (hserve : ∀ r d, M.Handles d r (serve r d).1.toOption (serve r d).2)
  {a : Action} {s : Pair δ}
include hserve

theorem Pair.Reachable.after (h : Pair.Reachable platform M s)
    (hassumes : a.Assumes platform s.stores) :
    Pair.Reachable platform M (a.after serve platform s) :=
  h.action hassumes (Stops.of_run (faultFree_step hserve) _ s)

theorem Pair.Reachable.cutAfter (h : Pair.Reachable platform M s)
    (hassumes : a.Assumes platform s.stores) (last : DeviceRequest → Bool) :
    Pair.Reachable platform M (a.cutAfter serve platform last s) := by
  obtain ⟨_, hrun⟩ := Stops.of_runUntil (fun | .request r => last r | _ => false)
    (faultFree_step hserve) (a.program platform) s
  exact h.action hassumes hrun

theorem Action.returned (h : ((a.program platform).run (faultFree serve) s).1.isOk = true) :
    Stops (Pair.step M) (a.program platform) s (some (.ok ())) (a.after serve platform s) := by
  have hrun := Stops.of_run (faultFree_step hserve) (a.program platform) s
  obtain ⟨⟨⟩, hok⟩ := ok_of_isOk h
  rwa [hok] at hrun

end

end M5Auth.Web
