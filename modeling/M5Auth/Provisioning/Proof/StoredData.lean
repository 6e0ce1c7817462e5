import M5Auth.Provisioning.Proof.PowerLoss
import M5Auth.Provisioning.Proof.TrustedBrowser
import M5Auth.Registration.Proof.StoredRecord
import M5Auth.VaultRuntime.Proof.StoredVault

/-!
# What a Device keeps

`keptVault` and `keptRecord` are the Vault and the registration that a start of the Device finds.
Only six requests touch them: `copy_of_step` and `record_of_step` say so of all other inputs, and
one lemma for each request says what it may leave when its NVS calls fail, also by a loss of power
(`vaultUpdate_kept`, `vaultRekey_kept`, `vaultInstall_kept`, `factoryResetCommit_kept`,
`recoveryComplete_kept`, and `complete_kept` of `StoredRuns`).

`Mirrored` is the invariant of a Device whose NVS calls work while it has power: it shows what it
keeps, and a key for a new Vault waits only where there is neither Vault nor registration.
-/

namespace M5Auth.Provisioning

open FaultyStore VaultRuntime Vault
open Registration (DeviceIdCandidate HasDeviceId Record storedRecord)
open Registration.Store (Sound Truthful)

/-- The requests that write or erase the Vault. -/
def RequestOperation.stores : RequestOperation → Bool
  | .vaultInstall | .vaultUpdate | .vaultRekey | .factoryResetCommit | .recoveryComplete => true
  | _ => false

namespace Device

variable {σ : Type} {env : Env σ} {deviceId : DeviceIdCandidate} {d d' : Device AuthNvs}

/-- The Vault that a start finds. -/
def keptVault (d : Device AuthNvs) : Option VaultEnvelope :=
  storedVault d.runtime.persistence.content

/-- The registration that a start finds. -/
def keptRecord (importKey : Registration.P256PublicKey → Bool) (d : Device AuthNvs) :
    Option Record :=
  storedRecord importKey d.stored

/-- The pending key waits for the Vault of a new registration. -/
def AwaitsVault (d : Device AuthNvs) : Prop :=
  d.sink.pending = true ∧
    (d.sink.context.operation = .initialProvisioning ∨ d.sink.context.operation = .recovery)

/-- The Device shows what it keeps. -/
structure Mirrored (env : Env σ) (deviceId : DeviceIdCandidate) (d : Device AuthNvs) : Prop where
  runtime : Runtime.Inv d.runtime
  vault : Runtime.Mirrors d.runtime
  auth : AuthInv d
  truthful : Truthful env.prims.importKey d.registration
  registration : d.registration.Mirrors env.prims.importKey
  deviceId : HasDeviceId deviceId d.stored
  unregistered : d.AwaitsVault → d.registration.snapshot.registrationPresent = false

/-- All NVS calls of the Device work. -/
structure Steady (d : Device AuthNvs) : Prop where
  vault : d.runtime.persistence.Steady
  registration : d.registration.nvs.Steady

namespace Mirrored

theorem keptVault_eq (h : Mirrored env deviceId d) :
    d.keptVault = if d.runtime.hasVault then some d.runtime.envelope else none := h.vault.copy

theorem keptRecord_eq (h : Mirrored env deviceId d) : d.keptRecord env.prims.importKey =
    if d.registration.snapshot.registrationPresent then some d.registration.snapshot.toRecord
    else none := h.registration

/-- Where a key waits for a new Vault the Device keeps nothing. -/
theorem awaits_none (h : Mirrored env deviceId d) (ha : d.AwaitsVault) :
    d.keptVault = none ∧ d.keptRecord env.prims.importKey = none := by
  rw [h.keptVault_eq, h.keptRecord_eq, h.auth.noVault ha.1 ha.2, h.unregistered ha]
  exact ⟨rfl, rfl⟩

/-- Before a loss of power. -/
theorem cutAt (h : Mirrored env deviceId d) (hs : d.Steady) (vault registration : Nat) :
    Mirrored env deviceId (d.cutAt vault registration) where
  runtime := h.runtime.withPersistence _
  vault := ⟨h.vault.copy, h.vault.loads⟩
  auth := h.auth.of_withdraws ((Withdraws.refl d).of_store _ _ _ _) fun _ hv => hv
  truthful := ⟨hs.registration.cut .other registration, h.truthful.registered,
    h.truthful.identity, h.truthful.corruptId⟩
  registration := h.registration
  deviceId := h.deviceId
  unregistered := h.unregistered

end Mirrored

/-! ## Requests that store nothing -/

/-- A persistence whose calls do nothing. -/
def inert (σ : Type) : Persistence σ where
  load w := ((.io, {}), w)
  formatSchema2 w := (.io, w)
  replaceEnvelope _ _ w := (.io, w)
  setLastUsed _ w := (.io, w)
  eraseAll w := (.io, w)

/-- The environment with the persistence that does nothing. -/
def inertEnv (env : Env σ) : Env AuthNvs := { env.onNvs with persistence := inert AuthNvs }

/-- A request that stores nothing does not use the persistence. -/
theorem handleRequest_inert (d : Device AuthNvs) {frame : Frame} (line : List UInt8) (m : Moment)
    (h : frame.operation.stores = false) :
    d.handleRequest env.onNvs frame line m = d.handleRequest (inertEnv env) frame line m := by
  unfold handleRequest
  cases hop : frame.operation with
  | vaultInstall | vaultUpdate | vaultRekey | factoryResetCommit | recoveryComplete =>
    rw [hop] at h
    cases h
  | _ => rfl

/-- The input asks for nothing to be stored or erased. -/
def Input.Harmless (env : Env σ) (i : Input) : Prop :=
  ∀ line m frame, i = .line line m → Accepted env.onNvs line frame → frame.operation.stores = false

theorem dispatch_inert (d : Device AuthNvs) {line : List UInt8} {m : Moment}
    (h : (Input.line line m).Harmless env) :
    d.dispatch env.onNvs line m = d.dispatch (inertEnv env) line m := by
  unfold dispatch
  split
  · rfl
  rename_i hne
  split
  · rfl
  rename_i hlen
  have hparse : (inertEnv env).parse = env.onNvs.parse := rfl
  rw [hparse]
  cases hread : readFrame env.onNvs.parse line with
  | error e => rfl
  | ok frame =>
    exact handleRequest_inert d line m
      (h line m frame rfl ⟨by simpa using hne, Nat.not_lt.1 hlen, hread⟩)

section
open VaultRuntime.Runtime (SameCopy)

/-- A tame call keeps the copy of the Vault, if the persistence does nothing. -/
theorem sameCopy_step {gcm : GcmOpen} (rt : Runtime AuthNvs) {call : Call}
    (h : call.tame = true) : SameCopy rt (rt.step (inert AuthNvs) gcm call) := by
  have hresident {call : Call} (hcall : call = .listCredentials ∨
      (∃ id c, call = .withCredential id c) ∨ (∃ c, call = .withWifi c) ∨
      ∃ id, call = .setLastUsed id) : SameCopy rt (rt.step (inert AuthNvs) gcm call) := by
    rcases Runtime.resident_cases (inert AuthNvs) gcm rt hcall with
      he | ⟨_, _, _, w, hw, he⟩ | ⟨_, _, _, he⟩
    · rw [he]
      exact .refl rt
    · obtain ⟨-, rfl⟩ := Prod.mk.inj hw
      rcases he with he | he <;> rw [he] <;> exact ⟨rfl, rfl, rfl, rfl⟩
    · rw [he]
      exact ⟨rfl, rfl, rfl, rfl⟩
  cases call with
  | lock | enterRecoveryBoundary => exact .lock rt
  | enterVmkRekeyBoundary => exact .enterVmkRekeyBoundary rt
  | updateEncryptedVault expected envelope nowMs =>
    by_cases hadm : Runtime.AdmitsUpdate gcm rt expected envelope
    · rcases Runtime.update_admitted (P := inert AuthNvs) nowMs hadm rfl with ⟨_, he⟩ | ⟨hok, _⟩
      · simp only [Runtime.step, Runtime.exec, he]
        exact ⟨rfl, rfl, rfl, rfl⟩
      · cases hok
    · obtain ⟨_, _, he⟩ := Runtime.update_refused (inert AuthNvs) nowMs hadm
      simp only [Runtime.step, Runtime.exec, he]
      exact .refl rt
  | listCredentials => exact hresident (.inl rfl)
  | withCredential credentialId consumer => exact hresident (.inr (.inl ⟨_, _, rfl⟩))
  | withWifi consumer => exact hresident (.inr (.inr (.inl ⟨_, rfl⟩)))
  | setLastUsed credentialId => exact hresident (.inr (.inr (.inr ⟨_, rfl⟩)))
  | _ => cases h

theorem sameCopy_reaches {gcm : GcmOpen} {rt rt' : Runtime AuthNvs}
    (h : Runtime.Reaches (inert AuthNvs) gcm (·.tame = true) rt rt') : SameCopy rt rt' := by
  induction h with
  | refl => exact .refl rt
  | tail _ hstep ih =>
    obtain ⟨call, htame, rfl⟩ := hstep
    exact ih.trans (sameCopy_step _ htame)

theorem sameCopy_delivered {vmk : Vmk} {timerMs : UInt64}
    (h : Delivered (inertEnv env) d vmk timerMs d') : SameCopy d.runtime d'.runtime := by
  cases h with
  | dropped _ hrt => exact hrt ▸ .refl _
  | held _ _ _ _ hrt => exact hrt ▸ .refl _
  | tried _ _ hrt =>
    rcases hrt with hrt | hrt <;> rw [hrt]
    · exact .unlock _ _ _ _
    · exact (SameCopy.unlock _ _ _ _).trans (.lock _)

theorem sameCopy_request {frame : Frame} {m : Moment} {response : Response}
    (hstores : frame.operation.stores = false)
    (h : RequestEffect (inertEnv env) d frame m response d') : SameCopy d.runtime d'.runtime := by
  cases h with
  | session h =>
    cases h with
    | quiet h => exact sameCopy_reaches h.calls
    | begun _ _ h => exact sameCopy_reaches h.calls
    | authorized _ _ _ h => exact h.runtime ▸ .refl _
    | completed _ h => exact sameCopy_delivered h.delivered
  | resetBegun _ _ h => exact sameCopy_reaches h.calls
  | resetDone kind h =>
    rw [h.operation] at hstores
    cases kind <;> cases hstores
  | installed h =>
    rw [h.operation] at hstores
    cases hstores
  | rekeyed h =>
    rw [h.operation] at hstores
    cases hstores

theorem sameCopy_housekeeping (d : Device AuthNvs) (nowMs : UInt64) :
    SameCopy d.runtime (d.housekeeping nowMs).runtime := by
  rw [housekeeping_runtime]
  split
  · exact .lock _
  · exact .refl _

/-- A harmless line keeps the copy of the Vault. -/
theorem sameCopy_line {line : List UInt8} {m : Moment}
    (h : (Input.line line m).Harmless env) :
    SameCopy d.runtime (d.step env.onNvs (.line line m)).runtime := by
  have hstep : d.step env.onNvs (.line line m) = d.step (inertEnv env) (.line line m) :=
    congrArg Prod.snd (dispatch_inert _ h)
  rw [hstep]
  cases step_cases (inertEnv env) d (.line line m) with
  | quiet h => exact sameCopy_reaches h.calls
  | pressed h => exact h.runtime ▸ .refl _
  | request line' m' frame response hi hacc heffect =>
    cases hi
    exact (sameCopy_housekeeping d m.nowMs).trans (sameCopy_request (h line m frame rfl
      ⟨hacc.nonempty, hacc.short, hacc.read⟩) heffect)

end

/-- **Only a storing request touches the stored Vault.** -/
theorem copy_of_step (h : Mirrored env deviceId d) {i : Input} (hi : i.Harmless env) :
    (d.step env.onNvs i).keptVault = d.keptVault := by
  cases i with
  | line line m => exact (sameCopy_line hi).stored
  | housekeeping nowMs => exact (sameCopy_housekeeping d nowMs).stored
  | disconnect => rw [keptVault, step, disconnect_runtime]; rfl
  | observeButton pressed => rfl
  | buttonPressed nowMs => rfl
  | expirePresence nowMs => rfl
  | resident use =>
    have hcall : use.call = .listCredentials ∨ (∃ id c, use.call = .withCredential id c) ∨
        (∃ c, use.call = .withWifi c) ∨ ∃ id, use.call = .setLastUsed id := by
      cases use with
      | listCredentials => exact .inl rfl
      | withCredential credentialId consumer => exact .inr (.inl ⟨_, _, rfl⟩)
      | withWifi consumer => exact .inr (.inr (.inl ⟨_, rfl⟩))
      | setLastUsed credentialId => exact .inr (.inr (.inr ⟨_, rfl⟩))
    exact (Runtime.resident_stored h.vault h.runtime hcall).2

variable (env d) in
/-- **Only four requests touch the stored registration.** -/
theorem record_of_step {i : Input} (hi : ∀ line m frame, i = .line line m →
      Accepted env.onNvs line frame → frame.operation ≠ .session .complete ∧
        frame.operation ≠ .vaultInstall ∧ ∀ kind : ResetKind, frame.operation ≠ kind.doneOperation) :
    (d.step env.onNvs i).registration = d.registration := by
  rcases registration_cases env.onNvs d i with hreg | ⟨line, m, frame, rfl, hacc, heffect⟩
  · exact hreg
  obtain ⟨hcomplete, hinstall, hreset⟩ := hi line m frame rfl hacc
  cases heffect with
  | kept hreg => exact hreg.trans (quiet_housekeeping env.onNvs d m.nowMs).registration
  | installed _ hop _ => exact absurd hop hinstall
  | replaced hop _ _ _ _ => exact absurd hop hcomplete
  | cleared kind h _ => exact absurd h.operation (hreset kind)

/-! ## Requests that store -/

/-- The parts that a quiet step leaves keep the invariant. -/
theorem Mirrored.of_withdraws (h : Mirrored env deviceId d) (hw : Withdraws d d')
    (hcopy : VaultRuntime.Runtime.SameCopy d.runtime d'.runtime)
    (hinv : VaultRuntime.Runtime.Inv d'.runtime) (hreg : d'.registration = d.registration) :
    Mirrored env deviceId d' where
  runtime := hinv
  vault := h.vault.of_same hcopy
  auth := h.auth.of_withdraws hw fun _ hv => hcopy.hasVault.trans hv
  truthful := by rw [hreg]; exact h.truthful
  registration := by rw [hreg]; exact h.registration
  deviceId := by rw [stored, hreg]; exact h.deviceId
  unregistered ha := by
    obtain ⟨hp, hctx, _⟩ := hw.pending ha.1
    rw [hreg]
    exact h.unregistered ⟨hp, hctx ▸ ha.2⟩

theorem Mirrored.housekeeping (h : Mirrored env deviceId d) (nowMs : UInt64) :
    Mirrored env deviceId (d.housekeeping nowMs) := by
  have hq := quiet_housekeeping env.onNvs d nowMs
  refine h.of_withdraws hq.toWithdraws (sameCopy_housekeeping d nowMs) ?_ hq.registration
  rw [housekeeping_runtime]
  split
  · exact h.runtime.lock
  · exact h.runtime

theorem keptVault_housekeeping (d : Device AuthNvs) (nowMs : UInt64) :
    (d.housekeeping nowMs).keptVault = d.keptVault := (sameCopy_housekeeping d nowMs).stored

theorem keptRecord_housekeeping (env : Env σ) (d : Device AuthNvs) (nowMs : UInt64) :
    (d.housekeeping nowMs).keptRecord env.prims.importKey = d.keptRecord env.prims.importKey := by
  rw [keptRecord, stored, (quiet_housekeeping env.onNvs d nowMs).registration]
  rfl

/-- The envelope is the next generation of the stored Vault. -/
def Advances (d : Device AuthNvs) (expected : UInt64) (envelope : VaultEnvelope) : Prop :=
  ∃ old, d.keptVault = some old ∧ envelope.vaultId = old.vaultId ∧ old.generation = expected ∧
    envelope.generation.toNat = expected.toNat + 1

theorem advances_of_successor (hm : VaultRuntime.Runtime.Mirrors d.runtime)
    (hv : d.runtime.hasVault = true) {expected : UInt64} {envelope : VaultEnvelope}
    (h : d.runtime.checkSuccessor expected envelope = .ok) : d.Advances expected envelope := by
  unfold Runtime.checkSuccessor at h
  split at h
  · cases h
  rename_i hnot
  simp only [not_or, not_not] at hnot
  obtain ⟨hgeneration, hmax, hnext, hid⟩ := hnot
  refine ⟨_, hm.stored_some hv, hid, hgeneration.symm, ?_⟩
  have hlt := expected.toNat_lt
  have hne : expected.toNat ≠ 18446744073709551615 := fun he => hmax (UInt64.toNat.inj he)
  rw [hnext, UInt64.toNat_add]
  exact Nat.mod_eq_of_lt (by simp; omega)

variable (env) in
/-- `vault.update` leaves the stored Vault or its next generation. -/
theorem vaultUpdate_kept (hm : VaultRuntime.Runtime.Mirrors d.runtime) (id : Nat) (params : Json)
    (nowMs : UInt64) :
    (d.vaultUpdate env.onNvs id params nowMs).2.keptVault = d.keptVault ∨
      ∃ envelope expected, parseReplacement params = some (envelope, expected) ∧
        d.Advances expected envelope ∧
        (d.vaultUpdate env.onNvs id params nowMs).2.keptVault = some envelope := by
  unfold vaultUpdate
  cases hparse : parseReplacement params with
  | none => exact .inl rfl
  | some request =>
    obtain ⟨envelope, expected⟩ := request
    have hstored := Runtime.update_stored env.prims.gcm hm expected envelope nowMs
    dsimp only at hstored ⊢
    rcases hu : d.runtime.updateEncryptedVault compatibleNvsPersistence env.prims.gcm expected
      envelope nowMs with ⟨⟨status, lockDue⟩, rt⟩
    rw [hu] at hstored
    have hu' : d.runtime.updateEncryptedVault env.onNvs.persistence env.onNvs.prims.gcm expected
      envelope nowMs = ((status, lockDue), rt) := hu
    rw [hu']
    have hcase : storedVault rt.persistence.content = d.keptVault ∨
        ∃ envelope' expected', some (envelope, expected) = some (envelope', expected') ∧
          d.Advances expected' envelope' ∧
          storedVault rt.persistence.content = some envelope' :=
      hstored.imp_right fun ⟨hadm, hnew⟩ => ⟨envelope, expected, rfl,
        advances_of_successor hm hadm.2.2.2.1 hadm.2.2.2.2.1, hnew⟩
    dsimp only
    split
    · rw [keptVault, lockSecurityBoundary_runtime, (VaultRuntime.Runtime.SameCopy.lock _).stored]
      exact hcase
    · exact hcase

variable (env) in
/-- `vault.rekey` leaves the stored Vault or its next generation, under a key that waits for it. -/
theorem vaultRekey_kept (hm : VaultRuntime.Runtime.Mirrors d.runtime) (id : Nat) (params : Json)
    (nowMs : UInt64) :
    (d.vaultRekey env.onNvs id params nowMs).2.keptVault = d.keptVault ∨
      ∃ envelope expected, parseReplacement params = some (envelope, expected) ∧
        d.Advances expected envelope ∧ d.sink.context.operation = .vmkRekey ∧
        (d.vaultRekey env.onNvs id params nowMs).2.keptVault = some envelope := by
  unfold vaultRekey
  cases hparse : parseReplacement params with
  | none => exact .inl rfl
  | some request =>
    obtain ⟨envelope, expected⟩ := request
    dsimp only
    have hinstall : (d.installRekeyedVault env.onNvs expected envelope nowMs).2.keptVault =
          d.keptVault ∨ (d.Advances expected envelope ∧ d.sink.context.operation = .vmkRekey ∧
        (d.installRekeyedVault env.onNvs expected envelope nowMs).2.keptVault =
          some envelope) := by
      unfold installRekeyedVault
      dsimp only
      split
      · left
        rw [keptVault, cancelPending_runtime, expirePending_runtime]
        rfl
      · rename_i hg
        simp only [Bool.or_eq_true, not_or, Bool.not_eq_true', Bool.not_eq_false] at hg
        obtain ⟨he, _, hctx⟩ := pending_of_valid d hg.1.1.1
        rw [he]
        have hstored := Runtime.rekey_stored env.prims.gcm hm expected envelope d.sink.vmk
        exact hstored.imp_right fun ⟨hadm, hnew⟩ =>
          ⟨advances_of_successor hm hadm.2.2.2.1 hadm.2.2.2.2.2.1, hctx, hnew⟩
    rcases hr : d.installRekeyedVault env.onNvs expected envelope nowMs with ⟨ok, d'⟩
    rw [hr] at hinstall
    have hcase : d'.keptVault = d.keptVault ∨
        ∃ envelope' expected', some (envelope, expected) = some (envelope', expected') ∧
          d.Advances expected' envelope' ∧ d.sink.context.operation = .vmkRekey ∧
          d'.keptVault = some envelope' :=
      hinstall.imp_right fun ⟨hadv, hctx, hnew⟩ => ⟨envelope, expected, rfl, hadv, hctx, hnew⟩
    cases ok with
    | false => exact hcase
    | true =>
      dsimp only
      split
      · rw [keptVault, lockSecurityBoundary_runtime,
          (VaultRuntime.Runtime.SameCopy.lock _).stored]
        exact hcase
      · exact hcase

/-- The registration of a Vault that is installed under the pending key. -/
def firstRecord (context : Session.BeginContext) : Record where
  vaultId := context.vaultId
  registrationId := context.registrationId
  epoch := 1
  brkPublicKey := context.proposedBrkPublicKey

/-- A format and an installation leave nothing, or the new Vault. -/
theorem provision_stored {rt rt' : VaultRuntime.Runtime AuthNvs} {envelope : VaultEnvelope}
    {vmk : Vmk} {nowMs : UInt64} {status : VaultRuntime.Status}
    (hnone : storedVault rt.persistence.content = none)
    (h : provision env.onNvs rt envelope vmk nowMs = (status, rt')) :
    (storedVault rt'.persistence.content = none ∨
      storedVault rt'.persistence.content = some envelope) ∧
    (status = .ok → storedVault rt'.persistence.content = some envelope) := by
  unfold provision at h
  rcases hf : rt.formatForSchema2 env.onNvs.persistence with ⟨st₁, rt₁⟩
  obtain ⟨hsame, hloads⟩ := Runtime.format_stored rt hf
  have hnone₁ : storedVault rt₁.persistence.content = none :=
    hsame.elim (fun he => he.trans hnone) id
  rw [hf] at h
  by_cases hok₁ : st₁ = .ok
  swap
  · have he : (st₁, rt₁) = (status, rt') := by
      cases st₁ <;> first | exact absurd rfl hok₁ | exact h
    obtain ⟨rfl, rfl⟩ := Prod.mk.inj he
    exact ⟨.inl hnone₁, fun hok => absurd hok hok₁⟩
  subst hok₁
  dsimp only at h
  rcases hi : rt₁.installEncryptedVault env.onNvs.persistence env.onNvs.prims.gcm envelope vmk with
    ⟨st₂, rt₂⟩
  obtain ⟨hcase, hnew⟩ := Runtime.install_stored (hloads rfl).1 hi
  rw [hnone₁] at hcase
  rw [hi] at h
  by_cases hok₂ : st₂ = .ok
  swap
  · have he : (st₂, rt₂) = (status, rt') := by
      cases st₂ <;> first | exact absurd rfl hok₂ | exact h
    obtain ⟨rfl, rfl⟩ := Prod.mk.inj he
    exact ⟨hcase, fun hok => absurd hok hok₂⟩
  subst hok₂
  have hunlock := (VaultRuntime.Runtime.SameCopy.unlock env.onNvs.prims.gcm rt₂ vmk nowMs).stored
  have he : rt₂.unlock env.onNvs.prims.gcm vmk nowMs = (status, rt') := h
  rw [he] at hunlock
  have hend := hunlock.trans (hnew rfl)
  exact ⟨.inr hend, fun _ => hend⟩

/-- A reset after a failure leaves the Vault, or nothing. -/
theorem rolledBack_stored (rt : VaultRuntime.Runtime AuthNvs) {envelope : VaultEnvelope}
    (h : storedVault rt.persistence.content = none ∨
      storedVault rt.persistence.content = some envelope) :
    storedVault (rt.factoryReset env.onNvs.persistence).2.persistence.content = none ∨
      storedVault (rt.factoryReset env.onNvs.persistence).2.persistence.content =
        some envelope := by
  rcases (Runtime.reset_stored rt (Prod.eta (rt.factoryReset compatibleNvsPersistence)).symm).1 with
    he | he
  · exact h.imp he.trans he.trans
  · exact .inl he

variable (env) in
/-- An installation where nothing is stored leaves nothing, or the Vault, or the Vault and the
registration of the pending key. -/
theorem installVault_kept (d : Device AuthNvs) (hvault : d.keptVault = none)
    (hrecord : d.keptRecord env.prims.importKey = none)
    (ht : Truthful env.prims.importKey d.registration) (envelope : VaultEnvelope)
    (nowMs : UInt64) :
    ((d.installVault env.onNvs envelope nowMs).2.keptVault = none ∧
      (d.installVault env.onNvs envelope nowMs).2.keptRecord env.prims.importKey = none) ∨
    ((d.installVault env.onNvs envelope nowMs).2.keptVault = some envelope ∧
      ((d.installVault env.onNvs envelope nowMs).2.keptRecord env.prims.importKey = none ∨
        (d.installVault env.onNvs envelope nowMs).2.keptRecord env.prims.importKey =
          some (firstRecord d.sink.context))) := by
  have hsplit {d' : Device AuthNvs} (hv : d'.keptVault = none ∨ d'.keptVault = some envelope)
      (hr : d'.keptRecord env.prims.importKey = none) :
      (d'.keptVault = none ∧ d'.keptRecord env.prims.importKey = none) ∨
        (d'.keptVault = some envelope ∧ (d'.keptRecord env.prims.importKey = none ∨
          d'.keptRecord env.prims.importKey = some (firstRecord d.sink.context))) :=
    hv.imp (⟨·, hr⟩) (⟨·, .inl hr⟩)
  unfold installVault
  rcases hp : provision env.onNvs d.runtime envelope d.sink.vmk nowMs with ⟨status, rt⟩
  obtain ⟨hcase, hnew⟩ := provision_stored hvault hp
  dsimp only
  split
  · exact hsplit (rolledBack_stored rt hcase) hrecord
  rename_i hok
  rw [ne_eq, not_not] at hok
  rcases hi : d.registration.installInitial env.onNvs.prims.importKey
    { vaultId := d.sink.context.vaultId, registrationId := d.sink.context.registrationId
      epoch := 1, brkPublicKey := d.sink.context.proposedBrkPublicKey } with ⟨status', reg⟩
  have hinstall := Registration.Store.installInitial_stored ht _ hi
  dsimp only
  split
  · rename_i hne
    exact hsplit (rolledBack_stored rt hcase)
      ((hinstall.resolve_left fun h => hne h.1).2.trans hrecord)
  · rename_i hok'
    rw [ne_eq, not_not] at hok'
    exact .inr ⟨hnew hok, .inr (hinstall.resolve_right fun h => h.1 hok').2.2⟩

/-- What `vault.install` leaves of a Device that awaits the Vault. -/
structure Installs (env : Env σ) (d : Device AuthNvs) (params : Json) (d' : Device AuthNvs)
    (envelope : VaultEnvelope) : Prop where
  request : readEnvelope params = some envelope
  awaits : d.AwaitsVault
  vaultId : envelope.vaultId = d.sink.context.vaultId
  vault : d'.keptVault = some envelope
  registration : d'.keptRecord env.prims.importKey = none ∨
    d'.keptRecord env.prims.importKey = some (firstRecord d.sink.context)

/-- What `vault.install` leaves: what was kept before, or a new Vault. -/
def AfterInstall (env : Env σ) (d : Device AuthNvs) (params : Json) (d' : Device AuthNvs) : Prop :=
  (d'.keptVault = d.keptVault ∧
    d'.keptRecord env.prims.importKey = d.keptRecord env.prims.importKey) ∨
  ∃ envelope, Installs env d params d' envelope

variable (env) in
/-- The two installations differ in their checks only. -/
theorem installs_of_cases (h : Mirrored env deviceId d) {operation : Session.Operation}
    {envelope : VaultEnvelope} {params : Json} {nowMs : UInt64} {guard : Bool}
    (generation : UInt64) (hread : readEnvelope params = some envelope)
    (hop : operation = .initialProvisioning ∨ operation = .recovery)
    (hg : guard = false → (d.expirePending nowMs).pendingValid operation = true ∧
      envelopeMatchesPending envelope (d.expirePending nowMs).sink.context generation = true) :
    AfterInstall env d params (if guard then (false, (d.expirePending nowMs).cancelPending)
      else (d.expirePending nowMs).installVault env.onNvs envelope nowMs).2 := by
  have hquiet : Quiet env.onNvs d (d.expirePending nowMs) := quiet_expirePending d nowMs
  cases guard with
  | true =>
    left
    refine ⟨?_, ?_⟩
    · show storedVault (d.expirePending nowMs).runtime.persistence.content = _
      rw [expirePending_runtime]
      rfl
    · show storedRecord env.prims.importKey (d.expirePending nowMs).stored = _
      rw [stored, hquiet.registration]
      rfl
  | false =>
    obtain ⟨hvalid, hmatches⟩ := hg rfl
    obtain ⟨he, hpend, hctx⟩ := pending_of_valid d hvalid
    have hawaits : d.AwaitsVault := ⟨hpend, hctx ▸ hop⟩
    obtain ⟨hvault, hrecord⟩ := h.awaits_none hawaits
    rw [he] at hmatches ⊢
    simp only [envelopeMatchesPending, Bool.and_eq_true, beq_iff_eq] at hmatches
    rcases installVault_kept env d hvault hrecord h.truthful envelope nowMs with hsame | hnew
    · exact .inl ⟨hsame.1.trans hvault.symm, hsame.2.trans hrecord.symm⟩
    · exact .inr ⟨envelope, hread, hawaits, hmatches.1.1.2, hnew.1, hnew.2⟩

theorem installInitialVault_kept (h : Mirrored env deviceId d) {params : Json}
    {envelope : VaultEnvelope} (hread : readEnvelope params = some envelope) (nowMs : UInt64) :
    AfterInstall env d params (d.installInitialVault env.onNvs envelope nowMs).2 := by
  refine installs_of_cases env h 1 hread (.inl rfl) fun hg => ?_
  simp only [Bool.or_eq_false_iff, Bool.not_eq_false'] at hg
  exact ⟨hg.1.1.1.1, hg.2⟩

theorem installRecoveredVault_kept (h : Mirrored env deviceId d) {params : Json}
    {envelope : VaultEnvelope} (hread : readEnvelope params = some envelope) (nowMs : UInt64) :
    AfterInstall env d params (d.installRecoveredVault env.onNvs envelope nowMs).2 := by
  refine installs_of_cases env h (d.expirePending nowMs).sink.context.expectedGeneration hread
    (.inr rfl) fun hg => ?_
  simp only [Bool.or_eq_false_iff, Bool.not_eq_false'] at hg
  exact ⟨hg.1.1.1.1.1, hg.2⟩

theorem vaultInstall_kept (h : Mirrored env deviceId d) (id : Nat) (params : Json)
    (nowMs : UInt64) : AfterInstall env d params (d.vaultInstall env.onNvs id params nowMs).2 := by
  unfold vaultInstall
  split
  · exact .inl ⟨rfl, rfl⟩
  rename_i envelope hread
  split
  · exact .inl ⟨rfl, rfl⟩
  have hinitial := installInitialVault_kept h hread nowMs
  have hrecovered := installRecoveredVault_kept h hread nowMs
  split
  all_goals
    rename_i d' hresult
    split at hresult
    · rw [hresult] at hinitial
      exact hinitial
    · rw [hresult] at hrecovered
      exact hrecovered
    · obtain ⟨_, rfl⟩ := Prod.mk.inj hresult
      exact .inl ⟨rfl, rfl⟩

/-- What `factory_reset.commit` leaves: the Vault goes first. -/
def AfterCommit (env : Env σ) (d d' : Device AuthNvs) : Prop :=
  (d'.keptVault = d.keptVault ∨ d'.keptVault = none) ∧
    (d'.keptRecord env.prims.importKey = d.keptRecord env.prims.importKey ∨
      (d'.keptRecord env.prims.importKey = none ∧ d'.keptVault = none))

/-- What `factory_reset.recovery_complete` leaves: the registration goes first. -/
def AfterComplete (env : Env σ) (d d' : Device AuthNvs) : Prop :=
  (d'.keptRecord env.prims.importKey = d.keptRecord env.prims.importKey ∨
      d'.keptRecord env.prims.importKey = none) ∧
    (d'.keptVault = d.keptVault ∨
      (d'.keptVault = none ∧ d'.keptRecord env.prims.importKey = none))

variable (env) in
theorem commitReset_kept (d : Device AuthNvs) (id : Nat) (hw : d.registration.nvs.Untorn) :
    AfterCommit env d (d.commitReset env.onNvs id).2 := by
  rcases hv : d.runtime.factoryReset compatibleNvsPersistence with ⟨status, rt⟩
  obtain ⟨hvault, hgone⟩ := Runtime.reset_stored d.runtime hv
  have hv' : d.runtime.factoryReset env.onNvs.persistence = (status, rt) := hv
  unfold commitReset
  rw [hv']
  dsimp only
  split
  · exact ⟨hvault, .inl rfl⟩
  · rename_i hok
    rw [ne_eq, not_not] at hok
    have hrecord := (Registration.Store.clearRegistration_stored env.prims.importKey hw).1
    exact ⟨.inr (hgone hok), hrecord.imp_right fun hr => ⟨hr, hgone hok⟩⟩

theorem completeReset_kept (ht : Truthful env.prims.importKey d.registration)
    (hid : HasDeviceId deviceId d.stored) (id : Nat) :
    AfterComplete env d (d.completeReset env.onNvs id).2 := by
  obtain ⟨hrecord, hgone⟩ := Registration.Store.clearForRecovery_stored ht hid
  rcases hc : d.registration.clearForRecovery with ⟨status, reg⟩
  rw [hc] at hrecord hgone
  have hc' : (if d.registration.readSnapshot.1 = .corrupt then
      d.registration.clearCorruptRegistrationForRecovery
    else d.registration.clearRegistration) = (status, reg) := hc
  unfold completeReset
  rw [hc']
  dsimp only
  split
  · exact ⟨hrecord, .inl rfl⟩
  · rename_i hok
    rw [ne_eq, not_not] at hok
    have hvault := (Runtime.reset_stored d.runtime
      (Prod.eta (d.runtime.factoryReset compatibleNvsPersistence)).symm).1
    exact ⟨hrecord, hvault.imp_right fun hv => ⟨hv, hgone hok⟩⟩

theorem factoryResetCommit_kept (h : Mirrored env deviceId d) (id : Nat) (params : Json)
    (nowMs : UInt64) : AfterCommit env d (d.factoryResetCommit env.onNvs id params nowMs).2 := by
  have hsame {d' : Device AuthNvs} (hrt : d'.runtime = d.runtime)
      (hreg : d'.registration = d.registration) : AfterCommit env d d' := by
    rw [AfterCommit, keptVault, keptRecord, stored, hrt, hreg]
    exact ⟨.inl rfl, .inl rfl⟩
  unfold factoryResetCommit withHealthyAttempt
  split
  · exact hsame rfl rfl
  split
  · exact hsame (by simp) (by simp)
  · dsimp only
    split
    · exact hsame rfl rfl
    · rename_i presence _
      split
      · exact hsame rfl rfl
      · have hw : ((d.withPresence presence).withHealthyReset .cancel).disconnectSession
            |>.cancelPending.cancelRecoveryReset.registration.nvs.Untorn := by
          rw [cancelRecoveryReset_registration]
          exact h.truthful.untorn
        have hcommit := commitReset_kept env _ id hw
        rw [AfterCommit, keptVault, keptVault, keptRecord, keptRecord, stored, stored,
          cancelRecoveryReset_runtime, cancelRecoveryReset_registration] at hcommit
        exact hcommit
  · exact hsame rfl rfl

theorem recoveryComplete_kept (h : Mirrored env deviceId d) (id : Nat) (params : Json)
    (nowMs : UInt64) : AfterComplete env d (d.recoveryComplete env.onNvs id params nowMs).2 := by
  have hsame {d' : Device AuthNvs} (hrt : d'.runtime = d.runtime)
      (hreg : d'.registration = d.registration) : AfterComplete env d d' := by
    rw [AfterComplete, keptVault, keptRecord, stored, hrt, hreg]
    exact ⟨.inl rfl, .inl rfl⟩
  unfold recoveryComplete withRecoveryAttempt
  split
  · exact hsame rfl rfl
  split
  · exact hsame rfl rfl
  split
  · exact hsame (by simp) (by simp)
  dsimp only
  split
  · exact hsame rfl rfl
  · rename_i presence _
    split
    · exact hsame rfl rfl
    · exact completeReset_kept (d := (d.withPresence presence).withRecoveryReset {})
        h.truthful h.deviceId id

end Device

end M5Auth.Provisioning
