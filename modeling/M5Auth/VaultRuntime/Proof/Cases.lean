import M5Auth.VaultRuntime.Call

/-!
# What each runtime operation can do

One lemma for each operation that reaches the persistence or the crypto, listing its outcomes as
explicit runtimes. Every invariant of the runtime is derived from these lemmas; no later proof
unfolds an operation.
-/

namespace M5Auth.VaultRuntime.Runtime

open Vault

variable {σ : Type} {P : Persistence σ} {gcm : GcmOpen} {rt : Runtime σ}

/-! ## Session fields -/

@[simp] theorem clear_persistence : rt.clearUnlockSessionState.persistence = rt.persistence := rfl
@[simp] theorem clear_initialized : rt.clearUnlockSessionState.initialized = rt.initialized := rfl
@[simp] theorem clear_schemaReady : rt.clearUnlockSessionState.schemaReady = rt.schemaReady := rfl
@[simp] theorem clear_hasVault : rt.clearUnlockSessionState.hasVault = rt.hasVault := rfl
@[simp] theorem clear_state : rt.clearUnlockSessionState.state = rt.state := rfl
@[simp] theorem clear_envelope : rt.clearUnlockSessionState.envelope = rt.envelope := rfl
@[simp] theorem clear_allowed :
    rt.clearUnlockSessionState.recoveryResetAllowed = rt.recoveryResetAllowed := rfl
@[simp] theorem clear_unlocks : rt.clearUnlockSessionState.unlocks = rt.unlocks := rfl
@[simp] theorem clear_vmkPresent : rt.clearUnlockSessionState.vmkPresent = false := rfl
@[simp] theorem clear_lastUsed : rt.clearUnlockSessionState.lastUsed = rt.lastUsed := rfl

@[simp] theorem withPersistence_persistence (w : σ) : (rt.withPersistence w).persistence = w := rfl
@[simp] theorem withPersistence_initialized (w : σ) :
    (rt.withPersistence w).initialized = rt.initialized := rfl
@[simp] theorem withPersistence_state (w : σ) : (rt.withPersistence w).state = rt.state := rfl
@[simp] theorem withPersistence_hasVault (w : σ) :
    (rt.withPersistence w).hasVault = rt.hasVault := rfl
@[simp] theorem withPersistence_envelope (w : σ) :
    (rt.withPersistence w).envelope = rt.envelope := rfl
@[simp] theorem withPersistence_schemaReady (w : σ) :
    (rt.withPersistence w).schemaReady = rt.schemaReady := rfl
@[simp] theorem withPersistence_allowed (w : σ) :
    (rt.withPersistence w).recoveryResetAllowed = rt.recoveryResetAllowed := rfl
@[simp] theorem withPersistence_vmkPresent (w : σ) :
    (rt.withPersistence w).vmkPresent = rt.vmkPresent := rfl
@[simp] theorem withPersistence_unlocks (w : σ) :
    (rt.withPersistence w).unlocks = rt.unlocks := rfl
@[simp] theorem withPersistence_vmk (w : σ) : (rt.withPersistence w).vmk = rt.vmk := rfl
@[simp] theorem withPersistence_lastUsed (w : σ) :
    (rt.withPersistence w).lastUsed = rt.lastUsed := rfl
@[simp] theorem withPersistence_autoLockDays (w : σ) :
    (rt.withPersistence w).autoLockDays = rt.autoLockDays := rfl
@[simp] theorem withPersistence_unlockedSinceMs (w : σ) :
    (rt.withPersistence w).unlockedSinceMs = rt.unlockedSinceMs := rfl
@[simp] theorem withPersistence_unlockSessionActive (w : σ) :
    (rt.withPersistence w).unlockSessionActive = rt.unlockSessionActive := rfl

/-- The runtime that reloaded the snapshot `sn`: `kLocked` with its Vault, or `kUnprovisioned`. -/
def loaded (rt : Runtime σ) (world : σ) (sn : PersistedSnapshot) : Runtime σ :=
  { rt with
    persistence := world, recoveryResetAllowed := false, schemaReady := true,
    lastUsed := sn.lastUsed, hasVault := sn.hasVault,
    envelope := if sn.hasVault then sn.envelope else {},
    state := if sn.hasVault then .locked else .unprovisioned }.clearUnlockSessionState

@[simp] theorem loaded_hasVault (w : σ) (sn : PersistedSnapshot) :
    (rt.loaded w sn).hasVault = sn.hasVault := rfl
@[simp] theorem loaded_persistence (w : σ) (sn : PersistedSnapshot) :
    (rt.loaded w sn).persistence = w := rfl
@[simp] theorem loaded_initialized (w : σ) (sn : PersistedSnapshot) :
    (rt.loaded w sn).initialized = rt.initialized := rfl
@[simp] theorem loaded_unlocks (w : σ) (sn : PersistedSnapshot) :
    (rt.loaded w sn).unlocks = rt.unlocks := rfl
@[simp] theorem loaded_schemaReady (w : σ) (sn : PersistedSnapshot) :
    (rt.loaded w sn).schemaReady = true := rfl
@[simp] theorem loaded_allowed (w : σ) (sn : PersistedSnapshot) :
    (rt.loaded w sn).recoveryResetAllowed = false := rfl
@[simp] theorem loaded_state (w : σ) (sn : PersistedSnapshot) :
    (rt.loaded w sn).state = if sn.hasVault then .locked else .unprovisioned := rfl
@[simp] theorem loaded_envelope (w : σ) (sn : PersistedSnapshot) :
    (rt.loaded w sn).envelope = if sn.hasVault then sn.envelope else {} := rfl
@[simp] theorem loaded_vmkPresent (w : σ) (sn : PersistedSnapshot) :
    (rt.loaded w sn).vmkPresent = false := rfl
@[simp] theorem loaded_withPersistence (w w' : σ) (sn : PersistedSnapshot) :
    (rt.withPersistence w).loaded w' sn = rt.loaded w' sn := rfl

/-! ## Loading -/

/-- The reset permission after a load that shows `status` and `sn` and is not accepted. -/
def loadAllowed (status : Status) (sn : PersistedSnapshot) : Bool :=
  if status = .ok then !sn.schemaReady || isSupportedVaultFormat sn.envelope.vaultFormatVersion
  else explicitResetRecoveryStatus status

/-- A load is accepted: `kOk`, a schema, and a Vault only with valid framing. -/
def loadAccepted (status : Status) (sn : PersistedSnapshot) : Bool :=
  status == .ok && sn.schemaReady && (!sn.hasVault || validEnvelopeFraming sn.envelope)

theorem reload_cases (rt : Runtime σ) {status : Status} {sn : PersistedSnapshot} {world : σ}
    (hload : P.load rt.persistence = ((status, sn), world)) :
    (loadAccepted status sn = true ∧ rt.reloadAfterPersistence P = (.ok, rt.loaded world sn)) ∨
    (loadAccepted status sn = false ∧ ∃ st rt',
      rt.reloadAfterPersistence P = (st, rt') ∧ st ≠ .ok ∧ rt'.persistence = world ∧
      rt'.state = .error ∧ rt'.recoveryResetAllowed = loadAllowed status sn ∧
      rt'.vmkPresent = false ∧ rt'.initialized = rt.initialized ∧ rt'.unlocks = rt.unlocks ∧
      explicitResetRecoveryStatus st = loadAllowed status sn) := by
  unfold reloadAfterPersistence
  rw [hload]
  by_cases hst : status = .ok
  · subst hst
    cases hsr : sn.schemaReady
    · right
      simp [hsr, loadAccepted, loadAllowed, fail, explicitResetRecoveryStatus]
    · cases hv : sn.hasVault
      · left
        simp [hsr, hv, loadAccepted, loaded]
      · cases hf : validEnvelopeFraming sn.envelope
        · right
          cases hs : isSupportedVaultFormat sn.envelope.vaultFormatVersion <;>
            simp [hsr, hv, hf, hs, loadAccepted, loadAllowed, fail, explicitResetRecoveryStatus]
        · left
          simp [hsr, hv, hf, loadAccepted, loaded]
  · right
    simp [hst, loadAccepted, loadAllowed, fail]

theorem initializeRuntime_cases (rt : Runtime σ) {status : Status} {sn : PersistedSnapshot} {world : σ}
    (hload : P.load rt.persistence = ((status, sn), world)) :
    (loadAccepted status sn = true ∧
      rt.initializeRuntime P = (if sn.hasVault then .ok else .unprovisioned,
        { rt with initialized := true }.loaded world sn)) ∨
    (loadAccepted status sn = false ∧ ∃ st rt',
      rt.initializeRuntime P = (st, rt') ∧ st ≠ .ok ∧ rt'.persistence = world ∧
      rt'.initialized = true ∧ rt'.schemaReady = (status == .ok && sn.schemaReady) ∧
      rt'.hasVault = false ∧ rt'.unlocks = rt.unlocks ∧ rt'.vmkPresent = false ∧
      ((status = .unprovisioned ∧ rt'.state = .unprovisioned ∧
          rt'.recoveryResetAllowed = false) ∨
        (status = .reprovisionRequired ∧ rt'.state = .reprovisionRequired ∧
          rt'.recoveryResetAllowed = true) ∨
        (status ≠ .unprovisioned ∧ status ≠ .reprovisionRequired ∧ rt'.state = .error ∧
          rt'.recoveryResetAllowed = loadAllowed status sn))) := by
  unfold initializeRuntime
  simp only [clear_persistence, hload]
  by_cases hu : status = .unprovisioned
  · right
    simp [hu, loadAccepted]
  by_cases hr : status = .reprovisionRequired
  · right
    simp [hr, loadAccepted]
  by_cases hst : status = .ok
  · subst hst
    cases hsr : sn.schemaReady
    · right
      simp [hsr, loadAccepted, loadAllowed, fail]
    · cases hv : sn.hasVault
      · left
        simp [hsr, hv, loadAccepted, loaded, clearUnlockSessionState, wipeVmk]
      · cases hf : validEnvelopeFraming sn.envelope
        · right
          cases hs : isSupportedVaultFormat sn.envelope.vaultFormatVersion <;>
            simp [hsr, hv, hf, hs, loadAccepted, loadAllowed, fail]
        · left
          simp [hsr, hv, hf, loadAccepted, loaded, clearUnlockSessionState, wipeVmk]
  · right
    simp [hu, hr, hst, loadAccepted, loadAllowed, fail]

/-! ## Replacing the stored Vault -/

theorem validate_error_ne_ok {envelope : VaultEnvelope} {vmk : Vmk} {st : Status}
    (h : validateEnvelopeWithKey gcm envelope vmk = .error st) : st ≠ .ok := by
  rintro rfl
  unfold validateEnvelopeWithKey at h
  split at h
  · split at h <;> simp at h
  · split at h
    · simp at h
    · split at h
      · simp at h
      · split at h <;> simp at h

/-- The checks of `install_encrypted_vault` before it writes. -/
def AdmitsInstall (gcm : GcmOpen) (rt : Runtime σ) (envelope : VaultEnvelope) (vmk : Vmk) : Prop :=
  rt.initialized = true ∧ rt.schemaReady = true ∧ rt.state = .unprovisioned ∧
    rt.hasVault = false ∧ ∃ policy, validateEnvelopeWithKey gcm envelope vmk = .ok policy

/-- The checks of `update_encrypted_vault` before it writes. -/
def AdmitsUpdate (gcm : GcmOpen) (rt : Runtime σ) (expected : UInt64) (envelope : VaultEnvelope) :
    Prop :=
  rt.initialized = true ∧ rt.state = .unlocked ∧ rt.vmkPresent = true ∧ rt.hasVault = true ∧
    rt.checkSuccessor expected envelope = .ok ∧
    ∃ policy, validateEnvelopeWithKey gcm envelope rt.vmk = .ok policy

/-- The checks of `rekey_encrypted_vault` before it writes. -/
def AdmitsRekey (gcm : GcmOpen) (rt : Runtime σ) (expected : UInt64) (envelope : VaultEnvelope)
    (vmk : Vmk) : Prop :=
  rt.initialized = true ∧ rt.state = .locked ∧ rt.vmkPresent = false ∧ rt.hasVault = true ∧
    rt.unlockSessionActive = true ∧ rt.checkSuccessor expected envelope = .ok ∧
    ∃ policy, validateEnvelopeWithKey gcm envelope vmk = .ok policy

theorem install_refused (P : Persistence σ) {envelope : VaultEnvelope} {vmk : Vmk}
    (h : ¬ AdmitsInstall gcm rt envelope vmk) :
    ∃ st, st ≠ .ok ∧ rt.installEncryptedVault P gcm envelope vmk = (st, rt) := by
  unfold installEncryptedVault
  split
  · exact ⟨_, by simp, rfl⟩
  · split
    · exact ⟨_, by simp, rfl⟩
    · split
      · exact ⟨_, by simp, rfl⟩
      · rename_i hi hs hst
        split
        · rename_i st hval
          exact ⟨st, validate_error_ne_ok hval, rfl⟩
        · rename_i policy hval
          simp only [not_or, not_not, Bool.not_eq_true, Bool.not_eq_true', Bool.not_eq_false]
            at hi hs hst
          exact absurd ⟨hi, hs, hst.1, hst.2, policy, hval⟩ h

/-- `install_encrypted_vault` past its checks. -/
theorem install_admitted {envelope : VaultEnvelope} {vmk : Vmk}
    (h : AdmitsInstall gcm rt envelope vmk) {st : Status} {w : σ}
    (hrep : P.replaceEnvelope 0 envelope rt.persistence = (st, w)) :
    (st ≠ .ok ∧ rt.installEncryptedVault P gcm envelope vmk = (st, rt.withPersistence w)) ∨
    (st = .ok ∧ ∀ st' sn w', P.load w = ((st', sn), w') →
      (loadAccepted st' sn = true ∧ sn.hasVault = true ∧ sn.envelope = envelope ∧
        rt.installEncryptedVault P gcm envelope vmk = (.ok, rt.loaded w' sn)) ∨
      ((loadAccepted st' sn = false ∨ sn.hasVault = false ∨ sn.envelope ≠ envelope) ∧
        ∃ st'' rt', rt.installEncryptedVault P gcm envelope vmk = (st'', rt') ∧ st'' ≠ .ok ∧
          rt'.persistence = w' ∧ rt'.state = .error ∧ rt'.vmkPresent = false ∧
          rt'.initialized = true ∧ rt'.unlocks = rt.unlocks ∧
          rt'.recoveryResetAllowed = (loadAccepted st' sn || loadAllowed st' sn))) := by
  obtain ⟨hi, hs, hst, hv, policy, hval⟩ := h
  by_cases hok : st = .ok
  swap
  · exact .inl ⟨hok, by simp [installEncryptedVault, hi, hs, hst, hv, hval, hrep, hok]⟩
  subst hok
  refine .inr ⟨rfl, fun st' sn w' hload => ?_⟩
  rcases reload_cases (rt.withPersistence w) hload with
    ⟨hacc, hre⟩ | ⟨hrej, st'', rt', hre, hne, hw, herr, hall, hvmk, hini, hun, hexp⟩
  · by_cases hsame : sn.hasVault = true ∧ sn.envelope = envelope
    · exact .inl ⟨hacc, hsame.1, hsame.2, by
        simp [installEncryptedVault, hi, hs, hst, hv, hval, hrep, hre, hsame.1, hsame.2]⟩
    · have hdiff : sn.hasVault = false ∨ sn.envelope ≠ envelope := by
        rcases Decidable.not_and_iff_or_not.1 hsame with h | h
        · exact .inl (by simpa using h)
        · exact .inr h
      refine .inr ⟨.inr hdiff, .corrupt, ((rt.loaded w' sn).fail true).clearUnlockSessionState,
        ?_, by simp, rfl, rfl, rfl, hi, rfl, by simp [fail, hacc]⟩
      simp only [installEncryptedVault, hi, hs, hst, hv, hval, hrep, hre]
      rcases hdiff with h | h
      · simp [h]
      · cases hv' : sn.hasVault <;> simp [h, hv']
  · refine .inr ⟨.inl hrej, st'', (rt'.fail (explicitResetRecoveryStatus st'')
      ).clearUnlockSessionState, ?_, hne, hw, rfl, rfl, hini.trans hi, hun, ?_⟩
    · simp [installEncryptedVault, hi, hs, hst, hv, hval, hrep, hre, hne, beq_eq_false_iff_ne.2 hne]
    · simp [fail, hrej, hexp]

theorem update_refused (P : Persistence σ) (nowMs : UInt64) {expected : UInt64} {envelope : VaultEnvelope}
    (h : ¬ AdmitsUpdate gcm rt expected envelope) :
    ∃ st, st ≠ .ok ∧ rt.updateEncryptedVault P gcm expected envelope nowMs = ((st, false), rt) := by
  unfold updateEncryptedVault
  split
  · exact ⟨_, by simp, rfl⟩
  · split
    · exact ⟨_, by simp, rfl⟩
    · split
      · rename_i hsucc
        exact ⟨_, hsucc, rfl⟩
      · rename_i hi hst hsucc
        split
        · rename_i st hval
          exact ⟨st, validate_error_ne_ok hval, rfl⟩
        · rename_i policy hval
          simp only [not_or, not_not, Bool.not_eq_true', Bool.not_eq_false] at hi hst hsucc
          exact absurd ⟨hi, hst.1, hst.2.1, hst.2.2, hsucc, policy, hval⟩ h

/-- `update_encrypted_vault` past its checks: a failed write keeps the RAM copy, a reload that
differs is a fatal security error, and otherwise the reloaded envelope replaces the RAM copy. -/
theorem update_admitted (nowMs : UInt64) {expected : UInt64} {envelope : VaultEnvelope}
    (h : AdmitsUpdate gcm rt expected envelope) {st : Status} {w : σ}
    (hrep : P.replaceEnvelope expected envelope rt.persistence = (st, w)) :
    (st ≠ .ok ∧ rt.updateEncryptedVault P gcm expected envelope nowMs =
        ((st, false), rt.withPersistence w)) ∨
    (st = .ok ∧ ∀ st' sn w', P.load w = ((st', sn), w') →
      (reloadDiffers st' sn envelope = false ∧ ∃ due rt',
        rt.updateEncryptedVault P gcm expected envelope nowMs = ((.ok, due), rt') ∧
          rt'.persistence = w' ∧ rt'.envelope = envelope ∧ rt'.hasVault = true ∧
          rt'.schemaReady = true ∧ rt'.state = .unlocked ∧ rt'.recoveryResetAllowed = false ∧
          rt'.vmk = rt.vmk ∧ rt'.vmkPresent = true ∧ rt'.initialized = true ∧
          rt'.unlocks = rt.unlocks) ∨
      (reloadDiffers st' sn envelope = true ∧ ∃ st'',
        st'' = (if st' = .ok then .corrupt else st') ∧
        rt.updateEncryptedVault P gcm expected envelope nowMs =
          ((st'', false), ((rt.withPersistence w').clearUnlockSessionState).fail true))) := by
  obtain ⟨hi, hst, hvmk, hv, hsucc, policy, hval⟩ := h
  unfold updateEncryptedVault
  rw [if_neg (by simp [hi]), if_neg (by simp [hst, hvmk, hv]), if_neg (by simp [hsucc])]
  simp only [hval, hrep]
  by_cases hok : st = .ok
  swap
  · exact .inl ⟨hok, by rw [if_pos hok]⟩
  subst hok
  refine .inr ⟨rfl, fun st' sn w' hload => ?_⟩
  rw [if_neg (by simp)]
  simp only [withPersistence_persistence, hload]
  cases hd : reloadDiffers st' sn envelope
  · have henv : sn.envelope = envelope := by
      simp only [reloadDiffers, Bool.or_eq_false_iff] at hd
      simpa using hd.2
    exact .inl ⟨rfl, _, _, rfl, rfl, henv, rfl, rfl, rfl, rfl, rfl, hvmk, hi, rfl⟩
  · refine .inr ⟨rfl, _, rfl, ?_⟩
    simp [fatalSecurityError, hi]
    rfl

theorem rekey_refused (P : Persistence σ) {expected : UInt64} {envelope : VaultEnvelope} {vmk : Vmk}
    (h : ¬ AdmitsRekey gcm rt expected envelope vmk) :
    ∃ st, st ≠ .ok ∧ rt.rekeyEncryptedVault P gcm expected envelope vmk = (st, rt) := by
  unfold rekeyEncryptedVault
  split
  · exact ⟨_, by simp, rfl⟩
  · split
    · exact ⟨_, by simp, rfl⟩
    · split
      · rename_i hsucc
        exact ⟨_, hsucc, rfl⟩
      · rename_i hi hst hsucc
        split
        · rename_i st hval
          exact ⟨st, validate_error_ne_ok hval, rfl⟩
        · rename_i policy hval
          simp only [not_or, not_not, Bool.not_eq_true, Bool.not_eq_true', Bool.not_eq_false]
            at hi hst hsucc
          exact absurd ⟨hi, hst.1, hst.2.1, hst.2.2.1, hst.2.2.2, hsucc, policy, hval⟩ h

/-- `rekey_encrypted_vault` past its checks: as `update_admitted`, but a reload that differs enters
`kError` with the reset permission it had. -/
theorem rekey_admitted {expected : UInt64} {envelope : VaultEnvelope} {vmk : Vmk}
    (h : AdmitsRekey gcm rt expected envelope vmk) {st : Status} {w : σ}
    (hrep : P.replaceEnvelope expected envelope rt.persistence = (st, w)) :
    (st ≠ .ok ∧ rt.rekeyEncryptedVault P gcm expected envelope vmk =
        (st, rt.withPersistence w)) ∨
    (st = .ok ∧ ∀ st' sn w', P.load w = ((st', sn), w') →
      (reloadDiffers st' sn envelope = false ∧ ∃ rt',
        rt.rekeyEncryptedVault P gcm expected envelope vmk = (.ok, rt') ∧
          rt'.persistence = w' ∧ rt'.envelope = envelope ∧ rt'.hasVault = true ∧
          rt'.schemaReady = true ∧ rt'.state = .unlocked ∧ rt'.recoveryResetAllowed = false ∧
          rt'.vmk = vmk ∧ rt'.vmkPresent = true ∧ rt'.initialized = true ∧
          rt'.unlocks = vmk :: rt.unlocks) ∨
      (reloadDiffers st' sn envelope = true ∧ ∃ st'',
        st'' = (if st' = .ok then .corrupt else st') ∧
        rt.rekeyEncryptedVault P gcm expected envelope vmk =
          (st'', ((rt.withPersistence w').fail rt.recoveryResetAllowed
            ).clearUnlockSessionState))) := by
  obtain ⟨hi, hst, hvmk, hv, hact, hsucc, policy, hval⟩ := h
  unfold rekeyEncryptedVault
  rw [if_neg (by simp [hi]), if_neg (by simp [hst, hvmk, hv, hact]), if_neg (by simp [hsucc])]
  simp only [hval, hrep]
  by_cases hok : st = .ok
  swap
  · exact .inl ⟨hok, by rw [if_pos hok]⟩
  subst hok
  refine .inr ⟨rfl, fun st' sn w' hload => ?_⟩
  rw [if_neg (by simp)]
  simp only [withPersistence_persistence, hload]
  cases hd : reloadDiffers st' sn envelope
  · have henv : sn.envelope = envelope := by
      simp only [reloadDiffers, Bool.or_eq_false_iff] at hd
      simpa using hd.2
    exact .inl ⟨rfl, _, rfl, rfl, henv, rfl, rfl, rfl, rfl, rfl, rfl, hi, rfl⟩
  · exact .inr ⟨rfl, _, rfl, rfl⟩

/-! ## Operations without a replacement -/

theorem format_cases (P : Persistence σ) (rt : Runtime σ) :
    (rt.initialized = false ∧ rt.formatForSchema2 P = (.notReady, rt)) ∨
    (rt.initialized = true ∧ ∃ st w, P.formatSchema2 rt.persistence = (st, w) ∧
      ((st ≠ .ok ∧ rt.formatForSchema2 P = (st,
          ((rt.clearUnlockSessionState).withPersistence w).fail (explicitResetRecoveryStatus st))) ∨
        (st = .ok ∧ rt.formatForSchema2 P =
          ((rt.clearUnlockSessionState).withPersistence w).reloadAfterPersistence P))) := by
  cases hi : rt.initialized
  · exact .inl ⟨rfl, by simp [formatForSchema2, hi]⟩
  · rcases hf : P.formatSchema2 rt.persistence with ⟨st, w⟩
    refine .inr ⟨rfl, st, w, rfl, ?_⟩
    by_cases hok : st = .ok
    · exact .inr ⟨hok, by simp [formatForSchema2, hi, hf, hok]⟩
    · exact .inl ⟨hok, by simp [formatForSchema2, hi, hf, hok]⟩

theorem unlock_cases (gcm : GcmOpen) (rt : Runtime σ) (vmk : Vmk) (nowMs : UInt64) :
    (∃ st, st ≠ .ok ∧ rt.unlock gcm vmk nowMs = (st, rt)) ∨
    (rt.initialized = true ∧ rt.state = .locked ∧ rt.hasVault = true ∧ ∃ policy,
      validateEnvelopeWithKey gcm rt.envelope vmk = .ok policy ∧
      rt.unlock gcm vmk nowMs = (.ok,
        { rt with
          vmk, vmkPresent := true, unlocks := vmk :: rt.unlocks, autoLockDays := policy,
          unlockedSinceMs := nowMs, unlockSessionActive := true, state := .unlocked,
          recoveryResetAllowed := false })) := by
  unfold unlock
  split
  · exact .inl ⟨_, by simp, rfl⟩
  · split
    · exact .inl ⟨_, by simp, rfl⟩
    · rename_i hi hst
      split
      · rename_i st hval
        exact .inl ⟨st, validate_error_ne_ok hval, rfl⟩
      · rename_i policy hval
        simp only [not_or, not_not, Bool.not_eq_true', Bool.not_eq_false] at hi hst
        exact .inr ⟨hi, hst.1, hst.2, policy, hval, rfl⟩

theorem enterRecoveryBoundary_eq_lock : rt.enterRecoveryBoundary = rt.lock := rfl

theorem lock_cases (rt : Runtime σ) :
    (rt.initialized = false ∧ rt.lock = (.notReady, rt)) ∨
    (rt.initialized = true ∧ rt.state = .error ∧
      rt.lock = (.invalidState, rt.clearUnlockSessionState)) ∨
    (rt.initialized = true ∧ rt.state ≠ .error ∧
      rt.lock = (.ok, { rt.clearUnlockSessionState with
        state := if rt.hasVault then .locked else .unprovisioned })) := by
  cases hi : rt.initialized
  · exact .inl ⟨rfl, by simp [lock, hi]⟩
  · by_cases hst : rt.state = .error
    · exact .inr (.inl ⟨rfl, hst, by simp [lock, hi, hst]⟩)
    · refine .inr (.inr ⟨rfl, hst, ?_⟩)
      rw [lock, if_neg (by simp [hi])]
      exact if_neg hst

theorem enterVmkRekeyBoundary_cases (rt : Runtime σ) :
    (∃ st, st ≠ .ok ∧ rt.enterVmkRekeyBoundary = (st, rt)) ∨
    (rt.initialized = true ∧ rt.state = .unlocked ∧ rt.hasVault = true ∧
      rt.enterVmkRekeyBoundary = (.ok, { rt.wipeVmk with state := .locked })) := by
  unfold enterVmkRekeyBoundary
  split
  · exact .inl ⟨_, by simp, rfl⟩
  · split
    · exact .inl ⟨_, by simp, rfl⟩
    · rename_i hi hst
      simp only [not_or, not_not, Bool.not_eq_true', Bool.not_eq_false] at hi hst
      exact .inr ⟨hi, hst.1, hst.2.2.1, rfl⟩

theorem factoryReset_cases (P : Persistence σ) (rt : Runtime σ) :
    (rt.initialized = false ∧ rt.factoryReset P = (.notReady, rt)) ∨
    (rt.initialized = true ∧ ∃ st w, P.eraseAll rt.persistence = (st, w) ∧
      ((st ≠ .ok ∧ rt.factoryReset P = (st,
          ((rt.clearUnlockSessionState).withPersistence w).fail false)) ∨
        (st = .ok ∧ rt.factoryReset P = (.ok,
          { (rt.clearUnlockSessionState).withPersistence w with
            schemaReady := false, hasVault := false, recoveryResetAllowed := false,
            envelope := {}, lastUsed := none, state := .unprovisioned })))) := by
  cases hi : rt.initialized
  · exact .inl ⟨rfl, by simp [factoryReset, hi]⟩
  · rcases hf : P.eraseAll rt.persistence with ⟨st, w⟩
    refine .inr ⟨rfl, st, w, rfl, ?_⟩
    by_cases hok : st = .ok
    · exact .inr ⟨hok, by simp [factoryReset, hi, hf, hok]⟩
    · exact .inl ⟨hok, by simp [factoryReset, hi, hf, hok]⟩

theorem fatal_cases (rt : Runtime σ) :
    (rt.initialized = false ∧ rt.fatalSecurityError.2 = rt) ∨
    (rt.initialized = true ∧ rt.fatalSecurityError.2 = rt.clearUnlockSessionState.fail true) := by
  cases hi : rt.initialized
  · exact .inl ⟨rfl, by simp [fatalSecurityError, hi]⟩
  · exact .inr ⟨rfl, by simp [fatalSecurityError, hi]⟩

/-! ## Uses of the resident key -/

/-- Authentication or decoding of an envelope under a key fails. -/
def EnvelopeFails (gcm : GcmOpen) (envelope : VaultEnvelope) (vmk : Vmk) : Prop :=
  ∀ encoded, decryptVault gcm envelope vmk = some encoded →
    ∀ plaintext, decodePlaintext encoded ≠ some (plaintext, envelope.vaultFormatVersion)

theorem openResident_cases (gcm : GcmOpen) (rt : Runtime σ) :
    (∃ plaintext, rt.openResident gcm = .ok plaintext ∧ rt.state = .unlocked ∧
      rt.hasVault = true ∧ rt.initialized = true) ∨
    (∃ st, st ≠ .ok ∧ rt.openResident gcm = .error (st, rt)) ∨
    (∃ st, st ≠ .ok ∧ rt.state = .unlocked ∧ rt.initialized = true ∧
      EnvelopeFails gcm rt.envelope rt.vmk ∧
      rt.openResident gcm = .error (st, rt.clearUnlockSessionState.fail true)) := by
  unfold openResident
  split
  · exact .inr (.inl ⟨_, by simp, rfl⟩)
  · split
    · exact .inr (.inl ⟨_, by simp, rfl⟩)
    · rename_i hi hst
      simp only [not_or, not_not, Bool.not_eq_true', Bool.not_eq_false] at hi hst
      have hfatal : rt.fatalSecurityError.2 = rt.clearUnlockSessionState.fail true := by
        simp [fatalSecurityError, hi]
      rw [hfatal]
      split
      · rename_i hdec
        exact .inr (.inr ⟨.authenticationFailed, by simp, hst.1, hi,
          fun _ h => by simp [hdec] at h, rfl⟩)
      · rename_i encoded hdec
        split
        · rename_i hnone
          refine .inr (.inr ⟨.corrupt, by simp, hst.1, hi, fun e h p => ?_, rfl⟩)
          obtain rfl : encoded = e := by simpa [hdec] using h
          simp [hnone]
        · rename_i plaintext format hsome
          split
          · rename_i hne
            refine .inr (.inr ⟨.corrupt, by simp, hst.1, hi, fun e h p hp => ?_, rfl⟩)
            obtain rfl : encoded = e := by simpa [hdec] using h
            rw [hsome] at hp
            cases hp
            exact hne rfl
          · exact .inl ⟨_, rfl, hst.1, hst.2.2, hi⟩

/-- A use of the resident key leaves the runtime as it was, records the use, or fails closed. -/
theorem resident_cases (P : Persistence σ) (gcm : GcmOpen) (rt : Runtime σ) {call : Call}
    (hcall : call = .listCredentials ∨ (∃ id c, call = .withCredential id c) ∨
      (∃ c, call = .withWifi c) ∨ ∃ id, call = .setLastUsed id) :
    rt.step P gcm call = rt ∨
    (rt.state = .unlocked ∧ ∃ id st w, P.setLastUsed (some id) rt.persistence = (st, w) ∧
      (rt.step P gcm call = rt.withPersistence w ∨
        rt.step P gcm call = { rt.withPersistence w with lastUsed := some id })) ∨
    (rt.state = .unlocked ∧ rt.initialized = true ∧ EnvelopeFails gcm rt.envelope rt.vmk ∧
      rt.step P gcm call = rt.clearUnlockSessionState.fail true) := by
  rcases openResident_cases gcm rt with
    ⟨p, hp, hst, hv, hi⟩ | ⟨st, hne, hp⟩ | ⟨st, hne, hst, hi, hfail, hp⟩
  · rcases hcall with rfl | ⟨id, c, rfl⟩ | ⟨c, rfl⟩ | ⟨id, rfl⟩
    · exact .inl (by simp [step, exec, listCredentials, hp])
    · rcases hs : P.setLastUsed (some id) rt.persistence with ⟨st, w⟩
      simp only [step, exec, withCredential, hp, hs]
      split
      · exact .inl rfl
      · split
        · exact .inl rfl
        · refine .inr (.inl ⟨hst, id, st, w, hs, ?_⟩)
          split
          · exact .inr rfl
          · exact .inl rfl
    · simp only [step, exec, withWifi, hp]
      split <;> exact .inl rfl
    · rcases hs : P.setLastUsed (some id) rt.persistence with ⟨st, w⟩
      simp only [step, exec, Runtime.setLastUsed, hp, hs]
      split
      · exact .inl rfl
      · refine .inr (.inl ⟨hst, id, st, w, hs, ?_⟩)
        split
        · exact .inr rfl
        · exact .inl rfl
  · left
    rcases hcall with rfl | ⟨id, c, rfl⟩ | ⟨c, rfl⟩ | ⟨id, rfl⟩ <;>
      simp [step, exec, listCredentials, withCredential, withWifi, Runtime.setLastUsed, hp]
  · refine .inr (.inr ⟨hst, hi, hfail, ?_⟩)
    rcases hcall with rfl | ⟨id, c, rfl⟩ | ⟨c, rfl⟩ | ⟨id, rfl⟩ <;>
      simp [step, exec, listCredentials, withCredential, withWifi, Runtime.setLastUsed, hp]

end M5Auth.VaultRuntime.Runtime
