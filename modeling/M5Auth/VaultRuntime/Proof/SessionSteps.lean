import M5Auth.VaultRuntime.Proof.Invariant

/-!
# What a call does to the unlock session

`SessionStep gcm rt call rt'` lists what one call can do to the resident key, the automatic-lock
policy and the unlock time: keep them, end the session (`Closed`), open one (`unlock`), suspend it
(`enter_vmk_rekey_boundary`), replace the Vault inside it (`update_encrypted_vault`) or resume it
under a new key (`rekey_encrypted_vault`). `session_step`: every call is one of these.
-/

namespace M5Auth.VaultRuntime.Runtime

open Vault

variable {σ : Type} {P : Persistence σ} {gcm : GcmOpen} {rt rt' : Runtime σ}

/-- No unlock session: no key, no policy, no unlock time. -/
structure Closed (rt : Runtime σ) : Prop where
  state : rt.state ≠ .unlocked
  vmk : rt.vmk = Bytes.zero 32
  vmkPresent : rt.vmkPresent = false
  autoLockDays : rt.autoLockDays = none
  unlockedSinceMs : rt.unlockedSinceMs = 0
  unlockSessionActive : rt.unlockSessionActive = false

theorem closed_clear (h : rt.state ≠ .unlocked) : Closed rt.clearUnlockSessionState :=
  ⟨h, rfl, rfl, rfl, rfl, rfl⟩

theorem closed_fail (allowed : Bool) : Closed (rt.fail allowed).clearUnlockSessionState :=
  closed_clear (by simp [fail])

/-- The session is over and the runtime holds a Vault or none. -/
theorem closed_relock (rt : Runtime σ) (hasVault : Bool) : Closed { rt.clearUnlockSessionState with
    state := if hasVault then .locked else .unprovisioned } := by
  refine ⟨?_, rfl, rfl, rfl, rfl, rfl⟩
  show (if hasVault then State.locked else .unprovisioned) ≠ .unlocked
  cases hasVault <;> decide

theorem closed_loaded (w : σ) (sn : PersistedSnapshot) : Closed (rt.loaded w sn) :=
  ⟨(closed_relock rt sn.hasVault).state, rfl, rfl, rfl, rfl, rfl⟩

/-- Whatever the reload shows, no session outlives it. -/
theorem closed_reload (P : Persistence σ) (rt : Runtime σ) :
    Closed (rt.reloadAfterPersistence P).2 := by
  rcases hl : P.load rt.persistence with ⟨⟨st, sn⟩, w⟩
  rcases reload_cases rt hl with ⟨_, he⟩ | _
  · rw [he]
    exact closed_loaded w sn
  · unfold reloadAfterPersistence
    rw [hl]
    dsimp only
    split
    · exact closed_fail _
    · split
      · exact closed_clear (by simp)
      · split
        · exact closed_fail _
        · exact closed_clear (by simp)

theorem closed_initializeRuntime (P : Persistence σ) (rt : Runtime σ) :
    Closed (rt.initializeRuntime P).2 := by
  unfold initializeRuntime
  dsimp only
  split
  · exact ⟨by simp, rfl, rfl, rfl, rfl, rfl⟩
  · split
    · exact ⟨by simp, rfl, rfl, rfl, rfl, rfl⟩
    · split
      · exact ⟨by simp [fail], rfl, rfl, rfl, rfl, rfl⟩
      · split
        · exact ⟨by simp [fail], rfl, rfl, rfl, rfl, rfl⟩
        · split
          · exact ⟨by simp, rfl, rfl, rfl, rfl, rfl⟩
          · split
            · exact ⟨by simp [fail], rfl, rfl, rfl, rfl, rfl⟩
            · exact ⟨by simp, rfl, rfl, rfl, rfl, rfl⟩

/-! ## The Vault that a commit leaves -/

/-- The runtime whose update committed `envelope`, with the policy it decoded. -/
def updated (rt : Runtime σ) (world : σ) (envelope : VaultEnvelope)
    (lastUsed : Option CredentialId) (policy : Option UInt8) : Runtime σ :=
  { rt with
    persistence := world, envelope, lastUsed, schemaReady := true, hasVault := true,
    recoveryResetAllowed := false, state := .unlocked, autoLockDays := policy }

/-- The runtime whose re-key committed `envelope` under the new key `vmk`. -/
def rekeyed (rt : Runtime σ) (world : σ) (envelope : VaultEnvelope)
    (lastUsed : Option CredentialId) (vmk : Vmk) (policy : Option UInt8) : Runtime σ :=
  { rt.updated world envelope lastUsed policy with
    vmk, vmkPresent := true, unlocks := vmk :: rt.unlocks }

/-- `update_encrypted_vault` past its checks and its write, and a reload that shows the envelope. -/
theorem update_commits {expected : UInt64} {envelope : VaultEnvelope} {policy : Option UInt8}
    {w w' : σ} {sn : PersistedSnapshot} (nowMs : UInt64)
    (hadm : AdmitsUpdate gcm rt expected envelope)
    (hval : validateEnvelopeWithKey gcm envelope rt.vmk = .ok policy)
    (hrep : P.replaceEnvelope expected envelope rt.persistence = (.ok, w))
    (hload : P.load w = ((.ok, sn), w')) (hsame : reloadDiffers .ok sn envelope = false) :
    rt.updateEncryptedVault P gcm expected envelope nowMs =
      ((.ok, (rt.updated w' envelope sn.lastUsed policy).automaticLockDue nowMs),
        rt.updated w' envelope sn.lastUsed policy) := by
  obtain ⟨hi, hst, hvmk, hv, hsucc, _⟩ := hadm
  have henv : sn.envelope = envelope := by
    simp only [reloadDiffers, Bool.or_eq_false_iff] at hsame
    simpa using hsame.2
  unfold updateEncryptedVault
  rw [if_neg (by simp [hi]), if_neg (by simp [hst, hvmk, hv]), if_neg (by simp [hsucc])]
  simp only [hval, hrep]
  rw [if_neg (by simp)]
  simp only [withPersistence_persistence, hload, hsame, henv]
  rfl

/-- `rekey_encrypted_vault` past its checks and its write, and a reload that shows the envelope. -/
theorem rekey_commits {expected : UInt64} {envelope : VaultEnvelope} {vmk : Vmk}
    {policy : Option UInt8} {w w' : σ} {sn : PersistedSnapshot}
    (hadm : AdmitsRekey gcm rt expected envelope vmk)
    (hval : validateEnvelopeWithKey gcm envelope vmk = .ok policy)
    (hrep : P.replaceEnvelope expected envelope rt.persistence = (.ok, w))
    (hload : P.load w = ((.ok, sn), w')) (hsame : reloadDiffers .ok sn envelope = false) :
    rt.rekeyEncryptedVault P gcm expected envelope vmk =
      (.ok, rt.rekeyed w' envelope sn.lastUsed vmk policy) := by
  obtain ⟨hi, hst, hvmk, hv, hact, hsucc, _⟩ := hadm
  have henv : sn.envelope = envelope := by
    simp only [reloadDiffers, Bool.or_eq_false_iff] at hsame
    simpa using hsame.2
  unfold rekeyEncryptedVault
  rw [if_neg (by simp [hi]), if_neg (by simp [hst, hvmk, hv, hact]), if_neg (by simp [hsucc])]
  simp only [hval, hrep]
  rw [if_neg (by simp)]
  simp only [withPersistence_persistence, hload, hsame, henv]
  rfl

/-! ## Steps -/

/-- What one call does to the unlock session. -/
inductive SessionStep (gcm : GcmOpen) (rt : Runtime σ) : Call → Runtime σ → Prop where
  | kept (call : Call) (world : σ) (lastUsed : Option CredentialId) :
      SessionStep gcm rt call { rt with persistence := world, lastUsed }
  | closed (call : Call) {rt' : Runtime σ} (hclosed : Closed rt') : SessionStep gcm rt call rt'
  | opened (vmk : Vmk) (nowMs : UInt64) (policy : Option UInt8) (hlocked : rt.state = .locked)
      (hvault : rt.hasVault = true)
      (hval : validateEnvelopeWithKey gcm rt.envelope vmk = .ok policy) :
      SessionStep gcm rt (.unlock vmk nowMs)
        { rt with
          vmk, vmkPresent := true, unlocks := vmk :: rt.unlocks, autoLockDays := policy,
          unlockedSinceMs := nowMs, unlockSessionActive := true, state := .unlocked,
          recoveryResetAllowed := false }
  | suspended (hunlocked : rt.state = .unlocked) (hvault : rt.hasVault = true) :
      SessionStep gcm rt .enterVmkRekeyBoundary { rt.wipeVmk with state := .locked }
  | updated (expected : UInt64) (envelope : VaultEnvelope) (nowMs : UInt64) (world : σ)
      (lastUsed : Option CredentialId) (policy : Option UInt8) (hunlocked : rt.state = .unlocked)
      (hval : validateEnvelopeWithKey gcm envelope rt.vmk = .ok policy) :
      SessionStep gcm rt (.updateEncryptedVault expected envelope nowMs)
        (rt.updated world envelope lastUsed policy)
  | rekeyed (expected : UInt64) (envelope : VaultEnvelope) (vmk : Vmk) (world : σ)
      (lastUsed : Option CredentialId) (policy : Option UInt8) (hlocked : rt.state = .locked)
      (hactive : rt.unlockSessionActive = true)
      (hval : validateEnvelopeWithKey gcm envelope vmk = .ok policy) :
      SessionStep gcm rt (.rekeyEncryptedVault expected envelope vmk)
        (rt.rekeyed world envelope lastUsed vmk policy)

namespace SessionStep

theorem same (call : Call) : SessionStep gcm rt call rt :=
  .kept call rt.persistence rt.lastUsed

theorem withPersistence (call : Call) (w : σ) : SessionStep gcm rt call (rt.withPersistence w) :=
  .kept call w rt.lastUsed

end SessionStep

theorem install_session (P : Persistence σ) (gcm : GcmOpen) (rt : Runtime σ)
    (envelope : VaultEnvelope) (vmk : Vmk) :
    SessionStep gcm rt (.installEncryptedVault envelope vmk)
      (rt.installEncryptedVault P gcm envelope vmk).2 := by
  by_cases hadm : AdmitsInstall gcm rt envelope vmk
  swap
  · obtain ⟨st, _, he⟩ := install_refused P hadm
    rw [he]
    exact .same _
  obtain ⟨hi, hs, hst, hv, policy, hval⟩ := hadm
  rcases hrep : P.replaceEnvelope 0 envelope rt.persistence with ⟨st, w⟩
  unfold installEncryptedVault
  rw [if_neg (by simp [hi]), if_neg (by simp [hs]), if_neg (by simp [hst, hv])]
  simp only [hval, hrep]
  split
  · exact .withPersistence _ w
  · have hclosed := closed_reload P (rt.withPersistence w)
    split
    · exact .closed _ (closed_fail _)
    · exact .closed _ hclosed

/-- An update commits its envelope, keeps the session, or ends it in `kError`. -/
theorem update_outcome (P : Persistence σ) (gcm : GcmOpen) (rt : Runtime σ) (expected : UInt64)
    (envelope : VaultEnvelope) (nowMs : UInt64) :
    (∃ world lastUsed policy, rt.state = .unlocked ∧
      validateEnvelopeWithKey gcm envelope rt.vmk = .ok policy ∧
      rt.updateEncryptedVault P gcm expected envelope nowMs =
        ((.ok, (rt.updated world envelope lastUsed policy).automaticLockDue nowMs),
          rt.updated world envelope lastUsed policy)) ∨
    ∃ status rt', status ≠ .ok ∧ ((∃ world, rt' = rt.withPersistence world) ∨ Closed rt') ∧
      rt.updateEncryptedVault P gcm expected envelope nowMs = ((status, false), rt') := by
  by_cases hadm : AdmitsUpdate gcm rt expected envelope
  swap
  · obtain ⟨st, hne, he⟩ := update_refused P nowMs hadm
    exact .inr ⟨st, rt, hne, .inl ⟨rt.persistence, rfl⟩, he⟩
  obtain ⟨policy, hval⟩ := hadm.2.2.2.2.2
  rcases hrep : P.replaceEnvelope expected envelope rt.persistence with ⟨st, w⟩
  rcases hl : P.load w with ⟨⟨st', sn⟩, w'⟩
  rcases update_admitted nowMs hadm hrep with ⟨hne, he⟩ | ⟨rfl, hre⟩
  · exact .inr ⟨st, _, hne, .inl ⟨w, rfl⟩, he⟩
  · rcases hre st' sn w' hl with ⟨hsame, _⟩ | ⟨_, st'', hst, he⟩
    · obtain rfl : st' = .ok := by
        simp only [reloadDiffers, Bool.or_eq_false_iff] at hsame
        simpa using hsame.1.1.1
      exact .inl ⟨w', _, policy, hadm.2.1, hval, update_commits nowMs hadm hval hrep hl hsame⟩
    · refine .inr ⟨st'', _, ?_, .inr ⟨by simp [fail], rfl, rfl, rfl, rfl, rfl⟩, he⟩
      rw [hst]
      split
      · decide
      · assumption

/-- A re-key commits its envelope under the new key, leaves the session suspended, or ends it in
`kError`. -/
theorem rekey_outcome (P : Persistence σ) (gcm : GcmOpen) (rt : Runtime σ) (expected : UInt64)
    (envelope : VaultEnvelope) (vmk : Vmk) :
    (∃ world lastUsed policy, rt.state = .locked ∧ rt.unlockSessionActive = true ∧
      validateEnvelopeWithKey gcm envelope vmk = .ok policy ∧
      rt.rekeyEncryptedVault P gcm expected envelope vmk =
        (.ok, rt.rekeyed world envelope lastUsed vmk policy)) ∨
    ∃ status rt', status ≠ .ok ∧ ((∃ world, rt' = rt.withPersistence world) ∨ Closed rt') ∧
      rt.rekeyEncryptedVault P gcm expected envelope vmk = (status, rt') := by
  by_cases hadm : AdmitsRekey gcm rt expected envelope vmk
  swap
  · obtain ⟨st, hne, he⟩ := rekey_refused P hadm
    exact .inr ⟨st, rt, hne, .inl ⟨rt.persistence, rfl⟩, he⟩
  obtain ⟨policy, hval⟩ := hadm.2.2.2.2.2.2
  rcases hrep : P.replaceEnvelope expected envelope rt.persistence with ⟨st, w⟩
  rcases hl : P.load w with ⟨⟨st', sn⟩, w'⟩
  rcases rekey_admitted hadm hrep with ⟨hne, he⟩ | ⟨rfl, hre⟩
  · exact .inr ⟨st, _, hne, .inl ⟨w, rfl⟩, he⟩
  · rcases hre st' sn w' hl with ⟨hsame, _⟩ | ⟨_, st'', hst, he⟩
    · obtain rfl : st' = .ok := by
        simp only [reloadDiffers, Bool.or_eq_false_iff] at hsame
        simpa using hsame.1.1.1
      exact .inl ⟨w', _, policy, hadm.2.1, hadm.2.2.2.2.1, hval,
        rekey_commits hadm hval hrep hl hsame⟩
    · refine .inr ⟨st'', _, ?_, .inr (closed_fail _), he⟩
      rw [hst]
      split
      · decide
      · assumption

theorem update_session (P : Persistence σ) (gcm : GcmOpen) (rt : Runtime σ) (expected : UInt64)
    (envelope : VaultEnvelope) (nowMs : UInt64) :
    SessionStep gcm rt (.updateEncryptedVault expected envelope nowMs)
      (rt.updateEncryptedVault P gcm expected envelope nowMs).2 := by
  rcases update_outcome P gcm rt expected envelope nowMs with
    ⟨w, lastUsed, policy, hst, hval, he⟩ | ⟨_, _, _, ⟨w, rfl⟩ | hclosed, he⟩ <;> rw [he]
  · exact .updated expected envelope nowMs w lastUsed policy hst hval
  · exact .withPersistence _ w
  · exact .closed _ hclosed

theorem rekey_session (P : Persistence σ) (gcm : GcmOpen) (rt : Runtime σ) (expected : UInt64)
    (envelope : VaultEnvelope) (vmk : Vmk) :
    SessionStep gcm rt (.rekeyEncryptedVault expected envelope vmk)
      (rt.rekeyEncryptedVault P gcm expected envelope vmk).2 := by
  rcases rekey_outcome P gcm rt expected envelope vmk with
    ⟨w, lastUsed, policy, hst, hact, hval, he⟩ | ⟨_, _, _, ⟨w, rfl⟩ | hclosed, he⟩ <;> rw [he]
  · exact .rekeyed expected envelope vmk w lastUsed policy hst hact hval
  · exact .withPersistence _ w
  · exact .closed _ hclosed

theorem lock_session (gcm : GcmOpen) (rt : Runtime σ) (call : Call) :
    SessionStep gcm rt call rt.lock.2 := by
  rcases lock_cases rt with ⟨_, he⟩ | ⟨_, hst, he⟩ | ⟨_, _, he⟩
  · rw [he]
    exact .same _
  · rw [he]
    exact .closed _ (closed_clear (by simp [hst]))
  · rw [he]
    exact .closed _ (closed_relock rt rt.hasVault)

theorem resident_session (P : Persistence σ) (gcm : GcmOpen) (rt : Runtime σ) {call : Call}
    (hcall : call = .listCredentials ∨ (∃ id c, call = .withCredential id c) ∨
      (∃ c, call = .withWifi c) ∨ ∃ id, call = .setLastUsed id) :
    SessionStep gcm rt call (rt.step P gcm call) := by
  rcases resident_cases P gcm rt hcall with he | ⟨_, id, st, w, _, he | he⟩ | ⟨_, _, _, he⟩
  · rw [he]
    exact .same _
  · rw [he]
    exact .withPersistence _ w
  · rw [he]
    exact .kept _ w (some id)
  · rw [he]
    exact .closed _ ⟨by simp [fail], rfl, rfl, rfl, rfl, rfl⟩

/-- **Every call is a session step**, whatever the persistence and the decryption answer. -/
theorem session_step (P : Persistence σ) (gcm : GcmOpen) (rt : Runtime σ) (call : Call) :
    SessionStep gcm rt call (rt.step P gcm call) := by
  cases call with
  | initializeRuntime => exact .closed _ (closed_initializeRuntime P rt)
  | formatForSchema2 =>
    show SessionStep gcm rt .formatForSchema2 (rt.formatForSchema2 P).2
    rcases format_cases P rt with ⟨_, he⟩ | ⟨_, st, w, _, ⟨_, he⟩ | ⟨_, he⟩⟩
    · rw [he]
      exact .same _
    · rw [he]
      exact .closed _ ⟨by simp [fail], rfl, rfl, rfl, rfl, rfl⟩
    · rw [he]
      exact .closed _ (closed_reload P _)
  | installEncryptedVault envelope vmk => exact install_session P gcm rt envelope vmk
  | unlock vmk nowMs =>
    show SessionStep gcm rt (.unlock vmk nowMs) (rt.unlock gcm vmk nowMs).2
    rcases unlock_cases gcm rt vmk nowMs with ⟨_, _, he⟩ | ⟨_, hst, hv, policy, hval, he⟩
    · rw [he]
      exact .same _
    · rw [he]
      exact .opened vmk nowMs policy hst hv hval
  | lock => exact lock_session gcm rt .lock
  | enterRecoveryBoundary => exact lock_session gcm rt .enterRecoveryBoundary
  | enterVmkRekeyBoundary =>
    show SessionStep gcm rt .enterVmkRekeyBoundary rt.enterVmkRekeyBoundary.2
    rcases enterVmkRekeyBoundary_cases rt with ⟨_, _, he⟩ | ⟨_, hst, hv, he⟩
    · rw [he]
      exact .same _
    · rw [he]
      exact .suspended hst hv
  | updateEncryptedVault expected envelope nowMs =>
    exact update_session P gcm rt expected envelope nowMs
  | rekeyEncryptedVault expected envelope vmk =>
    exact rekey_session P gcm rt expected envelope vmk
  | listCredentials => exact resident_session P gcm rt (.inl rfl)
  | withCredential id consumer => exact resident_session P gcm rt (.inr (.inl ⟨id, consumer, rfl⟩))
  | withWifi consumer => exact resident_session P gcm rt (.inr (.inr (.inl ⟨consumer, rfl⟩)))
  | setLastUsed id => exact resident_session P gcm rt (.inr (.inr (.inr ⟨id, rfl⟩)))
  | factoryReset =>
    show SessionStep gcm rt .factoryReset (rt.factoryReset P).2
    rcases factoryReset_cases P rt with ⟨_, he⟩ | ⟨_, st, w, _, ⟨_, he⟩ | ⟨_, he⟩⟩
    · rw [he]
      exact .same _
    · rw [he]
      exact .closed _ ⟨by simp [fail], rfl, rfl, rfl, rfl, rfl⟩
    · rw [he]
      exact .closed _ ⟨by simp, rfl, rfl, rfl, rfl, rfl⟩

/-! ## The key in force -/

/-- A resident key is the one that was put in force last. -/
def InForce (rt : Runtime σ) : Prop := rt.vmkPresent = true → ∃ older, rt.unlocks = rt.vmk :: older

theorem Closed.inForce (h : Closed rt) : InForce rt := fun hp => by
  rw [h.vmkPresent] at hp
  cases hp

theorem InForce.of_session {call : Call} (h : InForce rt) (hs : SessionStep gcm rt call rt') :
    InForce rt' := by
  cases hs with
  | kept _ _ _ => exact h
  | closed _ hclosed => exact hclosed.inForce
  | opened _ _ _ => exact fun _ => ⟨rt.unlocks, rfl⟩
  | suspended => exact nofun
  | updated _ _ _ _ _ _ => exact h
  | rekeyed _ _ _ _ _ _ => exact fun _ => ⟨rt.unlocks, rfl⟩

theorem InForce.step (h : InForce rt) (call : Call) : InForce (rt.step P gcm call) :=
  h.of_session (session_step P gcm rt call)

end M5Auth.VaultRuntime.Runtime
