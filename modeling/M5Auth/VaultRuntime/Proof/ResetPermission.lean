import M5Auth.VaultRuntime.Proof.Invariant

/-!
# Which faults grant the reset permission

`recovery_reset_allowed` offers the user a destructive reset. It should be granted for structural
faults only (`StructuralEvent`): data the firmware can judge to be broken, never a generic I/O
error or a Vault format newer than the firmware. And a structural fault found by the reload after
a commit should grant it whatever operation committed.

Two exits break this (`reloads_misjudged`). The reload of `update_encrypted_vault` ends in
`fatal_security_error` whatever it reported, so an I/O error there grants the permission; the
reload of `rekey_encrypted_vault` grants it for no fault. And `fatal_security_error` itself, which
is public, grants it to any caller.
`reset_permission_structural` proves both directions for every run of operations, each with a
decryption of its own, that stays clear of these exits (`FaultsJudged`).
-/

namespace M5Auth.VaultRuntime.Runtime

open Vault

variable {σ : Type} {P : Persistence σ} {gcm : GcmOpen}

/-! ## Structural faults -/

/-- A load shows a structural fault: by the firmware's own classifier, or by its contents. After a
commit of `committed`, a missing or different envelope is one too; a newer Vault format is none. -/
def structuralLoad (committed : Option VaultEnvelope) (status : Status) (sn : PersistedSnapshot) :
    Bool :=
  if status ≠ .ok then explicitResetRecoveryStatus status
  else if !sn.schemaReady then true
  else if sn.hasVault && !isSupportedVaultFormat sn.envelope.vaultFormatVersion then false
  else
    (sn.hasVault && !validEnvelopeFraming sn.envelope) ||
      committed.any fun envelope => !sn.hasVault || !sameEnvelope sn.envelope envelope

/-- Between `rt` and `rt'` the persistence committed `envelope`, and the load after it answered
`status` and `sn`. -/
def CommittedReload (rt rt' : Runtime (σ × List Reply)) (envelope : VaultEnvelope)
    (status : Status) (sn : PersistedSnapshot) : Prop :=
  ∃ expected,
    rt'.log = .load status sn :: .replaceEnvelope expected envelope .ok :: rt.log

/-- The call found a structural fault: in what the persistence answered, or in the stored envelope
under the resident key. -/
def StructuralEvent (gcm : GcmOpen) (rt : Runtime (σ × List Reply)) (call : Call)
    (rt' : Runtime (σ × List Reply)) : Prop :=
  match call with
  | .initializeRuntime =>
    ∃ st sn, rt'.log = .load st sn :: rt.log ∧ structuralLoad none st sn = true
  | .formatForSchema2 =>
    (∃ st, rt'.log = .formatSchema2 st :: rt.log ∧ explicitResetRecoveryStatus st = true) ∨
    ∃ st sn, rt'.log = .load st sn :: .formatSchema2 .ok :: rt.log ∧
      structuralLoad none st sn = true
  | .installEncryptedVault envelope _ | .updateEncryptedVault _ envelope _
  | .rekeyEncryptedVault _ envelope _ =>
    ∃ st sn, CommittedReload rt rt' envelope st sn ∧
      structuralLoad (some envelope) st sn = true
  | .listCredentials | .withCredential _ _ | .withWifi _ | .setLastUsed _ =>
    rt'.log = rt.log ∧ EnvelopeFails gcm rt.envelope rt.vmk
  | _ => False

/-- The operation is a call that found a structural fault, with the decryption it met. -/
def StructuralOperation (rt : Runtime (σ × List Reply)) (input : GcmOpen × Operation)
    (rt' : Runtime (σ × List Reply)) : Prop :=
  ∃ call, input.2 = .call call ∧ StructuralEvent input.1 rt call rt'

/-- `kError` with the reset permission. -/
def ResetOffered (rt : Runtime σ) : Prop := rt.state = .error ∧ rt.recoveryResetAllowed = true

/-- The load that follows the commit of `envelope`, if the commit succeeds. -/
def reloadAfterCommit (P : Persistence σ) (world : σ) (expected : UInt64)
    (envelope : VaultEnvelope) : Option (Status × PersistedSnapshot) :=
  match P.replaceEnvelope expected envelope world with
  | (.ok, world) => some (P.load world).1
  | _ => none

/-- The call does not reach one of the two exits that judge a reload wrongly: an update whose
reload reports a fault that is not structural, or a re-key whose reload reports one that is. -/
def ReloadJudged (P : Persistence σ) (gcm : GcmOpen) (rt : Runtime (σ × List Reply)) :
    Call → Prop
  | .updateEncryptedVault expected envelope _ => AdmitsUpdate gcm rt expected envelope →
      ∀ st sn, reloadAfterCommit P rt.persistence.1 expected envelope = some (st, sn) →
        reloadDiffers st sn envelope = true → structuralLoad (some envelope) st sn = true
  | .rekeyEncryptedVault expected envelope vmk => AdmitsRekey gcm rt expected envelope vmk →
      ∀ st sn, reloadAfterCommit P rt.persistence.1 expected envelope = some (st, sn) →
        structuralLoad (some envelope) st sn = false
  | _ => True

/-- The operation takes none of the wrong exits: it is a call that judges its reload, or a
`fatal_security_error` from outside that changes nothing about the permission. -/
def FaultsJudged (P : Persistence σ) (rt : Runtime (σ × List Reply))
    (input : GcmOpen × Operation) : Prop :=
  match input.2 with
  | .call call => ReloadJudged P input.1 rt call
  | .fatalSecurityError => rt.initialized = false ∨ ResetOffered rt

/-! ## Classification -/

theorem structuralLoad_of_rejected {status : Status} {sn : PersistedSnapshot}
    (hrej : loadAccepted status sn = false) (hall : loadAllowed status sn = true) :
    structuralLoad none status sn = true := by
  unfold structuralLoad loadAllowed at *
  by_cases hst : status = .ok
  · subst hst
    cases hsr : sn.schemaReady
    · simp
    · simp only [loadAccepted, hsr, beq_self_eq_true, Bool.true_and, Bool.or_eq_false_iff,
        Bool.not_eq_false'] at hrej
      simp only [hsr, if_true, Bool.not_true, Bool.false_or] at hall
      simp [hrej.1, hrej.2, hall]
  · simpa [hst] using hall

theorem structuralLoad_committed_of_rejected {status : Status} {sn : PersistedSnapshot}
    {envelope : VaultEnvelope} (hrej : loadAccepted status sn = false)
    (hall : loadAllowed status sn = true) :
    structuralLoad (some envelope) status sn = true := by
  have h := structuralLoad_of_rejected hrej hall
  unfold structuralLoad at *
  split
  · simpa [*] using h
  · split
    · rfl
    · split <;> simp_all

/-- An accepted load without the committed envelope is structural. -/
theorem structuralLoad_of_accepted {status : Status} {sn : PersistedSnapshot}
    {envelope : VaultEnvelope} (hacc : loadAccepted status sn = true)
    (hdiff : sn.hasVault = false ∨ sn.envelope ≠ envelope) :
    structuralLoad (some envelope) status sn = true := by
  simp only [loadAccepted, Bool.and_eq_true, beq_iff_eq, Bool.or_eq_true, Bool.not_eq_true'] at hacc
  obtain ⟨⟨rfl, hsr⟩, hf⟩ := hacc
  have hsup : validEnvelopeFraming sn.envelope = true →
      isSupportedVaultFormat sn.envelope.vaultFormatVersion = true := by
    simp only [validEnvelopeFraming, Bool.and_eq_true]
    exact fun h => h.1.1.1.1
  rcases hf with hv | hf
  · simp [structuralLoad, hsr, hv]
  · rcases hdiff with hv | hne
    · simp [structuralLoad, hsr, hv]
    · simp [structuralLoad, hsr, hsup hf, hne]

/-- The reload that shows the committed envelope shows no fault. -/
theorem structuralLoad_of_same {status : Status} {sn : PersistedSnapshot}
    {envelope : VaultEnvelope} (hf : validEnvelopeFraming envelope = true)
    (hd : reloadDiffers status sn envelope = false) :
    structuralLoad (some envelope) status sn = false := by
  simp only [reloadDiffers, Bool.or_eq_false_iff, bne_eq_false_iff_eq, Bool.not_eq_false',
    sameEnvelope_iff] at hd
  obtain ⟨⟨⟨rfl, hsr⟩, hv⟩, rfl⟩ := hd
  have hsup : isSupportedVaultFormat sn.envelope.vaultFormatVersion = true := by
    simp only [validEnvelopeFraming, Bool.and_eq_true] at hf
    exact hf.1.1.1.1
  simp [structuralLoad, hsr, hv, hf, hsup]

/-- The permission of a refused load is the classifier's: a structural fault of the load, for any
committed envelope, is one the firmware grants. -/
theorem loadAllowed_of_structural {status : Status} {sn : PersistedSnapshot}
    {envelope : VaultEnvelope} (h : structuralLoad (some envelope) status sn = true) :
    (loadAccepted status sn || loadAllowed status sn) = true := by
  cases hacc : loadAccepted status sn
  · unfold structuralLoad at h
    unfold loadAllowed
    by_cases hst : status = .ok
    · subst hst
      cases hsr : sn.schemaReady
      · simp
      · simp only [loadAccepted, hsr, beq_self_eq_true, Bool.true_and, Bool.or_eq_false_iff,
          Bool.not_eq_false'] at hacc
        cases hs : isSupportedVaultFormat sn.envelope.vaultFormatVersion
        · simp [hsr, hacc.1, hs] at h
        · simp
    · simpa [hst] using h
  · rfl

/-! ## One call -/

section
variable {rt : Runtime (σ × List Reply)}

/-- A call reaches `kError` with the permission only by a structural fault, unless it left the
runtime there and asked the persistence nothing. -/
def Judged (P : Persistence σ) (gcm : GcmOpen) (rt : Runtime (σ × List Reply)) (call : Call) :
    Prop :=
  ResetOffered (rt.step P.logged gcm call) →
    StructuralEvent gcm rt call (rt.step P.logged gcm call) ∨
      (ResetOffered rt ∧ (rt.step P.logged gcm call).log = rt.log)

theorem not_offered_of_allowed {rt : Runtime σ} (h : rt.recoveryResetAllowed = false) :
    ¬ ResetOffered rt := by
  rintro ⟨_, ha⟩
  simp [h] at ha

theorem not_offered_of_state {rt : Runtime σ} (h : rt.state ≠ .error) : ¬ ResetOffered rt :=
  fun ho => h ho.1

theorem judged_initialize : Judged P gcm rt .initializeRuntime := by
  intro ho
  simp only [step, exec] at ho ⊢
  rcases hl : P.load rt.persistence.1 with ⟨⟨st, sn⟩, w⟩
  rcases initializeRuntime_cases rt (P := P.logged) (P.logged_load _ hl) with
    ⟨_, he⟩ | ⟨hrej, st', rt', he, _, hw, _, _, _, _, _, hcase⟩
  · rw [he] at ho
    exact absurd ho (not_offered_of_allowed rfl)
  · rw [he] at ho ⊢
    left
    refine ⟨st, sn, by simp [log, hw], ?_⟩
    rcases hcase with ⟨_, _, hall⟩ | ⟨_, hst, _⟩ | ⟨_, _, _, hall⟩
    · exact absurd ho (not_offered_of_allowed hall)
    · exact absurd ho (not_offered_of_state (by simp [hst]))
    · exact structuralLoad_of_rejected hrej (hall ▸ ho.2)

theorem judged_format : Judged P gcm rt .formatForSchema2 := by
  intro ho
  simp only [step, exec] at ho ⊢
  rcases hf : P.formatSchema2 rt.persistence.1 with ⟨st, w⟩
  have hfl := P.logged_formatSchema2 _ hf
  rcases format_cases P.logged rt with
    ⟨_, he⟩ | ⟨_, st', w', hf', ⟨_, he⟩ | ⟨hok, he⟩⟩
  · rw [he] at ho ⊢
    exact .inr ⟨ho, rfl⟩
  · obtain ⟨rfl, rfl⟩ := Prod.mk.injEq .. ▸ hfl.symm.trans hf'
    rw [he] at ho ⊢
    exact .inl (.inl ⟨st, rfl, ho.2⟩)
  · obtain ⟨rfl, rfl⟩ := Prod.mk.injEq .. ▸ hfl.symm.trans hf'
    subst hok
    rcases hl : P.load w with ⟨⟨stl, sn⟩, wl⟩
    rw [he] at ho ⊢
    have hll := P.logged_load (w, .formatSchema2 .ok :: rt.persistence.2) hl
    rcases reload_cases (rt.clearUnlockSessionState.withPersistence _) hll with
      ⟨_, hre⟩ | ⟨hrej, st'', rt', hre, _, hw, _, hall, _⟩
    · rw [hre] at ho
      exact absurd ho (not_offered_of_allowed rfl)
    · rw [hre] at ho ⊢
      refine .inl (.inr ⟨stl, sn, by simp [log, hw], ?_⟩)
      exact structuralLoad_of_rejected hrej (hall ▸ ho.2)

theorem judged_install (envelope : VaultEnvelope) (vmk : Vmk) :
    Judged P gcm rt (.installEncryptedVault envelope vmk) := by
  intro ho
  simp only [step, exec] at ho ⊢
  by_cases hadm : AdmitsInstall gcm rt envelope vmk
  swap
  · obtain ⟨st, _, he⟩ := install_refused P.logged hadm
    rw [he] at ho ⊢
    exact .inr ⟨ho, rfl⟩
  have hst : rt.state ≠ .error := by simp [hadm.2.2.1]
  rcases hrep : P.replaceEnvelope 0 envelope rt.persistence.1 with ⟨st, w⟩
  rcases install_admitted hadm (P.logged_replaceEnvelope _ hrep) with ⟨_, he⟩ | ⟨rfl, hre⟩
  · rw [he] at ho
    exact absurd ho (not_offered_of_state hst)
  · rcases hl : P.load w with ⟨⟨st', sn⟩, w'⟩
    rcases hre _ _ _ (P.logged_load _ hl) with
      ⟨_, _, _, he⟩ | ⟨hbad, st'', rt', he, _, hw, _, _, _, _, hall⟩
    · rw [he] at ho
      exact absurd ho (not_offered_of_allowed rfl)
    · rw [he] at ho ⊢
      refine .inl ⟨st', sn, ⟨0, by simp [log, hw]⟩, ?_⟩
      cases hacc : loadAccepted st' sn
      · exact structuralLoad_committed_of_rejected hacc (by simpa [hall, hacc] using ho.2)
      · exact structuralLoad_of_accepted hacc (by simpa [hacc] using hbad)

theorem reloadAfterCommit_eq {world w w' : σ} {expected : UInt64} {envelope : VaultEnvelope}
    {st : Status} {sn : PersistedSnapshot}
    (hrep : P.replaceEnvelope expected envelope world = (.ok, w))
    (hl : P.load w = ((st, sn), w')) :
    reloadAfterCommit P world expected envelope = some (st, sn) := by
  simp [reloadAfterCommit, hrep, hl]

theorem judged_update {expected nowMs : UInt64} {envelope : VaultEnvelope}
    (hj : ReloadJudged P gcm rt (.updateEncryptedVault expected envelope nowMs)) :
    Judged P gcm rt (.updateEncryptedVault expected envelope nowMs) := by
  intro ho
  simp only [step, exec] at ho ⊢
  by_cases hadm : AdmitsUpdate gcm rt expected envelope
  swap
  · obtain ⟨st, _, he⟩ := update_refused P.logged nowMs hadm
    rw [he] at ho ⊢
    exact .inr ⟨ho, rfl⟩
  have hst : rt.state ≠ .error := by simp [hadm.2.1]
  rcases hrep : P.replaceEnvelope expected envelope rt.persistence.1 with ⟨st, w⟩
  rcases update_admitted nowMs hadm (P.logged_replaceEnvelope _ hrep) with ⟨_, he⟩ | ⟨rfl, hre⟩
  · rw [he] at ho
    exact absurd ho (not_offered_of_state hst)
  · rcases hl : P.load w with ⟨⟨st', sn⟩, w'⟩
    rcases hre _ _ _ (P.logged_load _ hl) with
      ⟨_, due, rt', he, _, _, _, _, _, hall, _⟩ | ⟨hd, st'', _, he⟩
    · rw [he] at ho
      exact absurd ho (not_offered_of_allowed hall)
    · rw [he]
      exact .inl ⟨st', sn, ⟨expected, rfl⟩, hj hadm st' sn (reloadAfterCommit_eq hrep hl) hd⟩

/-- A re-key never grants the permission: a locked Vault has none, and the failing reload keeps
it. -/
theorem judged_rekey (h : Inv rt) (expected : UInt64) (envelope : VaultEnvelope) (vmk : Vmk) :
    Judged P gcm rt (.rekeyEncryptedVault expected envelope vmk) := by
  intro ho
  simp only [step, exec] at ho ⊢
  by_cases hadm : AdmitsRekey gcm rt expected envelope vmk
  swap
  · obtain ⟨st, _, he⟩ := rekey_refused P.logged hadm
    rw [he] at ho ⊢
    exact .inr ⟨ho, rfl⟩
  exfalso
  have hall := (h.vault (.inl hadm.2.1)).2.2.1
  rcases hrep : P.replaceEnvelope expected envelope rt.persistence.1 with ⟨st, w⟩
  rcases rekey_admitted hadm (P.logged_replaceEnvelope _ hrep) with ⟨_, he⟩ | ⟨rfl, hre⟩
  · rw [he] at ho
    exact not_offered_of_allowed hall ho
  · rcases hl : P.load w with ⟨⟨st', sn⟩, w'⟩
    rcases hre _ _ _ (P.logged_load _ hl) with
      ⟨_, rt', he, _, _, _, _, _, hall', _⟩ | ⟨_, st'', _, he⟩
    · rw [he] at ho
      exact not_offered_of_allowed hall' ho
    · rw [he] at ho
      refine absurd ho (not_offered_of_allowed ?_)
      exact hall

theorem judged_lock {call : Call} (hcall : call = .lock ∨ call = .enterRecoveryBoundary) :
    Judged P gcm rt call := by
  intro ho
  have hstep : rt.step P.logged gcm call = rt.lock.2 := by
    rcases hcall with rfl | rfl <;> rfl
  rw [hstep] at ho ⊢
  rcases lock_cases rt with ⟨_, he⟩ | ⟨_, _, he⟩ | ⟨_, _, he⟩
  · rw [he] at ho ⊢
    exact .inr ⟨ho, rfl⟩
  · rw [he] at ho ⊢
    exact .inr ⟨ho, rfl⟩
  · rw [he] at ho
    exact absurd ho.1 (by cases rt.hasVault <;> simp)

theorem judged_resident {call : Call}
    (hcall : call = .listCredentials ∨ (∃ id c, call = .withCredential id c) ∨
      (∃ c, call = .withWifi c) ∨ ∃ id, call = .setLastUsed id) : Judged P gcm rt call := by
  intro ho
  rcases resident_cases P.logged gcm rt hcall with he | ⟨hst, _, _, w, _, he⟩ | ⟨_, _, hf, he⟩
  · rw [he] at ho ⊢
    exact .inr ⟨ho, rfl⟩
  · exfalso
    rcases he with he | he <;> rw [he] at ho <;>
      exact not_offered_of_state (by simp [hst]) ho
  · left
    rw [he]
    rcases hcall with rfl | ⟨_, _, rfl⟩ | ⟨_, rfl⟩ | ⟨_, rfl⟩ <;> exact ⟨rfl, hf⟩

/-- Every call judges its faults, if it does not take one of the two wrong exits. -/
theorem judged (h : Inv rt) {call : Call} (hj : ReloadJudged P gcm rt call) :
    Judged P gcm rt call := by
  cases call with
  | initializeRuntime => exact judged_initialize
  | formatForSchema2 => exact judged_format
  | installEncryptedVault envelope vmk => exact judged_install envelope vmk
  | unlock vmk nowMs =>
    intro ho
    simp only [step, exec] at ho ⊢
    rcases unlock_cases gcm rt vmk nowMs with ⟨_, _, he⟩ | ⟨_, _, _, _, _, he⟩
    · rw [he] at ho ⊢
      exact .inr ⟨ho, rfl⟩
    · rw [he] at ho
      exact absurd ho (not_offered_of_allowed rfl)
  | lock => exact judged_lock (.inl rfl)
  | enterRecoveryBoundary => exact judged_lock (.inr rfl)
  | enterVmkRekeyBoundary =>
    intro ho
    simp only [step, exec] at ho ⊢
    rcases enterVmkRekeyBoundary_cases rt with ⟨_, _, he⟩ | ⟨_, _, _, he⟩
    · rw [he] at ho ⊢
      exact .inr ⟨ho, rfl⟩
    · rw [he] at ho
      exact absurd ho (not_offered_of_state (by simp))
  | updateEncryptedVault expected envelope nowMs => exact judged_update hj
  | rekeyEncryptedVault expected envelope vmk => exact judged_rekey h expected envelope vmk
  | listCredentials => exact judged_resident (.inl rfl)
  | withCredential id consumer => exact judged_resident (.inr (.inl ⟨id, consumer, rfl⟩))
  | withWifi consumer => exact judged_resident (.inr (.inr (.inl ⟨consumer, rfl⟩)))
  | setLastUsed id => exact judged_resident (.inr (.inr (.inr ⟨id, rfl⟩)))
  | factoryReset =>
    intro ho
    simp only [step, exec] at ho ⊢
    rcases factoryReset_cases P.logged rt with ⟨_, he⟩ | ⟨_, _, _, _, ⟨_, he⟩ | ⟨_, he⟩⟩
    · rw [he] at ho ⊢
      exact .inr ⟨ho, rfl⟩
    · rw [he] at ho
      exact absurd ho (not_offered_of_allowed rfl)
    · rw [he] at ho
      exact absurd ho (not_offered_of_allowed rfl)

/-- Every operation judges its faults, if it takes none of the wrong exits. -/
theorem judged_operate (h : Inv rt) {input : GcmOpen × Operation} (hj : FaultsJudged P rt input)
    (ho : ResetOffered (rt.operate P.logged input)) :
    StructuralOperation rt input (rt.operate P.logged input) ∨
      (ResetOffered rt ∧ (rt.operate P.logged input).log = rt.log) := by
  obtain ⟨gcm, op⟩ := input
  cases op with
  | call call => exact (judged h hj ho).imp_left fun hs => ⟨call, rfl, hs⟩
  | fatalSecurityError =>
    right
    have hlog : rt.fatalSecurityError.2.log = rt.log := by
      rcases fatal_cases rt with ⟨_, he⟩ | ⟨_, he⟩
      · rw [he]
      · rw [he]
        rfl
    refine ⟨hj.elim (fun hi => ?_) id, hlog⟩
    have hsame : rt.operate P.logged (gcm, .fatalSecurityError) = rt :=
      (fatal_cases rt).elim And.right fun h => absurd hi (by simp [h.1])
    rwa [hsame] at ho

/-! ## A structural reload after a commit -/

theorem CommittedReload.ne {rt' : Runtime (σ × List Reply)} {envelope : VaultEnvelope}
    {st : Status} {sn : PersistedSnapshot} (h : CommittedReload rt rt' envelope st sn)
    (hlog : rt'.log.length < rt.log.length + 2) : False := by
  obtain ⟨_, hl⟩ := h
  rw [hl] at hlog
  simp at hlog

theorem install_grants {envelope : VaultEnvelope} {vmk : Vmk} {st : Status}
    {sn : PersistedSnapshot}
    (hc : CommittedReload rt (rt.step P.logged gcm (.installEncryptedVault envelope vmk))
      envelope st sn) (hs : structuralLoad (some envelope) st sn = true) :
    ResetOffered (rt.step P.logged gcm (.installEncryptedVault envelope vmk)) := by
  simp only [step, exec] at hc ⊢
  by_cases hadm : AdmitsInstall gcm rt envelope vmk
  swap
  · obtain ⟨st, _, he⟩ := install_refused P.logged hadm
    rw [he] at hc
    exact (hc.ne (by simp)).elim
  rcases hrep : P.replaceEnvelope 0 envelope rt.persistence.1 with ⟨st₁, w⟩
  rcases install_admitted hadm (P.logged_replaceEnvelope _ hrep) with ⟨_, he⟩ | ⟨rfl, hre⟩
  · rw [he] at hc
    exact (hc.ne (by simp [log])).elim
  · rcases hl : P.load w with ⟨⟨st', sn'⟩, w'⟩
    rcases hre _ _ _ (P.logged_load _ hl) with
      ⟨hacc, hv, henv, he⟩ | ⟨hbad, st'', rt', he, _, hw, hst, _, _, _, hall⟩
    · rw [he] at hc
      obtain ⟨_, hlog⟩ := hc
      simp only [log, loaded_persistence, List.cons.injEq, Reply.load.injEq] at hlog
      obtain ⟨⟨rfl, rfl⟩, _⟩ := hlog
      simp only [loadAccepted, Bool.and_eq_true, beq_iff_eq, Bool.or_eq_true,
        Bool.not_eq_true', hv] at hacc
      obtain ⟨⟨rfl, hsr⟩, hf⟩ := hacc
      simp [structuralLoad, hsr, hv, henv] at hs
      simp_all
    · rw [he] at hc ⊢
      obtain ⟨_, hlog⟩ := hc
      simp only [log, hw, List.cons.injEq, Reply.load.injEq] at hlog
      obtain ⟨⟨rfl, rfl⟩, _⟩ := hlog
      exact ⟨hst, hall.trans (loadAllowed_of_structural hs)⟩

theorem update_grants {expected nowMs : UInt64} {envelope : VaultEnvelope} {st : Status}
    {sn : PersistedSnapshot}
    (hc : CommittedReload rt
      (rt.step P.logged gcm (.updateEncryptedVault expected envelope nowMs)) envelope st sn)
    (hs : structuralLoad (some envelope) st sn = true) :
    ResetOffered (rt.step P.logged gcm (.updateEncryptedVault expected envelope nowMs)) := by
  simp only [step, exec] at hc ⊢
  by_cases hadm : AdmitsUpdate gcm rt expected envelope
  swap
  · obtain ⟨st, _, he⟩ := update_refused P.logged nowMs hadm
    rw [he] at hc
    exact (hc.ne (by simp)).elim
  rcases hrep : P.replaceEnvelope expected envelope rt.persistence.1 with ⟨st₁, w⟩
  rcases update_admitted nowMs hadm (P.logged_replaceEnvelope _ hrep) with ⟨_, he⟩ | ⟨rfl, hre⟩
  · rw [he] at hc
    exact (hc.ne (by simp [log])).elim
  · rcases hl : P.load w with ⟨⟨st', sn'⟩, w'⟩
    rcases hre _ _ _ (P.logged_load _ hl) with
      ⟨hd, due, rt', he, hw, _⟩ | ⟨_, st'', _, he⟩
    · rw [he] at hc
      obtain ⟨_, hlog⟩ := hc
      simp only [log, hw, List.cons.injEq, Reply.load.injEq] at hlog
      obtain ⟨⟨rfl, rfl⟩, _⟩ := hlog
      obtain ⟨policy, hval⟩ := hadm.2.2.2.2.2
      simp [structuralLoad_of_same (valid_of_validate hval) hd] at hs
    · rw [he]
      exact ⟨rfl, rfl⟩

/-- A re-key whose reload is not structural cannot have had a structural reload. -/
theorem rekey_not_structural {expected : UInt64} {envelope : VaultEnvelope} {vmk : Vmk}
    {st : Status} {sn : PersistedSnapshot}
    (hj : ReloadJudged P gcm rt (.rekeyEncryptedVault expected envelope vmk))
    (hc : CommittedReload rt
      (rt.step P.logged gcm (.rekeyEncryptedVault expected envelope vmk)) envelope st sn) :
    structuralLoad (some envelope) st sn = false := by
  simp only [step, exec] at hc
  by_cases hadm : AdmitsRekey gcm rt expected envelope vmk
  swap
  · obtain ⟨st, _, he⟩ := rekey_refused P.logged hadm
    rw [he] at hc
    exact (hc.ne (by simp)).elim
  rcases hrep : P.replaceEnvelope expected envelope rt.persistence.1 with ⟨st₁, w⟩
  rcases rekey_admitted hadm (P.logged_replaceEnvelope _ hrep) with ⟨_, he⟩ | ⟨rfl, hre⟩
  · rw [he] at hc
    exact (hc.ne (by simp [log])).elim
  · rcases hl : P.load w with ⟨⟨st', sn'⟩, w'⟩
    have hjudge := hj hadm st' sn' (reloadAfterCommit_eq hrep hl)
    have hlog : (rt.rekeyEncryptedVault P.logged gcm expected envelope vmk).2.persistence.2 =
        .load st' sn' :: .replaceEnvelope expected envelope .ok :: rt.log := by
      rcases hre _ _ _ (P.logged_load _ hl) with ⟨_, rt', he, hw, _⟩ | ⟨_, st'', _, he⟩
      · rw [he]
        exact congrArg Prod.snd hw
      · rw [he]
        rfl
    obtain ⟨_, hlog'⟩ := hc
    rw [log, hlog] at hlog'
    simp only [List.cons.injEq, Reply.load.injEq] at hlog'
    obtain ⟨⟨rfl, rfl⟩, _⟩ := hlog'
    exact hjudge

/-- A structural reload after a commit grants the permission. -/
theorem committed_grants {call : Call} {envelope : VaultEnvelope} {st : Status}
    {sn : PersistedSnapshot} (hj : ReloadJudged P gcm rt call) (hcall : call.committed = some envelope)
    (hc : CommittedReload rt (rt.step P.logged gcm call) envelope st sn)
    (hs : structuralLoad (some envelope) st sn = true) :
    ResetOffered (rt.step P.logged gcm call) := by
  cases call with
  | installEncryptedVault e vmk =>
    obtain rfl : e = envelope := by simpa [Call.committed] using hcall
    exact install_grants hc hs
  | updateEncryptedVault expected e nowMs =>
    obtain rfl : e = envelope := by simpa [Call.committed] using hcall
    exact update_grants hc hs
  | rekeyEncryptedVault expected e vmk =>
    obtain rfl : e = envelope := by simpa [Call.committed] using hcall
    rw [rekey_not_structural hj hc] at hs
    cases hs
  | _ => simp [Call.committed] at hcall

end

/-! ## Whole runs -/

/-- What the permission should mean for one run: it was granted by a structural fault and nothing
was asked of the persistence since, and every structural reload after a commit granted it. -/
def PermissionJudged (P : Persistence σ) (world : σ) (inp : Nat → GcmOpen × Operation) (n : Nat) :
    Prop :=
  let rt := Run.stateAt (operate P.logged) (Runtime.new (world, [])) inp
  (ResetOffered (rt n) → ∃ m, Run.Since (operate P.logged) (Runtime.new (world, [])) inp
    ResetOffered StructuralOperation (fun rt _ rt' => rt'.log = rt.log) m n) ∧
  ∀ k, k < n → ∀ call envelope st sn, (inp k).2 = .call call → call.committed = some envelope →
    CommittedReload (rt k) (rt (k + 1)) envelope st sn →
    structuralLoad (some envelope) st sn = true → ResetOffered (rt (k + 1))

/-- **The reset permission is granted for structural faults, and for all of them**, in every run
that takes none of the wrong exits, whatever the persistence answers and every decryption. -/
theorem reset_permission_structural (P : Persistence σ) (world : σ)
    (inp : Nat → GcmOpen × Operation) (n : Nat)
    (hjudged : ∀ k, k < n → FaultsJudged P
      (Run.stateAt (operate P.logged) (Runtime.new (world, [])) inp k) (inp k)) :
    PermissionJudged P world inp n := by
  refine ⟨fun ho => ?_, fun k hk call envelope st sn hop hcall hc hs => ?_⟩
  · exact Run.since (not_offered_of_allowed rfl) (inv_operated (P := P.logged) (world, []) inp)
      (fun rt input h hj ho => judged_operate h hj ho) hjudged ho
  · have hj := hjudged k hk
    rw [Run.stateAt_succ] at hc ⊢
    generalize inp k = input at hop hj hc ⊢
    obtain ⟨gcm, op⟩ := input
    subst hop
    exact committed_grants hj hcall hc hs

/-! ## Runs with a fault -/

/-- A persistence that answers loads from a script and accepts every write. -/
def scripted : Persistence (List (Status × PersistedSnapshot)) where
  load
    | [] => ((.io, {}), [])
    | answer :: script => (answer, script)
  formatSchema2 script := (.ok, script)
  replaceEnvelope _ _ script := (.ok, script)
  setLastUsed _ script := (.ok, script)
  eraseAll script := (.ok, script)

/-- The format 1 plaintext without credentials and Wi-Fi. -/
def emptyPlaintext : List UInt8 := plaintextMagicV1 ++ [0, 1, 0, 0, 0]

/-- A decryption that opens everything to `emptyPlaintext`. -/
def openAll : GcmOpen := fun _ _ _ _ _ => some emptyPlaintext

def envelopeAt (generation : UInt64) : VaultEnvelope := { generation, ciphertext := [0] }

/-- Boot, unlock, and update the Vault from generation 1 to 2. -/
def updateRun : Nat → Call
  | 0 => .initializeRuntime
  | 1 => .unlock (Bytes.zero 32) 0
  | 2 => .updateEncryptedVault 1 (envelopeAt 2) 0
  | _ => .lock

/-- The script of that run: the boot finds generation 1, the reload after the commit answers
`status`. -/
def updateScript (status : Status) : List (Status × PersistedSnapshot) :=
  [(.ok, { schemaReady := true, hasVault := true, envelope := envelopeAt 1 }), (status, {})]

/-- A run of calls whose decryptions all succeed. -/
def opening (calls : Nat → Call) (n : Nat) : GcmOpen × Operation := (openAll, .call (calls n))

/-- Boot, unlock, and list the accounts, which the resident key does not open any more. -/
def listRun : Nat → GcmOpen × Operation
  | 0 => (openAll, .call .initializeRuntime)
  | 1 => (openAll, .call (.unlock (Bytes.zero 32) 0))
  | _ => (fun _ _ _ _ _ => none, .call .listCredentials)

/-- The permission is granted by the reload of an update that reports corrupt data, and by a list of
the accounts whose decryption fails. -/
theorem reset_permission_structural_update :
    (PermissionJudged scripted (updateScript .corrupt) (opening updateRun) 3 ∧
      ResetOffered (Run.stateAt (operate scripted.logged)
        (Runtime.new (updateScript .corrupt, [])) (opening updateRun) 3)) ∧
    PermissionJudged scripted (updateScript .io) listRun 3 ∧
      ResetOffered (Run.stateAt (operate scripted.logged)
        (Runtime.new (updateScript .io, [])) listRun 3) := by
  refine ⟨⟨reset_permission_structural scripted _ (opening updateRun) 3 fun k hk => ?_, rfl, rfl⟩,
    reset_permission_structural scripted _ listRun 3 fun k hk => ?_, rfl, rfl⟩
  · match k, hk with
    | 0, _ => exact trivial
    | 1, _ => exact trivial
    | 2, _ =>
      intro _ st sn h _
      have h' : some (Status.corrupt, ({} : PersistedSnapshot)) = some (st, sn) := h
      obtain ⟨rfl, rfl⟩ := Prod.mk.inj (Option.some.inj h')
      rfl
  · match k, hk with
    | 0, _ => exact trivial
    | 1, _ => exact trivial
    | 2, _ => exact trivial

/-- Boot, unlock, and re-key the Vault from generation 1 to 2. -/
def rekeyRun : Nat → Call
  | 0 => .initializeRuntime
  | 1 => .unlock (Bytes.zero 32) 0
  | 2 => .enterVmkRekeyBoundary
  | 3 => .rekeyEncryptedVault 1 (envelopeAt 2) (Bytes.zero 32)
  | _ => .lock

/-- An I/O error of the reload after a committed update grants the permission: no structural fault
was found, and the user is offered a destructive reset. And a corrupt reload after a committed
re-key does not grant it. -/
theorem reloads_misjudged :
    ¬ PermissionJudged scripted (updateScript .io) (opening updateRun) 3 ∧
      ¬ PermissionJudged scripted (updateScript .corrupt) (opening rekeyRun) 4 := by
  constructor
  · intro h
    obtain ⟨m, hm⟩ := h.1 ⟨rfl, rfl⟩
    have hlt := hm.before
    match m, hlt with
    | 0, _ => exact absurd (hm.held 1 (by omega) (by omega)).1 (by decide)
    | 1, _ => exact absurd (hm.held 2 (by omega) (by omega)).1 (by decide)
    | 2, _ =>
      obtain ⟨call, hcall, hevent⟩ := hm.begun
      obtain rfl : updateRun 2 = call := Operation.call.inj hcall
      obtain ⟨st, sn, ⟨_, hlog⟩, hs⟩ := hevent
      have hst : Status.io = st := (Reply.load.inj (List.cons.inj hlog).1).1
      subst hst
      simp [structuralLoad, explicitResetRecoveryStatus] at hs
  · intro h
    have ho := h.2 3 (by omega) (rekeyRun 3) (envelopeAt 2) .corrupt {} rfl rfl ⟨1, rfl⟩ rfl
    exact absurd ho.2 (by decide)

end M5Auth.VaultRuntime.Runtime
