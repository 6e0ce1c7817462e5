import M5Auth.VaultRuntime.Proof.CallEffects
import M5Auth.VaultRuntime.Proof.NvsLoad

/-!
# The framing of the Vault in RAM

`Framed`: whatever state the runtime is in, the envelope of a Vault that is present has valid
framing. Every call keeps it (`Framed.step`), over a persistence that loads such Vaults only
(`LoadsFramed`); the firmware's own does (`loadsFramed_nvs`).
-/

namespace M5Auth.VaultRuntime

open Vault FaultyStore FaultyStore.Prog

variable {σ : Type}

/-- A load that succeeds shows a Vault only with valid framing. -/
def LoadsFramed (P : Persistence σ) : Prop :=
  ∀ w sn w', P.load w = ((.ok, sn), w') → sn.hasVault = true →
    validEnvelopeFraming sn.envelope = true

/-! ## The firmware's persistence -/

namespace NvsPersistence

theorem triple_get {β : Type} (f : Partition → β) :
    Triple (fun _ => True) (get f) (fun _ _ => True) (fun _ _ => True) :=
  .call (fun _ _ => trivial) fun _ _ _ => trivial

theorem readActive_framed : Triple (fun _ : Partition => True) readActive
    (fun active _ => ∀ slot envelope, active = some (slot, envelope) →
      validEnvelopeFraming envelope = true) (fun _ _ => True) := by
  refine .bind (triple_get _) fun active => ?_
  cases active with
  | none => exact .pure fun _ _ _ _ h => nomatch h
  | some slot =>
    refine .ite (fun _ => .throw fun _ _ => trivial) fun _ =>
      .bind (Q := fun _ _ => True) ?_ fun encoded => ?_
    · exact fun w _ res w' h => by cases res <;> trivial
    · split
      · exact .throw fun _ _ => trivial
      · rename_i envelope hdecode
        refine .pure fun _ _ slot' envelope' h => ?_
        cases h
        exact decodeEnvelope_valid hdecode

theorem loadNamespace_framed : Triple (fun _ : Partition => True) loadNamespace
    (fun sn _ => sn.hasVault = true → validEnvelopeFraming sn.envelope = true)
    (fun _ _ => True) := by
  refine .bind (triple_get _) fun schema => ?_
  cases schema with
  | none => exact .throw fun _ _ => trivial
  | some schema =>
    refine .ite (fun _ => .throw fun _ _ => trivial) fun _ =>
      .ite (fun _ => .throw fun _ _ => trivial) fun _ =>
      .ite (fun _ => .throw fun _ _ => trivial) fun _ =>
      .bind readActive_framed fun active => ?_
    intro w hw res w' h
    have hlast : Triple (fun _ : Partition => True) (readLastUsed >>= fun lastUsed =>
        pure (snapshotOf active lastUsed) : NvsProg PersistedSnapshot)
        (fun sn _ => ∃ lastUsed, sn = snapshotOf active lastUsed) (fun _ _ => True) :=
      .bind (Q := fun _ _ => True) (fun w _ res w' _ => by cases res <;> trivial)
        fun lastUsed => .pure fun _ _ => ⟨lastUsed, rfl⟩
    have hres := hlast w trivial res w' h
    cases res with
    | error status => trivial
    | ok sn =>
      obtain ⟨lastUsed, rfl⟩ := hres
      intro hv
      obtain ⟨⟨slot, envelope⟩, rfl⟩ := Option.isSome_iff_exists.1 hv
      exact hw slot envelope rfl

theorem load_framed : Triple (fun _ : Partition => True) load
    (fun sn _ => sn.hasVault = true → validEnvelopeFraming sn.envelope = true)
    (fun _ _ => True) := by
  refine .bind (triple_get fun _ => ()) fun _ => .bind (triple_get _) fun ns => ?_
  cases ns with
  | some ns => exact loadNamespace_framed
  | none =>
    intro w _ res w' h
    cases res with
    | error status => trivial
    | ok sn =>
      have hvalue := reads_detectLegacySchema.sound w sn w' h
      rw [value_detectLegacySchema] at hvalue
      cases hvalue

end NvsPersistence

theorem loadsFramed_nvs : LoadsFramed compatibleNvsPersistence := by
  intro nvs sn nvs' h hv
  simp only [compatibleNvsPersistence] at h
  rcases hl : CompatibleNvsPersistence.load nvs with ⟨status | sn', nvs''⟩
  · rw [hl] at h
    obtain ⟨⟨rfl, -⟩, -⟩ := Prod.mk.inj h |>.imp_left Prod.mk.inj
    exact absurd rfl (CompatibleNvsPersistence.fails_load _ _ _ hl)
  · rw [hl] at h
    obtain ⟨⟨-, rfl⟩, -⟩ := Prod.mk.inj h |>.imp_left Prod.mk.inj
    unfold CompatibleNvsPersistence.load at hl
    rcases hp : NvsPersistence.load nvs with ⟨status | sn'', nvs₁⟩
    · rw [hp] at hl
      dsimp only at hl
      split at hl
      · cases hl
      · split at hl <;> cases hl
    · rw [hp] at hl
      obtain ⟨⟨rfl⟩, -⟩ := Prod.mk.inj hl
      exact NvsPersistence.load_framed nvs trivial _ _ hp hv

/-! ## The runtime -/

namespace Runtime

variable {P : Persistence σ} {gcm : GcmOpen} {rt : Runtime σ}

/-- A Vault that is present has valid framing. -/
def Framed (rt : Runtime σ) : Prop :=
  rt.hasVault = true → validEnvelopeFraming rt.envelope = true

theorem Framed.of_empty (h : rt.hasVault = false) : Framed rt := by
  intro hv
  rw [h] at hv
  cases hv

/-- Only the Vault counts. -/
theorem Framed.congr {rt' : Runtime σ} (h : Framed rt) (hv : rt'.hasVault = rt.hasVault)
    (he : rt'.envelope = rt.envelope) : Framed rt' := by
  intro hp
  rw [he]
  exact h (hv ▸ hp)

theorem Framed.loaded {status : Status} {sn : PersistedSnapshot} {w : σ}
    (hacc : loadAccepted status sn = true) : Framed (rt.loaded w sn) := by
  intro hv
  rw [loaded_hasVault] at hv
  simp only [loadAccepted, Bool.and_eq_true, Bool.or_eq_true, Bool.not_eq_true'] at hacc
  rw [loaded_envelope, if_pos hv]
  rcases hacc.2 with hn | hf
  · rw [hv] at hn
    cases hn
  · exact hf

/-- A reload that is not accepted keeps the Vault as it was. -/
theorem Framed.reload (hP : LoadsFramed P) (h : Framed rt) :
    Framed (rt.reloadAfterPersistence P).2 := by
  rcases hl : P.load rt.persistence with ⟨⟨status, sn⟩, w⟩
  rcases reload_cases rt hl with ⟨hacc, he⟩ | ⟨hrej, _⟩
  · rw [he]
    exact .loaded hacc
  · unfold reloadAfterPersistence
    rw [hl]
    by_cases hok : status = .ok
    · subst hok
      cases hsr : sn.schemaReady
      · simp only [hsr, ne_eq, not_true_eq_false, Bool.not_false, or_true, if_true]
        exact h.congr rfl rfl
      · -- a load of a Vault with invalid framing does not happen
        have hv : sn.hasVault = true ∧ validEnvelopeFraming sn.envelope = false := by
          simpa [loadAccepted, hsr] using hrej
        rw [hP _ _ _ hl hv.1] at hv
        cases hv.2
    · simp only [ne_eq, hok, not_false_eq_true, true_or, if_true, if_false]
      exact h.congr rfl rfl

theorem Framed.initializeRuntime : Framed (rt.initializeRuntime P).2 := by
  rcases hl : P.load rt.persistence with ⟨⟨status, sn⟩, w⟩
  rcases initializeRuntime_cases rt hl with
    ⟨hacc, he⟩ | ⟨_, _, rt', he, _, _, _, _, hv, _⟩
  · rw [he]
    exact .loaded hacc
  · rw [he]
    exact .of_empty hv

theorem Framed.formatForSchema2 (hP : LoadsFramed P) (h : Framed rt) :
    Framed (rt.formatForSchema2 P).2 := by
  rcases format_cases P rt with ⟨_, he⟩ | ⟨_, st, w, _, ⟨_, he⟩ | ⟨_, he⟩⟩
  · rw [he]
    exact h
  · rw [he]
    exact h.congr rfl rfl
  · rw [he]
    exact .reload hP (h.congr rfl rfl)

theorem Framed.installEncryptedVault (hP : LoadsFramed P) (h : Framed rt)
    (envelope : VaultEnvelope) (vmk : Vmk) :
    Framed (rt.installEncryptedVault P gcm envelope vmk).2 := by
  by_cases hadm : AdmitsInstall gcm rt envelope vmk
  swap
  · obtain ⟨_, _, he⟩ := install_refused P hadm
    rw [he]
    exact h
  obtain ⟨hi, hs, hst, hv, policy, hval⟩ := hadm
  rcases hrep : P.replaceEnvelope 0 envelope rt.persistence with ⟨st, w⟩
  have hwritten : Framed (rt.withPersistence w) := h.congr rfl rfl
  have hreload := hwritten.reload hP
  rcases hr : (rt.withPersistence w).reloadAfterPersistence P with ⟨st', rt'⟩
  rw [hr] at hreload
  simp only [Runtime.installEncryptedVault, hi, hs, hst, hv, hval, hrep, hr, Bool.not_true,
    Bool.false_eq_true, if_false, ne_eq, not_true_eq_false, or_self]
  split
  · exact hwritten
  · split
    · exact hreload.congr rfl rfl
    · exact hreload

theorem Framed.unlock (h : Framed rt) (vmk : Vmk) (nowMs : UInt64) :
    Framed (rt.unlock gcm vmk nowMs).2 := by
  rcases unlock_cases gcm rt vmk nowMs with ⟨_, _, he⟩ | ⟨_, _, _, _, _, he⟩
  · rw [he]
    exact h
  · rw [he]
    exact h.congr rfl rfl

theorem Framed.lock (h : Framed rt) : Framed rt.lock.2 := by
  rcases lock_cases rt with ⟨_, he⟩ | ⟨_, _, he⟩ | ⟨_, _, he⟩ <;> rw [he]
  · exact h
  · exact h.congr rfl rfl
  · exact h.congr rfl rfl

theorem Framed.enterVmkRekeyBoundary (h : Framed rt) : Framed rt.enterVmkRekeyBoundary.2 := by
  rcases enterVmkRekeyBoundary_cases rt with ⟨_, _, he⟩ | ⟨_, _, _, he⟩ <;> rw [he]
  · exact h
  · exact h.congr rfl rfl

theorem Framed.updateEncryptedVault (h : Framed rt) (expected : UInt64) (envelope : VaultEnvelope)
    (nowMs : UInt64) : Framed (rt.updateEncryptedVault P gcm expected envelope nowMs).2 := by
  by_cases hadm : AdmitsUpdate gcm rt expected envelope
  swap
  · obtain ⟨_, _, he⟩ := update_refused P nowMs hadm
    rw [he]
    exact h
  obtain ⟨policy, hval⟩ := hadm.2.2.2.2.2
  rcases hrep : P.replaceEnvelope expected envelope rt.persistence with ⟨st, w⟩
  rcases hl : P.load w with ⟨⟨st', sn⟩, w'⟩
  rcases update_admitted nowMs hadm hrep with ⟨_, he⟩ | ⟨_, hre⟩
  · rw [he]
    exact h.congr rfl rfl
  · rcases hre st' sn w' hl with ⟨_, _, rt', he, _, henv, _⟩ | ⟨_, _, _, he⟩ <;> rw [he]
    · intro _
      rw [henv]
      exact valid_of_validate hval
    · exact h.congr rfl rfl

theorem Framed.rekeyEncryptedVault (h : Framed rt) (expected : UInt64) (envelope : VaultEnvelope)
    (vmk : Vmk) : Framed (rt.rekeyEncryptedVault P gcm expected envelope vmk).2 := by
  by_cases hadm : AdmitsRekey gcm rt expected envelope vmk
  swap
  · obtain ⟨_, _, he⟩ := rekey_refused P hadm
    rw [he]
    exact h
  obtain ⟨policy, hval⟩ := hadm.2.2.2.2.2.2
  rcases hrep : P.replaceEnvelope expected envelope rt.persistence with ⟨st, w⟩
  rcases hl : P.load w with ⟨⟨st', sn⟩, w'⟩
  rcases rekey_admitted hadm hrep with ⟨_, he⟩ | ⟨_, hre⟩
  · rw [he]
    exact h.congr rfl rfl
  · rcases hre st' sn w' hl with ⟨_, rt', he, _, henv, _⟩ | ⟨_, _, _, he⟩ <;> rw [he]
    · intro _
      rw [henv]
      exact valid_of_validate hval
    · exact h.congr rfl rfl

theorem Framed.factoryReset (h : Framed rt) : Framed (rt.factoryReset P).2 := by
  rcases factoryReset_cases P rt with ⟨_, he⟩ | ⟨_, st, w, _, ⟨_, he⟩ | ⟨_, he⟩⟩ <;> rw [he]
  · exact h
  · exact h.congr rfl rfl
  · exact .of_empty rfl

theorem Framed.resident (h : Framed rt) {call : Call}
    (hcall : call = .listCredentials ∨ (∃ id c, call = .withCredential id c) ∨
      (∃ c, call = .withWifi c) ∨ ∃ id, call = .setLastUsed id) :
    Framed (rt.step P gcm call) := by
  rcases resident_cases P gcm rt hcall with
    he | ⟨_, id, st, w, _, he | he⟩ | ⟨_, _, _, he⟩ <;> rw [he]
  · exact h
  · exact h.congr rfl rfl
  · exact h.congr rfl rfl
  · exact h.congr rfl rfl

/-- Every call keeps the framing of the Vault in RAM. -/
theorem Framed.step (hP : LoadsFramed P) (h : Framed rt) (call : Call) :
    Framed (rt.step P gcm call) := by
  cases call with
  | initializeRuntime => exact .initializeRuntime
  | formatForSchema2 => exact h.formatForSchema2 hP
  | installEncryptedVault envelope vmk => exact h.installEncryptedVault hP envelope vmk
  | unlock vmk nowMs => exact h.unlock vmk nowMs
  | lock => exact h.lock
  | enterRecoveryBoundary => exact h.lock
  | enterVmkRekeyBoundary => exact h.enterVmkRekeyBoundary
  | updateEncryptedVault expected envelope nowMs =>
    exact h.updateEncryptedVault expected envelope nowMs
  | rekeyEncryptedVault expected envelope vmk => exact h.rekeyEncryptedVault expected envelope vmk
  | listCredentials => exact h.resident (.inl rfl)
  | withCredential id consumer => exact h.resident (.inr (.inl ⟨id, consumer, rfl⟩))
  | withWifi consumer => exact h.resident (.inr (.inr (.inl ⟨consumer, rfl⟩)))
  | setLastUsed id => exact h.resident (.inr (.inr (.inr ⟨id, rfl⟩)))
  | factoryReset => exact h.factoryReset

end Runtime

end M5Auth.VaultRuntime
