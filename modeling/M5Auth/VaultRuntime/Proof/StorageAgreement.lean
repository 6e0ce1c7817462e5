import M5Auth.VaultRuntime.Proof.Invariant
import M5Auth.VaultRuntime.Proof.NvsReplace
import M5Auth.VaultRuntime.Proof.ResetPermission

/-!
# The RAM copy and the flash

A runtime that holds a Vault keeps a copy of its envelope. `StorageAgrees`: the runtime is in
`kError`, or the copy is what the flash would load now, so that the host sees the generation that
survives a reboot and the next successor is accepted on both sides.

`replace_envelope` may fail after the write of the active-slot pointer took effect. The runtime
then keeps its old copy over the new Vault. `storage_agrees_iff`: as long as no update and no
re-key met such a torn write, RAM and flash agree, and one that meets it is exactly what breaks
the agreement (`torn_flip_disagrees` is such a run).
-/

namespace M5Auth.VaultRuntime.Runtime

open Vault FaultyStore

/-! ## Agreement -/

/-- The flash loads the RAM copy, the host is told so, the flash accepts what the runtime would
accept next, and a reboot reports the same generation. -/
structure FlashAgrees (rt : Runtime AuthNvs) : Prop where
  loads : ∃ sn, loadNow rt.persistence.content = .ok sn ∧ sn.hasVault = true ∧
    sn.envelope = rt.envelope
  reports : ∀ m, rt.metadata = .ok m → m.vaultId = rt.envelope.vaultId ∧
    m.generation = rt.envelope.generation ∧ m.vaultFormatVersion = rt.envelope.vaultFormatVersion
  accepts : ∀ expected candidate, rt.checkSuccessor expected candidate = .ok →
    validEnvelopeFraming candidate = true →
    (compatibleNvsPersistence.replaceEnvelope expected candidate
      (World.reliable rt.persistence.content)).1 = .ok
  survives : ∀ m, rt.metadata = .ok m → ∃ m', ((Runtime.new (World.reliable
    rt.persistence.content)).initializeRuntime compatibleNvsPersistence).2.metadata = .ok m' ∧
      m'.vaultId = m.vaultId ∧ m'.generation = m.generation ∧
      m'.vaultFormatVersion = m.vaultFormatVersion

/-- The claim for a runtime: if it holds a Vault, it is in `kError` or agrees with the flash. -/
def StorageAgrees (rt : Runtime AuthNvs) : Prop :=
  rt.hasVault = true → rt.state = .error ∨ FlashAgrees rt

/-- The flash holds the Vault `envelope`. -/
def Holds (nvs : AuthNvs) (envelope : VaultEnvelope) : Prop :=
  ∃ slot, VaultAt nvs.content slot envelope

variable {gcm : GcmOpen} {rt : Runtime AuthNvs}

theorem accepts_successor {expected : UInt64} {candidate : VaultEnvelope} (slot : UInt8)
    (hgen : rt.envelope.generation ≠ 0) (h : rt.checkSuccessor expected candidate = .ok) :
    NvsPersistence.acceptsGeneration expected candidate (some (slot, rt.envelope)) = true ∧
      candidate.generation = rt.envelope.generation + 1 := by
  unfold checkSuccessor at h
  split at h
  · simp at h
  rename_i hne
  simp only [not_or, ne_eq, not_not] at hne
  obtain ⟨rfl, hmax, hsucc, hid⟩ := hne
  exact ⟨by simp [NvsPersistence.acceptsGeneration, hgen, hmax, hsucc, hid], hsucc⟩

/-- Agreement is that the flash holds the RAM copy. -/
theorem FlashAgrees.of_holds (hv : rt.hasVault = true) (h : Holds rt.persistence rt.envelope) :
    FlashAgrees rt := by
  obtain ⟨slot, hat⟩ := h
  obtain ⟨sn, hload, hsr, hsv, he⟩ := hat.loads
  have hvalid := hat.valid
  have hgen : rt.envelope.generation ≠ 0 := by
    simp only [validEnvelopeFraming, Bool.and_eq_true, bne_iff_ne] at hvalid
    exact hvalid.1.1.2
  have hreports : ∀ m, rt.metadata = .ok m → m.vaultId = rt.envelope.vaultId ∧
      m.generation = rt.envelope.generation ∧
      m.vaultFormatVersion = rt.envelope.vaultFormatVersion := by
    intro m hm
    unfold metadata at hm
    split at hm
    · simp at hm
    · cases hm
      simp [report, hv]
  refine ⟨⟨sn, hload, hsv, he⟩, hreports, fun expected candidate hsucc hcand => ?_, fun m hm => ?_⟩
  · obtain ⟨u, nvs', hr, _, _⟩ := (NvsPersistence.replaceEnvelope_works
      (accepts_successor slot hgen hsucc).1 hcand).run (World.reliable_reliable _) hat
    simp [compatibleNvsPersistence, hr, statusOf]
  · obtain ⟨hid, hmgen, hfmt⟩ := hreports m hm
    rcases hl : compatibleNvsPersistence.load (World.reliable rt.persistence.content) with
      ⟨⟨st, sn'⟩, w⟩
    have hst : st = .ok ∧ sn' = sn := load_reliable hl hload
    obtain ⟨rfl, rfl⟩ := hst
    rcases initializeRuntime_cases (Runtime.new (World.reliable rt.persistence.content)) hl
      with ⟨_, hi⟩ | ⟨hrej, _⟩
    · rw [hi]
      refine ⟨_, rfl, ?_⟩
      simp [report, hsv, he, hid, hmgen, hfmt]
    · rw [loadAccepted, hsr, hsv, he, hvalid] at hrej
      simp at hrej

theorem FlashAgrees.holds (h : FlashAgrees rt) :
    Holds rt.persistence rt.envelope := by
  obtain ⟨sn, hload, hv, he⟩ := h.loads
  obtain ⟨slot, hat⟩ := vaultAt_of_loadNow hload hv
  exact ⟨slot, he ▸ hat⟩

/-! ## One replacement -/

/-- The update or re-key `call` gets past its checks, and the write of the active-slot pointer
fails after having taken effect. -/
def TearsFlip (gcm : GcmOpen) (rt : Runtime AuthNvs) : Call → Prop
  | .updateEncryptedVault expected envelope _ =>
    AdmitsUpdate gcm rt expected envelope ∧
      NvsPersistence.TornFlip expected envelope rt.persistence
  | .rekeyEncryptedVault expected envelope vmk =>
    AdmitsRekey gcm rt expected envelope vmk ∧
      NvsPersistence.TornFlip expected envelope rt.persistence
  | _ => False

/-- What a replacement of the RAM copy's Vault leaves in the flash. -/
theorem replacement_cases {expected : UInt64} {candidate : VaultEnvelope} {st : Status}
    {w : AuthNvs} (h : Holds rt.persistence rt.envelope)
    (hsucc : rt.checkSuccessor expected candidate = .ok)
    (hrep : compatibleNvsPersistence.replaceEnvelope expected candidate rt.persistence = (st, w)) :
    (¬ NvsPersistence.TornFlip expected candidate rt.persistence ∧
      ((st ≠ .ok ∧ Holds w rt.envelope) ∨ (st = .ok ∧ Holds w candidate))) ∨
    (NvsPersistence.TornFlip expected candidate rt.persistence ∧ st ≠ .ok ∧
      ¬ Holds w rt.envelope) := by
  obtain ⟨slot, hat⟩ := h
  have hne : candidate ≠ rt.envelope := by
    have hgen : rt.envelope.generation ≠ 0 := by
      have hvalid := hat.valid
      simp only [validEnvelopeFraming, Bool.and_eq_true, bne_iff_ne] at hvalid
      exact hvalid.1.1.2
    have hnext := (accepts_successor slot hgen hsucc).2
    rintro rfl
    exact absurd hnext.symm (by simp)
  rcases hr : NvsPersistence.replaceEnvelope expected candidate rt.persistence with ⟨res, w'⟩
  simp only [compatibleNvsPersistence, hr] at hrep
  rcases NvsPersistence.replaceEnvelope_cases hat hr with
    ⟨st', rfl, hfail, hnot, hkeep⟩ | ⟨_, hnew, ⟨rfl, hnot⟩ | ⟨st', rfl, hfail, htorn⟩⟩ <;>
    simp only [statusOf, Prod.mk.injEq] at hrep <;> obtain ⟨rfl, rfl⟩ := hrep
  · exact .inl ⟨hnot, .inl ⟨hfail, slot, hkeep⟩⟩
  · exact .inl ⟨hnot, .inr ⟨rfl, _, hnew⟩⟩
  · refine .inr ⟨htorn, hfail, ?_⟩
    rintro ⟨_, hold⟩
    exact hne (hnew.unique hold)

/-- The RAM copy of a runtime that holds a Vault and is not in `kError` is in the flash. -/
def CopyStored (rt : Runtime AuthNvs) : Prop :=
  rt.hasVault = true → rt.state ≠ .error → Holds rt.persistence rt.envelope

theorem storageAgrees_iff : StorageAgrees rt ↔ CopyStored rt := by
  constructor
  · intro h hv hne
    exact ((h hv).resolve_left hne).holds
  · intro h hv
    by_cases hst : rt.state = .error
    · exact .inl hst
    · exact .inr (.of_holds hv (h hv hst))

theorem CopyStored.of_error (h : rt.state = .error) : CopyStored rt := fun _ hne => absurd h hne

theorem CopyStored.of_empty (h : rt.hasVault = false) : CopyStored rt :=
  fun hv => by simp [h] at hv

theorem holds_of_load {nvs w : AuthNvs} {sn : PersistedSnapshot}
    (hl : compatibleNvsPersistence.load nvs = ((.ok, sn), w)) (hv : sn.hasVault = true) :
    Holds w sn.envelope := by
  obtain ⟨hc, hload⟩ := load_sound hl
  rw [Holds, hc]
  exact vaultAt_of_loadNow (hload rfl) hv

theorem CopyStored.loaded {nvs w : AuthNvs} {st : Status} {sn : PersistedSnapshot}
    (hl : compatibleNvsPersistence.load nvs = ((st, sn), w)) (hacc : loadAccepted st sn = true) :
    CopyStored (rt.loaded w sn) := by
  intro hv _
  simp only [loadAccepted, Bool.and_eq_true, beq_iff_eq] at hacc
  obtain ⟨⟨rfl, _⟩, _⟩ := hacc
  have hv' : sn.hasVault = true := hv
  simp only [loaded_persistence, loaded_envelope, hv', if_true]
  exact holds_of_load hl hv'

theorem CopyStored.reload : CopyStored (rt.reloadAfterPersistence compatibleNvsPersistence).2 := by
  rcases hl : compatibleNvsPersistence.load rt.persistence with ⟨⟨st, sn⟩, w⟩
  rcases reload_cases rt hl with ⟨hacc, hre⟩ | ⟨_, st', rt', hre, _, _, hst, _⟩ <;> rw [hre]
  · exact .loaded hl hacc
  · exact .of_error hst

/-! ## Steps -/

theorem not_differs {st : Status} {sn : PersistedSnapshot} {envelope : VaultEnvelope}
    (h : reloadDiffers st sn envelope = false) :
    st = .ok ∧ sn.hasVault = true ∧ sn.envelope = envelope := by
  have h' : st = .ok ∧ sn.schemaReady = true ∧ sn.hasVault = true ∧ sn.envelope = envelope := by
    simpa [reloadDiffers, and_assoc] using h
  exact ⟨h'.1, h'.2.2⟩

theorem CopyStored.initializeRuntime :
    CopyStored (rt.initializeRuntime compatibleNvsPersistence).2 := by
  rcases hl : compatibleNvsPersistence.load rt.persistence with ⟨⟨st, sn⟩, w⟩
  rcases initializeRuntime_cases rt hl with
    ⟨hacc, hre⟩ | ⟨_, st', rt', hre, _, _, _, _, hv, _⟩ <;> rw [hre]
  · exact .loaded hl hacc
  · exact .of_empty hv

theorem CopyStored.formatForSchema2 (h : CopyStored rt) :
    CopyStored (rt.formatForSchema2 compatibleNvsPersistence).2 := by
  rcases format_cases compatibleNvsPersistence rt with
    ⟨_, hf⟩ | ⟨_, st, w, _, ⟨_, hf⟩ | ⟨_, hf⟩⟩ <;> rw [hf]
  · exact h
  · exact .of_error rfl
  · exact .reload

theorem CopyStored.installEncryptedVault (h : CopyStored rt) (envelope : VaultEnvelope)
    (vmk : Vmk) :
    CopyStored (rt.installEncryptedVault compatibleNvsPersistence gcm envelope vmk).2 := by
  by_cases hadm : AdmitsInstall gcm rt envelope vmk
  swap
  · obtain ⟨st, _, he⟩ := install_refused compatibleNvsPersistence hadm
    rw [he]
    exact h
  rcases hrep : compatibleNvsPersistence.replaceEnvelope 0 envelope rt.persistence with ⟨st, w⟩
  rcases hl : compatibleNvsPersistence.load w with ⟨⟨st', sn⟩, w'⟩
  rcases install_admitted hadm hrep with ⟨_, he⟩ | ⟨_, hre⟩
  · rw [he]
    exact .of_empty hadm.2.2.2.1
  · rcases hre st' sn w' hl with ⟨hacc, _, _, he⟩ | ⟨_, st'', rt', he, _, _, hst, _⟩ <;> rw [he]
    · exact .loaded hl hacc
    · exact .of_error hst

theorem CopyStored.unlock (h : CopyStored rt) (vmk : Vmk) (nowMs : UInt64) :
    CopyStored (rt.unlock gcm vmk nowMs).2 := by
  rcases unlock_cases gcm rt vmk nowMs with ⟨st, _, he⟩ | ⟨_, hst, hv, policy, _, he⟩ <;> rw [he]
  · exact h
  · exact fun _ _ => h hv (by simp [hst])

theorem CopyStored.lock (h : CopyStored rt) : CopyStored rt.lock.2 := by
  rcases lock_cases rt with ⟨_, he⟩ | ⟨_, hst, he⟩ | ⟨_, hst, he⟩ <;> rw [he]
  · exact h
  · exact .of_error hst
  · exact fun hv _ => h hv hst

theorem CopyStored.enterVmkRekeyBoundary (h : CopyStored rt) :
    CopyStored rt.enterVmkRekeyBoundary.2 := by
  rcases enterVmkRekeyBoundary_cases rt with ⟨st, _, he⟩ | ⟨_, hst, hv, he⟩ <;> rw [he]
  · exact h
  · exact fun _ _ => h hv (by simp [hst])

theorem CopyStored.factoryReset (h : CopyStored rt) :
    CopyStored (rt.factoryReset compatibleNvsPersistence).2 := by
  rcases factoryReset_cases compatibleNvsPersistence rt with
    ⟨_, he⟩ | ⟨_, st, w, _, ⟨_, he⟩ | ⟨_, he⟩⟩ <;> rw [he]
  · exact h
  · exact .of_error rfl
  · exact .of_empty rfl

theorem CopyStored.resident (h : CopyStored rt) {call : Call}
    (hcall : call = .listCredentials ∨ (∃ id c, call = .withCredential id c) ∨
      (∃ c, call = .withWifi c) ∨ ∃ id, call = .setLastUsed id) :
    CopyStored (rt.step compatibleNvsPersistence gcm call) := by
  have hkeep {id : CredentialId} {st : Status} {w : AuthNvs} {envelope : VaultEnvelope}
      (hs : compatibleNvsPersistence.setLastUsed (some id) rt.persistence = (st, w))
      (ho : Holds rt.persistence envelope) : Holds w envelope := by
    obtain ⟨slot, hat⟩ := ho
    have hk := NvsPersistence.setLastUsed_keeps (some id) _ hat
    rcases hr : NvsPersistence.setLastUsed (some id) rt.persistence with ⟨_ | _, w'⟩ <;>
      simp only [compatibleNvsPersistence, hr, statusOf, Prod.mk.injEq] at hs <;>
      obtain ⟨_, rfl⟩ := hs <;> rw [hr] at hk <;> exact ⟨slot, hk⟩
  rcases resident_cases compatibleNvsPersistence gcm rt hcall with
    he | ⟨_, id, st, w, hs, he | he⟩ | ⟨_, _, _, he⟩ <;> rw [he]
  · exact h
  · exact fun hv hne => hkeep hs (h hv hne)
  · exact fun hv hne => hkeep hs (h hv hne)
  · exact .of_error rfl

/-- A replacement past the checks, and what the runtime makes of it: it keeps its copy, it takes
the reloaded candidate, or it enters `kError`. -/
theorem CopyStored.replacement_iff {rt' : Runtime AuthNvs} {expected : UInt64}
    {candidate : VaultEnvelope} {st st' : Status} {sn : PersistedSnapshot} {w w' : AuthNvs}
    (h : CopyStored rt) (hv : rt.hasVault = true) (hst : rt.state ≠ .error)
    (hsucc : rt.checkSuccessor expected candidate = .ok)
    (hrep : compatibleNvsPersistence.replaceEnvelope expected candidate rt.persistence = (st, w))
    (hl : compatibleNvsPersistence.load w = ((st', sn), w'))
    (hout : (st ≠ .ok ∧ rt' = rt.withPersistence w) ∨
      (st = .ok ∧ (rt'.state = .error ∨ (reloadDiffers st' sn candidate = false ∧
        rt'.persistence = w' ∧ rt'.envelope = candidate)))) :
    CopyStored rt' ↔ ¬ NvsPersistence.TornFlip expected candidate rt.persistence := by
  rcases hout with ⟨hfail, rfl⟩ | ⟨rfl, hout⟩
  · rcases replacement_cases (h hv hst) hsucc hrep with
      ⟨hnot, ⟨_, hkeep⟩ | ⟨hok, _⟩⟩ | ⟨htorn, _, hlost⟩
    · exact iff_of_true (fun _ _ => hkeep) hnot
    · exact absurd hok hfail
    · exact iff_of_false (fun hc => hlost (hc hv hst)) (not_not.2 htorn)
  · rcases replacement_cases (h hv hst) hsucc hrep with
      ⟨hnot, ⟨hfail, _⟩ | _⟩ | ⟨_, hfail, _⟩
    · exact absurd rfl hfail
    · refine iff_of_true ?_ hnot
      rcases hout with herr | ⟨hd, hw, henv⟩
      · exact .of_error herr
      · obtain ⟨rfl, hsv, hse⟩ := not_differs hd
        intro _ _
        rw [hw, henv]
        exact hse ▸ holds_of_load hl hsv
    · exact absurd rfl hfail

/-- **An update agrees with the flash afterwards exactly if its flip is not torn.** -/
theorem CopyStored.update_iff (h : CopyStored rt) (expected : UInt64) (envelope : VaultEnvelope)
    (nowMs : UInt64) :
    CopyStored (rt.updateEncryptedVault compatibleNvsPersistence gcm expected envelope nowMs).2 ↔
      ¬ TearsFlip gcm rt (.updateEncryptedVault expected envelope nowMs) := by
  by_cases hadm : AdmitsUpdate gcm rt expected envelope
  swap
  · obtain ⟨st, _, he⟩ := update_refused compatibleNvsPersistence nowMs hadm
    rw [he]
    exact iff_of_true h fun ht => hadm ht.1
  have ⟨_, hst, _, hv, hsucc, _⟩ := hadm
  rcases hrep : compatibleNvsPersistence.replaceEnvelope expected envelope rt.persistence
    with ⟨st, w⟩
  rcases hl : compatibleNvsPersistence.load w with ⟨⟨st', sn⟩, w'⟩
  refine (h.replacement_iff hv (by simp [hst]) hsucc hrep hl ?_).trans
    (not_congr (and_iff_right hadm).symm)
  rcases update_admitted nowMs hadm hrep with ⟨hfail, he⟩ | ⟨rfl, hre⟩
  · exact .inl ⟨hfail, by rw [he]⟩
  · rcases hre st' sn w' hl with ⟨hd, due, rt', he, hw, henv, _⟩ | ⟨_, st'', _, he⟩ <;> rw [he]
    · exact .inr ⟨rfl, .inr ⟨hd, hw, henv⟩⟩
    · exact .inr ⟨rfl, .inl rfl⟩

theorem CopyStored.rekey_iff (h : CopyStored rt) (expected : UInt64) (envelope : VaultEnvelope)
    (vmk : Vmk) :
    CopyStored (rt.rekeyEncryptedVault compatibleNvsPersistence gcm expected envelope vmk).2 ↔
      ¬ TearsFlip gcm rt (.rekeyEncryptedVault expected envelope vmk) := by
  by_cases hadm : AdmitsRekey gcm rt expected envelope vmk
  swap
  · obtain ⟨st, _, he⟩ := rekey_refused compatibleNvsPersistence hadm
    rw [he]
    exact iff_of_true h fun ht => hadm ht.1
  have ⟨_, hst, _, hv, _, hsucc, _⟩ := hadm
  rcases hrep : compatibleNvsPersistence.replaceEnvelope expected envelope rt.persistence
    with ⟨st, w⟩
  rcases hl : compatibleNvsPersistence.load w with ⟨⟨st', sn⟩, w'⟩
  refine (h.replacement_iff hv (by simp [hst]) hsucc hrep hl ?_).trans
    (not_congr (and_iff_right hadm).symm)
  rcases rekey_admitted hadm hrep with ⟨hfail, he⟩ | ⟨rfl, hre⟩
  · exact .inl ⟨hfail, by rw [he]⟩
  · rcases hre st' sn w' hl with ⟨hd, rt', he, hw, henv, _⟩ | ⟨_, st'', _, he⟩ <;> rw [he]
    · exact .inr ⟨rfl, .inr ⟨hd, hw, henv⟩⟩
    · exact .inr ⟨rfl, .inl rfl⟩

/-- Every call that tears no flip keeps the agreement. -/
theorem CopyStored.step (h : CopyStored rt) {call : Call} (ht : ¬ TearsFlip gcm rt call) :
    CopyStored (rt.step compatibleNvsPersistence gcm call) := by
  cases call with
  | initializeRuntime => exact .initializeRuntime
  | formatForSchema2 => exact h.formatForSchema2
  | installEncryptedVault envelope vmk => exact h.installEncryptedVault envelope vmk
  | unlock vmk nowMs => exact h.unlock vmk nowMs
  | lock => exact h.lock
  | enterRecoveryBoundary => exact h.lock
  | enterVmkRekeyBoundary => exact h.enterVmkRekeyBoundary
  | updateEncryptedVault expected envelope nowMs =>
    exact (h.update_iff expected envelope nowMs).2 ht
  | rekeyEncryptedVault expected envelope vmk => exact (h.rekey_iff expected envelope vmk).2 ht
  | listCredentials => exact h.resident (.inl rfl)
  | withCredential id consumer => exact h.resident (.inr (.inl ⟨id, consumer, rfl⟩))
  | withWifi consumer => exact h.resident (.inr (.inr (.inl ⟨consumer, rfl⟩)))
  | setLastUsed id => exact h.resident (.inr (.inr (.inr ⟨id, rfl⟩)))
  | factoryReset => exact h.factoryReset

/-! ## Whole runs -/

/-- The runtime after the first `n` calls of a run from power-on over the partition `nvs`. -/
abbrev runAt (gcm : GcmOpen) (nvs : AuthNvs) (calls : Nat → Call) (n : Nat) : Runtime AuthNvs :=
  Run.stateAt (Runtime.step compatibleNvsPersistence gcm) (Runtime.new nvs) calls n

/-- **RAM and flash agree in every run without a torn flip, and a torn flip breaks it.** -/
theorem storage_agrees_iff (gcm : GcmOpen) (nvs : AuthNvs) (calls : Nat → Call) (n : Nat)
    (hwhole : ∀ k, k < n → ¬ TearsFlip gcm (runAt gcm nvs calls k) (calls k)) :
    StorageAgrees (runAt gcm nvs calls n) ∧
      ∀ call, StorageAgrees ((runAt gcm nvs calls n).step compatibleNvsPersistence gcm call) ↔
        ¬ TearsFlip gcm (runAt gcm nvs calls n) call := by
  have hn : CopyStored (runAt gcm nvs calls n) :=
    Run.stateAt_inv_of (.of_empty rfl) (fun _ _ h ht => h.step ht) hwhole
  refine ⟨storageAgrees_iff.2 hn, fun call => storageAgrees_iff.trans ?_⟩
  cases call with
  | updateEncryptedVault expected envelope nowMs => exact hn.update_iff expected envelope nowMs
  | rekeyEncryptedVault expected envelope vmk => exact hn.rekey_iff expected envelope vmk
  | _ => exact iff_of_true (hn.step id) id

/-! ## A torn flip -/

/-- A partition with the Vault of generation 1, whose call number `torn` fails after having taken
effect. -/
def tornNvs (torn : Nat) : AuthNvs where
  content :=
    { vault2 := some
        { schema := some 2, active := some 0
          slot0 := (encodeEnvelope (envelopeAt 1)).toOption } }
  outcome k := if k = torn then .failed .other true else .ok

/-- The boot makes the calls 0 to 6; call 18 is the commit of the flip that the update makes. -/
theorem storage_agrees_torn :
    StorageAgrees (runAt openAll (tornNvs 18) updateRun 2) ∧
      ¬ StorageAgrees ((runAt openAll (tornNvs 18) updateRun 2).step compatibleNvsPersistence
        openAll (.updateEncryptedVault 1 (envelopeAt 2) 0)) := by
  have h := storage_agrees_iff openAll (tornNvs 18) updateRun 2 fun k hk => by
    match k, hk with
    | 0, _ => exact id
    | 1, _ => exact id
  refine ⟨h.1, fun ha => (h.2 _).1 ha ⟨⟨rfl, rfl, rfl, rfl, rfl, none, rfl⟩, 1, _, rfl, rfl⟩⟩

/-- The host still sees generation 1 while the flash holds generation 2. -/
theorem torn_flip_disagrees : ¬ StorageAgrees (runAt openAll (tornNvs 18) updateRun 3) := by
  intro h
  rcases h rfl with he | hf
  · exact absurd he (by decide)
  · obtain ⟨sn, hload, _, he⟩ := hf.loads
    have hgen : (loadNow (runAt openAll (tornNvs 18) updateRun 3).persistence.content).toOption.map
        (·.envelope.generation) = some 2 := rfl
    have hram : (runAt openAll (tornNvs 18) updateRun 3).envelope.generation = 1 := rfl
    rw [hload] at hgen
    simp only [Except.toOption, Option.map_some, he, hram] at hgen
    exact absurd hgen (by decide)

end M5Auth.VaultRuntime.Runtime
