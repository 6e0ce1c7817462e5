import M5Auth.Provisioning.RecoveryReset
import M5Auth.Registration.Proof.Cases
import M5Auth.VaultRuntime.Proof.Cases
import M5Auth.VaultRuntime.Proof.StoredVault

/-!
# Booting from any stored content

A boot whose NVS calls all work, over every content of the two namespaces. The Device should then
be consistent, or offer the recovery reset (`Recoverable`); only an active envelope of a newer
format may leave it without both.

One more content does: the active-slot pointer names a slot without a blob (`DanglingActive`).
`read_active` reports `kNotFound` for it, which no status classifier counts as structural.
`recoverable_iff`: it is the only such content.
-/

namespace M5Auth.Provisioning

open FaultyStore FaultyStore.Prog VaultRuntime

/-! ## The boot -/

/-- The runtime and the registration store after a boot on reliable storage. -/
def boot (importKey : Registration.P256PublicKey → Bool)
    (candidate : Registration.DeviceIdCandidate) (p : Partition) (c : Registration.NvsContent) :
    Runtime AuthNvs × Registration.Store :=
  (((Runtime.new (World.reliable p)).initializeRuntime compatibleNvsPersistence).2,
    (({ nvs := World.reliable c } : Registration.Store).initializeStore importKey candidate).2)

/-- A clean Device, or a locked Vault with its registration. -/
def Consistent (rt : Runtime AuthNvs) (st : Registration.Store) : Prop :=
  st.ready = true ∧
    ((rt.state = .unprovisioned ∧ rt.hasVault = false ∧
        st.snapshot.registrationPresent = false) ∨
      (rt.state = .locked ∧ rt.hasVault = true ∧ validEnvelopeFraming rt.envelope = true ∧
        st.snapshot.registrationPresent = true ∧ st.snapshot.vaultId = rt.envelope.vaultId))

/-- The Device can be used, or reset. -/
def Recoverable (rt : Runtime AuthNvs) (st : Registration.Store) : Prop :=
  (recoveryResetDecision rt st = .notRequired ∧ Consistent rt st) ∨
    recoveryResetDecision rt st = .required

/-- The active slot holds an envelope of an unsupported Vault format. -/
def UnsupportedActive (p : Partition) : Prop :=
  ∃ slot bytes, p.active = some slot ∧ slot ≤ 1 ∧ p.slot slot = some bytes ∧
    decodeEnvelope bytes = .error .unsupportedVaultFormat

/-- The active-slot pointer of a Schema 2 store names a slot without a blob, and the store is not
recognized as a Schema 1 one. -/
def DanglingActive (p : Partition) : Prop :=
  p.vault2.bind (·.schema) = some storageSchemaVersion ∧ p.secureStateSchema ≠ some 1 ∧
    ∃ slot, p.active = some slot ∧ slot ≤ 1 ∧ p.slot slot = none

/-! ## What the load reports -/

/-- The statuses a load of the partition reports: each of them but two allows a reset. -/
def LoadStatus (p : Partition) (status : Status) : Prop :=
  status = .unprovisioned ∨ explicitResetRecoveryStatus status = true ∨
    (status = .notFound ∧ DanglingActive p) ∨
    (status = .unsupportedVaultFormat ∧ UnsupportedActive p)

variable {p : Partition}

theorem decodeEnvelope_error {bytes : List UInt8} {status : Status}
    (h : decodeEnvelope bytes = .error status) :
    status = .corrupt ∨ status = .unsupportedVaultFormat := by
  unfold decodeEnvelope at h
  split at h
  · exact .inl (Except.error.inj h).symm
  · split at h
    · exact .inl (Except.error.inj h).symm
    · split at h
      · exact .inl (Except.error.inj h).symm
      · split at h
        · exact .inr (Except.error.inj h).symm
        · simp only at h
          split at h
          · exact .inl (Except.error.inj h).symm
          · simp at h

theorem readActive_error {status : Status} (h : NvsPersistence.readActive.value p = .error status) :
    status = .corrupt ∨ (status = .unsupportedVaultFormat ∧ UnsupportedActive p) ∨
      (status = .notFound ∧ ∃ slot, p.active = some slot ∧ slot ≤ 1 ∧ p.slot slot = none) := by
  rw [NvsPersistence.value_readActive] at h
  cases ha : p.active with
  | none => simp [ha] at h
  | some slot =>
    simp only [ha] at h
    split at h
    · exact .inl (Except.error.inj h).symm
    · rename_i hle
      rw [NvsPersistence.value_readBlob] at h
      cases hs : p.slot slot with
      | none =>
        simp only [hs, Except.bind, Except.error.injEq] at h
        exact .inr (.inr ⟨h.symm, slot, rfl, UInt8.not_lt.1 hle, hs⟩)
      | some bytes =>
        simp only [hs] at h
        split at h
        · exact .inl (Except.error.inj h).symm
        · rcases hd : decodeEnvelope bytes with st | envelope
          · simp only [hd, Except.bind, Except.map, Except.error.injEq] at h
            subst h
            rcases decodeEnvelope_error hd with rfl | rfl
            · exact .inl rfl
            · exact .inr (.inl ⟨rfl, slot, bytes, ha, UInt8.not_lt.1 hle, hs, hd⟩)
          · simp [hd, Except.bind, Except.map] at h

/-- **What a failing load of the firmware reports.** -/
theorem loadNow_error {status : Status} (h : loadNow p = .error status) : LoadStatus p status := by
  rw [loadNow, CompatibleNvsPersistence.value_load] at h
  rcases hl : NvsPersistence.load.value p with primary | sn
  swap
  · simp [hl, CompatibleNvsPersistence.probed] at h
  simp only [hl, CompatibleNvsPersistence.probed, Except.error.injEq] at h
  by_cases hlegacy : p.secureStateSchema = some 1
  · rw [if_pos hlegacy] at h
    exact .inr (.inl (by simp [← h, explicitResetRecoveryStatus]))
  rw [if_neg hlegacy] at h
  subst h
  rw [NvsPersistence.value_load] at hl
  split at hl
  · rw [NvsPersistence.value_detectLegacySchema, Except.error.injEq] at hl
    rw [← hl]
    split
    · exact .inl rfl
    · split
      · exact .inr (.inl rfl)
      · split <;> exact .inr (.inl rfl)
  rw [NvsPersistence.value_loadNamespace] at hl
  cases hs : p.vault2.bind (·.schema) with
  | none =>
    simp only [hs, Except.error.injEq] at hl
    exact .inr (.inl (by simp [← hl, explicitResetRecoveryStatus]))
  | some schema =>
    simp only [hs] at hl
    split at hl
    · exact .inr (.inl (by simp [← Except.error.inj hl, explicitResetRecoveryStatus]))
    split at hl
    · exact .inr (.inl (by simp [← Except.error.inj hl, explicitResetRecoveryStatus]))
    split at hl
    · exact .inr (.inl (by simp [← Except.error.inj hl, explicitResetRecoveryStatus]))
    rename_i hschema
    rw [ne_eq, not_not] at hschema
    rcases ha : NvsPersistence.readActive.value p with st | active
    · simp only [ha, Except.bind, Except.error.injEq] at hl
      subst hl
      rcases readActive_error ha with rfl | h | ⟨rfl, h⟩
      · exact .inr (.inl rfl)
      · exact .inr (.inr (.inr h))
      · exact .inr (.inr (.inl ⟨rfl, hs.trans (congrArg some hschema), hlegacy, h⟩))
    · rw [ha, NvsPersistence.value_readLastUsed] at hl
      refine .inr (.inl ?_)
      cases hu : p.vault2.bind (·.lastUsed) with
      | none => simp [hu, Except.bind, Except.map] at hl
      | some bytes =>
        by_cases hlen : bytes.length = 16
        · simp [hu, hlen, Except.bind, Except.map] at hl
        · simp only [hu, if_pos hlen, Except.bind, Except.map, Except.error.injEq] at hl
          simp [← hl, explicitResetRecoveryStatus]

theorem loadNow_of_dangling (h : DanglingActive p) : loadNow p = .error .notFound := by
  obtain ⟨hs, hlegacy, slot, ha, hle, hslot⟩ := h
  have hns : p.vault2 ≠ none := fun hn => by simp [hn] at hs
  have hgt : ¬ slot > 1 := UInt8.not_lt.2 hle
  have hread : NvsPersistence.readActive.value p = .error .notFound := by
    rw [NvsPersistence.value_readActive]
    simp only [ha, if_neg hgt, NvsPersistence.value_readBlob, hslot, Except.bind]
  rw [loadNow, CompatibleNvsPersistence.value_load, NvsPersistence.value_load, if_neg hns,
    NvsPersistence.value_loadNamespace, hs]
  simp [storageSchemaVersion, hread, Except.bind, CompatibleNvsPersistence.probed, hlegacy]

/-! ## The two halves of the boot -/

/-- How the runtime boots: unprovisioned, locked, or with the verdict on the failed load. -/
theorem boot_runtime (importKey : Registration.P256PublicKey → Bool)
    (candidate : Registration.DeviceIdCandidate) (p : Partition) (c : Registration.NvsContent) :
    let rt := (boot importKey candidate p c).1
    rt.initialized = true ∧
    ((loadNow p ≠ .error .notFound ∧ ((rt.state = .unprovisioned ∧ rt.hasVault = false) ∨
        (rt.state = .locked ∧ rt.hasVault = true ∧ validEnvelopeFraming rt.envelope = true))) ∨
      ((rt.state = .error ∨ rt.state = .reprovisionRequired) ∧
        ∃ status, loadNow p = .error status ∧ status ≠ .unprovisioned ∧
          rt.recoveryResetAllowed = explicitResetRecoveryStatus status)) := by
  intro rt
  rcases hload : loadNow p with status | sn
  · obtain ⟨nvs, hl⟩ := load_reliable_error hload
    rcases Runtime.initializeRuntime_cases (Runtime.new (World.reliable p)) hl with
      ⟨hacc, _⟩ | ⟨_, st', rt', he, _, _, hi, _, hv, _, _, hcase⟩
    · simp only [Runtime.loadAccepted, Bool.and_eq_true, beq_iff_eq] at hacc
      exact absurd hacc.1.1 (loadNow_failure hload)
    · have hrt : rt = rt' := congrArg Prod.snd he
      rw [hrt]
      refine ⟨hi, ?_⟩
      rcases hcase with ⟨rfl, hst, _⟩ | ⟨rfl, hst, hall⟩ | ⟨hne, _, hst, hall⟩
      · exact .inl ⟨by simp, .inl ⟨hst, hv⟩⟩
      · exact .inr ⟨.inr hst, _, rfl, by simp, hall⟩
      · refine .inr ⟨.inl hst, status, rfl, hne, hall.trans ?_⟩
        rw [Runtime.loadAllowed, if_neg (loadNow_failure hload)]
  · rcases hl : compatibleNvsPersistence.load (World.reliable p) with ⟨⟨st, sn'⟩, w⟩
    obtain ⟨rfl, rfl⟩ := load_reliable hl hload
    have hacc := Runtime.loadNow_accepted hload
    rcases Runtime.initializeRuntime_cases (Runtime.new (World.reliable p)) hl with
      ⟨_, he⟩ | ⟨hrej, _⟩
    · have hrt : rt = _ := congrArg Prod.snd he
      rw [hrt]
      refine ⟨rfl, .inl ⟨by simp, ?_⟩⟩
      cases hv : sn'.hasVault
      · exact .inl (by simp [hv])
      · simp only [Runtime.loadAccepted, Bool.and_eq_true, hv] at hacc
        exact .inr (by simpa [hv] using hacc.2)
    · rw [hacc] at hrej
      cases hrej

/-! ## The classification -/

/-- The store is ready, or knows that a reset recovers it. -/
def Settled (st : Registration.Store) : Prop :=
  st.ready = true ∨ (st.ready = false ∧ st.recoveryResetAvailable = true)

/-- The decision, where no registration fault hides the state of the store. -/
theorem decision_eq {σ : Type} {rt : Runtime σ} {st : Registration.Store}
    (hi : rt.initialized = true) (hst : Settled st) :
    recoveryResetDecision rt st =
      if rt.state = .error ∨ rt.state = .reprovisionRequired then
        if rt.recoveryResetAllowed then .required else .unavailable
      else if !st.ready then .required
      else if rt.hasVault ≠ st.snapshot.registrationPresent then .required
      else if rt.hasVault ∧ rt.envelope.vaultId ≠ st.snapshot.vaultId then .required
      else .notRequired := by
  have hm : rt.metadata = .ok rt.report := by rw [Runtime.metadata, if_neg (by simp [hi])]
  simp only [recoveryResetDecision, hm, classifyRecoveryReset, Runtime.report]
  rcases hst with hr | ⟨hr, ha⟩
  · cases hall : rt.recoveryResetAllowed <;> cases hv : rt.hasVault <;>
      simp [Registration.Store.readSnapshot, hr]
  · cases hall : rt.recoveryResetAllowed <;> simp [Registration.Store.readSnapshot, hr, ha]

/-- **The contents that leave the Device neither usable nor resettable.** -/
theorem recoverable_iff (importKey : Registration.P256PublicKey → Bool)
    (candidate : Registration.DeviceIdCandidate) (p : Partition) (c : Registration.NvsContent)
    (hsupported : ¬ UnsupportedActive p) :
    Recoverable (boot importKey candidate p c).1 (boot importKey candidate p c).2 ↔
      ¬ DanglingActive p := by
  obtain ⟨hinit, hrt⟩ := boot_runtime importKey candidate p c
  have hst : Settled (boot importKey candidate p c).2 := by
    obtain ⟨_, _, ⟨hr, _⟩ | ⟨hr, ha, _⟩⟩ := Registration.Store.initialize_reliable
      importKey { nvs := World.reliable c } (World.reliable_reliable c) candidate
    · exact .inl hr
    · exact .inr ⟨hr, ha⟩
  generalize (boot importKey candidate p c).1 = rt at *
  generalize (boot importKey candidate p c).2 = st at *
  rw [Recoverable, decision_eq hinit hst]
  rcases hrt with ⟨hnf, hs⟩ | ⟨hs, status, hload, hne, hall⟩
  · refine iff_of_true ?_ fun hd => hnf (loadNow_of_dangling hd)
    have hstate : ¬ (rt.state = .error ∨ rt.state = .reprovisionRequired) := by
      rcases hs with ⟨h, _⟩ | ⟨h, _⟩ <;> simp [h]
    rw [if_neg hstate]
    rcases hst with hr | ⟨hr, _⟩
    swap
    · exact .inr (by simp [hr])
    by_cases hpres : rt.hasVault = st.snapshot.registrationPresent
    swap
    · exact .inr (by simp [hr, hpres])
    rcases hs with ⟨hun, hv⟩ | ⟨hlk, hv, hval⟩
    · rw [hv] at hpres
      exact .inl ⟨by simp [hr, hv, ← hpres], hr, .inl ⟨hun, hv, hpres.symm⟩⟩
    · rw [hv] at hpres
      by_cases hid : rt.envelope.vaultId = st.snapshot.vaultId
      · exact .inl ⟨by simp [hr, hv, ← hpres, hid], hr,
          .inr ⟨hlk, hv, hval, hpres.symm, hid.symm⟩⟩
      · exact .inr (by simp [hr, hv, ← hpres, hid])
  · rw [if_pos hs, hall]
    rcases loadNow_error hload with rfl | hex | ⟨rfl, hd⟩ | ⟨_, hu⟩
    · exact absurd rfl hne
    · exact iff_of_true (.inr (by simp [hex])) fun hd => by
        rw [Except.error.inj (hload.symm.trans (loadNow_of_dangling hd))] at hex
        simp [explicitResetRecoveryStatus] at hex
    · exact iff_of_false (by simp [explicitResetRecoveryStatus]) (not_not.2 hd)
    · exact absurd hu hsupported

/-! ## A stored Vault -/

def filled (n : Nat) (byte : UInt8) : Bytes n := ⟨List.replicate n byte, List.length_replicate⟩

/-- A Schema 2 store with a Vault of generation 3 in its second slot. -/
def storedPartition : Partition :=
  { vault2 := some
      { schema := some 2, active := some 1
        slot1 := (encodeEnvelope
          { vaultId := filled 16 1, generation := 3, ciphertext := [0] }).toOption } }

/-- The registration of its Vault. -/
def storedRegistration : Registration.NvsContent where
  reg2 := some
    { deviceId := some (List.replicate 16 2)
      active := some (Registration.encodeRegistration
        { vaultId := filled 16 1, registrationId := filled 16 3, epoch := 2
          brkPublicKey := filled 65 4 }) }

/-- The Device boots with that Vault locked, and can be used. -/
theorem recoverable_stored :
    (boot (fun _ => true) ⟨⟨List.replicate 16 1, rfl⟩, rfl⟩ storedPartition
      storedRegistration).1.state = .locked ∧
    Recoverable (boot (fun _ => true) ⟨⟨List.replicate 16 1, rfl⟩, rfl⟩ storedPartition
        storedRegistration).1
      (boot (fun _ => true) ⟨⟨List.replicate 16 1, rfl⟩, rfl⟩ storedPartition
        storedRegistration).2 := by
  refine ⟨by decide +kernel, (recoverable_iff (fun _ => true) ⟨⟨List.replicate 16 1, rfl⟩, rfl⟩
    storedPartition storedRegistration ?_).2 ?_⟩
  · rintro ⟨slot, bytes, ha, _, hs, hformat⟩
    obtain rfl := Option.some.inj ha
    obtain rfl := Option.some.inj hs
    revert hformat
    decide +kernel
  · rintro ⟨_, _, slot, ha, _, hs⟩
    obtain rfl := Option.some.inj ha
    cases hs

/-! ## A dangling pointer -/

/-- A Schema 2 store whose active-slot pointer survived an erase of its slot. -/
def danglingPartition : Partition :=
  { vault2 := some { schema := some 2, active := some 0 } }

/-- It has no active envelope of a newer format, and it can be neither used nor reset. -/
theorem dangling_unavailable : ¬ UnsupportedActive danglingPartition ∧
    recoveryResetDecision
      (boot (fun _ => true) ⟨⟨List.replicate 16 1, rfl⟩, rfl⟩ danglingPartition {}).1
      (boot (fun _ => true) ⟨⟨List.replicate 16 1, rfl⟩, rfl⟩ danglingPartition {}).2 =
      .unavailable := by
  refine ⟨?_, by decide⟩
  rintro ⟨slot, bytes, ha, _, hs, _⟩
  cases Option.some.inj ha
  cases hs

end M5Auth.Provisioning
