import M5Auth.Registration.Proof.Epochs

/-!
# Clears on working storage

`Serviceable` holds of the store in every state, whatever NVS calls failed before: the Device ID it
goes by, or offers for a recovery, is a valid one. `clear_works`: from such a store a clear whose
NVS calls all work leaves no registration and a valid Device ID, and `reboot_bare` says that the
next start then finds a Device without a registration.
-/

namespace M5Auth.Registration

open FaultyStore FaultyStore.Prog

variable {importKey : P256PublicKey → Bool}

/-! ## The stored Device ID -/

theorem DeviceIdOk.of_deviceId {c c' : NvsContent} (h : DeviceIdOk c)
    (he : c'.deviceId = c.deviceId) : DeviceIdOk c' := fun bytes hb => h bytes (he ▸ hb)

theorem deviceIdOk_of_some {c : NvsContent} {deviceId : DeviceId} (h : c.deviceId = some deviceId.1)
    (hne : deviceId.allZero = false) : DeviceIdOk c := by
  intro bytes hb
  rw [h] at hb
  exact ⟨⟨deviceId, hne⟩, (Option.some.inj hb).symm⟩

theorem DeviceIdOk.opened {c : NvsContent} (h : DeviceIdOk c) : DeviceIdOk c.opened :=
  h.of_deviceId (opened_deviceId c)

theorem DeviceIdOk.setActive {c : NvsContent} (h : DeviceIdOk c) (active : Option (List UInt8)) :
    DeviceIdOk (c.setReg2 fun ns => { ns with active }) := by
  refine h.of_deviceId ?_
  cases hns : c.reg2 <;> simp [NvsContent.setReg2, NvsContent.deviceId, hns]

theorem keeps_writeRegistration (r : Record) : Keeps DeviceIdOk (writeRegistration r) :=
  .bind (.change fun _ h => h.opened) fun _ => .write fun _ h => h.setActive _

theorem keeps_eraseRegistration : Keeps DeviceIdOk eraseRegistration :=
  .bind (.change fun _ h => h.opened) fun _ => .write fun _ h => h.setActive _

theorem reads_readRegistration : Reads (readRegistration importKey) := by
  refine .bind (.call _ _) fun ns => ?_
  cases ns with
  | none => exact .throw _
  | some ns =>
    refine .bind (.call _ _) fun size => ?_
    cases size with
    | none => exact .throw _
    | some size =>
      refine .ite (.throw _) (.bind (.call _ _) fun r => ?_)
      cases r with
      | none => exact .throw _
      | some r => exact .pure _

/-- Whatever fails, a Device ID that is read or created is valid. -/
theorem loadOrCreateDeviceId_valid (candidate : DeviceIdCandidate) :
    Triple (fun _ => True) (loadOrCreateDeviceId candidate)
      (fun deviceId c => deviceId.allZero = false ∧ DeviceIdOk c) (fun _ _ => True) := by
  refine .bind (Q := fun _ _ => True) (.call (fun _ _ => trivial) fun _ _ _ => trivial) fun _ => ?_
  refine .bind (Q := fun _ _ => True) (.change (fun _ _ => trivial) fun _ _ _ => ⟨trivial, trivial⟩)
    fun _ => ?_
  refine .bind (Q := fun size c => size = c.deviceId.map List.length)
    (.call (fun _ _ => rfl) fun _ _ _ => trivial) fun size => ?_
  cases size with
  | none =>
    exact .bind (Q := fun _ c => DeviceIdOk c) (.write (fun c _ => withDeviceId_ok c candidate)
      fun _ _ _ => ⟨trivial, trivial⟩) fun _ => .pure fun _ h => ⟨candidate.2, h⟩
  | some size =>
    refine .ite (fun _ => .throw fun _ _ => trivial) fun _ => ?_
    refine .bind (Q := fun deviceId c => deviceId = c.deviceId.bind (Bytes.ofList? 16))
      (.call (fun _ _ => rfl) fun _ _ _ => trivial) fun deviceId => ?_
    cases deviceId with
    | none => exact .throw fun _ _ => trivial
    | some deviceId =>
      refine .ite (fun _ => .throw fun _ _ => trivial) fun hzero => .pure fun c h => ?_
      obtain ⟨bytes, hb, hof⟩ := Option.bind_eq_some_iff.1 h.symm
      have hne : deviceId.allZero = false := by simpa using hzero
      exact ⟨hne, deviceIdOk_of_some (hb.trans (by rw [Bytes.ofList?_eq_some.1 hof])) hne⟩

namespace Store

variable {st : Store}

/-! ## The store in every state -/

/-- The Device ID of the store is valid. -/
structure Serviceable (st : Store) : Prop where
  stored : st.ready = true ∨
      (st.recoveryResetAvailable = true ∧ st.deviceIdRecoveryRequired = false) →
    DeviceIdOk st.nvs.content
  offered : st.ready = false → st.recoveryResetAvailable = true →
    st.snapshot.deviceId.allZero = false

theorem Serviceable.moved (h : Serviceable st) {nvs : Nvs} {snapshot : Snapshot}
    (hok : DeviceIdOk st.nvs.content → DeviceIdOk nvs.content)
    (hid : snapshot.deviceId = st.snapshot.deviceId) : Serviceable (st.moved nvs snapshot) :=
  ⟨fun hr => hok (h.stored hr), fun hr ha => hid ▸ h.offered hr ha⟩

theorem load_moved (importKey : P256PublicKey → Bool) (st : Store) :
    ∃ status nvs snapshot, st.loadRegistration importKey = (status, st.moved nvs snapshot) ∧
      nvs.content = st.nvs.content ∧ snapshot.deviceId = st.snapshot.deviceId := by
  rcases hr : readRegistration importKey st.nvs with ⟨res, nvs⟩
  have hreads : Reads (readRegistration importKey) := reads_readRegistration
  have hc := hreads.content st.nvs
  rw [hr] at hc
  rw [load_eq st hr]
  cases res with
  | ok r => exact ⟨_, nvs, registered st.snapshot.deviceId r, rfl, hc, rfl⟩
  | error status => exact ⟨_, nvs, bare st.snapshot.deviceId, rfl, hc, rfl⟩

theorem persist_moved (importKey : P256PublicKey → Bool) (st : Store) (r : Record) :
    ∃ status nvs snapshot, st.persistRegistration importKey r = (status, st.moved nvs snapshot) ∧
      (DeviceIdOk st.nvs.content → DeviceIdOk nvs.content) ∧
      snapshot.deviceId = st.snapshot.deviceId := by
  unfold persistRegistration
  split
  · exact ⟨_, st.nvs, st.snapshot, rfl, id, rfl⟩
  rcases hw : writeRegistration r st.nvs with ⟨res, nvs⟩
  have hk : DeviceIdOk st.nvs.content → DeviceIdOk nvs.content := by
    have hk := keeps_writeRegistration r st.nvs
    rwa [hw] at hk
  rw [run_eq hw]
  cases res with
  | ok _ => exact ⟨_, nvs, registered st.snapshot.deviceId r, rfl, hk, rfl⟩
  | error status => exact ⟨_, nvs, st.snapshot, rfl, hk, rfl⟩

theorem Serviceable.installInitial (h : Serviceable st) (r : Record) :
    Serviceable (st.installInitial importKey r).2 := by
  unfold Store.installInitial
  split
  · exact h
  obtain ⟨status, nvs, snapshot, he, hc, hid⟩ := load_moved importKey st
  have hload : Serviceable (st.moved nvs snapshot) := h.moved (fun hok => hc ▸ hok) hid
  rw [he]
  dsimp only
  split
  · exact hload
  · split
    · exact hload
    · obtain ⟨status', nvs', snapshot', he', hok', hid'⟩ :=
        persist_moved importKey (st.moved nvs snapshot) r
      rw [he']
      exact hload.moved hok' hid'

theorem Serviceable.replace (h : Serviceable st) (expectedEpoch : UInt32) (r : Record) :
    Serviceable (st.replace importKey expectedEpoch r).2 := by
  unfold Store.replace
  split
  · exact h
  obtain ⟨status, nvs, snapshot, he, hc, hid⟩ := load_moved importKey st
  have hload : Serviceable (st.moved nvs snapshot) := h.moved (fun hok => hc ▸ hok) hid
  rw [he]
  dsimp only
  split
  · exact hload
  · split
    · exact hload
    · obtain ⟨status', nvs', snapshot', he', hok', hid'⟩ :=
        persist_moved importKey (st.moved nvs snapshot) r
      rw [he']
      exact hload.moved hok' hid'

/-- A clear by a program that, if it works, leaves a valid Device ID. -/
theorem Serviceable.cleared (h : Serviceable st) {p : NvsProg Unit}
    (hp : (st.ready = true ∨ (st.recoveryResetAvailable = true ∧
      st.deviceIdRecoveryRequired = false)) → DeviceIdOk (p st.nvs).2.content)
    (hok : (p st.nvs).1 = .ok () → DeviceIdOk (p st.nvs).2.content) :
    Serviceable (st.cleared p).2 := by
  rcases hr : p st.nvs with ⟨res, nvs⟩
  rw [hr] at hp hok
  rw [Store.cleared, run_eq hr]
  cases res with
  | error status => exact ⟨hp, h.offered⟩
  | ok _ => exact ⟨fun _ => hok rfl, fun hready => by cases hready⟩

theorem Serviceable.clearRegistration (h : Serviceable st) :
    Serviceable st.clearRegistration.2 := by
  have hcount : Serviceable { st with clears := st.clears + 1 } := ⟨h.stored, h.offered⟩
  unfold Store.clearRegistration
  dsimp only
  split
  · exact hcount
  · rename_i hready
    have hok := keeps_eraseRegistration st.nvs (h.stored (.inl (by simpa using hready)))
    exact hcount.cleared (fun _ => hok) fun _ => hok

/-- The recovery from a corrupt Device ID stores the candidate, if it works. -/
theorem recoverDeviceId_stores {deviceId : DeviceId} {nvs nvs' : Nvs}
    (h : recoverDeviceId deviceId nvs = (.ok (), nvs')) :
    nvs'.content.active = none ∧ nvs'.content.deviceId = some deviceId.1 := by
  have ht : Triple (fun _ => True) (recoverDeviceId deviceId)
      (fun _ c => c.active = none ∧ c.deviceId = some deviceId.1) (fun _ _ => True) := by
    refine .bind (Q := fun _ c => c.reg2 ≠ none) (.change (fun c _ => by simp [NvsContent.opened])
      fun _ _ _ => ⟨trivial, trivial⟩) fun _ => ?_
    refine .bind (Q := fun _ c => c.reg2 = some {}) (.change (fun c hc => ?_)
      fun _ _ _ => ⟨trivial, trivial⟩) fun _ => .write (fun c hc => ?_) fun _ _ _ => ⟨trivial, trivial⟩
    · obtain ⟨ns, hns⟩ := Option.ne_none_iff_exists'.1 hc
      simp [NvsContent.setReg2, hns]
    · simp [NvsContent.setReg2, NvsContent.active, NvsContent.deviceId, hc]
  exact ht nvs trivial _ _ h

theorem Serviceable.clearCorrupt (h : Serviceable st) :
    Serviceable st.clearCorruptRegistrationForRecovery.2 := by
  have hcount : Serviceable { st with clears := st.clears + 1 } := ⟨h.stored, h.offered⟩
  unfold clearCorruptRegistrationForRecovery
  split
  · exact h.clearRegistration
  rename_i hready
  rw [Bool.not_eq_true] at hready
  dsimp only
  split
  · exact hcount
  rename_i havailable
  simp only [not_or, Bool.not_eq_true', Bool.not_eq_false, Bool.not_eq_true] at havailable
  split
  · rename_i hcorrupt
    refine hcount.cleared (fun hr => ?_) fun hok => ?_
    · rcases hr with hr | ⟨_, hr⟩
      · have hr' : st.ready = true := hr
        rw [hready] at hr'
        cases hr'
      · have hr' : st.deviceIdRecoveryRequired = false := hr
        rw [hcorrupt] at hr'
        cases hr'
    · exact deviceIdOk_of_some (recoverDeviceId_stores (Prod.ext hok rfl)).2 havailable.2
  · rename_i hcorrupt
    rw [Bool.not_eq_true] at hcorrupt
    have hok := keeps_eraseRegistration st.nvs (h.stored (.inr ⟨havailable.1, hcorrupt⟩))
    exact hcount.cleared (fun _ => hok) fun _ => hok

theorem serviceable_initialize (importKey : P256PublicKey → Bool) (nvs : Nvs)
    (candidate : DeviceIdCandidate) :
    Serviceable (({ nvs } : Store).initializeStore importKey candidate).2 := by
  rcases hp : loadOrCreateDeviceId candidate nvs with ⟨res, nvs₁⟩
  have hvalid := loadOrCreateDeviceId_valid candidate nvs trivial res nvs₁ hp
  have hrun : ({ nvs } : Store).blank.run (loadOrCreateDeviceId candidate) =
      (res, ({ nvs } : Store).blank.withNvs nvs₁) := run_eq hp
  rw [initializeStore, hrun]
  cases res with
  | error status =>
    dsimp only
    split
    · refine ⟨fun hr => ?_, fun _ _ => candidate.2⟩
      rcases hr with hr | ⟨_, hr⟩ <;> cases hr
    · refine ⟨fun hr => ?_, fun _ ha => by cases ha⟩
      rcases hr with hr | ⟨hr, _⟩ <;> cases hr
  | ok deviceId =>
    obtain ⟨hne, hok⟩ := hvalid
    obtain ⟨status, nvs₂, snapshot, he, hc, _⟩ := load_moved importKey
      ((({ nvs } : Store).blank.withNvs nvs₁).withSnapshot (bare deviceId))
    have hok₂ : DeviceIdOk nvs₂.content := by
      rw [hc]
      exact hok
    dsimp only
    rw [he]
    dsimp only
    split
    · exact ⟨fun _ => hok₂, fun _ _ => hne⟩
    · split
      · refine ⟨fun hr => ?_, fun _ ha => by cases ha⟩
        rcases hr with hr | ⟨hr, _⟩ <;> cases hr
      · exact ⟨fun _ => hok₂, fun hr => by cases hr⟩

/-! ## A clear that works -/

/-- The clear that `recovery_complete` chooses. -/
def clearForRecovery (st : Store) : Status × Store :=
  if st.readSnapshot.1 = .corrupt then st.clearCorruptRegistrationForRecovery
  else st.clearRegistration

theorem erase_works : Works (fun _ => True) eraseRegistration (fun _ c => c.active = none) :=
  .bind (Q := fun _ c => c.reg2 ≠ none) (.change fun c _ => by simp [NvsContent.opened])
    fun _ => .write fun c hc => by
      obtain ⟨ns, hns⟩ := Option.ne_none_iff_exists'.1 hc
      simp [NvsContent.setReg2, NvsContent.active, hns]

theorem recover_works (deviceId : DeviceId) :
    Works (fun _ => True) (recoverDeviceId deviceId) (fun _ _ => True) :=
  .bind (Q := fun _ _ => True) (.change fun _ _ => trivial) fun _ =>
    .bind (Q := fun _ _ => True) (.change fun _ _ => trivial) fun _ => .write fun _ _ => trivial

/-- A clear by a program that works. -/
theorem cleared_ok (st : Store) {p : NvsProg Unit} {nvs : Nvs} (h : p st.nvs = (.ok (), nvs)) :
    ∃ st', st.cleared p = (.ok, st') ∧ st'.nvs = nvs ∧ st'.ready = true :=
  ⟨_, by rw [Store.cleared, run_eq h], rfl, rfl⟩

theorem clearRegistration_works (hready : st.ready = true) (hrel : st.nvs.Reliable) :
    ∃ st', st.clearRegistration = (.ok, st') ∧ st'.ready = true ∧ st'.nvs.Reliable ∧
      st'.nvs.content.active = none := by
  obtain ⟨_, nvs, he, hrel', hnone⟩ := erase_works.run hrel trivial
  obtain ⟨st', hst, rfl, hr⟩ := cleared_ok { st with clears := st.clears + 1 } he
  refine ⟨st', ?_, hr, hrel', hnone⟩
  unfold clearRegistration
  dsimp only
  rw [if_neg (by simp [hready])]
  exact hst

/-- **A clear works if its NVS calls do.** -/
theorem clear_works (h : Serviceable st) (hrel : st.nvs.Reliable)
    (hst : st.ready = true ∨ st.recoveryResetAvailable = true) :
    ∃ st', st.clearForRecovery = (.ok, st') ∧ st'.nvs.Reliable ∧
      st'.nvs.content.active = none ∧ DeviceIdOk st'.nvs.content := by
  have hfinish {st' : Store} (he : st.clearForRecovery = (.ok, st')) (hr : st'.ready = true) :
      DeviceIdOk st'.nvs.content := by
    have hs : Serviceable st.clearForRecovery.2 := by
      unfold clearForRecovery
      split
      · exact h.clearCorrupt
      · exact h.clearRegistration
    rw [he] at hs
    exact hs.stored (.inl hr)
  by_cases hready : st.ready = true
  · obtain ⟨st', he, hr, hrel', hnone⟩ := clearRegistration_works hready hrel
    have he' : st.clearForRecovery = (.ok, st') := by
      unfold clearForRecovery
      rw [if_neg (by simp [readSnapshot, hready])]
      exact he
    exact ⟨st', he', hrel', hnone, hfinish he' hr⟩
  · have havailable := hst.resolve_left hready
    rw [Bool.not_eq_true] at hready
    have hzero := h.offered hready havailable
    have hunfold : st.clearForRecovery =
        if st.deviceIdRecoveryRequired then
          { st with clears := st.clears + 1 }.cleared (recoverDeviceId st.snapshot.deviceId)
        else { st with clears := st.clears + 1 }.cleared eraseRegistration := by
      unfold clearForRecovery clearCorruptRegistrationForRecovery
      rw [if_pos (by simp [readSnapshot, hready, havailable]), if_neg (by simp [hready])]
      simp [havailable, hzero]
    by_cases hcorrupt : st.deviceIdRecoveryRequired = true
    · rw [if_pos hcorrupt] at hunfold
      obtain ⟨_, nvs, he, hrel', _⟩ := (recover_works st.snapshot.deviceId).run hrel trivial
      obtain ⟨st', hst', rfl, hr⟩ := cleared_ok { st with clears := st.clears + 1 } he
      rw [hst'] at hunfold
      exact ⟨st', hunfold, hrel', (recoverDeviceId_stores he).1, hfinish hunfold hr⟩
    · rw [if_neg hcorrupt] at hunfold
      obtain ⟨_, nvs, he, hrel', hnone⟩ := erase_works.run hrel trivial
      obtain ⟨st', hst', rfl, hr⟩ := cleared_ok { st with clears := st.clears + 1 } he
      rw [hst'] at hunfold
      exact ⟨st', hunfold, hrel', hnone, hfinish hunfold hr⟩

/-- The start of a Device without a registration. -/
theorem reboot_bare (importKey : P256PublicKey → Bool) {nvs : Nvs} (hrel : nvs.Reliable)
    (hnone : nvs.content.active = none) (hok : DeviceIdOk nvs.content)
    (candidate : DeviceIdCandidate) :
    (({ nvs } : Store).initializeStore importKey candidate).2.ready = true ∧
      (({ nvs } : Store).initializeStore importKey candidate).2.snapshot.registrationPresent =
        false := by
  obtain ⟨_, hactive, ⟨hr, _, ⟨_, hstored⟩ | ⟨hp, _⟩⟩ | ⟨_, _, hcorrupt⟩⟩ :=
    initialize_reliable importKey { nvs } hrel candidate
  · rw [Stored, hactive, show ({ nvs } : Store).nvs.content.active = none from hnone] at hstored
    cases hstored
  · exact ⟨hr, hp⟩
  · exact absurd hnone (hcorrupt hok)

end Store

end M5Auth.Registration
