import M5Auth.Registration.Proof.Cases

/-!
# Registration epochs

What each operation of the store does to the stored registration and to the stored Device ID, on
NVS whose failing writes store nothing (`Atomic`).

* `EpochStep`: the registration is kept, first stored with epoch 1, or replaced by the next epoch.
* `Truthful`: the RAM snapshot shows a registration or a Device ID only as they are stored. Every
  operation keeps it (`Truthful.installInitial`, `Truthful.replace`, `Truthful.cleared`, …).
-/

namespace M5Auth.Registration

open FaultyStore FaultyStore.Prog

variable {importKey : P256PublicKey → Bool}

/-! ## What may happen to the stored registration -/

/-- The record that replaces `r`: the same Vault and the next epoch, which does not wrap. -/
structure Record.Next (r r' : Record) : Prop where
  vaultId : r'.vaultId = r.vaultId
  bound : r.epoch ≠ 4294967295
  epoch : r'.epoch = r.epoch + 1
  registrationId : r'.registrationId ≠ r.registrationId
  brkPublicKey : r'.brkPublicKey ≠ r.brkPublicKey

/-- The next epoch is larger by one. -/
theorem Record.Next.epoch_toNat {r r' : Record} (h : r.Next r') :
    r'.epoch.toNat = r.epoch.toNat + 1 := by
  have hlt := r.epoch.toNat_lt
  have hne : r.epoch.toNat ≠ 4294967295 := fun he => h.bound (UInt32.toNat.inj (by simpa using he))
  rw [h.epoch, UInt32.toNat_add, UInt32.toNat_one]
  omega

/-- The registration stored in `c'`, compared with the one stored in `c`. -/
inductive EpochStep (importKey : P256PublicKey → Bool) (c c' : NvsContent) : Prop
  | kept (h : c'.active = c.active)
  | first (r : Record) (absent : c.active = none) (stored : Stored importKey c' r)
      (epoch : r.epoch = 1)
  | replaced (r r' : Record) (before : Stored importKey c r) (stored : Stored importKey c' r')
      (next : r.Next r')

theorem EpochStep.refl (c : NvsContent) : EpochStep importKey c c := .kept rfl

theorem Stored.unique {c : NvsContent} {r r' : Record} (h : Stored importKey c r)
    (h' : Stored importKey c r') : r = r' := by
  rw [Stored, h] at h'
  exact Option.some.inj h'

/-! ## The programs -/

/-- The content with the same Device ID and registration. -/
def SameKeys (c c' : NvsContent) : Prop := c'.active = c.active ∧ c'.deviceId = c.deviceId

theorem SameKeys.refl (c : NvsContent) : SameKeys c c := ⟨rfl, rfl⟩

theorem SameKeys.opened {c c' : NvsContent} (h : SameKeys c c') : SameKeys c c'.opened :=
  ⟨(opened_active c').trans h.1, (opened_deviceId c').trans h.2⟩

theorem readRegistration_atomic (c₀ : NvsContent) :
    Atomic (· = c₀) (readRegistration importKey)
      (fun r c => c = c₀ ∧ Stored importKey c₀ r)
      (fun status c => c = c₀ ∧ (status = .notFound → c₀.active = none)) := by
  have hfault (fault : NvsFault) (c : NvsContent) (h : c = c₀) :
      c = c₀ ∧ (mapError fault = .notFound → c₀.active = none) :=
    ⟨h, fun hn => absurd hn (mapError_ne fault).2.2⟩
  refine .bind (Q := fun ns c => ns = c₀.reg2 ∧ c = c₀) (.call (fun c h => ⟨by rw [h], h⟩) hfault)
    fun ns => ?_
  cases ns with
  | none =>
    refine .throw fun c h => ⟨h.2, fun _ => ?_⟩
    simp [NvsContent.active, ← h.1]
  | some ns =>
    refine .bind (Q := fun size c => size = c₀.active.map List.length ∧ c = c₀)
      (.call (fun c h => ⟨by rw [h.2], h.2⟩) fun fault c h => hfault fault c h.2) fun size => ?_
    cases size with
    | none => exact .throw fun c h => ⟨h.2, fun _ => Option.map_eq_none_iff.1 h.1.symm⟩
    | some size =>
      refine .ite (fun _ => .throw fun c h => ⟨h.2, fun hn => by cases hn⟩) fun _ =>
        .bind (Q := fun r c => r = c₀.active.bind (decodeRegistration importKey) ∧ c = c₀)
          (.call (fun c h => ⟨by rw [h.2], h.2⟩) fun fault c h => hfault fault c h.2) fun r => ?_
      cases r with
      | none => exact .throw fun c h => ⟨h.2, fun hn => by cases hn⟩
      | some r => exact .pure fun c h => ⟨h.2, h.1.symm⟩

/-- A program that opens the namespace and makes one write leaves the keys as they were, or as the
write sets them. -/
theorem openedWrite_atomic (c₀ : NvsContent) (f : RegistrationNamespace → RegistrationNamespace) :
    Atomic (· = c₀)
      (do Prog.change mapError NvsContent.opened
          Prog.write mapError fun c => c.setReg2 f : NvsProg Unit)
      (fun _ c => ∃ ns, c.reg2 = some (f ns) ∧ ns.active = c₀.active ∧ ns.deviceId = c₀.deviceId)
      (fun status c => status ≠ .ok ∧ SameKeys c₀ c) := by
  refine .bind (Q := fun _ c => c = c₀.opened)
    (.change (fun c h => by rw [h]) fun fault c h => ⟨(mapError_ne fault).2.1, by
      rw [h]; exact .refl c₀⟩)
    fun _ => .write (fun c h => ⟨c₀.reg2.getD {}, ?_, ?_, ?_⟩) fun fault c h =>
      ⟨(mapError_ne fault).2.1, by rw [h]; exact (SameKeys.refl c₀).opened⟩
  · rw [h]
    rfl
  · cases hr : c₀.reg2 <;> simp [NvsContent.active, hr]
  · cases hr : c₀.reg2 <;> simp [NvsContent.deviceId, hr]

theorem writeRegistration_atomic (c₀ : NvsContent) {r : Record}
    (hr : r.valid importKey = true) :
    Atomic (· = c₀) (writeRegistration r)
      (fun _ c => Stored importKey c r ∧ c.deviceId = c₀.deviceId)
      (fun status c => status ≠ .ok ∧ SameKeys c₀ c) := by
  intro w hw hi res w' he
  obtain ⟨hw', hres⟩ := openedWrite_atomic c₀ _ w hw hi res w' he
  refine ⟨hw', ?_⟩
  cases res with
  | error status => exact hres
  | ok _ =>
    obtain ⟨ns, hns, _, hid⟩ := hres
    refine ⟨?_, by simpa [NvsContent.deviceId, hns] using hid⟩
    have ha : w'.content.active = some (encodeRegistration r) := by simp [NvsContent.active, hns]
    rw [Stored, ha, Option.bind_some]
    exact decodeRegistration_encodeRegistration hr

theorem eraseRegistration_atomic (c₀ : NvsContent) :
    Atomic (· = c₀) eraseRegistration
      (fun _ c => c.active = none ∧ c.deviceId = c₀.deviceId)
      (fun status c => status ≠ .ok ∧ SameKeys c₀ c) := by
  intro w hw hi res w' he
  obtain ⟨hw', hres⟩ := openedWrite_atomic c₀ _ w hw hi res w' he
  refine ⟨hw', ?_⟩
  cases res with
  | error status => exact hres
  | ok _ =>
    obtain ⟨ns, hns, _, hid⟩ := hres
    exact ⟨by simp [NvsContent.active, hns], by simpa [NvsContent.deviceId, hns] using hid⟩

/-- A recovery from a corrupt Device ID keeps it, erases it, or stores the new one. -/
theorem recoverDeviceId_atomic (c₀ : NvsContent) (deviceId : DeviceId) :
    Atomic (· = c₀) (recoverDeviceId deviceId)
      (fun _ c => c.active = none ∧ c.deviceId = some deviceId.1)
      (fun status c => status ≠ .ok ∧
        (SameKeys c₀ c ∨ (c.active = none ∧ c.deviceId = none))) := by
  refine .bind (Q := fun _ c => c = c₀.opened)
    (.change (fun c h => by rw [h]) fun fault c h => ⟨(mapError_ne fault).2.1, .inl (by
      rw [h]; exact .refl c₀)⟩) fun _ =>
    .bind (Q := fun _ c => c.reg2 = some {})
      (.change (fun c h => by rw [h]; rfl) fun fault c h => ⟨(mapError_ne fault).2.1, .inl (by
        rw [h]; exact (SameKeys.refl c₀).opened)⟩) fun _ =>
    .write (fun c h => ?_) fun fault c h => ⟨(mapError_ne fault).2.1, .inr ?_⟩
  · simp [NvsContent.setReg2, NvsContent.active, NvsContent.deviceId, h]
  · simp [NvsContent.active, NvsContent.deviceId, h]

/-- Reading or creating the Device ID leaves the registration alone and a stored Device ID as it
is; only one that is no valid Device ID is reported as corrupt. -/
theorem loadOrCreateDeviceId_atomic (c₀ : NvsContent) (candidate : DeviceIdCandidate) :
    Atomic (· = c₀) (loadOrCreateDeviceId candidate)
      (fun deviceId c => c.active = c₀.active ∧ c.deviceId = some deviceId.1 ∧
        deviceId.allZero = false ∧ (c₀.deviceId = none ∨ c₀.deviceId = c.deviceId))
      (fun status c => SameKeys c₀ c ∧
        (status = .corrupt → ∀ id : DeviceIdCandidate, c₀.deviceId ≠ some id.1.1)) := by
  have hfault (fault : NvsFault) {c : NvsContent} (h : SameKeys c₀ c) : SameKeys c₀ c ∧
      (mapError fault = .corrupt → ∀ id : DeviceIdCandidate, c₀.deviceId ≠ some id.1.1) :=
    ⟨h, fun hn => absurd hn (mapError_ne fault).1⟩
  refine .bind (Q := fun _ c => c = c₀) (.call (fun _ h => h) fun fault c h =>
    hfault fault (by rw [h]; exact .refl c₀)) fun _ => ?_
  refine .bind (Q := fun _ c => c.reg2 ≠ none ∧ SameKeys c₀ c) (.change (fun c h => ?_)
    fun fault c h => hfault fault (by rw [h]; exact .refl c₀)) fun _ => ?_
  · rw [h]
    exact ⟨by simp [NvsContent.opened], (SameKeys.refl c₀).opened⟩
  refine .bind (Q := fun size c => size = c₀.deviceId.map List.length ∧ c.reg2 ≠ none ∧
    SameKeys c₀ c) (.call (fun c h => ⟨by rw [h.2.2], h⟩) fun fault c h => hfault fault h.2)
    fun size => ?_
  cases size with
  | none =>
    refine .bind (Q := fun _ c => c.active = c₀.active ∧ c.deviceId = some candidate.1.1 ∧
        c₀.deviceId = none)
      (.write (fun c h => ?_) fun fault c h => hfault fault h.2.2) fun _ =>
      .pure fun c h => ⟨h.1, h.2.1, candidate.2, .inl h.2.2⟩
    obtain ⟨ns, hns⟩ := Option.ne_none_iff_exists'.1 h.2.1
    have hactive := h.2.2.1
    refine ⟨?_, ?_, Option.map_eq_none_iff.1 h.1.symm⟩
    · simpa [NvsContent.active, NvsContent.setReg2, hns] using hactive
    · simp [NvsContent.deviceId, NvsContent.setReg2, hns]
  | some size =>
    have hcorrupt (hlen : size ≠ 16) {c : NvsContent}
        (h : some size = c₀.deviceId.map List.length ∧ c.reg2 ≠ none ∧ SameKeys c₀ c) :
        SameKeys c₀ c ∧ (Status.corrupt = .corrupt →
          ∀ id : DeviceIdCandidate, c₀.deviceId ≠ some id.1.1) := by
      refine ⟨h.2.2, fun _ id hid => hlen ?_⟩
      rw [hid, Option.map_some, id.1.2] at h
      exact Option.some.inj h.1
    refine .ite (fun hlen => .throw fun c h => hcorrupt hlen h) fun hlen => ?_
    refine .bind (Q := fun deviceId c => deviceId = c₀.deviceId.bind (Bytes.ofList? 16) ∧
      SameKeys c₀ c) (.call (fun c h => ⟨by rw [h.2.2.2], h.2.2⟩)
      fun fault c h => hfault fault h.2.2) fun deviceId => ?_
    cases deviceId with
    | none =>
      refine .throw fun c h => ⟨h.2, fun _ id hid => ?_⟩
      have hnone := h.1
      rw [hid, Option.bind_some, Bytes.ofList?_self] at hnone
      cases hnone
    | some deviceId =>
      refine .ite (fun hzero => .throw fun c h => ⟨h.2, fun _ id hid => ?_⟩) fun hzero =>
        .pure fun c h => ?_
      · have hsome := h.1
        rw [hid, Option.bind_some, Bytes.ofList?_self] at hsome
        rw [Option.some.inj hsome, id.2] at hzero
        cases hzero
      · obtain ⟨bytes, hbytes, hof⟩ := Option.bind_eq_some_iff.1 h.1.symm
        have hval := Bytes.ofList?_eq_some.1 hof
        refine ⟨h.2.1, ?_, by simpa using hzero, .inr h.2.2.symm⟩
        rw [h.2.2, hbytes, hval]

/-! ## The store -/

namespace Store

variable {st : Store}

/-- The snapshot shows what is stored. -/
structure Truthful (importKey : P256PublicKey → Bool) (st : Store) : Prop where
  untorn : st.nvs.Untorn
  registered : st.snapshot.registrationPresent = true →
    Stored importKey st.nvs.content st.snapshot.toRecord
  identity : st.ready = true ∨
      (st.recoveryResetAvailable = true ∧ st.deviceIdRecoveryRequired = false) →
    st.nvs.content.deviceId = some st.snapshot.deviceId.1
  /-- A new Device ID is offered only while no valid one is stored. -/
  corruptId : st.ready = false → st.deviceIdRecoveryRequired = true →
    st.snapshot.registrationPresent = false ∧
    ∀ id : DeviceIdCandidate, st.nvs.content.deviceId ≠ some id.1.1

/-- The store after a call that moved the partition and the snapshot. -/
abbrev moved (st : Store) (nvs : Nvs) (snapshot : Snapshot) : Store :=
  (st.withNvs nvs).withSnapshot snapshot

/-- The Device ID of the store is not known to be corrupt. -/
def Identified (st : Store) : Prop := st.ready = true ∨ st.deviceIdRecoveryRequired = false

/-- A call that keeps the stored Device ID keeps the snapshot truthful, if it shows a registration
only as it is stored. -/
theorem Truthful.moved (h : Truthful importKey st) (hready : st.Identified) {nvs : Nvs}
    {snapshot : Snapshot} (hw : nvs.Untorn)
    (hid : nvs.content.deviceId = st.nvs.content.deviceId)
    (hid' : snapshot.deviceId = st.snapshot.deviceId)
    (hreg : snapshot.registrationPresent = true → Stored importKey nvs.content snapshot.toRecord) :
    Truthful importKey (st.moved nvs snapshot) where
  untorn := hw
  registered := hreg
  identity hr := by
    show nvs.content.deviceId = some snapshot.deviceId.1
    rw [hid, hid']
    exact h.identity hr
  corruptId hr hc := by
    have hr' : st.ready = false := hr
    have hc' : st.deviceIdRecoveryRequired = true := hc
    rcases hready with hready | hready
    · rw [hr'] at hready
      cases hready
    · rw [hc'] at hready
      cases hready

theorem registered_shows {deviceId : DeviceId} {r : Record} {c : NvsContent}
    (h : Stored importKey c r) : (registered deviceId r).registrationPresent = true →
      Stored importKey c (registered deviceId r).toRecord := fun _ => h

/-- The refresh reads the stored registration, or leaves an empty snapshot. -/
theorem load_atomic (h : Truthful importKey st) (hready : st.Identified) :
    ∃ status nvs snapshot, st.loadRegistration importKey = (status, st.moved nvs snapshot) ∧
      Truthful importKey (st.moved nvs snapshot) ∧ nvs.content = st.nvs.content ∧
      snapshot.deviceId = st.snapshot.deviceId ∧
      (status = .notFound → st.nvs.content.active = none) := by
  rcases hr : readRegistration importKey st.nvs with ⟨res, nvs⟩
  obtain ⟨hw, hres⟩ := readRegistration_atomic st.nvs.content st.nvs h.untorn rfl res nvs hr
  rw [load_eq st hr]
  cases res with
  | ok r =>
    obtain ⟨hc, hstored⟩ := hres
    refine ⟨.ok, nvs, registered st.snapshot.deviceId r, rfl, ?_, hc, rfl, fun hn => by cases hn⟩
    exact h.moved hready hw (by rw [hc]) rfl (registered_shows (by rw [hc]; exact hstored))
  | error status =>
    obtain ⟨hc, hnone⟩ := hres
    refine ⟨status, nvs, bare st.snapshot.deviceId, rfl, ?_, hc, rfl, hnone⟩
    exact h.moved hready hw (by rw [hc]) rfl fun hp => by cases hp

/-- A record is stored and shown, or nothing changes. -/
theorem persist_atomic (h : Truthful importKey st) (hready : st.Identified) (r : Record) :
    ∃ status nvs snapshot, st.persistRegistration importKey r = (status, st.moved nvs snapshot) ∧
      Truthful importKey (st.moved nvs snapshot) ∧
      nvs.content.deviceId = st.nvs.content.deviceId ∧
      ((status = .ok ∧ Stored importKey nvs.content r) ∨
        (status ≠ .ok ∧ nvs.content.active = st.nvs.content.active)) := by
  unfold persistRegistration
  cases hv : r.valid importKey
  · exact ⟨_, st.nvs, st.snapshot, rfl, h, rfl, .inr ⟨by simp, rfl⟩⟩
  rcases hp : writeRegistration r st.nvs with ⟨res, nvs⟩
  obtain ⟨hw, hres⟩ := writeRegistration_atomic st.nvs.content hv st.nvs h.untorn rfl res nvs hp
  simp only [Bool.not_true, Bool.false_eq_true, if_false, run_eq hp]
  cases res with
  | ok _ =>
    obtain ⟨hstored, hid⟩ := hres
    exact ⟨.ok, nvs, registered st.snapshot.deviceId r, rfl,
      h.moved hready hw hid rfl (registered_shows hstored), hid, .inl ⟨rfl, hstored⟩⟩
  | error status =>
    obtain ⟨hne, hactive, hid⟩ := hres
    exact ⟨status, nvs, st.snapshot, rfl,
      h.moved hready hw hid rfl fun hp => (h.registered hp).of_active hactive, hid,
      .inr ⟨hne, hactive⟩⟩

/-- `install_initial` stores the first epoch, or changes nothing. -/
theorem installInitial_atomic (h : Truthful importKey st) (r : Record) :
    ∃ status nvs snapshot, st.installInitial importKey r = (status, st.moved nvs snapshot) ∧
      Truthful importKey (st.moved nvs snapshot) ∧
      nvs.content.deviceId = st.nvs.content.deviceId ∧
      EpochStep importKey st.nvs.content nvs.content := by
  unfold installInitial
  split
  · exact ⟨_, st.nvs, st.snapshot, rfl, h, rfl, .refl _⟩
  rename_i hready
  have hready' : st.Identified := .inl (by simpa using hready)
  obtain ⟨status, nvs, snapshot, he, ht, hc, _, hnone⟩ := load_atomic h hready'
  rw [he]
  dsimp only
  split
  · exact ⟨_, nvs, snapshot, rfl, ht, by rw [hc], by rw [hc]; exact .refl _⟩
  rename_i hfound
  rw [ne_eq, not_not] at hfound
  split
  · exact ⟨_, nvs, snapshot, rfl, ht, by rw [hc], by rw [hc]; exact .refl _⟩
  rename_i hepoch
  rw [ne_eq, not_not] at hepoch
  obtain ⟨status', nvs', snapshot', he', ht', hid', hcase⟩ := persist_atomic ht hready' r
  refine ⟨status', nvs', snapshot', he', ht', hid'.trans (congrArg _ hc), ?_⟩
  rcases hcase with ⟨_, hstored⟩ | ⟨_, hactive⟩
  · exact .first r (hnone hfound) hstored hepoch
  · exact .kept (hactive.trans (congrArg _ hc))

/-- `replace` stores the epoch after the stored one, or changes nothing. -/
theorem replace_atomic (h : Truthful importKey st) (expectedEpoch : UInt32) (r : Record) :
    ∃ status nvs snapshot,
      st.replace importKey expectedEpoch r = (status, st.moved nvs snapshot) ∧
      Truthful importKey (st.moved nvs snapshot) ∧
      nvs.content.deviceId = st.nvs.content.deviceId ∧
      ((status = .ok ∧ Stored importKey nvs.content r ∧ ∃ old, Stored importKey st.nvs.content old ∧
          r.vaultId = old.vaultId ∧ old.epoch ≠ 4294967295 ∧ r.epoch = old.epoch + 1) ∨
        (status ≠ .ok ∧ nvs.content.active = st.nvs.content.active)) := by
  unfold replace
  split
  · exact ⟨_, st.nvs, st.snapshot, rfl, h, rfl, .inr ⟨by simp, rfl⟩⟩
  rename_i hargs
  simp only [not_or, not_not, Bool.not_eq_true', Bool.not_eq_false] at hargs
  have hready : st.Identified := .inl hargs.1
  obtain ⟨status, nvs, snapshot, he, ht, hc, _, _⟩ := load_atomic h hready
  rw [he]
  dsimp only
  split
  · rename_i hne
    exact ⟨status, nvs, snapshot, rfl, ht, by rw [hc], .inr ⟨hne, by rw [hc]⟩⟩
  split
  · exact ⟨_, nvs, snapshot, rfl, ht, by rw [hc], .inr ⟨by simp, by rw [hc]⟩⟩
  rename_i hsame
  simp only [not_or, not_not, Bool.not_eq_true', Bool.not_eq_false] at hsame
  obtain ⟨hpresent, hvault, hepoch⟩ := hsame
  obtain ⟨status', nvs', snapshot', he', ht', hid', hcase⟩ := persist_atomic ht hready r
  refine ⟨status', nvs', snapshot', he', ht', hid'.trans (congrArg _ hc), ?_⟩
  rcases hcase with ⟨hok, hstored⟩ | ⟨hne, hactive⟩
  · have hold : Stored importKey st.nvs.content snapshot.toRecord :=
      (congrArg (Stored importKey · snapshot.toRecord) hc).mp (ht.registered hpresent)
    refine .inl ⟨hok, hstored, _, hold, hvault.symm, ?_, ?_⟩
    · rw [show snapshot.toRecord.epoch = expectedEpoch from hepoch]
      exact hargs.2.2.1
    · rw [show snapshot.toRecord.epoch = expectedEpoch from hepoch]
      exact hargs.2.2.2
  · exact .inr ⟨hne, hactive.trans (congrArg _ hc)⟩

/-! ### Clears -/

/-- An erase of the registration keeps the stored Device ID. -/
theorem cleared_erase (h : Truthful importKey st)
    (hid : st.nvs.content.deviceId = some st.snapshot.deviceId.1)
    (hready : st.Identified) :
    Truthful importKey (st.cleared eraseRegistration).2 ∧
      (st.cleared eraseRegistration).2.nvs.content.deviceId = st.nvs.content.deviceId := by
  rcases hp : eraseRegistration st.nvs with ⟨res, nvs⟩
  obtain ⟨hw, hres⟩ := eraseRegistration_atomic st.nvs.content st.nvs h.untorn rfl res nvs hp
  rw [cleared, run_eq hp]
  cases res with
  | error status =>
    obtain ⟨_, hactive, hid'⟩ := hres
    exact ⟨h.moved hready hw hid' rfl fun hp => (h.registered hp).of_active hactive, hid'⟩
  | ok _ =>
    obtain ⟨_, hid'⟩ := hres
    refine ⟨⟨hw, fun hp => (by cases hp), fun _ => hid'.trans hid, fun hr => (by cases hr)⟩, hid'⟩

theorem clearRegistration_truthful (h : Truthful importKey st) :
    Truthful importKey st.clearRegistration.2 ∧
      st.clearRegistration.2.nvs.content.deviceId = st.nvs.content.deviceId := by
  have hcount : Truthful importKey { st with clears := st.clears + 1 } :=
    ⟨h.untorn, h.registered, h.identity, h.corruptId⟩
  unfold clearRegistration
  dsimp only
  split
  · exact ⟨hcount, rfl⟩
  · rename_i hready
    have hready' : st.ready = true := by simpa using hready
    exact cleared_erase hcount (h.identity (.inl hready')) (.inl hready')

/-- A clear for a recovery changes the stored Device ID only while that is no valid one. -/
theorem clearCorrupt_truthful (h : Truthful importKey st) :
    Truthful importKey st.clearCorruptRegistrationForRecovery.2 ∧
      (st.clearCorruptRegistrationForRecovery.2.nvs.content.deviceId =
          st.nvs.content.deviceId ∨
        (∀ id : DeviceIdCandidate, st.nvs.content.deviceId ≠ some id.1.1)) := by
  have hcount : Truthful importKey { st with clears := st.clears + 1 } :=
    ⟨h.untorn, h.registered, h.identity, h.corruptId⟩
  unfold clearCorruptRegistrationForRecovery
  split
  · obtain ⟨ht, hid⟩ := clearRegistration_truthful h
    exact ⟨ht, .inl hid⟩
  rename_i hready
  rw [Bool.not_eq_true] at hready
  dsimp only
  split
  · exact ⟨hcount, .inl rfl⟩
  rename_i havailable
  simp only [not_or, Bool.not_eq_true', Bool.not_eq_false, Bool.not_eq_true] at havailable
  by_cases hcorrupt : st.deviceIdRecoveryRequired = true
  swap
  · rw [if_neg hcorrupt]
    rw [Bool.not_eq_true] at hcorrupt
    obtain ⟨ht, hid⟩ := cleared_erase hcount (h.identity (.inr ⟨havailable.1, hcorrupt⟩))
      (.inr hcorrupt)
    exact ⟨ht, .inl hid⟩
  · obtain ⟨hpresent, hinvalid⟩ := h.corruptId hready hcorrupt
    rw [if_pos hcorrupt]
    refine ⟨?_, .inr hinvalid⟩
    rcases hp : recoverDeviceId st.snapshot.deviceId st.nvs with ⟨res, nvs⟩
    obtain ⟨hw, hres⟩ := recoverDeviceId_atomic st.nvs.content st.snapshot.deviceId st.nvs
      h.untorn rfl res nvs hp
    have hp' : recoverDeviceId st.snapshot.deviceId
      ({ st with clears := st.clears + 1 } : Store).nvs = (res, nvs) := hp
    rw [cleared, run_eq hp']
    cases res with
    | ok _ => exact ⟨hw, fun hp => (by cases hp), fun _ => hres.2, fun hr => (by cases hr)⟩
    | error status =>
      have hkeep : ∀ id : DeviceIdCandidate, nvs.content.deviceId ≠ some id.1.1 := by
        intro id
        rcases hres.2 with ⟨_, hid⟩ | ⟨_, hnone⟩
        · rw [hid]
          exact hinvalid id
        · rw [hnone]
          simp
      refine ⟨hw, fun hp => ?_, fun hr => ?_, fun _ _ => ⟨hpresent, hkeep⟩⟩
      · have hp' : st.snapshot.registrationPresent = true := hp
        rw [hpresent] at hp'
        cases hp'
      · rcases hr with hr | ⟨_, hr⟩
        · have hr' : st.ready = true := hr
          rw [hready] at hr'
          cases hr'
        · have hr' : st.deviceIdRecoveryRequired = false := hr
          rw [hcorrupt] at hr'
          cases hr'

/-! ### The start -/

/-- `initialize` shows what is stored; it stores a Device ID only where there is none. -/
theorem initialize_atomic (importKey : P256PublicKey → Bool) {nvs : Nvs} (hw : nvs.Untorn)
    (candidate : DeviceIdCandidate) :
    Truthful importKey (({ nvs } : Store).initializeStore importKey candidate).2 ∧
      (({ nvs } : Store).initializeStore importKey candidate).2.nvs.content.active =
        nvs.content.active ∧
      (nvs.content.deviceId = none ∨
        (({ nvs } : Store).initializeStore importKey candidate).2.nvs.content.deviceId =
          nvs.content.deviceId) := by
  rcases hp : loadOrCreateDeviceId candidate nvs with ⟨res, nvs₁⟩
  obtain ⟨hw₁, hres⟩ := loadOrCreateDeviceId_atomic nvs.content candidate nvs hw rfl res nvs₁ hp
  have hrun : ({ nvs } : Store).blank.run (loadOrCreateDeviceId candidate) =
      (res, ({ nvs } : Store).blank.withNvs nvs₁) := run_eq hp
  rw [initializeStore, hrun]
  cases res with
  | error status =>
    obtain ⟨⟨hactive, hid⟩, hcorrupt⟩ := hres
    dsimp only
    split
    · rename_i hc
      refine ⟨⟨hw₁, fun hp => (by cases hp), fun hr => ?_, fun _ _ => ⟨rfl, fun id => ?_⟩⟩, hactive,
        .inr hid⟩
      · rcases hr with hr | ⟨_, hr⟩ <;> cases hr
      · show nvs₁.content.deviceId ≠ _
        rw [hid]
        exact hcorrupt hc id
    · refine ⟨⟨hw₁, fun hp => (by cases hp), fun hr => ?_, fun _ hr => (by cases hr)⟩, hactive, .inr hid⟩
      rcases hr with hr | ⟨hr, _⟩ <;> cases hr
  | ok deviceId =>
    obtain ⟨hactive, hid, _, hkept⟩ := hres
    have hkept' : nvs.content.deviceId = none ∨
        nvs₁.content.deviceId = nvs.content.deviceId := hkept.imp_right Eq.symm
    -- the blank store with this Device ID is neither ready nor recoverable yet
    have hstart : Truthful importKey
        ((({ nvs } : Store).blank.withNvs nvs₁).withSnapshot (bare deviceId)) :=
      ⟨hw₁, fun hp => (by cases hp), fun _ => hid, fun _ hr => (by cases hr)⟩
    obtain ⟨status, nvs₂, snapshot, he, ht, hc, hsid, _⟩ := load_atomic hstart (.inr rfl)
    have hcontent : nvs₂.content = nvs₁.content := hc
    have hsid' : snapshot.deviceId = deviceId := hsid
    have hstored : nvs₂.content.deviceId = some deviceId.1 := by rw [hcontent, hid]
    dsimp only
    rw [he]
    dsimp only
    split
    · refine ⟨⟨ht.untorn, fun hp => (by cases hp), fun _ => hstored, fun _ hr => (by cases hr)⟩, ?_, ?_⟩
      · rw [← hactive, ← hcontent]
        rfl
      · rw [show (Store.nvs _).content.deviceId = nvs₁.content.deviceId from congrArg _ hcontent]
        exact hkept'
    · split
      · refine ⟨⟨ht.untorn, fun hp => (by cases hp), fun hr => ?_, fun _ hr => (by cases hr)⟩, ?_, ?_⟩
        · rcases hr with hr | ⟨hr, _⟩ <;> cases hr
        · rw [← hactive, ← hcontent]
          rfl
        · rw [show (Store.nvs _).content.deviceId = nvs₁.content.deviceId from congrArg _ hcontent]
          exact hkept'
      · refine ⟨⟨ht.untorn, ht.registered, fun _ => ?_, fun hr => (by cases hr)⟩, ?_, ?_⟩
        · show nvs₂.content.deviceId = some snapshot.deviceId.1
          rw [hstored, hsid']
        · rw [← hactive, ← hcontent]
          rfl
        · rw [show (Store.nvs _).content.deviceId = nvs₁.content.deviceId from congrArg _ hcontent]
          exact hkept'

end Store

end M5Auth.Registration
