import M5Auth.Registration.Store

/-!
# What the store's programs do

`decodeRegistration_encodeRegistration`: a stored record reads back. `readRegistration_cases` and
`persist_cases` say what the refresh and the write of a registration can do over a content that
holds a valid record, and which NVS calls decide it.
-/

namespace M5Auth.Registration

open FaultyStore FaultyStore.Prog

variable {importKey : P256PublicKey → Bool}

/-! ## The record -/

theorem decodeRegistration_valid {encoded : List UInt8} {r : Record}
    (h : decodeRegistration importKey encoded = some r) :
    encoded.length = encodedRegistrationBytes ∧ r.valid importKey = true := by
  unfold decodeRegistration at h
  split at h
  · simp at h
  · rename_i hlen
    rw [Option.filter_eq_some_iff] at h
    exact ⟨not_not.1 hlen, h.2⟩

theorem length_encodeRegistration (r : Record) :
    (encodeRegistration r).length = encodedRegistrationBytes := by
  simp [encodeRegistration, registrationMagic, ascii, encodedRegistrationBytes, r.vaultId.2,
    r.registrationId.2, r.brkPublicKey.2]

/-- A stored record reads back. -/
theorem decodeRegistration_encodeRegistration {r : Record} (h : r.valid importKey = true) :
    decodeRegistration importKey (encodeRegistration r) = some r := by
  have hread : readRecord (encodeRegistration r) = some r := by
    have hmagic := readExact_append (⟨registrationMagic, by decide⟩ : Bytes 8)
    have hepoch := readExact_append (⟨appendBE 4 r.epoch.toNat, by simp⟩ : Bytes 4)
    have hkey : readExact 65 r.brkPublicKey.1 = some (r.brkPublicKey, []) := by
      simpa using readExact_append r.brkPublicKey []
    have hvalue := valueBE_appendBE 4 _ r.epoch.toNat_lt
    simp [readRecord, encodeRegistration, hmagic, hepoch, hkey, readExact_append, hvalue]
  rw [decodeRegistration, if_neg (by simp [length_encodeRegistration]), hread,
    Option.filter_some, if_pos h]

/-! ## Reading the registration -/

/-- The content holds the valid record `r`. -/
def Stored (importKey : P256PublicKey → Bool) (c : NvsContent) (r : Record) : Prop :=
  c.active.bind (decodeRegistration importKey) = some r

variable {c : NvsContent} {r : Record} {nvs : Nvs}

theorem Stored.of_active {c' : NvsContent} (h : Stored importKey c r) (ha : c'.active = c.active) :
    Stored importKey c' r := by
  rwa [Stored, ha]

theorem Stored.length (h : Stored importKey c r) :
    c.reg2 ≠ none ∧ c.active.map List.length = some encodedRegistrationBytes := by
  obtain ⟨encoded, ha, hd⟩ := Option.bind_eq_some_iff.1 h
  refine ⟨fun hn => by simp [NvsContent.active, hn] at ha, ?_⟩
  rw [ha, Option.map_some, (decodeRegistration_valid hd).1]

/-- The refresh of a valid stored record makes three calls and fails exactly if one of them
does. -/
theorem readRegistration_cases (h : Stored importKey nvs.content r) :
    (nvs.Smooth 3 ∧ readRegistration importKey nvs = (.ok r, nvs.skip 3)) ∨
    (¬ nvs.Smooth 3 ∧ ∃ fault nvs', readRegistration importKey nvs = (.error (mapError fault), nvs')
      ∧ nvs'.content = nvs.content) := by
  obtain ⟨hns, hlen⟩ := h.length
  obtain ⟨ns, hns⟩ := Option.ne_none_iff_exists'.1 hns
  simp only [World.smooth_succ, World.smooth_zero, and_true]
  rcases call_bind_cases mapError (fun c : NvsContent => c.reg2) _ nvs with
    ⟨h0, he⟩ | ⟨h0, fault, he⟩
  swap
  · exact .inr ⟨fun hs => h0 hs.1, fault, nvs.next, he, rfl⟩
  have he₁ : readRegistration importKey nvs = _ := he
  simp only [hns] at he₁
  rcases call_bind_cases mapError (fun c : NvsContent => c.active.map List.length) _ nvs.next with
    ⟨h1, he⟩ | ⟨h1, fault, he⟩
  swap
  · exact .inr ⟨fun hs => h1 hs.2.1, fault, nvs.next.next, he₁.trans he, rfl⟩
  have he₂ := he₁.trans he
  simp only [World.next_content, hlen, ne_eq, not_true_eq_false, if_false] at he₂
  rcases call_bind_cases mapError
    (fun c : NvsContent => c.active.bind (decodeRegistration importKey)) _ nvs.next.next with
    ⟨h2, he⟩ | ⟨h2, fault, he⟩
  swap
  · exact .inr ⟨fun hs => h2 hs.2.2, fault, nvs.next.next.next, he₂.trans he, rfl⟩
  have he₃ := he₂.trans he
  simp only [World.next_content, show nvs.content.active.bind _ = some r from h] at he₃
  exact .inl ⟨⟨h0, h1, h2⟩, he₃⟩

/-! ## Writing the registration -/

/-- The content with the record `r` as its active registration. -/
def withActive (c : NvsContent) (r : Record) : NvsContent :=
  c.setReg2 fun ns => { ns with active := some (encodeRegistration r) }

/-- The write of a registration opens the namespace, and then stores the record but fails. -/
def TornWrite (nvs : Nvs) : Prop := nvs.outcome nvs.calls = .ok ∧ nvs.next.torn = true

theorem opened_of_ne_none (h : c.reg2 ≠ none) : c.opened = c := by
  obtain ⟨ns, hns⟩ := Option.ne_none_iff_exists'.1 h
  cases c
  simp only at hns
  simp [NvsContent.opened, hns]

theorem Stored.withActive (h : c.reg2 ≠ none) (hr : r.valid importKey = true) :
    Stored importKey (withActive c r) r := by
  obtain ⟨ns, hns⟩ := Option.ne_none_iff_exists'.1 h
  simp [Stored, Registration.withActive, NvsContent.setReg2, NvsContent.active, hns,
    decodeRegistration_encodeRegistration hr]

theorem withActive_deviceId (c : NvsContent) (r : Record) :
    (withActive c r).deviceId = c.deviceId := by
  cases hns : c.reg2 <;>
    simp [withActive, NvsContent.setReg2, NvsContent.deviceId, hns]

/-- A write that works stores the record; one that fails stores it if it is torn. -/
theorem writeRegistration_cases (h : nvs.content.reg2 ≠ none) :
    ∃ res nvs', writeRegistration r nvs = (res, nvs') ∧
      ((res = .ok () ∧ ¬ TornWrite nvs ∧ nvs'.content = withActive nvs.content r) ∨
        ∃ fault, res = .error (mapError fault) ∧
          ((TornWrite nvs ∧ nvs'.content = withActive nvs.content r) ∨
            (¬ TornWrite nvs ∧ nvs'.content = nvs.content))) := by
  have hopen := opened_of_ne_none h
  cases h0 : nvs.outcome nvs.calls with
  | failed fault written =>
    have hc : change mapError NvsContent.opened nvs = (.error (mapError fault), { nvs.next with
        content := if written then nvs.content.opened else nvs.content }) := by
      simp [change, h0]
    refine ⟨_, _, bind_of_error hc, .inr ⟨fault, rfl, .inr ⟨fun ht => ?_, ?_⟩⟩⟩
    · simp [TornWrite, h0] at ht
    · simp [hopen]
  | ok =>
    have hc : change mapError NvsContent.opened nvs = (.ok (), nvs.next) := by
      simp [change, h0, hopen]
      rfl
    obtain ⟨res, nvs', hw, hcase⟩ := write_cases mapError (withActive · r) nvs.next
    refine ⟨res, nvs', (bind_of_ok hc).trans hw, ?_⟩
    rcases hcase with ⟨rfl, ht, hcont⟩ | ⟨fault, rfl, hcont⟩
    · exact .inl ⟨rfl, by simp [TornWrite, ht], hcont⟩
    · refine .inr ⟨fault, rfl, ?_⟩
      cases ht : nvs.next.torn
      · exact .inr ⟨by simp [TornWrite, ht], by simpa [ht] using hcont⟩
      · exact .inl ⟨⟨h0, ht⟩, by simpa [ht] using hcont⟩

/-! ## The store -/

theorem mapError_io (fault : NvsFault) : mapError fault = .io ∨ mapError fault = .invalidArgument := by
  cases fault <;> simp [mapError]

namespace Store

variable {st : Store}

@[simp] theorem withNvs_nvs (nvs : Nvs) : (st.withNvs nvs).nvs = nvs := rfl
@[simp] theorem withNvs_ready (nvs : Nvs) : (st.withNvs nvs).ready = st.ready := rfl
@[simp] theorem withNvs_available (nvs : Nvs) :
    (st.withNvs nvs).recoveryResetAvailable = st.recoveryResetAvailable := rfl
@[simp] theorem withNvs_snapshot (nvs : Nvs) : (st.withNvs nvs).snapshot = st.snapshot := rfl
@[simp] theorem withSnapshot_nvs (s : Snapshot) : (st.withSnapshot s).nvs = st.nvs := rfl
@[simp] theorem withSnapshot_ready (s : Snapshot) : (st.withSnapshot s).ready = st.ready := rfl
@[simp] theorem withSnapshot_available (s : Snapshot) :
    (st.withSnapshot s).recoveryResetAvailable = st.recoveryResetAvailable := rfl
@[simp] theorem withSnapshot_snapshot (s : Snapshot) : (st.withSnapshot s).snapshot = s := rfl
@[simp] theorem withSnapshot_clears (s : Snapshot) : (st.withSnapshot s).clears = st.clears := rfl
@[simp] theorem withNvs_clears (nvs : Nvs) : (st.withNvs nvs).clears = st.clears := rfl

theorem run_eq {β : Type} {p : NvsProg β} {res : Except Status β} {nvs : Nvs}
    (h : p st.nvs = (res, nvs)) : st.run p = (res, st.withNvs nvs) := by
  rw [run, h]

theorem load_eq (st : Store) {res : Except Status Record} {nvs' : Nvs}
    (h : readRegistration importKey st.nvs = (res, nvs')) :
    st.loadRegistration importKey = match res with
      | .ok r => (.ok, (st.withNvs nvs').withSnapshot (registered st.snapshot.deviceId r))
      | .error status => (status, (st.withNvs nvs').withSnapshot (bare st.snapshot.deviceId)) := by
  have hrun : (st.withSnapshot (bare st.snapshot.deviceId)).run (readRegistration importKey) =
    (res, (st.withSnapshot (bare st.snapshot.deviceId)).withNvs nvs') := run_eq h
  rw [loadRegistration, hrun]
  cases res <;> rfl

/-- `load_registration` over a valid record: it works if its three calls do, and otherwise leaves
an empty snapshot. -/
theorem load_cases (st : Store) (h : Stored importKey st.nvs.content r) :
    (st.nvs.Smooth 3 ∧ st.loadRegistration importKey = (.ok,
      (st.withNvs (st.nvs.skip 3)).withSnapshot (registered st.snapshot.deviceId r))) ∨
    (¬ st.nvs.Smooth 3 ∧ ∃ fault nvs', nvs'.content = st.nvs.content ∧
      st.loadRegistration importKey = (mapError fault,
        (st.withNvs nvs').withSnapshot (bare st.snapshot.deviceId))) := by
  rcases readRegistration_cases h with ⟨hs, he⟩ | ⟨hs, fault, nvs', he, hc⟩
  · exact .inl ⟨hs, load_eq st he⟩
  · exact .inr ⟨hs, fault, nvs', hc, load_eq st he⟩

theorem persist_cases (importKey : P256PublicKey → Bool) (st : Store)
    (hns : st.nvs.content.reg2 ≠ none) (r : Record) :
    (r.valid importKey = false ∧
      st.persistRegistration importKey r = (.invalidArgument, st)) ∨
    (r.valid importKey = true ∧ ∃ nvs',
      ((¬ TornWrite st.nvs ∧ nvs'.content = withActive st.nvs.content r ∧
          st.persistRegistration importKey r = (.ok,
            (st.withNvs nvs').withSnapshot (registered st.snapshot.deviceId r))) ∨
        ∃ fault, st.persistRegistration importKey r = (mapError fault, st.withNvs nvs') ∧
          ((TornWrite st.nvs ∧ nvs'.content = withActive st.nvs.content r) ∨
            (¬ TornWrite st.nvs ∧ nvs'.content = st.nvs.content)))) := by
  cases hv : r.valid importKey
  · exact .inl ⟨rfl, by simp [persistRegistration, hv]⟩
  · obtain ⟨res, nvs', he, ⟨rfl, ht, hc⟩ | ⟨fault, rfl, hc⟩⟩ := writeRegistration_cases (r := r) hns
    · exact .inr ⟨rfl, nvs', .inl ⟨ht, hc, by simp [persistRegistration, hv, run_eq he]⟩⟩
    · exact .inr ⟨rfl, nvs', .inr ⟨fault, by simp [persistRegistration, hv, run_eq he], hc⟩⟩

/-! ### Clears -/

theorem load_clears (importKey : P256PublicKey → Bool) (st : Store) :
    (st.loadRegistration importKey).2.clears = st.clears := by
  rcases hr : readRegistration importKey st.nvs with ⟨res, nvs'⟩
  rw [load_eq st hr]
  cases res <;> simp

theorem persist_clears (importKey : P256PublicKey → Bool) (st : Store) (r : Record) :
    (st.persistRegistration importKey r).2.clears = st.clears := by
  unfold persistRegistration
  split
  · rfl
  · rcases hw : writeRegistration r st.nvs with ⟨res, nvs'⟩
    rw [run_eq hw]
    cases res <;> simp

theorem replace_clears (importKey : P256PublicKey → Bool) (st : Store) (expectedEpoch : UInt32)
    (r : Record) : (st.replace importKey expectedEpoch r).2.clears = st.clears := by
  have hl := load_clears importKey st
  unfold replace
  split
  · rfl
  · dsimp only
    split
    · exact hl
    · split
      · exact hl
      · exact (persist_clears importKey _ r).trans hl

end Store

/-! ## Initialization -/

/-- The stored Device ID is absent or valid. -/
def DeviceIdOk (c : NvsContent) : Prop :=
  ∀ bytes, c.deviceId = some bytes → ∃ id : DeviceIdCandidate, bytes = id.1.1

theorem opened_active (c : NvsContent) : c.opened.active = c.active := by
  cases hns : c.reg2 <;> simp [NvsContent.opened, NvsContent.active, hns]

theorem opened_deviceId (c : NvsContent) : c.opened.deviceId = c.deviceId := by
  cases hns : c.reg2 <;> simp [NvsContent.opened, NvsContent.deviceId, hns]

/-- The content with the Device ID `bytes`. -/
def withDeviceId (c : NvsContent) (bytes : List UInt8) : NvsContent :=
  c.setReg2 fun ns => { ns with deviceId := some bytes }

theorem withDeviceId_active (c : NvsContent) (bytes : List UInt8) :
    (withDeviceId c bytes).active = c.active := by
  cases hns : c.reg2 <;> simp [withDeviceId, NvsContent.setReg2, NvsContent.active, hns]

theorem withDeviceId_ok (c : NvsContent) (candidate : DeviceIdCandidate) :
    DeviceIdOk (withDeviceId c candidate.1.1) := by
  intro bytes hb
  cases hns : c.reg2
  · simp [withDeviceId, NvsContent.setReg2, NvsContent.deviceId, hns] at hb
  · refine ⟨candidate, ?_⟩
    simpa [withDeviceId, NvsContent.setReg2, NvsContent.deviceId, hns, eq_comm] using hb

theorem mapError_ne (fault : NvsFault) :
    mapError fault ≠ .corrupt ∧ mapError fault ≠ .ok ∧ mapError fault ≠ .notFound := by
  rcases mapError_io fault with h | h <;> simp [h]

/-- Reading or creating the Device ID never takes a valid one for corrupt, and leaves the
registration alone. -/
theorem loadOrCreateDeviceId_triple (a : Option (List UInt8)) (candidate : DeviceIdCandidate) :
    Triple (fun c => c.active = a ∧ DeviceIdOk c) (loadOrCreateDeviceId candidate)
      (fun _ c => c.active = a ∧ DeviceIdOk c)
      (fun status c => status ≠ .corrupt ∧ c.active = a ∧ DeviceIdOk c) := by
  have hfault (fault : NvsFault) := (mapError_ne fault).1
  have hopened {c : NvsContent} (h : c.active = a ∧ DeviceIdOk c) :
      c.opened.active = a ∧ DeviceIdOk c.opened :=
    ⟨(opened_active c).trans h.1, fun bytes hb => h.2 bytes ((opened_deviceId c).symm.trans hb)⟩
  refine .bind (.call (Q := fun _ c => c.active = a ∧ DeviceIdOk c) (fun _ h => h)
    fun fault _ h => ⟨hfault fault, h⟩) fun _ => ?_
  refine .bind (.change (Q := fun _ c => c.active = a ∧ DeviceIdOk c) (fun c h => hopened h)
    fun fault c h => ⟨⟨hfault fault, h⟩, hfault fault, hopened h⟩) fun _ => ?_
  refine .bind (.call (Q := fun size c => size = c.deviceId.map List.length ∧
    c.active = a ∧ DeviceIdOk c) (fun _ h => ⟨rfl, h⟩) fun fault _ h => ⟨hfault fault, h⟩)
    fun size => ?_
  cases size with
  | none =>
    have hset {c : NvsContent} (h : c.active = a) :
        (withDeviceId c candidate.1.1).active = a ∧ DeviceIdOk (withDeviceId c candidate.1.1) :=
      ⟨(withDeviceId_active c _).trans h, withDeviceId_ok c candidate⟩
    exact .bind (.write (Q := fun _ c => c.active = a ∧ DeviceIdOk c) (fun c h => hset h.2.1)
      fun fault c h => ⟨⟨hfault fault, h.2⟩, hfault fault, hset h.2.1⟩) fun _ => .pure fun _ h => h
  | some size =>
    have hid {c : NvsContent} (h : some size = c.deviceId.map List.length ∧
        c.active = a ∧ DeviceIdOk c) :
        size = 16 ∧ ∃ id : DeviceIdCandidate, c.deviceId.bind (Bytes.ofList? 16) = some id.1 := by
      obtain ⟨bytes, hb, hlen⟩ := Option.map_eq_some_iff.1 h.1.symm
      obtain ⟨id, rfl⟩ := h.2.2 bytes hb
      exact ⟨hlen.symm.trans id.1.2, id, by simp [hb]⟩
    refine .ite (fun hne => .throw fun c h => absurd (hid h).1 hne) fun _ => ?_
    refine .bind (.call (Q := fun deviceId c => (∃ id : DeviceIdCandidate, deviceId = some id.1) ∧
      c.active = a ∧ DeviceIdOk c) (fun c h => ⟨(hid h).2, h.2⟩)
      fun fault _ h => ⟨hfault fault, h.2⟩) fun deviceId => ?_
    cases deviceId with
    | none =>
      refine .throw fun c h => ?_
      obtain ⟨⟨_, hn⟩, _⟩ := h
      simp at hn
    | some deviceId =>
      refine .ite (fun hz => .throw fun c h => ?_) fun _ => .pure fun _ h => h.2
      obtain ⟨⟨id, hn⟩, _⟩ := h
      rw [Option.some.inj hn, id.2] at hz
      simp at hz

/-! ## On reliable storage -/

/-- Without faults the registration is present, absent or corrupt. -/
theorem readRegistration_settles (importKey : P256PublicKey → Bool) (I : NvsContent → Prop) :
    Settles I (readRegistration importKey)
    (fun r c => I c ∧ Stored importKey c r)
    (fun status c => I c ∧ ((status = .notFound ∧ c.active = none) ∨
      (status = .corrupt ∧ c.active ≠ none))) := by
  refine .bind (Q := fun ns c => ns = c.reg2 ∧ I c) (.call fun c h => ⟨rfl, h⟩) fun ns => ?_
  cases ns with
  | none => exact .throw fun c h => ⟨h.2, .inl ⟨rfl, by simp [NvsContent.active, ← h.1]⟩⟩
  | some ns =>
    refine .bind (Q := fun size c => size = c.active.map List.length ∧ I c)
      (.call fun c h => ⟨rfl, h.2⟩) fun size => ?_
    cases size with
    | none => exact .throw fun c h => ⟨h.2, .inl ⟨rfl, Option.map_eq_none_iff.1 h.1.symm⟩⟩
    | some size =>
      have hsome {c : NvsContent} (h : some size = c.active.map List.length) :
          c.active ≠ none := fun hn => by simp [hn] at h
      refine .ite (fun _ => .throw fun c h => ⟨h.2, .inr ⟨rfl, hsome h.1⟩⟩) fun _ =>
        .bind (Q := fun r c => r = c.active.bind (decodeRegistration importKey) ∧
          c.active ≠ none ∧ I c) (.call fun c h => ⟨rfl, hsome h.1, h.2⟩) fun r => ?_
      cases r with
      | none => exact .throw fun c h => ⟨h.2.2, .inr ⟨rfl, h.2.1⟩⟩
      | some r => exact .pure fun c h => ⟨h.2.2, h.1.symm⟩

/-- Without faults the Device ID is found or created, or corrupt. -/
theorem loadOrCreateDeviceId_settles (a : Option (List UInt8)) (candidate : DeviceIdCandidate) :
    Settles (fun c => c.active = a) (loadOrCreateDeviceId candidate) (fun _ c => c.active = a)
      (fun status c => status = .corrupt ∧ c.active = a) := by
  refine .bind (Q := fun _ c => c.active = a) (.call fun _ h => h) fun _ =>
    .bind (Q := fun _ c => c.active = a) (.change fun c h => (opened_active c).trans h) fun _ =>
    .bind (Q := fun _ c => c.active = a) (.call fun _ h => h) fun size => ?_
  cases size with
  | none =>
    exact .bind (Q := fun _ c => c.active = a)
      (.write fun c h => (withDeviceId_active c candidate.1.1).trans h) fun _ => .pure fun _ h => h
  | some size =>
    refine .ite (fun _ => .throw fun _ h => ⟨rfl, h⟩) fun _ =>
      .bind (Q := fun _ c => c.active = a) (.call fun _ h => h) fun deviceId => ?_
    cases deviceId with
    | none => exact .throw fun _ h => ⟨rfl, h⟩
    | some deviceId =>
      exact .ite (fun _ => .throw fun _ h => ⟨rfl, h⟩) fun _ => .pure fun _ h => h

namespace Store

/-- **The store after an `initialize` without faults**: it knows its registration, or that the
content is corrupt. -/
theorem initialize_reliable (importKey : P256PublicKey → Bool) (st : Store)
    (h : st.nvs.Reliable) (candidate : DeviceIdCandidate) :
    let st' := (st.initializeStore importKey candidate).2
    st'.nvs.Reliable ∧ st'.nvs.content.active = st.nvs.content.active ∧
    ((st'.ready = true ∧ st'.recoveryResetAvailable = false ∧
        ((st'.snapshot.registrationPresent = true ∧
            Stored importKey st'.nvs.content st'.snapshot.toRecord) ∨
          (st'.snapshot.registrationPresent = false ∧ st'.nvs.content.active = none))) ∨
      (st'.ready = false ∧ st'.recoveryResetAvailable = true ∧
        (DeviceIdOk st.nvs.content → st.nvs.content.active ≠ none))) := by
  intro st'
  have hst : st' = (st.initializeStore importKey candidate).2 := rfl
  clear_value st'
  obtain ⟨res, nvs, he, hrel, hres⟩ := loadOrCreateDeviceId_settles st.nvs.content.active candidate
    st.nvs h rfl
  have hrun : st.blank.run (loadOrCreateDeviceId candidate) = (res, st.blank.withNvs nvs) :=
    run_eq he
  rw [initializeStore, hrun] at hst
  cases res with
  | error status =>
    obtain ⟨rfl, hact⟩ := hres
    rw [hst]
    refine ⟨hrel, hact, .inr ⟨rfl, rfl, fun hok => ?_⟩⟩
    exact absurd rfl (loadOrCreateDeviceId_triple st.nvs.content.active candidate st.nvs
      ⟨rfl, hok⟩ _ _ he).1
  | ok deviceId =>
    obtain ⟨res', nvs', he', hrel', hres'⟩ := readRegistration_settles importKey
      (fun c => c.active = st.nvs.content.active) nvs hrel hres
    have hl := load_eq ((st.blank.withNvs nvs).withSnapshot (bare deviceId)) he'
    cases res' with
    | ok r =>
      simp only [hl] at hst
      rw [hst]
      exact ⟨hrel', hres'.1, .inl ⟨rfl, rfl, .inl ⟨rfl, hres'.2⟩⟩⟩
    | error status =>
      obtain ⟨hact, ⟨rfl, hnone⟩ | ⟨rfl, hsome⟩⟩ := hres'
      · simp only [hl] at hst
        rw [hst]
        exact ⟨hrel', hact, .inl ⟨rfl, rfl, .inr ⟨rfl, hnone⟩⟩⟩
      · simp only [hl] at hst
        rw [hst]
        exact ⟨hrel', hact, .inr ⟨rfl, rfl, fun _ => hact ▸ hsome⟩⟩

end Store

end M5Auth.Registration
