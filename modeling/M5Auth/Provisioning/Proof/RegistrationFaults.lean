import M5Auth.Lib.Run
import M5Auth.Provisioning.RecoveryReset
import M5Auth.Registration.Proof.Cases

/-!
# Registration faults and the recovery classification

A Device that holds a Vault and its valid registration should never classify itself as needing a
recovery reset because an NVS call of the registration store failed, and its snapshot should never
show another registration than the stored one (`Unmistaken`).

The store loses track of its registration in two ways: `load_registration` empties the snapshot
before its first read while `ready` stays set, and a torn write of a replacement leaves the new
record behind the old snapshot. `unmistaken_iff`: in a run whose operations meet neither
(`Whole`), the Device is never mistaken, and an operation that meets one makes it so
(`refresh_mistaken`).
-/

namespace M5Auth.Provisioning

open FaultyStore FaultyStore.Prog Registration

/-! ## Operations -/

/-- An operation of the registration store. -/
inductive StoreOp where
  | initializeStore (candidate : DeviceIdCandidate)
  | installInitial (r : Record)
  | replace (expectedEpoch : UInt32) (r : Record)
  | snapshot

variable (importKey : P256PublicKey → Bool) (vaultId : VaultId)

/-- The store after an operation. -/
def storeStep (st : Store) : StoreOp → Store
  | .initializeStore candidate => (st.initializeStore importKey candidate).2
  | .installInitial r => (st.installInitial importKey r).2
  | .replace expectedEpoch r => (st.replace importKey expectedEpoch r).2
  | .snapshot => st

/-! ## The claim, and the condition -/

/-- The Device whose healthy runtime holds the Vault `vaultId` is not classified as needing a
recovery reset, and a snapshot that works shows the stored registration. -/
structure Unmistaken (st : Store) : Prop where
  classified : ∀ m : VaultRuntime.Metadata, m.state ≠ .error → m.state ≠ .reprovisionRequired →
    m.hasVault = true → m.vaultId = vaultId →
    classifyRecoveryReset m st.readSnapshot.1 st.readSnapshot.2 st.recoveryResetAvailable ≠
      .required
  exact : ∀ sn, st.readSnapshot = (.ok, sn) →
    sn.registrationPresent = true ∧ Stored importKey st.nvs.content sn.toRecord

/-- The replacement of the stored registration by `r` gets to its write. -/
def Replaces (c : NvsContent) (expectedEpoch : UInt32) (r : Record) : Prop :=
  r.valid importKey = true ∧ ∃ stored, Stored importKey c stored ∧ stored.vaultId = r.vaultId ∧
    stored.epoch = expectedEpoch

/-- The three calls of the refresh work, and the write of a replacement is not torn. -/
def Whole (st : Store) : StoreOp → Prop
  | .installInitial _ => st.ready = true → st.nvs.Smooth 3
  | .replace expectedEpoch r =>
    st.ready = true → expectedEpoch ≠ 0 → expectedEpoch ≠ 4294967295 →
      r.epoch = expectedEpoch + 1 → st.nvs.Smooth 3 ∧
        ¬ (Replaces importKey st.nvs.content expectedEpoch r ∧ TornWrite (st.nvs.skip 3))
  | _ => True

/-! ## What every operation keeps -/

/-- The content holds a valid registration of the Vault `vaultId`. -/
def Bound (c : NvsContent) : Prop :=
  DeviceIdOk c ∧ ∃ r, Stored importKey c r ∧ r.vaultId = vaultId

/-- The stored registration is valid, and the store does not take it for corrupt. -/
def Known (st : Store) : Prop :=
  st.recoveryResetAvailable = false ∧ Bound importKey vaultId st.nvs.content

/-- A store that is ready shows the stored registration. -/
def Shown (st : Store) : Prop :=
  st.ready = true → ∀ r, Stored importKey st.nvs.content r →
    st.snapshot = Store.registered st.snapshot.deviceId r

variable {importKey vaultId} {st : Store}

theorem unmistaken_iff_shown (h : Known importKey vaultId st) :
    Unmistaken importKey vaultId st ↔ Shown importKey st := by
  obtain ⟨hav, _, r, hr, hid⟩ := h
  constructor
  · intro hu hready r' hr'
    have hsn := hu.exact st.snapshot (by simp [Store.readSnapshot, hready])
    have he : some st.snapshot.toRecord = some r' := hsn.2.symm.trans hr'
    rw [← Option.some.inj he]
    unfold Store.registered
    rw [← hsn.1]
  · intro hs
    cases hready : st.ready
    · have hsnap : st.readSnapshot = (.io, {}) := by simp [Store.readSnapshot, hready, hav]
      refine ⟨fun m h1 h2 _ _ => ?_, fun sn hsn => ?_⟩
      · simp [hsnap, classifyRecoveryReset, h1, h2]
      · simp [hsnap] at hsn
    · have hsnap : st.readSnapshot = (.ok, st.snapshot) := by simp [Store.readSnapshot, hready]
      have hshow := hs hready r hr
      have hfields : st.snapshot.registrationPresent = true ∧ st.snapshot.toRecord = r := by
        rw [hshow]
        exact ⟨rfl, rfl⟩
      refine ⟨fun m h1 h2 hv hm => ?_, fun sn hsn => ?_⟩
      · simp [hsnap, classifyRecoveryReset, h1, h2, hv, hm, hfields, hid]
      · rw [hsnap, Prod.mk.injEq] at hsn
        rw [← hsn.2]
        exact ⟨hfields.1, hfields.2.symm ▸ hr⟩

/-! ## Initialization -/

variable {r : Record} {c : NvsContent}

/-- `initialize` over a valid registration keeps it, and shows it if it becomes ready. -/
theorem initialize_shown (h : Known importKey vaultId st) (candidate : DeviceIdCandidate) :
    Known importKey vaultId (st.initializeStore importKey candidate).2 ∧
      Shown importKey (st.initializeStore importKey candidate).2 := by
  obtain ⟨_, hdev, r, hr, hid⟩ := h
  rcases he : loadOrCreateDeviceId candidate st.blank.nvs with ⟨res, nvs⟩
  have hpost := loadOrCreateDeviceId_triple _ candidate st.blank.nvs ⟨rfl, hdev⟩ res nvs he
  rw [Store.initializeStore, Store.run_eq he]
  cases res with
  | error status =>
    obtain ⟨hne, hact, hdev'⟩ := hpost
    have hr' : Stored importKey nvs.content r := hr.of_active hact
    simp only [if_neg hne]
    exact ⟨⟨rfl, hdev', r, hr', hid⟩, fun h => by cases h⟩
  | ok deviceId =>
    obtain ⟨hact, hdev'⟩ := hpost
    have hr' : Stored importKey nvs.content r := hr.of_active hact
    rcases Store.load_cases ((st.blank.withNvs nvs).withSnapshot (Store.bare deviceId)) hr'
      with ⟨_, hl⟩ | ⟨_, fault, nvs', hc, hl⟩
    · simp only [hl]
      refine ⟨⟨rfl, hdev', r, hr', hid⟩, fun _ r' hr₂ => ?_⟩
      obtain rfl : r = r' := Option.some.inj (hr'.symm.trans hr₂)
      rfl
    · have hfault := mapError_ne fault
      have hc' : nvs'.content = nvs.content := hc
      simp only [hl, if_neg hfault.1, if_pos hfault.2]
      refine ⟨⟨rfl, ?_, r, ?_, hid⟩, fun h => by cases h⟩
      · exact fun bytes hb => hdev' bytes (hc' ▸ hb)
      · exact (hc' ▸ hr' : Stored importKey nvs'.content r)

/-! ## Installing and replacing -/

theorem Known.of_content (h : Known importKey vaultId st) (st' : Store)
    (hav : st'.recoveryResetAvailable = st.recoveryResetAvailable)
    (hc : st'.nvs.content = st.nvs.content) : Known importKey vaultId st' :=
  ⟨hav.trans h.1, hc ▸ h.2⟩

theorem Known.of_withActive (h : Known importKey vaultId st) {st' : Store} (r : Record)
    (hr : r.valid importKey = true) (hid : r.vaultId = vaultId)
    (hav : st'.recoveryResetAvailable = st.recoveryResetAvailable)
    (hc : st'.nvs.content = withActive st.nvs.content r) : Known importKey vaultId st' := by
  obtain ⟨hav', hdev, r', hr', _⟩ := h
  refine ⟨hav.trans hav', ?_, r, ?_, hid⟩
  · intro bytes hb
    rw [hc, withActive_deviceId] at hb
    exact hdev bytes hb
  · rw [hc]
    exact .withActive hr'.length.1 hr

theorem not_shown_of_bare {deviceId : DeviceId} (h : Known importKey vaultId st)
    (hready : st.ready = true) (hs : st.snapshot = Store.bare deviceId) : ¬ Shown importKey st := by
  obtain ⟨_, _, r, hr, _⟩ := h
  intro hshow
  have he := congrArg (·.registrationPresent) (hs.symm.trans (hshow hready r hr))
  simp [Store.bare, Store.registered] at he

theorem shown_of_registered (st : Store) (hr : Stored importKey st.nvs.content r)
    (hs : st.snapshot = Store.registered st.snapshot.deviceId r) : Shown importKey st := by
  intro _ r' hr'
  obtain rfl : r = r' := Option.some.inj (hr.symm.trans hr')
  exact hs

/-- `install_initial` finds the stored registration, unless its refresh fails. -/
theorem install_iff (h : Known importKey vaultId st) (hs : Shown importKey st) (r : Record) :
    Known importKey vaultId (st.installInitial importKey r).2 ∧
      (Shown importKey (st.installInitial importKey r).2 ↔
        Whole importKey st (.installInitial r)) := by
  unfold Store.installInitial
  cases hready : st.ready
  · exact ⟨h, iff_of_true hs fun hr => absurd (hready.symm.trans hr) (by decide)⟩
  obtain ⟨stored, hst, _⟩ := h.2.2
  rcases Store.load_cases st hst with ⟨hsm, hl⟩ | ⟨hsm, fault, nvs', hc, hl⟩
  · simp only [hl]
    exact ⟨h.of_content _ rfl rfl, iff_of_true (shown_of_registered _ hst rfl)
      fun _ => hsm⟩
  · simp only [hl, if_pos (mapError_ne fault).2.2]
    have hk := h.of_content
      ((st.withNvs nvs').withSnapshot (Store.bare st.snapshot.deviceId)) rfl hc
    exact ⟨hk, iff_of_false (not_shown_of_bare hk hready rfl) fun hw => hsm (hw hready)⟩

/-- `replace` shows what is stored, unless its refresh fails or its write is torn. -/
theorem replace_iff (h : Known importKey vaultId st) (hs : Shown importKey st)
    (expectedEpoch : UInt32) (r : Record) :
    Known importKey vaultId (st.replace importKey expectedEpoch r).2 ∧
      (Shown importKey (st.replace importKey expectedEpoch r).2 ↔
        Whole importKey st (.replace expectedEpoch r)) := by
  unfold Store.replace
  split
  · rename_i hguard
    refine ⟨h, iff_of_true hs fun hr h0 hm he => ?_⟩
    simp [hr, h0, hm, he] at hguard
  rename_i hguard
  simp only [not_or, Bool.not_eq_true', Bool.not_eq_false, not_not] at hguard
  obtain ⟨hready, h0, hm, he⟩ := hguard
  obtain ⟨stored, hst, hid⟩ := h.2.2
  rcases Store.load_cases st hst with ⟨hsm, hl⟩ | ⟨hsm, fault, nvs', hc, hl⟩
  swap
  · simp only [hl, if_pos (mapError_ne fault).2.1]
    have hk := h.of_content
      ((st.withNvs nvs').withSnapshot (Store.bare st.snapshot.deviceId)) rfl hc
    exact ⟨hk, iff_of_false (not_shown_of_bare hk hready rfl)
      fun hw => hsm (hw hready h0 hm he).1⟩
  have hwhole : Whole importKey st (.replace expectedEpoch r) ↔
      ¬ (Replaces importKey st.nvs.content expectedEpoch r ∧ TornWrite (st.nvs.skip 3)) :=
    ⟨fun hw => (hw hready h0 hm he).2, fun hn _ _ _ _ => ⟨hsm, hn⟩⟩
  rw [hwhole]
  simp only [hl]
  rw [if_neg (by simp)]
  have hst' : Stored importKey (st.withNvs (st.nvs.skip 3)).nvs.content stored := hst
  have hkeep := h.of_content ((st.withNvs (st.nvs.skip 3)).withSnapshot
    (Store.registered st.snapshot.deviceId stored)) rfl rfl
  have hsame := shown_of_registered ((st.withNvs (st.nvs.skip 3)).withSnapshot
    (Store.registered st.snapshot.deviceId stored)) hst rfl
  split
  · -- another Vault or epoch is registered
    rename_i hconf
    refine ⟨hkeep, iff_of_true hsame ?_⟩
    rintro ⟨⟨_, stored', hst₂, hv, hep⟩, _⟩
    obtain rfl : stored = stored' := Option.some.inj (hst.symm.trans hst₂)
    simp [Store.registered, hv, hep] at hconf
  rename_i hconf
  simp only [Store.withSnapshot_snapshot, Store.registered, not_or, Bool.not_eq_true',
    Bool.not_eq_false, ne_eq, not_not, true_and] at hconf
  have hns : (st.withNvs (st.nvs.skip 3)).nvs.content.reg2 ≠ none := hst.length.1
  rcases Store.persist_cases importKey ((st.withNvs (st.nvs.skip 3)).withSnapshot
    (Store.registered st.snapshot.deviceId stored)) hns r with
    ⟨hinv, hp⟩ | ⟨hval, nvs', ⟨ht, hc, hp⟩ | ⟨fault, hp, ⟨ht, hc⟩ | ⟨ht, hc⟩⟩⟩
  · rw [hp]
    exact ⟨hkeep, iff_of_true hsame fun hr => by simp [Replaces, hinv] at hr⟩
  · rw [hp]
    refine ⟨h.of_withActive r hval (hconf.1.symm.trans hid) rfl hc,
      iff_of_true (shown_of_registered _ (r := r) ?_ rfl) fun hr => ht hr.2⟩
    exact (hc ▸ .withActive hns hval : Stored importKey nvs'.content r)
  · -- the torn write leaves the new record behind the old snapshot
    rw [hp]
    refine ⟨h.of_withActive r hval (hconf.1.symm.trans hid) rfl hc, iff_of_false (fun hshow => ?_)
      (not_not.2 ⟨⟨hval, stored, hst, hconf.1, hconf.2⟩, ht⟩)⟩
    have hnew : Stored importKey nvs'.content r := hc ▸ .withActive hns hval
    have hep := congrArg (·.epoch) (hshow hready r hnew)
    simp only [Store.withNvs_snapshot, Store.withSnapshot_snapshot, Store.registered] at hep
    rw [hconf.2, he] at hep
    exact absurd hep.symm (by simp)
  · rw [hp]
    refine ⟨h.of_content _ rfl hc, iff_of_true (shown_of_registered _ (r := stored) ?_ rfl)
      fun hr => ht hr.2⟩
    exact (hc ▸ hst : Stored importKey nvs'.content stored)

/-! ## Whole runs -/

theorem known_step (h : Known importKey vaultId st) (hs : Shown importKey st) (op : StoreOp) :
    Known importKey vaultId (storeStep importKey st op) ∧
      (Shown importKey (storeStep importKey st op) ↔ Whole importKey st op) := by
  cases op with
  | initializeStore candidate =>
    obtain ⟨hk, hsh⟩ := initialize_shown h candidate
    exact ⟨hk, iff_of_true hsh trivial⟩
  | installInitial r => exact install_iff h hs r
  | replace expectedEpoch r => exact replace_iff h hs expectedEpoch r
  | snapshot => exact ⟨h, iff_of_true hs trivial⟩

/-- The store after the first `n` operations of a run from power-on. -/
abbrev storeAt (importKey : P256PublicKey → Bool) (nvs : Nvs) (ops : Nat → StoreOp) (n : Nat) :
    Store :=
  Run.stateAt (storeStep importKey) { nvs } ops n

/-- **A Device with a valid, bound registration is not mistaken** in any run whose operations are
whole, and the first operation that is not makes it so. -/
theorem unmistaken_iff (importKey : P256PublicKey → Bool) (vaultId : VaultId) (nvs : Nvs)
    (ops : Nat → StoreOp) (n : Nat) (hbound : Bound importKey vaultId nvs.content)
    (hwhole : ∀ k, k < n → Whole importKey (storeAt importKey nvs ops k) (ops k)) :
    Unmistaken importKey vaultId (storeAt importKey nvs ops n) ∧
      ∀ op, Unmistaken importKey vaultId (storeStep importKey (storeAt importKey nvs ops n) op) ↔
        Whole importKey (storeAt importKey nvs ops n) op := by
  have hn : Known importKey vaultId (storeAt importKey nvs ops n) ∧
      Shown importKey (storeAt importKey nvs ops n) := by
    refine Run.stateAt_inv_of (P := fun st => Known importKey vaultId st ∧ Shown importKey st)
      ⟨⟨rfl, hbound⟩, fun h => by cases h⟩ (fun st op h hw => ?_) hwhole
    obtain ⟨hk, hs⟩ := known_step h.1 h.2 op
    exact ⟨hk, hs.2 hw⟩
  refine ⟨(unmistaken_iff_shown hn.1).2 hn.2, fun op => ?_⟩
  obtain ⟨hk, hs⟩ := known_step hn.1 hn.2 op
  exact (unmistaken_iff_shown hk).trans hs

/-! ## A refresh that fails -/

/-- A registration of the Vault with the identifier 1, …, 1. -/
def sampleRecord : Record where
  vaultId := ⟨List.replicate 16 1, rfl⟩
  registrationId := ⟨List.replicate 16 1, rfl⟩
  epoch := 1
  brkPublicKey := ⟨0x04 :: List.replicate 64 1, rfl⟩

def sampleDeviceId : DeviceIdCandidate := ⟨⟨List.replicate 16 1, rfl⟩, rfl⟩

/-- The registration `sampleRecord`, with the call number `failing` failing. -/
def sampleNvs (failing : Nat) : Nvs where
  content :=
    { reg2 := some
        { deviceId := some sampleDeviceId.1.1, active := some (encodeRegistration sampleRecord) } }
  outcome k := if k = failing then .failed .other false else .ok

/-- Boot, then an `install_initial`. -/
def installRun : Nat → StoreOp
  | 0 => .initializeStore sampleDeviceId
  | 1 => .installInitial sampleRecord
  | _ => .snapshot

theorem sample_bound (failing : Nat) :
    Bound (fun _ => true) sampleRecord.vaultId (sampleNvs failing).content :=
  ⟨fun _ h => ⟨sampleDeviceId, (Option.some.inj h).symm⟩, sampleRecord, rfl, rfl⟩

/-- The boot makes the calls 0 to 6; call 7 opens the namespace for the refresh. -/
theorem unmistaken_install :
    Unmistaken (fun _ => true) sampleRecord.vaultId
        (storeAt (fun _ => true) (sampleNvs 10) installRun 2) ∧
      ¬ Unmistaken (fun _ => true) sampleRecord.vaultId
        (storeStep (fun _ => true) (storeAt (fun _ => true) (sampleNvs 10) installRun 2)
          (.installInitial sampleRecord)) := by
  have h := unmistaken_iff (fun _ => true) sampleRecord.vaultId (sampleNvs 10) installRun 2
    (sample_bound 10) fun k hk => by
      match k, hk with
      | 0, _ => exact trivial
      | 1, _ =>
        intro _ j hj
        match j, hj with
        | 0, _ => rfl
        | 1, _ => rfl
        | 2, _ => rfl
  exact ⟨h.1, fun ha => absurd ((h.2 _).1 ha rfl 0 (by decide)) (by
    intro hc
    cases hc)⟩

/-- After the failed refresh the healthy Device offers to erase its Vault. -/
theorem refresh_mistaken : ¬ Unmistaken (fun _ => true) sampleRecord.vaultId
    (storeAt (fun _ => true) (sampleNvs 7) installRun 2) := by
  intro h
  exact h.classified
    { state := .locked, schemaReady := true, hasVault := true, recoveryResetAllowed := false
      storageSchemaVersion := 2, vaultFormatVersion := 1, vaultId := sampleRecord.vaultId
      generation := 1, lastUsed := none }
    (by decide) (by decide) rfl rfl (by decide)

end M5Auth.Provisioning
