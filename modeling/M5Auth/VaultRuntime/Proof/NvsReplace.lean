import M5Auth.VaultRuntime.Proof.NvsLoad

/-!
# Replacing the stored Vault

`VaultAt p slot envelope`: the partition content `p` holds the Vault `envelope` in its active slot
`slot`. These are the contents that load a Vault (`VaultAt.loads`, `vaultAt_of_loadNow`).

`replaceEnvelope_cases`: a replacement over such a content leaves the old Vault active and fails,
or it leaves the new one active. It then returns `kOk`, or the write of the active-slot pointer
was torn (`TornFlip`).
-/

namespace M5Auth.VaultRuntime

open Vault FaultyStore FaultyStore.Prog

/-! ## Contents with a Vault -/

structure VaultAt (p : Partition) (slot : UInt8) (envelope : VaultEnvelope) : Prop where
  schema : p.vault2.bind (·.schema) = some storageSchemaVersion
  active : p.active = some slot
  bound : slot ≤ 1
  stored : ∃ encoded, (NvsPersistence.readBlob fun p => p.slot slot).value p = .ok encoded ∧
    decodeEnvelope encoded = .ok envelope
  lastUsed : ∀ bytes, p.vault2.bind (·.lastUsed) = some bytes → bytes.length = 16

variable {p : Partition} {slot : UInt8} {envelope : VaultEnvelope}

namespace VaultAt

theorem vault2_ne_none (h : VaultAt p slot envelope) : p.vault2 ≠ none := by
  intro hn
  simpa [hn] using h.schema

theorem valid (h : VaultAt p slot envelope) : validEnvelopeFraming envelope = true := by
  obtain ⟨_, _, hd⟩ := h.stored
  exact decodeEnvelope_valid hd

theorem readActive (h : VaultAt p slot envelope) :
    NvsPersistence.readActive.value p = .ok (some (slot, envelope)) := by
  obtain ⟨encoded, hb, hd⟩ := h.stored
  have hle : ¬ slot > 1 := UInt8.not_lt.2 h.bound
  simp only [NvsPersistence.value_readActive, h.active, if_neg hle, hb, hd, Except.bind,
    Except.map]

/-- The Vault is what the firmware loads. -/
theorem loads (h : VaultAt p slot envelope) :
    ∃ sn, loadNow p = .ok sn ∧ sn.schemaReady = true ∧ sn.hasVault = true ∧
      sn.envelope = envelope := by
  have hlast : ∃ lastUsed, NvsPersistence.readLastUsed.value p = .ok lastUsed := by
    rw [NvsPersistence.value_readLastUsed]
    cases hl : p.vault2.bind (·.lastUsed) with
    | none => exact ⟨_, rfl⟩
    | some bytes => exact ⟨_, if_neg (by simp [h.lastUsed bytes hl])⟩
  obtain ⟨lastUsed, hlast⟩ := hlast
  refine ⟨NvsPersistence.snapshotOf (some (slot, envelope)) lastUsed, ?_, rfl, rfl, rfl⟩
  rw [loadNow, CompatibleNvsPersistence.value_load, NvsPersistence.value_load,
    if_neg h.vault2_ne_none, NvsPersistence.value_loadNamespace, h.schema]
  simp [storageSchemaVersion, h.readActive, hlast, Except.bind, Except.map,
    CompatibleNvsPersistence.probed]

theorem unique (h : VaultAt p slot envelope) {slot' : UInt8} {envelope' : VaultEnvelope}
    (h' : VaultAt p slot' envelope') : envelope = envelope' := by
  have hr := h.readActive.symm.trans h'.readActive
  simp only [Except.ok.injEq, Option.some.injEq, Prod.mk.injEq] at hr
  exact hr.2

end VaultAt

theorem vaultAt_of_readActive
    (hschema : p.vault2.bind (·.schema) = some storageSchemaVersion)
    (hactive : NvsPersistence.readActive.value p = .ok (some (slot, envelope)))
    (hlast : ∀ bytes, p.vault2.bind (·.lastUsed) = some bytes → bytes.length = 16) :
    VaultAt p slot envelope := by
  rw [NvsPersistence.value_readActive] at hactive
  cases ha : p.active with
  | none => simp [ha] at hactive
  | some slot' =>
    simp only [ha] at hactive
    split at hactive
    · simp at hactive
    · rename_i hle
      rcases hb : (NvsPersistence.readBlob fun p => p.slot slot').value p with st | encoded
      · simp [hb, Except.bind] at hactive
      · rcases hd : decodeEnvelope encoded with st | envelope'
        · simp [hb, hd, Except.bind, Except.map] at hactive
        · simp only [hb, hd, Except.bind, Except.map, Except.ok.injEq, Option.some.injEq,
            Prod.mk.injEq] at hactive
          obtain ⟨rfl, rfl⟩ := hactive
          exact ⟨hschema, ha, UInt8.not_lt.1 hle, ⟨encoded, hb, hd⟩, hlast⟩

/-- What a content that loads shows. -/
theorem loadNow_ok {sn : PersistedSnapshot} (h : loadNow p = .ok sn) :
    ∃ active lastUsed, p.vault2.bind (·.schema) = some storageSchemaVersion ∧
      NvsPersistence.readActive.value p = .ok active ∧
      NvsPersistence.readLastUsed.value p = .ok lastUsed ∧
      sn = NvsPersistence.snapshotOf active lastUsed := by
  rw [loadNow, CompatibleNvsPersistence.value_load, NvsPersistence.value_load] at h
  rcases hns : p.vault2 with _ | ns
  · rw [if_pos hns, NvsPersistence.value_detectLegacySchema] at h
    simp [CompatibleNvsPersistence.probed] at h
  rw [if_neg (by simp [hns]), NvsPersistence.value_loadNamespace] at h
  rcases hs : p.vault2.bind (·.schema) with _ | schema
  · simp [hs, CompatibleNvsPersistence.probed] at h
  simp only [hs] at h
  split at h
  · simp [CompatibleNvsPersistence.probed] at h
  split at h
  · simp [CompatibleNvsPersistence.probed] at h
  split at h
  · simp [CompatibleNvsPersistence.probed] at h
  rename_i hschema
  rw [ne_eq, not_not] at hschema
  rcases ha : NvsPersistence.readActive.value p with st | active
  · simp [ha, Except.bind, CompatibleNvsPersistence.probed] at h
  rcases hl : NvsPersistence.readLastUsed.value p with st | lastUsed
  · simp [ha, hl, Except.bind, Except.map, CompatibleNvsPersistence.probed] at h
  simp only [ha, hl, Except.bind, Except.map, CompatibleNvsPersistence.probed,
    Except.ok.injEq] at h
  rw [← hns]
  exact ⟨active, lastUsed, hs.trans (congrArg some hschema), rfl, rfl, h.symm⟩

/-- A content that loads a Vault holds it in its active slot. -/
theorem vaultAt_of_loadNow {sn : PersistedSnapshot} (h : loadNow p = .ok sn)
    (hv : sn.hasVault = true) : ∃ slot, VaultAt p slot sn.envelope := by
  obtain ⟨active, lastUsed, hs, ha, hl, rfl⟩ := loadNow_ok h
  rcases active with _ | ⟨slot, envelope⟩
  · simp [NvsPersistence.snapshotOf] at hv
  refine ⟨slot, vaultAt_of_readActive hs ha fun bytes hb => ?_⟩
  rw [NvsPersistence.value_readLastUsed, hb] at hl
  by_contra hne
  simp [hne] at hl

/-! ## Staging and flipping -/

theorem UInt8_le_one (h : slot ≤ 1) : slot = 0 ∨ slot = 1 := by
  rw [UInt8.le_iff_toNat_le] at h
  have h1 : (1 : UInt8).toNat = 1 := rfl
  have h0 : (0 : UInt8).toNat = 0 := rfl
  rcases Nat.le_one_iff_eq_zero_or_eq_one.1 (h1 ▸ h) with h | h
  · exact .inl (UInt8.toNat_inj.1 (h.trans h0.symm))
  · exact .inr (UInt8.toNat_inj.1 (h.trans h1.symm))

theorem readBlob_congr {key key' : Partition → Option (List UInt8)} {p p' : Partition}
    (h : key p = key' p') :
    (NvsPersistence.readBlob key).value p = (NvsPersistence.readBlob key').value p' := by
  rw [NvsPersistence.value_readBlob, NvsPersistence.value_readBlob, h]

theorem readSlot_congr {q : Partition} (h : q.slot slot = p.slot slot) :
    (NvsPersistence.readBlob fun p => p.slot slot).value q =
      (NvsPersistence.readBlob fun p => p.slot slot).value p :=
  readBlob_congr h

/-- An active envelope is in the slot the pointer names. -/
theorem active_of_readActive
    (h : NvsPersistence.readActive.value p = .ok (some (slot, envelope))) :
    p.active = some slot ∧ slot ≤ 1 := by
  rw [NvsPersistence.value_readActive] at h
  cases ha : p.active with
  | none => simp [ha] at h
  | some slot' =>
    simp only [ha] at h
    split at h
    · simp at h
    rename_i hle
    rcases hb : (NvsPersistence.readBlob fun p => p.slot slot').value p with st | bytes
    · simp [hb, Except.bind] at h
    rcases hd : decodeEnvelope bytes with st | envelope'
    · simp [hb, hd, Except.bind, Except.map] at h
    · simp only [hb, hd, Except.bind, Except.map, Except.ok.injEq, Option.some.injEq,
        Prod.mk.injEq] at h
      exact ⟨congrArg some h.1, h.1 ▸ UInt8.not_lt.1 hle⟩

/-- Without an active envelope nothing is pointed to. -/
theorem active_of_readActive_none (h : NvsPersistence.readActive.value p = .ok none) :
    p.active = none := by
  rw [NvsPersistence.value_readActive] at h
  cases ha : p.active with
  | none => rfl
  | some slot =>
    simp only [ha] at h
    split at h
    · simp at h
    rcases hb : (NvsPersistence.readBlob fun p => p.slot slot).value p with st | bytes
    · simp [hb, Except.bind] at h
    rcases hd : decodeEnvelope bytes with st | envelope <;>
      simp [hb, hd, Except.bind, Except.map] at h

/-- `q` shows a load what `p` shows it: the active envelope, the schema and the last used
credential. -/
structure Shows (p q : Partition) : Prop where
  active : NvsPersistence.readActive.value q = NvsPersistence.readActive.value p
  schema : q.vault2.bind (·.schema) = p.vault2.bind (·.schema)
  lastUsed : q.vault2.bind (·.lastUsed) = p.vault2.bind (·.lastUsed)

namespace Shows

theorem refl (p : Partition) : Shows p p := ⟨rfl, rfl, rfl⟩

theorem trans {q r : Partition} (h : Shows p q) (h' : Shows q r) : Shows p r :=
  ⟨h'.active.trans h.active, h'.schema.trans h.schema, h'.lastUsed.trans h.lastUsed⟩

theorem vaultAt {q : Partition} (h : Shows p q) (hv : VaultAt p slot envelope) :
    VaultAt q slot envelope :=
  vaultAt_of_readActive (h.schema.trans hv.schema) (h.active.trans hv.readActive)
    fun bytes hb => hv.lastUsed bytes (h.lastUsed.symm.trans hb)

/-- Creating an empty namespace. -/
theorem opened (p : Partition) : Shows p p.opened := by
  rcases p with ⟨_ | ns, state, secure⟩
  · exact ⟨by simp [NvsPersistence.value_readActive, Partition.opened, Partition.active], rfl, rfl⟩
  · exact .refl _

/-- Staging into the slot that is not active. -/
theorem setSlot {active : Option (UInt8 × VaultEnvelope)}
    (h : NvsPersistence.readActive.value p = .ok active) (encoded : List UInt8) :
    Shows p (p.setSlot (NvsPersistence.inactiveSlot active) encoded) := by
  rcases p with ⟨_ | ns, state, secure⟩
  · exact .refl _
  have hpointer : ∀ slot, (Partition.setSlot ⟨some ns, state, secure⟩ slot encoded).active =
      Partition.active ⟨some ns, state, secure⟩ := by
    intro slot
    simp only [Partition.setSlot, Partition.setVault2, Partition.active, Option.map_some,
      Option.bind_some]
    split <;> rfl
  refine ⟨?_, ?_, ?_⟩
  · rw [NvsPersistence.value_readActive, NvsPersistence.value_readActive, hpointer]
    rcases active with _ | ⟨slot, envelope⟩
    · rw [active_of_readActive_none h]
    · obtain ⟨ha, hle⟩ := active_of_readActive h
      have hkeep : (Partition.setSlot ⟨some ns, state, secure⟩ (1 - slot) encoded).slot slot =
          Partition.slot ⟨some ns, state, secure⟩ slot := by
        rcases UInt8_le_one hle with rfl | rfl <;>
          simp [Partition.slot, Partition.setSlot, Partition.setVault2]
      rw [ha]
      simp only [if_neg (UInt8.not_lt.2 hle)]
      exact congrArg (Except.bind · _) (readSlot_congr hkeep)
  · simp only [Partition.setSlot, Partition.setVault2, Option.map_some, Option.bind_some]
    split <;> rfl
  · simp only [Partition.setSlot, Partition.setVault2, Option.map_some, Option.bind_some]
    split <;> rfl

end Shows

/-- Flipping the pointer makes the envelope of a readable slot the active one. -/
theorem readActive_setActive {staged : VaultEnvelope} {encoded : List UInt8} (hle : slot ≤ 1)
    (hb : (NvsPersistence.readBlob fun p => p.slot slot).value p = .ok encoded)
    (hd : decodeEnvelope encoded = .ok staged) :
    NvsPersistence.readActive.value (p.setActive slot) = .ok (some (slot, staged)) := by
  rcases p with ⟨_ | ns, state, secure⟩
  · simp [NvsPersistence.value_readBlob, Partition.slot] at hb
  have hkeep : (Partition.setActive ⟨some ns, state, secure⟩ slot).slot slot =
      Partition.slot ⟨some ns, state, secure⟩ slot := rfl
  have hactive : (Partition.setActive ⟨some ns, state, secure⟩ slot).active = some slot := rfl
  rw [NvsPersistence.value_readActive, hactive]
  simp only [if_neg (UInt8.not_lt.2 hle), readSlot_congr hkeep, hb, hd, Except.bind, Except.map]

/-- The flip changes the pointer only. -/
theorem setActive_frame (p : Partition) (slot : UInt8) :
    (p.setActive slot).vault2.bind (·.schema) = p.vault2.bind (·.schema) ∧
      (p.setActive slot).vault2.bind (·.lastUsed) = p.vault2.bind (·.lastUsed) := by
  rcases p with ⟨_ | ns, state, secure⟩ <;> exact ⟨rfl, rfl⟩

theorem inactiveSlot_le {active : Option (UInt8 × VaultEnvelope)}
    (h : NvsPersistence.readActive.value p = .ok active) :
    NvsPersistence.inactiveSlot active ≤ 1 := by
  rcases active with _ | ⟨slot, envelope⟩
  · decide
  · simp only [NvsPersistence.inactiveSlot]
    rcases UInt8_le_one (active_of_readActive h).2 with rfl | rfl <;> decide

namespace VaultAt

theorem opened (h : VaultAt p slot envelope) : p.opened = p := by
  obtain ⟨ns, hns⟩ := Option.ne_none_iff_exists'.1 h.vault2_ne_none
  cases p
  simp only at hns
  simp [Partition.opened, hns]

/-- The staged bytes are in the inactive slot. -/
theorem setSlot_slot (h : VaultAt p slot envelope) (encoded : List UInt8) :
    (p.setSlot (1 - slot) encoded).slot (1 - slot) = some encoded := by
  obtain ⟨ns, hns⟩ := Option.ne_none_iff_exists'.1 h.vault2_ne_none
  rcases UInt8_le_one h.bound with rfl | rfl <;>
    simp [Partition.slot, Partition.setSlot, Partition.setVault2, hns]

/-- Flipping the pointer makes the staged envelope the active one. -/
theorem setActive (h : VaultAt p slot envelope) {staged : VaultEnvelope} {encoded : List UInt8}
    (hb : (NvsPersistence.readBlob fun p => p.slot (1 - slot)).value p = .ok encoded)
    (hd : decodeEnvelope encoded = .ok staged) :
    VaultAt (p.setActive (1 - slot)) (1 - slot) staged := by
  obtain ⟨ns, hns⟩ := Option.ne_none_iff_exists'.1 h.vault2_ne_none
  refine vaultAt_of_readActive ?_ (readActive_setActive (inactiveSlot_le h.readActive) hb hd) ?_
  · simpa [Partition.setActive, Partition.setVault2, hns] using h.schema
  · simpa [Partition.setActive, Partition.setVault2, hns] using h.lastUsed

/-- The last used credential is no part of the Vault. -/
theorem setLastUsed (h : VaultAt p slot envelope) (credentialId : Option CredentialId) :
    VaultAt (p.setVault2 fun ns => { ns with lastUsed := credentialId.map Subtype.val }) slot
      envelope := by
  obtain ⟨ns, hns⟩ := Option.ne_none_iff_exists'.1 h.vault2_ne_none
  obtain ⟨encoded, hb, hd⟩ := h.stored
  refine ⟨?_, ?_, h.bound, ⟨encoded, (readBlob_congr ?_).trans hb, hd⟩, ?_⟩
  · simpa [Partition.setVault2, hns] using h.schema
  · simpa [Partition.active, Partition.setVault2, hns] using h.active
  · simp [Partition.slot, Partition.setVault2, hns]
  · cases credentialId with
    | none => simp [Partition.setVault2, hns]
    | some id => simpa [Partition.setVault2, hns] using id.2

end VaultAt

namespace NvsPersistence

/-! ## The two phases -/

theorem openForWrite_content {nvs : AuthNvs} (h : VaultAt nvs.content slot envelope) :
    (openForWrite nvs).2.content = nvs.content := by
  have hkeeps : Keeps (· = nvs.content) openForWrite := by
    refine .bind (reads_get _).keeps fun _ => .bind (.change ?_) fun _ =>
      .bind (reads_get _).keeps fun schema => ?_
    · rintro c rfl
      exact h.opened
    · cases schema with
      | none => exact (Reads.throw _).keeps
      | some schema => exact .ite (Reads.throw _).keeps (Reads.pure _).keeps
  exact hkeeps nvs rfl

theorem openForWrite_shows (p : Partition) : Keeps (Shows p) openForWrite := by
  refine .bind (reads_get _).keeps fun _ => .bind (.change fun c hc => hc.trans (.opened c))
    fun _ => .bind (reads_get _).keeps fun schema => ?_
  cases schema with
  | none => exact (Reads.throw _).keeps
  | some schema => exact .ite (Reads.throw _).keeps (Reads.pure _).keeps

/-- Staging shows a load what was there before, whatever fails. -/
theorem stageEnvelope_shows (p : Partition) (expected : UInt64) (candidate : VaultEnvelope) :
    Keeps (Shows p) (stageEnvelope expected candidate) := by
  refine .ite (Reads.throw _).keeps (.bind (openForWrite_shows p) fun _ =>
    .bind_reads reads_readActive fun active hactive => .ite (Reads.throw _).keeps ?_)
  obtain ⟨c, hc, hval⟩ := hactive
  rcases encodeEnvelope candidate with st | encoded
  · exact (Reads.throw _).keeps
  refine .bind (.write fun d hd => hd.trans (.setSlot ?_ encoded)) fun _ =>
    .bind (reads_readBlob _).keeps fun bytes => ?_
  · exact hd.active.trans (hc.active.symm.trans hval)
  rcases decodeEnvelope bytes with st | staged
  · exact (Reads.throw _).keeps
  · exact .ite (Reads.throw _).keeps (Reads.pure _).keeps

/-- A staging that works leaves the candidate, readable, in the inactive slot. -/
theorem stageEnvelope_ok {expected : UInt64} {candidate : VaultEnvelope} {nvs nvs' : AuthNvs}
    {staged : UInt8} (hs : stageEnvelope expected candidate nvs = (.ok staged, nvs')) :
    ∃ active, readActive.value nvs.content = .ok active ∧ staged = inactiveSlot active ∧
      acceptsGeneration expected candidate active = true ∧
      ∃ encoded, (readBlob fun p => p.slot staged).value nvs'.content = .ok encoded ∧
        decodeEnvelope encoded = .ok candidate := by
  unfold stageEnvelope at hs
  split at hs
  · simp [throw_apply] at hs
  obtain ⟨_, nvs₁, ho, hs⟩ := bind_eq_ok.1 hs
  have hc₁ : Shows nvs.content nvs₁.content := by
    simpa [ho] using openForWrite_shows nvs.content nvs (.refl _)
  obtain ⟨active, nvs₂, ha, hs⟩ := bind_eq_ok.1 hs
  have hactive := reads_readActive.sound _ _ _ ha
  rw [hc₁.active] at hactive
  split at hs
  · simp [throw_apply] at hs
  rename_i hacc
  rcases he : encodeEnvelope candidate with st | encoded <;> simp only [he] at hs
  · simp [throw_apply] at hs
  obtain ⟨_, nvs₃, _, hs⟩ := bind_eq_ok.1 hs
  obtain ⟨bytes, nvs₄, hb, hs⟩ := bind_eq_ok.1 hs
  have hread := (reads_readBlob _).sound _ _ _ hb
  have hc₄ : nvs₄.content = nvs₃.content := by
    have hc := (reads_readBlob fun p => p.slot (inactiveSlot active)).content nvs₃
    rwa [hb] at hc
  rcases hd : decodeEnvelope bytes with st | decoded <;> simp only [hd] at hs
  · simp [throw_apply] at hs
  split at hs
  · simp [throw_apply] at hs
  rename_i hsame
  rw [pure_apply, Prod.mk.injEq, Except.ok.injEq] at hs
  obtain ⟨rfl, rfl⟩ := hs
  simp only [Bool.not_eq_true', Bool.not_eq_false, sameEnvelope_iff] at hsame hacc
  exact ⟨active, hactive, rfl, hacc, bytes, by rw [hc₄]; exact hread, hsame ▸ hd⟩

/-- The write of the active-slot pointer that this replacement makes, if it gets there, fails
after having taken effect. -/
def TornFlip (expected : UInt64) (candidate : VaultEnvelope) (nvs : AuthNvs) : Prop :=
  ∃ staged nvs', stageEnvelope expected candidate nvs = (.ok staged, nvs') ∧ nvs'.torn = true

theorem fails_stageEnvelope (expected : UInt64) (candidate : VaultEnvelope) :
    Fails (stageEnvelope expected candidate) := by
  refine .ite (.throw (by decide)) (.bind fails_openForWrite fun _ =>
    .bind fails_readActive fun active => .ite (.throw (by decide)) ?_)
  rcases he : encodeEnvelope candidate with status | encoded
  · exact .throw (encodeEnvelope_isFailure he)
  · refine .bind (.write mapError_isFailure _) fun _ => .bind (fails_readBlob _) fun bytes => ?_
    rcases hd : decodeEnvelope bytes with status | decoded
    · exact .throw (decodeEnvelope_isFailure hd)
    · exact .ite (.throw (by decide)) (.pure _)

/-- What a replacement leaves behind, over any content: it fails and a load is shown what it was
before, or the candidate is the active envelope. It then returns `kOk`, or its flip was torn. -/
theorem replaceEnvelope_shows {expected : UInt64} {candidate : VaultEnvelope} {nvs nvs' : AuthNvs}
    {res : Except Status Unit} (hr : replaceEnvelope expected candidate nvs = (res, nvs')) :
    (∃ st, res = .error st ∧ IsFailure st ∧ ¬ TornFlip expected candidate nvs ∧
      Shows nvs.content nvs'.content) ∨
    (∃ active, readActive.value nvs.content = .ok active ∧
      acceptsGeneration expected candidate active = true ∧
      readActive.value nvs'.content = .ok (some (inactiveSlot active, candidate)) ∧
      nvs'.content.vault2.bind (·.schema) = nvs.content.vault2.bind (·.schema) ∧
      nvs'.content.vault2.bind (·.lastUsed) = nvs.content.vault2.bind (·.lastUsed) ∧
      ((res = .ok () ∧ ¬ TornFlip expected candidate nvs) ∨
        ∃ st, res = .error st ∧ IsFailure st ∧ TornFlip expected candidate nvs)) := by
  have hshows := stageEnvelope_shows nvs.content expected candidate nvs (.refl _)
  rcases hs : stageEnvelope expected candidate nvs with ⟨st | staged, nvs₁⟩ <;> rw [hs] at hshows
  · rw [replaceEnvelope, bind_of_error hs, Prod.mk.injEq] at hr
    obtain ⟨rfl, rfl⟩ := hr
    refine .inl ⟨st, rfl, fails_stageEnvelope _ _ _ _ _ hs, ?_, hshows⟩
    rintro ⟨staged, w, hw, _⟩
    simp [hs] at hw
  · obtain ⟨active, hactive, rfl, hacc, encoded, hb, hd⟩ := stageEnvelope_ok hs
    have hflip := readActive_setActive (inactiveSlot_le hactive) hb hd
    have hframe := setActive_frame nvs₁.content (inactiveSlot active)
    rw [hshows.schema, hshows.lastUsed] at hframe
    have htorn : TornFlip expected candidate nvs ↔ nvs₁.torn = true := by
      constructor
      · rintro ⟨staged, w, hw, ht⟩
        rw [hs, Prod.mk.injEq] at hw
        exact hw.2 ▸ ht
      · exact fun ht => ⟨_, _, hs, ht⟩
    obtain ⟨res', w, hw, ⟨rfl, ht, hc⟩ | ⟨fault, rfl, hc⟩⟩ :=
      write_cases mapError (fun p => p.setActive (inactiveSlot active)) nvs₁ <;>
      rw [replaceEnvelope, bind_of_ok hs, hw, Prod.mk.injEq] at hr <;> obtain ⟨rfl, rfl⟩ := hr
    · exact .inr ⟨active, hactive, hacc, hc ▸ hflip, hc ▸ hframe.1, hc ▸ hframe.2,
        .inl ⟨rfl, by simp [htorn, ht]⟩⟩
    · cases ht : nvs₁.torn <;> simp only [ht, if_true, Bool.false_eq_true, if_false] at hc
      · exact .inl ⟨_, rfl, mapError_isFailure fault, by simp [htorn, ht], hc ▸ hshows⟩
      · exact .inr ⟨active, hactive, hacc, hc ▸ hflip, hc ▸ hframe.1, hc ▸ hframe.2,
          .inr ⟨_, rfl, mapError_isFailure fault, htorn.2 ht⟩⟩

/-- **What a replacement leaves behind** where a Vault is active. -/
theorem replaceEnvelope_cases {expected : UInt64} {candidate : VaultEnvelope} {nvs nvs' : AuthNvs}
    {res : Except Status Unit} (h : VaultAt nvs.content slot envelope)
    (hr : replaceEnvelope expected candidate nvs = (res, nvs')) :
    (∃ st, res = .error st ∧ IsFailure st ∧ ¬ TornFlip expected candidate nvs ∧
      VaultAt nvs'.content slot envelope) ∨
    (acceptsGeneration expected candidate (some (slot, envelope)) = true ∧
      VaultAt nvs'.content (1 - slot) candidate ∧
      ((res = .ok () ∧ ¬ TornFlip expected candidate nvs) ∨
        ∃ st, res = .error st ∧ IsFailure st ∧ TornFlip expected candidate nvs)) := by
  rcases replaceEnvelope_shows hr with
    ⟨st, hres, hfail, hnot, hshows⟩ | ⟨active, hactive, hacc, hnew, hschema, hlast, hend⟩
  · exact .inl ⟨st, hres, hfail, hnot, hshows.vaultAt h⟩
  · rw [h.readActive, Except.ok.injEq] at hactive
    subst hactive
    exact .inr ⟨hacc, vaultAt_of_readActive (hschema.trans h.schema) hnew
      fun bytes hb => h.lastUsed bytes (hlast.symm.trans hb), hend⟩

/-! ## On a reliable store -/

theorem ensure_settles {I : Partition → Prop} {E : Status → Partition → Prop} :
    Settles I ensurePartitionInitialized (fun _ c => I c) E :=
  Settles.call (f := fun _ => ()) fun _ h => h

theorem openForWrite_works : Works (VaultAt · slot envelope) openForWrite
    fun _ c => VaultAt c slot envelope := by
  refine .bind ensure_settles fun _ =>
    .bind (Q := fun _ c => VaultAt c slot envelope) (.change fun c h => ?_) fun _ =>
    .bind (Q := fun schema c => schema = some storageSchemaVersion ∧ VaultAt c slot envelope)
      (.call fun c h => ⟨h.schema, h⟩) fun schema => ?_
  · rwa [h.opened]
  · rintro w hw ⟨rfl, hv⟩
    exact ⟨_, w, rfl, hw, hv⟩

theorem value_readBlob_encoded {key : Partition → Option (List UInt8)} {encoded : List UInt8}
    (henc : encodeEnvelope envelope = .ok encoded) (hkey : key p = some encoded) :
    (readBlob key).value p = .ok encoded := by
  unfold encodeEnvelope at henc
  split at henc
  · simp at henc
  rename_i hv
  simp only [validEnvelope, Bool.not_eq_true', Bool.not_eq_false, Bool.and_eq_true,
    decide_eq_true_eq] at hv
  have hlen : encoded.length = 68 + envelope.ciphertext.length := by
    rw [← Except.ok.inj henc]
    simp [envelopeMagic, ascii, envelope.vaultId.2, envelope.nonce.2, envelope.tag.2]
    omega
  simp only [value_readBlob, hkey]
  rw [if_neg (by have := hv.1.2; omega)]

/-- **A candidate the generation check accepts is stored.** -/
theorem replaceEnvelope_works {expected : UInt64} {candidate : VaultEnvelope}
    (hacc : acceptsGeneration expected candidate (some (slot, envelope)) = true)
    (hvalid : validEnvelopeFraming candidate = true) :
    Works (VaultAt · slot envelope) (replaceEnvelope expected candidate)
      fun _ c => VaultAt c (1 - slot) candidate := by
  have hv : validEnvelope candidate = true := (validEnvelope_eq candidate).trans hvalid
  obtain ⟨encoded, henc, hdec⟩ := decodeEnvelope_encodeEnvelope hvalid
  have hstage : Works (VaultAt · slot envelope) (stageEnvelope expected candidate)
      fun _ _ => True := by
    unfold stageEnvelope
    rw [if_neg (by simp [hv])]
    refine .bind openForWrite_works fun _ =>
      .bind (Q := fun active c => active = some (slot, envelope) ∧ VaultAt c slot envelope)
        (.reads reads_readActive fun c hc => by rw [hc.readActive]; exact ⟨rfl, hc⟩)
        fun active => ?_
    rintro w hw ⟨rfl, hc⟩
    rw [if_neg (by simp [hacc])]
    simp only [henc]
    have hread : Works (fun c => c.slot (1 - slot) = some encoded)
        (readBlob fun p => p.slot (1 - slot)) fun bytes _ => bytes = encoded :=
      .reads (reads_readBlob _) fun c hc => by rw [value_readBlob_encoded henc hc]
    obtain ⟨bytes, w', hb, hw', rfl⟩ := hread.run
      (w := { w.next.next with content := w.content.setSlot (1 - slot) encoded })
      (fun n hn => hw.next.next n hn) (hc.setSlot_slot encoded)
    refine ⟨.ok (1 - slot), w', ?_, hw', trivial⟩
    refine (bind_of_ok (write_of_reliable hw)).trans ((bind_of_ok hb).trans ?_)
    simp only [hdec]
    exact congrFun (if_neg (by simp)) w'
  intro nvs hnvs h
  obtain ⟨staged, nvs₁, hs, hrel, _⟩ := hstage.run hnvs h
  obtain ⟨active, hactive, rfl, _, bytes, hb, hd⟩ := stageEnvelope_ok hs
  rw [h.readActive, Except.ok.injEq] at hactive
  subst hactive
  have hkeep : VaultAt nvs₁.content slot envelope := by
    have hshows := stageEnvelope_shows nvs.content expected candidate nvs (.refl _)
    rw [hs] at hshows
    exact hshows.vaultAt h
  exact ⟨.ok (), _, (bind_of_ok hs).trans (write_of_reliable hrel), hrel.next.next,
    hkeep.setActive hb hd⟩

theorem setLastUsed_keeps (credentialId : Option CredentialId) :
    Keeps (VaultAt · slot envelope) (setLastUsed credentialId) :=
  .bind (fun nvs h => by rwa [openForWrite_content h]) fun _ =>
    .write fun _ hc => hc.setLastUsed credentialId

end NvsPersistence

/-- A partition that holds the Vault `envelope` in slot 0. -/
def storedAt (envelope : VaultEnvelope) : Partition :=
  { vault2 := some
      { schema := some storageSchemaVersion, active := some 0
        slot0 := (encodeEnvelope envelope).toOption } }

theorem vaultAt_storedAt (h : validEnvelopeFraming envelope = true) :
    VaultAt (storedAt envelope) 0 envelope := by
  obtain ⟨encoded, henc, hdec⟩ := decodeEnvelope_encodeEnvelope h
  have hslot : (storedAt envelope).slot 0 = some encoded := by
    simp [storedAt, Partition.slot, henc, Except.toOption]
  exact ⟨rfl, rfl, by decide,
    ⟨encoded, NvsPersistence.value_readBlob_encoded henc hslot, hdec⟩, by simp [storedAt]⟩

end M5Auth.VaultRuntime
