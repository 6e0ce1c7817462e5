import M5Auth.VaultRuntime.Proof.NvsReplace

/-!
# The Vault partition as a faithful persistence

`Faithful P stored`: the persistence `P` stores what it reports stored, loads what it stores and
leaves its Vault where it reports an error; `stored` is the Vault it holds.

`activeVault p` is the Vault that the active slot of the partition `p` holds. Over a partition
whose failing writes leave the bytes as they were (`World.Untorn`), the firmware's persistence
stores what it reports stored and keeps the active Vault where it reports an error
(`untornNvs_faithful`).
-/

namespace M5Auth.VaultRuntime

open Vault FaultyStore FaultyStore.Prog

/-- A persistence that leaves the stored Vault as it was when it reports an error. -/
structure Faithful {σ : Type} (P : Persistence σ) (stored : σ → Option VaultEnvelope) : Prop where
  load : ∀ {w w' : σ} {st : Status} {sn : PersistedSnapshot}, P.load w = ((st, sn), w') →
    stored w' = stored w ∧ (st = .ok → sn.schemaReady = true →
      stored w = if sn.hasVault then some sn.envelope else none)
  replaceEnvelope : ∀ {w w' : σ} {expected : UInt64} {envelope : VaultEnvelope} {st : Status},
    P.replaceEnvelope expected envelope w = (st, w') →
      stored w' = if st = .ok then some envelope else stored w
  setLastUsed : ∀ {w w' : σ} {id : Option CredentialId} {st : Status},
    P.setLastUsed id w = (st, w') → stored w' = stored w

/-- The Vault in the active slot, if it can be read. -/
def activeVault (p : Partition) : Option VaultEnvelope :=
  match NvsPersistence.readActive.value p with
  | .ok active => active.map (·.2)
  | .error _ => none

theorem Shows.activeVault {p q : Partition} (h : Shows p q) :
    activeVault q = activeVault p := by
  simp only [VaultRuntime.activeVault, h.active]

namespace NvsPersistence

/-! ## The programs leave the oracle -/

theorem oracle_readBlob (key : Partition → Option (List UInt8)) : KeepsOracle (readBlob key) := by
  refine .bind (.call _) fun size => ?_
  cases size with
  | none => exact .throw _
  | some size => exact .ite (.throw _) (.call _)

theorem oracle_readActive : KeepsOracle readActive := by
  refine .bind (.call _) fun slot => ?_
  cases slot with
  | none => exact .pure _
  | some slot =>
    refine .ite (.throw _) (.bind (oracle_readBlob _) fun encoded => ?_)
    cases decodeEnvelope encoded with
    | error status => exact .throw _
    | ok envelope => exact .pure _

theorem oracle_readLastUsed : KeepsOracle readLastUsed := by
  refine .bind (.call _) fun size => ?_
  cases size with
  | none => exact .pure _
  | some size => exact .ite (.throw _) (.call _)

theorem oracle_detectLegacySchema {β : Type} :
    KeepsOracle (detectLegacySchema : NvsProg β) := by
  refine .bind (.call _) fun state => ?_
  cases state with
  | none => exact .throw _
  | some _ =>
    refine .bind (.call _) fun schema => ?_
    cases schema with
    | none => exact .throw _
    | some schema => exact .ite (.throw _) (.ite (.throw _) (.throw _))

theorem oracle_load : KeepsOracle load := by
  refine .bind (.call _) fun _ => .bind (.call _) fun ns => ?_
  cases ns with
  | none => exact oracle_detectLegacySchema
  | some _ =>
    refine .bind (.call _) fun schema => ?_
    cases schema with
    | none => exact .throw _
    | some schema =>
      exact .ite (.throw _) (.ite (.throw _) (.ite (.throw _)
        (.bind oracle_readActive fun _ => .bind oracle_readLastUsed fun _ => .pure _)))

theorem oracle_formatSchema2 : KeepsOracle formatSchema2 :=
  .bind .ignore fun _ => .bind (.change _) fun _ => .bind (.call _) fun _ =>
    .bind (.change _) fun _ => .write _

theorem oracle_openForWrite : KeepsOracle openForWrite := by
  refine .bind (.call _) fun _ => .bind (.change _) fun _ => .bind (.call _) fun schema => ?_
  cases schema with
  | none => exact .throw _
  | some schema => exact .ite (.throw _) (.pure _)

theorem oracle_stageEnvelope (expected : UInt64) (envelope : VaultEnvelope) :
    KeepsOracle (stageEnvelope expected envelope) := by
  refine .ite (.throw _) (.bind oracle_openForWrite fun _ => .bind oracle_readActive fun active =>
    .ite (.throw _) ?_)
  cases encodeEnvelope envelope with
  | error status => exact .throw _
  | ok encoded =>
    refine .bind (.write _) fun _ => .bind (oracle_readBlob _) fun bytes => ?_
    cases decodeEnvelope bytes with
    | error status => exact .throw _
    | ok staged => exact .ite (.throw _) (.pure _)

theorem oracle_replaceEnvelope (expected : UInt64) (envelope : VaultEnvelope) :
    KeepsOracle (replaceEnvelope expected envelope) :=
  .bind (oracle_stageEnvelope expected envelope) fun _ => .write _

theorem oracle_setLastUsed (credentialId : Option CredentialId) :
    KeepsOracle (setLastUsed credentialId) :=
  .bind oracle_openForWrite fun _ => .write _

theorem oracle_eraseAll : KeepsOracle eraseAll := .bind .ignore fun _ => .change _

end NvsPersistence

theorem oracle_legacySchema1Present (nvs : AuthNvs) :
    (CompatibleNvsPersistence.legacySchema1Present nvs).2.outcome = nvs.outcome := by
  have h : KeepsOracle CompatibleNvsPersistence.readSecureSchema :=
    .bind .ignore fun _ => .bind (.call _) fun _ => .bind (.call _) fun _ => .call _
  have hw := h nvs
  unfold CompatibleNvsPersistence.legacySchema1Present
  rcases hr : CompatibleNvsPersistence.readSecureSchema nvs with ⟨_ | _, nvs'⟩ <;> rw [hr] at hw <;>
    exact hw

theorem oracle_compatibleLoad : KeepsOracle CompatibleNvsPersistence.load := by
  intro nvs
  have hw := NvsPersistence.oracle_load nvs
  unfold CompatibleNvsPersistence.load
  rcases hl : NvsPersistence.load nvs with ⟨st | sn, nvs'⟩ <;> rw [hl] at hw
  · have hp := oracle_legacySchema1Present nvs'
    rcases hr : CompatibleNvsPersistence.legacySchema1Present nvs' with ⟨_ | _, nvs''⟩ <;>
      rw [hr] at hp <;> simp only [hr] <;> split <;> first | exact hw | exact hp.trans hw
  · exact hw

/-! ## The persistence over untorn partitions -/

/-- A partition whose failing writes leave the bytes as they were. -/
abbrev UntornNvs := { nvs : AuthNvs // nvs.Untorn }

theorem untorn_statusOf {β : Type} {p : NvsProg β} (hp : KeepsOracle p) (nvs : UntornNvs) :
    (statusOf (p nvs.1)).2.Untorn := by
  have h := hp.untorn nvs.2
  rcases hr : p nvs.1 with ⟨_ | _, nvs'⟩ <;> rw [hr] at h <;> exact h

theorem untorn_load (nvs : UntornNvs) : (compatibleNvsPersistence.load nvs.1).2.Untorn := by
  have h := oracle_compatibleLoad.untorn nvs.2
  simp only [compatibleNvsPersistence]
  rcases hr : CompatibleNvsPersistence.load nvs.1 with ⟨_ | _, nvs'⟩ <;> rw [hr] at h <;> exact h

/-- `compatibleNvsPersistence` over partitions that stay untorn. -/
def untornNvs : Persistence UntornNvs where
  load nvs := ((compatibleNvsPersistence.load nvs.1).1, ⟨_, untorn_load nvs⟩)
  formatSchema2 nvs := ((compatibleNvsPersistence.formatSchema2 nvs.1).1,
    ⟨_, untorn_statusOf NvsPersistence.oracle_formatSchema2 nvs⟩)
  replaceEnvelope expected envelope nvs :=
    ((compatibleNvsPersistence.replaceEnvelope expected envelope nvs.1).1,
      ⟨_, untorn_statusOf (NvsPersistence.oracle_replaceEnvelope expected envelope) nvs⟩)
  setLastUsed credentialId nvs := ((compatibleNvsPersistence.setLastUsed credentialId nvs.1).1,
    ⟨_, untorn_statusOf (NvsPersistence.oracle_setLastUsed credentialId) nvs⟩)
  eraseAll nvs := ((compatibleNvsPersistence.eraseAll nvs.1).1,
    ⟨_, untorn_statusOf NvsPersistence.oracle_eraseAll nvs⟩)

/-- The last used credential is no part of the active envelope. -/
theorem readActive_setLastUsed (p : Partition) (bytes : Option (List UInt8)) :
    NvsPersistence.readActive.value (p.setVault2 fun ns => { ns with lastUsed := bytes }) =
      NvsPersistence.readActive.value p := by
  rcases p with ⟨_ | ns, state, secure⟩
  · rfl
  rw [NvsPersistence.value_readActive, NvsPersistence.value_readActive]
  have hactive : (Partition.setVault2 ⟨some ns, state, secure⟩
      fun ns => { ns with lastUsed := bytes }).active =
      Partition.active ⟨some ns, state, secure⟩ := rfl
  rw [hactive]
  cases ha : Partition.active ⟨some ns, state, secure⟩ with
  | none => rfl
  | some slot =>
    have hslot : (Partition.setVault2 ⟨some ns, state, secure⟩
        fun ns => { ns with lastUsed := bytes }).slot slot =
        Partition.slot ⟨some ns, state, secure⟩ slot := rfl
    simp only [readSlot_congr hslot]

theorem setLastUsed_readActive (p : Partition) (credentialId : Option CredentialId) :
    Keeps (fun q => NvsPersistence.readActive.value q = NvsPersistence.readActive.value p)
      (NvsPersistence.setLastUsed credentialId) := by
  refine .bind (fun nvs h => ?_) fun _ => .write fun q hq =>
    (readActive_setLastUsed q (credentialId.map Subtype.val)).trans hq
  exact (NvsPersistence.openForWrite_shows nvs.content nvs (.refl _)).active.trans h

/-- A replacement that fails keeps the active Vault, and one that works puts its envelope in. -/
theorem replaceEnvelope_activeVault {nvs nvs' : AuthNvs} (huntorn : nvs.Untorn)
    {expected : UInt64} {envelope : VaultEnvelope} {st : Status}
    (h : compatibleNvsPersistence.replaceEnvelope expected envelope nvs = (st, nvs')) :
    activeVault nvs'.content = if st = .ok then some envelope else activeVault nvs.content := by
  rcases hr : NvsPersistence.replaceEnvelope expected envelope nvs with ⟨res, w⟩
  simp only [compatibleNvsPersistence, hr] at h
  rcases NvsPersistence.replaceEnvelope_shows hr with
    ⟨st', rfl, hfail, _, hshows⟩ | ⟨active, _, _, hnew, _, _, ⟨rfl, _⟩ | ⟨_, _, _, htorn⟩⟩
  · obtain ⟨rfl, rfl⟩ := Prod.mk.inj h
    rw [if_neg hfail, hshows.activeVault]
  · obtain ⟨rfl, rfl⟩ := Prod.mk.inj h
    simp [activeVault, hnew]
  · obtain ⟨staged, w', hs, ht⟩ := htorn
    have hk := (NvsPersistence.oracle_stageEnvelope expected envelope).untorn huntorn
    rw [hs] at hk
    exact absurd (hk.torn.symm.trans ht) (by simp)

theorem setLastUsed_activeVault {nvs nvs' : AuthNvs} {credentialId : Option CredentialId}
    {st : Status} (h : compatibleNvsPersistence.setLastUsed credentialId nvs = (st, nvs')) :
    activeVault nvs'.content = activeVault nvs.content := by
  have hk := setLastUsed_readActive nvs.content credentialId nvs rfl
  rcases hr : NvsPersistence.setLastUsed credentialId nvs with ⟨_ | _, w⟩ <;> rw [hr] at hk <;>
    simp only [compatibleNvsPersistence, hr] at h <;> obtain ⟨rfl, rfl⟩ := Prod.mk.inj h <;>
    simp only [activeVault, hk]

/-- **The firmware's persistence is faithful**, as long as no failing write is torn. -/
theorem untornNvs_faithful : Faithful untornNvs fun nvs => activeVault nvs.1.content where
  load := by
    intro w w' st sn h
    obtain ⟨hres, rfl⟩ := Prod.mk.inj h
    obtain ⟨hkeep, hsound⟩ := load_sound (Prod.ext hres rfl)
    refine ⟨by simp only [hkeep], fun hok _ => ?_⟩
    obtain ⟨active, lastUsed, _, hactive, _, rfl⟩ := loadNow_ok (hsound hok)
    simp only [activeVault, hactive, NvsPersistence.snapshotOf]
    cases active <;> rfl
  replaceEnvelope := by
    intro w w' expected envelope st h
    obtain ⟨hst, rfl⟩ := Prod.mk.inj h
    exact replaceEnvelope_activeVault w.2 (Prod.ext hst rfl)
  setLastUsed := by
    intro w w' id st h
    obtain ⟨hst, rfl⟩ := Prod.mk.inj h
    exact setLastUsed_activeVault (Prod.ext hst rfl)

end M5Auth.VaultRuntime
