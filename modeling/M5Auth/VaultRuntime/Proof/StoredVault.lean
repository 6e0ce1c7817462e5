import M5Auth.VaultRuntime.Proof.FaithfulStore
import M5Auth.VaultRuntime.Proof.Framing

/-!
# The stored Vault

`storedVault p` is the Vault that a start finds in the partition `p`. A replacement leaves it or
puts its envelope there, a format or an erase leaves it or removes it, and nothing else concerns it,
whatever fails.

`Mirrors rt`: the runtime holds a copy of the stored Vault, or none where none is stored. On
storage that works (`World.Steady`) every call keeps it (`Mirrors.step`).
-/

namespace M5Auth.VaultRuntime

open Vault FaultyStore FaultyStore.Prog

/-! ## Contents -/

/-- The Vault that a start finds. -/
def storedVault (p : Partition) : Option VaultEnvelope :=
  match loadNow p with
  | .ok sn => if sn.hasVault then some sn.envelope else none
  | .error _ => none

/-- The partition loads. -/
def Loadable (p : Partition) : Prop := ∃ sn, loadNow p = .ok sn

variable {p q : Partition} {envelope : VaultEnvelope}

theorem storedVault_of_load {sn : PersistedSnapshot} (h : loadNow p = .ok sn) :
    storedVault p = if sn.hasVault then some sn.envelope else none := by
  simp only [storedVault, h]

theorem loadable_of_stored (h : storedVault p = some envelope) : Loadable p := by
  unfold storedVault at h
  split at h
  · exact ⟨_, ‹_›⟩
  · cases h

theorem storedVault_eq_some : storedVault p = some envelope ↔ ∃ slot, VaultAt p slot envelope := by
  constructor
  · intro h
    obtain ⟨sn, hload⟩ := loadable_of_stored h
    rw [storedVault_of_load hload, Option.ite_none_right_eq_some] at h
    obtain ⟨hv, he⟩ := h
    obtain ⟨slot, hat⟩ := vaultAt_of_loadNow hload hv
    exact ⟨slot, Option.some.inj he ▸ hat⟩
  · rintro ⟨slot, hat⟩
    obtain ⟨sn, hload, _, hv, rfl⟩ := hat.loads
    rw [storedVault_of_load hload, if_pos hv]

/-- The schema, the active envelope and the last used credential are what a load reads. -/
theorem loadNow_of_reads {active : Option (UInt8 × VaultEnvelope)} {lastUsed : Option CredentialId}
    (hschema : p.vault2.bind (·.schema) = some storageSchemaVersion)
    (hactive : NvsPersistence.readActive.value p = .ok active)
    (hlast : NvsPersistence.readLastUsed.value p = .ok lastUsed) :
    loadNow p = .ok (NvsPersistence.snapshotOf active lastUsed) := by
  have hns : p.vault2 ≠ none := fun hn => by simp [hn] at hschema
  rw [loadNow, CompatibleNvsPersistence.value_load, NvsPersistence.value_load, if_neg hns,
    NvsPersistence.value_loadNamespace, hschema]
  simp [storageSchemaVersion, hactive, hlast, Except.bind, Except.map,
    CompatibleNvsPersistence.probed]

theorem readLastUsed_congr (h : q.vault2.bind (·.lastUsed) = p.vault2.bind (·.lastUsed)) :
    NvsPersistence.readLastUsed.value q = NvsPersistence.readLastUsed.value p := by
  rw [NvsPersistence.value_readLastUsed, NvsPersistence.value_readLastUsed, h]

theorem Shows.loads (h : Shows p q) {sn : PersistedSnapshot} (hload : loadNow p = .ok sn) :
    loadNow q = .ok sn := by
  obtain ⟨active, lastUsed, hschema, hactive, hlast, rfl⟩ := loadNow_ok hload
  exact loadNow_of_reads (h.schema.trans hschema) (h.active.trans hactive)
    ((readLastUsed_congr h.lastUsed).trans hlast)

theorem Shows.symm (h : Shows p q) : Shows q p := ⟨h.active.symm, h.schema.symm, h.lastUsed.symm⟩

theorem Shows.storedVault (h : Shows p q) : storedVault q = storedVault p := by
  ext envelope
  rw [storedVault_eq_some, storedVault_eq_some]
  exact exists_congr fun _ => ⟨h.symm.vaultAt, h.vaultAt⟩

theorem storedVault_empty : storedVault {} = none := rfl

/-! ## Programs -/

namespace NvsPersistence

/-- A replacement where a load finds something leaves that, or puts the candidate there. -/
theorem replaceEnvelope_stored {expected : UInt64} {candidate : VaultEnvelope} {w w' : AuthNvs}
    {st : Status} (h : compatibleNvsPersistence.replaceEnvelope expected candidate w = (st, w'))
    (hloads : Loadable w.content) : Loadable w'.content ∧
      ((st ≠ .ok ∧ storedVault w'.content = storedVault w.content) ∨
        (storedVault w'.content = some candidate ∧
          (st = .ok ∨ TornFlip expected candidate w))) := by
  obtain ⟨sn, hload⟩ := hloads
  rcases hr : replaceEnvelope expected candidate w with ⟨res, w₁⟩
  simp only [compatibleNvsPersistence, hr] at h
  rcases replaceEnvelope_shows hr with
    ⟨status, rfl, hfail, _, hshows⟩ | ⟨active, _, _, hnew, hschema, hlast, hend⟩
  · obtain ⟨rfl, rfl⟩ := Prod.mk.inj h
    exact ⟨⟨sn, hshows.loads hload⟩, .inl ⟨hfail, hshows.storedVault⟩⟩
  · obtain ⟨_, lastUsed, hs, _, hl, rfl⟩ := loadNow_ok hload
    have hload' : loadNow w₁.content =
        .ok (snapshotOf (some (inactiveSlot active, candidate)) lastUsed) :=
      loadNow_of_reads (hschema.trans hs) hnew ((readLastUsed_congr hlast).trans hl)
    rcases hend with ⟨rfl, _⟩ | ⟨status, rfl, _, htorn⟩ <;> obtain ⟨rfl, rfl⟩ := Prod.mk.inj h
    · exact ⟨⟨_, hload'⟩, .inr ⟨storedVault_of_load hload', .inl rfl⟩⟩
    · exact ⟨⟨_, hload'⟩, .inr ⟨storedVault_of_load hload', .inr htorn⟩⟩

theorem setLastUsed_stored {w w' : AuthNvs} {credentialId : Option CredentialId} {st : Status}
    (h : compatibleNvsPersistence.setLastUsed credentialId w = (st, w'))
    (hstored : storedVault w.content = some envelope) :
    storedVault w'.content = some envelope := by
  obtain ⟨slot, hat⟩ := storedVault_eq_some.1 hstored
  have hk := setLastUsed_keeps credentialId w hat
  rcases hr : setLastUsed credentialId w with ⟨_ | _, w₁⟩ <;> rw [hr] at hk <;>
    simp only [compatibleNvsPersistence, hr] at h <;> obtain ⟨rfl, rfl⟩ := Prod.mk.inj h <;>
    exact storedVault_eq_some.2 ⟨slot, hk⟩

theorem eraseAll_stored {w w' : AuthNvs} {st : Status}
    (h : compatibleNvsPersistence.eraseAll w = (st, w')) :
    (w'.content = w.content ∨ w'.content = {}) ∧ (st = .ok → w'.content = {}) := by
  have ht : Triple (· = w.content) eraseAll (fun _ c => c = {})
      fun status c => IsFailure status ∧ (c = w.content ∨ c = {}) :=
    .bind (Q := fun _ c => c = w.content) (fun _ hc _ _ he => by cases he; exact hc) fun _ =>
      .change (fun _ _ => rfl) fun fault _ hc =>
        ⟨⟨mapError_isFailure fault, .inl hc⟩, mapError_isFailure fault, .inr rfl⟩
  rcases hr : eraseAll w with ⟨res, w₁⟩
  have hres := ht w rfl res w₁ hr
  simp only [compatibleNvsPersistence, hr] at h
  cases res with
  | ok _ =>
    obtain ⟨rfl, rfl⟩ := Prod.mk.inj h
    exact ⟨.inr hres, fun _ => hres⟩
  | error status =>
    obtain ⟨rfl, rfl⟩ := Prod.mk.inj h
    exact ⟨hres.2, fun hok => absurd hok hres.1⟩

/-- What a format leaves, if it works. -/
def formatted : Partition := { vault2 := some { schema := some storageSchemaVersion } }

theorem loadNow_formatted : loadNow formatted = .ok (snapshotOf none none) :=
  loadNow_of_reads rfl rfl rfl

theorem formatSchema2_stored {w w' : AuthNvs} {st : Status}
    (h : compatibleNvsPersistence.formatSchema2 w = (st, w')) :
    (w'.content = w.content ∨ storedVault w'.content = none) ∧
      (st = .ok → w'.content = formatted) := by
  have ht : Triple (· = w.content) formatSchema2 (fun _ c => c = formatted)
      fun status c => IsFailure status ∧ (c = w.content ∨ storedVault c = none) := by
    have hfault (fault : NvsFault) {c : Partition} (hc : storedVault c = none) :
        IsFailure (mapError fault) ∧ (c = w.content ∨ storedVault c = none) :=
      ⟨mapError_isFailure fault, .inr hc⟩
    have hensure : Triple (fun c : Partition => c = {}) ensurePartitionInitialized
        (fun _ c => c = {}) fun status c =>
          IsFailure status ∧ (c = w.content ∨ storedVault c = none) := by
      show Triple _ (Prog.call mapError fun _ => ()) _ _
      exact .call (fun _ hc => hc) fun fault c hc => hfault fault (hc ▸ storedVault_empty)
    refine .bind (Q := fun _ c => c = w.content) (fun _ hc _ _ he => by cases he; exact hc)
      fun _ => .bind (Q := fun _ c => c = {}) (.change (fun _ _ => rfl) fun fault c hc =>
        ⟨⟨mapError_isFailure fault, .inl hc⟩, hfault fault storedVault_empty⟩) fun _ =>
      .bind (Q := fun _ c => c = {}) hensure fun _ =>
      .bind (Q := fun _ c => c = Partition.opened {}) (.change (fun c hc => by rw [hc])
        fun fault c hc => hc ▸ ⟨hfault fault storedVault_empty, hfault fault rfl⟩) fun _ =>
      .write (fun c hc => ?_) fun fault c hc => ?_
    · rw [hc]
      rfl
    · rw [hc]
      exact ⟨hfault fault rfl, hfault fault (storedVault_of_load loadNow_formatted)⟩
  rcases hr : formatSchema2 w with ⟨res, w₁⟩
  have hres := ht w rfl res w₁ hr
  simp only [compatibleNvsPersistence, hr] at h
  cases res with
  | ok _ =>
    obtain ⟨rfl, rfl⟩ := Prod.mk.inj h
    exact ⟨.inr (by rw [hres]; exact storedVault_of_load loadNow_formatted), fun _ => hres⟩
  | error status =>
    obtain ⟨rfl, rfl⟩ := Prod.mk.inj h
    exact ⟨hres.2, fun hok => absurd hok hres.1⟩

end NvsPersistence

/-! ## On storage that works -/

/-- Without faults a load shows what is stored. -/
theorem load_steady {w : AuthNvs} (hw : w.Steady) : ∃ st sn w',
    compatibleNvsPersistence.load w = ((st, sn), w') ∧ w'.content = w.content ∧
      ((st = .ok ∧ loadNow w.content = .ok sn) ∨
        (st ≠ .ok ∧ storedVault w.content = none ∧ ¬ Loadable w.content)) := by
  have hr := (CompatibleNvsPersistence.reads_load.reliable w hw.reliable).1
  have hc := CompatibleNvsPersistence.reads_load.content w
  have hf := CompatibleNvsPersistence.fails_load w
  rcases hl : CompatibleNvsPersistence.load w with ⟨status | sn, w'⟩ <;> rw [hl] at hr hc
  · have hload : loadNow w.content = .error status := hr.symm
    refine ⟨status, {}, w', by simp [compatibleNvsPersistence, hl], hc, .inr ⟨hf _ _ hl, ?_, ?_⟩⟩
    · simp only [storedVault, hload]
    · rintro ⟨sn, hok⟩
      rw [hload] at hok
      cases hok
  · exact ⟨.ok, sn, w', by simp [compatibleNvsPersistence, hl], hc, .inl ⟨rfl, hr.symm⟩⟩

theorem steady_statusOf {β : Type} {p : NvsProg β} (hp : KeepsOracle p) {w : AuthNvs}
    (hw : w.Steady) : (statusOf (p w)).2.Steady := by
  have h := hp.steady hw
  rcases hr : p w with ⟨_ | _, w'⟩ <;> rw [hr] at h <;> exact h

theorem preserving_steady : Runtime.Preserving compatibleNvsPersistence World.Steady where
  load w hw := by
    have h := oracle_compatibleLoad.steady hw
    simp only [compatibleNvsPersistence]
    rcases hr : CompatibleNvsPersistence.load w with ⟨_ | _, w'⟩ <;> rw [hr] at h <;> exact h
  formatSchema2 _ hw := steady_statusOf NvsPersistence.oracle_formatSchema2 hw
  replaceEnvelope expected envelope _ hw :=
    steady_statusOf (NvsPersistence.oracle_replaceEnvelope expected envelope) hw
  setLastUsed credentialId _ hw :=
    steady_statusOf (NvsPersistence.oracle_setLastUsed credentialId) hw
  eraseAll _ hw := steady_statusOf NvsPersistence.oracle_eraseAll hw

namespace NvsPersistence

/-- Without faults no flip is torn. -/
theorem not_tornFlip {w : AuthNvs} (hw : w.Steady) {expected : UInt64}
    {candidate : VaultEnvelope} : ¬ TornFlip expected candidate w := by
  rintro ⟨staged, w', hs, htorn⟩
  have hk := (oracle_stageEnvelope expected candidate).steady hw
  rw [hs] at hk
  rw [hk.untorn.torn] at htorn
  cases htorn

theorem formatSchema2_steady {w : AuthNvs} (hw : w.Steady) :
    (compatibleNvsPersistence.formatSchema2 w).1 = .ok := by
  have hworks : Works (fun _ => True) formatSchema2 fun _ _ => True :=
    .bind (Q := fun _ _ => True) (.ignore fun _ _ => trivial) fun _ =>
      .bind (Q := fun _ _ => True) (.change fun _ _ => trivial) fun _ =>
      .bind (Q := fun _ _ => True) ensure_settles fun _ =>
      .bind (Q := fun _ _ => True) (.change fun _ _ => trivial) fun _ => .write fun _ _ => trivial
  obtain ⟨_, w', he, _⟩ := hworks.run hw.reliable trivial
  simp [compatibleNvsPersistence, he, statusOf]

theorem eraseAll_steady {w : AuthNvs} (hw : w.Steady) :
    (compatibleNvsPersistence.eraseAll w).1 = .ok := by
  have hworks : Works (fun _ => True) eraseAll fun _ _ => True :=
    .bind (Q := fun _ _ => True) (.ignore fun _ _ => trivial) fun _ => .change fun _ _ => trivial
  obtain ⟨_, w', he, _⟩ := hworks.run hw.reliable trivial
  simp [compatibleNvsPersistence, he, statusOf]

end NvsPersistence

namespace Runtime

variable {gcm : GcmOpen} {rt rt' : Runtime AuthNvs}

theorem loadNow_accepted {sn : PersistedSnapshot} (h : loadNow p = .ok sn) :
    loadAccepted .ok sn = true := by
  have hready : sn.schemaReady = true := by
    obtain ⟨_, _, _, _, _, rfl⟩ := loadNow_ok h
    rfl
  cases hv : sn.hasVault
  · simp [loadAccepted, hready, hv]
  · obtain ⟨slot, hat⟩ := vaultAt_of_loadNow h hv
    simp [loadAccepted, hready, hat.valid]

/-! ## The copy in RAM -/

/-- The runtime has a copy of the stored Vault. -/
structure Mirrors (rt : Runtime AuthNvs) : Prop where
  copy : storedVault rt.persistence.content = if rt.hasVault then some rt.envelope else none
  loads : rt.schemaReady = true → Loadable rt.persistence.content

/-- The same storage and the same copy of the Vault. -/
structure SameCopy {σ : Type} (rt rt' : Runtime σ) : Prop where
  persistence : rt'.persistence = rt.persistence
  hasVault : rt'.hasVault = rt.hasVault
  envelope : rt'.envelope = rt.envelope
  schemaReady : rt'.schemaReady = rt.schemaReady

theorem SameCopy.refl {σ : Type} (rt : Runtime σ) : SameCopy rt rt := ⟨rfl, rfl, rfl, rfl⟩

theorem SameCopy.trans {σ : Type} {rt rt' rt'' : Runtime σ} (h : SameCopy rt rt')
    (h' : SameCopy rt' rt'') : SameCopy rt rt'' :=
  ⟨h'.persistence.trans h.persistence, h'.hasVault.trans h.hasVault,
    h'.envelope.trans h.envelope, h'.schemaReady.trans h.schemaReady⟩

theorem SameCopy.lock {σ : Type} (rt : Runtime σ) : SameCopy rt rt.lock.2 := by
  rcases lock_cases rt with ⟨_, he⟩ | ⟨_, _, he⟩ | ⟨_, _, he⟩ <;> rw [he] <;>
    exact ⟨rfl, rfl, rfl, rfl⟩

theorem SameCopy.unlock {σ : Type} (gcm : GcmOpen) (rt : Runtime σ) (vmk : Vmk) (nowMs : UInt64) :
    SameCopy rt (rt.unlock gcm vmk nowMs).2 := by
  rcases unlock_cases gcm rt vmk nowMs with ⟨_, _, he⟩ | ⟨_, _, _, _, _, he⟩ <;> rw [he] <;>
    exact ⟨rfl, rfl, rfl, rfl⟩

theorem SameCopy.enterVmkRekeyBoundary {σ : Type} (rt : Runtime σ) :
    SameCopy rt rt.enterVmkRekeyBoundary.2 := by
  rcases enterVmkRekeyBoundary_cases rt with ⟨_, _, he⟩ | ⟨_, _, _, he⟩ <;> rw [he] <;>
    exact ⟨rfl, rfl, rfl, rfl⟩

theorem SameCopy.stored {rt rt' : Runtime AuthNvs} (h : SameCopy rt rt') :
    storedVault rt'.persistence.content = storedVault rt.persistence.content := by
  rw [h.persistence]

namespace Mirrors

theorem of_same (h : Mirrors rt) (hs : SameCopy rt rt') : Mirrors rt' where
  copy := by rw [hs.persistence, hs.hasVault, hs.envelope, h.copy]
  loads hready := by
    rw [hs.persistence]
    exact h.loads (hs.schemaReady ▸ hready)

theorem stored_some (h : Mirrors rt) (hv : rt.hasVault = true) :
    storedVault rt.persistence.content = some rt.envelope := by rw [h.copy, if_pos hv]

/-- An accepted load makes the copy. -/
theorem loaded {w w' : AuthNvs} {sn : PersistedSnapshot} (hload : loadNow w.content = .ok sn)
    (hc : w'.content = w.content) : Mirrors (rt.loaded w' sn) := by
  refine ⟨?_, fun _ => ⟨sn, by rw [loaded_persistence, hc]; exact hload⟩⟩
  rw [loaded_persistence, hc, storedVault_of_load hload, loaded_hasVault, loaded_envelope]
  cases sn.hasVault <;> rfl

theorem reload (hw : rt.persistence.Steady) (hloads : Loadable rt.persistence.content) :
    Mirrors (rt.reloadAfterPersistence compatibleNvsPersistence).2 := by
  obtain ⟨st, sn, w, hl, hc, ⟨rfl, hload⟩ | ⟨_, _, hnot⟩⟩ := load_steady hw
  · rcases reload_cases rt hl with ⟨_, he⟩ | ⟨hrej, _⟩
    · rw [he]
      exact loaded hload hc
    · rw [loadNow_accepted hload] at hrej
      cases hrej
  · exact absurd hloads hnot

theorem initializeRuntime (hw : rt.persistence.Steady) :
    Mirrors (rt.initializeRuntime compatibleNvsPersistence).2 := by
  obtain ⟨st, sn, w, hl, hc, hcase⟩ := load_steady hw
  rcases initializeRuntime_cases rt hl with
    ⟨hacc, he⟩ | ⟨hrej, st', rt', he, _, hp, _, hready, hv, _⟩ <;> rw [he]
  · rcases hcase with ⟨rfl, hload⟩ | ⟨hne, _⟩
    · exact loaded hload hc
    · simp [loadAccepted, hne] at hacc
  · rcases hcase with ⟨rfl, hload⟩ | ⟨hne, hnone, _⟩
    · rw [loadNow_accepted hload] at hrej
      cases hrej
    · refine ⟨?_, fun hr => ?_⟩
      · show storedVault rt'.persistence.content = if rt'.hasVault then _ else _
        rw [hp, hc, hnone, hv]
        rfl
      · simp [hready, hne] at hr

end Mirrors

/-! ## What a call leaves in the storage -/

/-- A format removes the Vault, if it does anything. -/
theorem format_stored (rt : Runtime AuthNvs) {st : Status}
    (h : rt.formatForSchema2 compatibleNvsPersistence = (st, rt')) :
    (storedVault rt'.persistence.content = storedVault rt.persistence.content ∨
      storedVault rt'.persistence.content = none) ∧
    (st = .ok → Loadable rt'.persistence.content ∧ storedVault rt'.persistence.content = none) := by
  rcases format_cases compatibleNvsPersistence rt with
    ⟨_, he⟩ | ⟨_, status, w, hf, ⟨hne, he⟩ | ⟨rfl, he⟩⟩ <;> rw [he] at h
  · obtain ⟨rfl, rfl⟩ := Prod.mk.inj h
    exact ⟨.inl rfl, nofun⟩
  · obtain ⟨rfl, rfl⟩ := Prod.mk.inj h
    exact ⟨(NvsPersistence.formatSchema2_stored hf).1.imp_left fun hc => congrArg storedVault hc,
      fun hok => absurd hok hne⟩
  · have hw : w.content = NvsPersistence.formatted :=
      (NvsPersistence.formatSchema2_stored hf).2 rfl
    have hc : rt'.persistence.content = NvsPersistence.formatted := by
      have hp := reload_persistence (P := compatibleNvsPersistence)
        (rt.clearUnlockSessionState.withPersistence w)
      rw [h] at hp
      rw [hp, ← hw]
      exact (load_sound (Prod.eta _).symm).1
    have hnone : storedVault rt'.persistence.content = none := by
      rw [hc]
      exact storedVault_of_load NvsPersistence.loadNow_formatted
    exact ⟨.inr hnone, fun _ => ⟨⟨_, hc ▸ NvsPersistence.loadNow_formatted⟩, hnone⟩⟩

/-- An installation puts its envelope into the storage, or leaves that. -/
theorem install_stored (hloads : Loadable rt.persistence.content) {envelope : VaultEnvelope}
    {vmk : Vmk} {st : Status}
    (h : rt.installEncryptedVault compatibleNvsPersistence gcm envelope vmk = (st, rt')) :
    (storedVault rt'.persistence.content = storedVault rt.persistence.content ∨
      storedVault rt'.persistence.content = some envelope) ∧
    (st = .ok → storedVault rt'.persistence.content = some envelope) := by
  by_cases hadm : AdmitsInstall gcm rt envelope vmk
  swap
  · obtain ⟨status, hne, he⟩ := install_refused compatibleNvsPersistence hadm
    rw [he] at h
    obtain ⟨rfl, rfl⟩ := Prod.mk.inj h
    exact ⟨.inl rfl, fun hok => absurd hok hne⟩
  rcases hrep : compatibleNvsPersistence.replaceEnvelope 0 envelope rt.persistence with ⟨status, w⟩
  obtain ⟨_, hstored⟩ := NvsPersistence.replaceEnvelope_stored hrep hloads
  rcases install_admitted hadm hrep with ⟨hne, he⟩ | ⟨rfl, hre⟩
  · rw [he] at h
    obtain ⟨rfl, rfl⟩ := Prod.mk.inj h
    exact ⟨hstored.imp And.right And.left, fun hok => absurd hok hne⟩
  · have hw : storedVault w.content = some envelope := by
      rcases hstored with ⟨hne, _⟩ | ⟨hw, _⟩
      · exact absurd rfl hne
      · exact hw
    rcases hl : compatibleNvsPersistence.load w with ⟨⟨st', sn⟩, w'⟩
    have hw' : storedVault w'.content = some envelope := by rw [(load_sound hl).1, hw]
    have hend : storedVault rt'.persistence.content = some envelope := by
      rcases hre st' sn w' hl with ⟨_, _, _, he⟩ | ⟨_, _, rt'', he, _, hp, _⟩ <;> rw [he] at h <;>
        obtain ⟨rfl, rfl⟩ := Prod.mk.inj h
      · exact hw'
      · rw [hp, hw']
    exact ⟨.inr hend, fun _ => hend⟩

variable (gcm) in
/-- An update puts its envelope in the place of the stored one, or leaves that. -/
theorem update_stored (hm : Mirrors rt) (expected : UInt64) (envelope : VaultEnvelope)
    (nowMs : UInt64) :
    let rt' := (rt.updateEncryptedVault compatibleNvsPersistence gcm expected envelope nowMs).2
    storedVault rt'.persistence.content = storedVault rt.persistence.content ∨
      (AdmitsUpdate gcm rt expected envelope ∧
        storedVault rt'.persistence.content = some envelope) := by
  by_cases hadm : AdmitsUpdate gcm rt expected envelope
  swap
  · obtain ⟨_, _, he⟩ := update_refused compatibleNvsPersistence nowMs hadm
    rw [he]
    exact .inl rfl
  have hloads := loadable_of_stored (hm.stored_some hadm.2.2.2.1)
  rcases hrep : compatibleNvsPersistence.replaceEnvelope expected envelope rt.persistence with
    ⟨st, w⟩
  have hstored := (NvsPersistence.replaceEnvelope_stored hrep hloads).2.imp And.right And.left
  rcases update_admitted nowMs hadm hrep with ⟨_, he⟩ | ⟨_, hre⟩
  · rw [he]
    exact hstored.imp_right fun hw => ⟨hadm, hw⟩
  · rcases hl : compatibleNvsPersistence.load w with ⟨⟨st', sn⟩, w'⟩
    rw [← (load_sound hl).1] at hstored
    rcases hre st' sn w' hl with ⟨_, _, _, he, hp, _⟩ | ⟨_, _, _, he⟩ <;> rw [he]
    · simp only [hp]
      exact hstored.imp_right fun hw => ⟨hadm, hw⟩
    · exact hstored.imp_right fun hw => ⟨hadm, hw⟩

variable (gcm) in
/-- The same of a re-key. -/
theorem rekey_stored (hm : Mirrors rt) (expected : UInt64) (envelope : VaultEnvelope)
    (vmk : Vmk) :
    let rt' := (rt.rekeyEncryptedVault compatibleNvsPersistence gcm expected envelope vmk).2
    storedVault rt'.persistence.content = storedVault rt.persistence.content ∨
      (AdmitsRekey gcm rt expected envelope vmk ∧
        storedVault rt'.persistence.content = some envelope) := by
  by_cases hadm : AdmitsRekey gcm rt expected envelope vmk
  swap
  · obtain ⟨_, _, he⟩ := rekey_refused compatibleNvsPersistence hadm
    rw [he]
    exact .inl rfl
  have hloads := loadable_of_stored (hm.stored_some hadm.2.2.2.1)
  rcases hrep : compatibleNvsPersistence.replaceEnvelope expected envelope rt.persistence with
    ⟨st, w⟩
  have hstored := (NvsPersistence.replaceEnvelope_stored hrep hloads).2.imp And.right And.left
  rcases rekey_admitted hadm hrep with ⟨_, he⟩ | ⟨_, hre⟩
  · rw [he]
    exact hstored.imp_right fun hw => ⟨hadm, hw⟩
  · rcases hl : compatibleNvsPersistence.load w with ⟨⟨st', sn⟩, w'⟩
    rw [← (load_sound hl).1] at hstored
    rcases hre st' sn w' hl with ⟨_, _, he, hp, _⟩ | ⟨_, _, _, he⟩ <;> rw [he]
    · simp only [hp]
      exact hstored.imp_right fun hw => ⟨hadm, hw⟩
    · exact hstored.imp_right fun hw => ⟨hadm, hw⟩

/-- A reset removes the Vault, if it does anything. -/
theorem reset_stored (rt : Runtime AuthNvs) {st : Status}
    (h : rt.factoryReset compatibleNvsPersistence = (st, rt')) :
    (storedVault rt'.persistence.content = storedVault rt.persistence.content ∨
      storedVault rt'.persistence.content = none) ∧
    (st = .ok → storedVault rt'.persistence.content = none) := by
  rcases factoryReset_cases compatibleNvsPersistence rt with
    ⟨_, he⟩ | ⟨_, status, w, hf, ⟨hne, he⟩ | ⟨rfl, he⟩⟩ <;> rw [he] at h
  · obtain ⟨rfl, rfl⟩ := Prod.mk.inj h
    exact ⟨.inl rfl, nofun⟩
  · obtain ⟨rfl, rfl⟩ := Prod.mk.inj h
    refine ⟨?_, fun hok => absurd hok hne⟩
    rcases (NvsPersistence.eraseAll_stored hf).1 with hc | hc
    · exact .inl (congrArg storedVault hc)
    · exact .inr ((congrArg storedVault hc).trans storedVault_empty)
  · obtain ⟨rfl, rfl⟩ := Prod.mk.inj h
    have hnone := (congrArg storedVault ((NvsPersistence.eraseAll_stored hf).2 rfl)).trans
      storedVault_empty
    exact ⟨.inr hnone, fun _ => hnone⟩

/-- A use of the resident key leaves the Vault. -/
theorem resident_stored (hm : Mirrors rt) (hinv : Inv rt) {call : Call}
    (hcall : call = .listCredentials ∨ (∃ id c, call = .withCredential id c) ∨
      (∃ c, call = .withWifi c) ∨ ∃ id, call = .setLastUsed id) :
    Mirrors (rt.step compatibleNvsPersistence gcm call) ∧
      storedVault (rt.step compatibleNvsPersistence gcm call).persistence.content =
        storedVault rt.persistence.content := by
  rcases resident_cases compatibleNvsPersistence gcm rt hcall with
    he | ⟨hst, id, st, w, hs, hre⟩ | ⟨_, _, _, he⟩
  · rw [he]
    exact ⟨hm, rfl⟩
  · have hv : rt.hasVault = true := (hinv.vault (.inr hst)).1
    have hold := hm.stored_some hv
    have hw := NvsPersistence.setLastUsed_stored hs hold
    have hmirrors {rt' : Runtime AuthNvs} (hp : rt'.persistence = w)
        (hhas : rt'.hasVault = rt.hasVault) (henv : rt'.envelope = rt.envelope) : Mirrors rt' := by
      refine ⟨?_, fun _ => hp ▸ loadable_of_stored hw⟩
      rw [hp, hw, hhas, henv, if_pos hv]
    rcases hre with he | he <;> rw [he]
    · exact ⟨hmirrors rfl rfl rfl, hw.trans hold.symm⟩
    · exact ⟨hmirrors rfl rfl rfl, hw.trans hold.symm⟩
  · rw [he]
    exact ⟨hm.of_same ⟨rfl, rfl, rfl, rfl⟩, rfl⟩

/-! ## The copy after a call -/

/-- Without faults a replacement leaves the stored Vault, or a load shows the new one. -/
theorem replaced_steady {w w' : AuthNvs} (hw : w.Steady) (hloads : Loadable w.content)
    {expected : UInt64} {candidate : VaultEnvelope} {st : Status}
    (h : compatibleNvsPersistence.replaceEnvelope expected candidate w = (st, w')) :
    Loadable w'.content ∧
      ((st ≠ .ok ∧ storedVault w'.content = storedVault w.content) ∨
        (st = .ok ∧ ∃ sn w'', compatibleNvsPersistence.load w' = ((.ok, sn), w'') ∧
          w''.content = w'.content ∧ loadNow w'.content = .ok sn ∧ sn.hasVault = true ∧
          sn.envelope = candidate)) := by
  have hw' := preserving_steady.replaceEnvelope expected candidate w hw
  rw [h] at hw'
  obtain ⟨hl, hcase⟩ := NvsPersistence.replaceEnvelope_stored h hloads
  refine ⟨hl, hcase.imp_right fun ⟨hnew, hst⟩ => ?_⟩
  obtain ⟨st', sn, w'', hload, hc, ⟨rfl, hnow⟩ | ⟨_, _, hnot⟩⟩ := load_steady hw'
  · rw [storedVault_of_load hnow, Option.ite_none_right_eq_some, Option.some.injEq] at hnew
    exact ⟨hst.resolve_right (NvsPersistence.not_tornFlip hw), sn, w'', hload, hc, hnow, hnew⟩
  · exact absurd hl hnot

namespace Mirrors

/-- The copy of an envelope that a load shows. -/
theorem of_stored {envelope : VaultEnvelope} (hv : rt.hasVault = true)
    (he : rt.envelope = envelope) (h : storedVault rt.persistence.content = some envelope) :
    Mirrors rt :=
  ⟨by rw [h, if_pos hv, he], fun _ => loadable_of_stored h⟩

/-- A write that leaves the stored Vault. -/
theorem withPersistence (h : Mirrors rt) {w : AuthNvs} (hloads : Loadable w.content)
    (hw : storedVault w.content = storedVault rt.persistence.content) :
    Mirrors (rt.withPersistence w) :=
  ⟨hw.trans h.copy, fun _ => hloads⟩

theorem format (h : Mirrors rt) (hw : rt.persistence.Steady) :
    Mirrors (rt.formatForSchema2 compatibleNvsPersistence).2 := by
  rcases format_cases compatibleNvsPersistence rt with ⟨_, he⟩ | ⟨_, st, w, hf, hcase⟩
  · rw [he]
    exact h
  · have hok := NvsPersistence.formatSchema2_steady hw
    have hw' := preserving_steady.formatSchema2 _ hw
    rw [hf] at hok hw'
    rcases hcase with ⟨hne, _⟩ | ⟨_, he⟩
    · exact absurd hok hne
    · rw [he]
      have hc : w.content = NvsPersistence.formatted :=
        (NvsPersistence.formatSchema2_stored hf).2 hok
      exact reload hw' ⟨_, hc ▸ NvsPersistence.loadNow_formatted⟩

theorem install (h : Mirrors rt) (hw : rt.persistence.Steady) (envelope : VaultEnvelope)
    (vmk : Vmk) :
    Mirrors (rt.installEncryptedVault compatibleNvsPersistence gcm envelope vmk).2 := by
  by_cases hadm : AdmitsInstall gcm rt envelope vmk
  swap
  · obtain ⟨_, _, he⟩ := install_refused compatibleNvsPersistence hadm
    rw [he]
    exact h
  rcases hrep : compatibleNvsPersistence.replaceEnvelope 0 envelope rt.persistence with ⟨st, w⟩
  obtain ⟨hloads, hcase⟩ := replaced_steady hw (h.loads hadm.2.1) hrep
  rcases install_admitted hadm hrep with ⟨hne, he⟩ | ⟨hok, hre⟩
  · rw [he]
    exact h.withPersistence hloads (hcase.resolve_right fun hn => hne hn.1).2
  · obtain ⟨_, sn, w', hload, hc, hnow, hv, henv⟩ := hcase.resolve_left fun hn => hn.1 hok
    rcases hre _ sn w' hload with ⟨_, _, _, he⟩ | ⟨hbad, _⟩
    · rw [he]
      exact loaded hnow hc
    · rcases hbad with hbad | hbad | hbad
      · rw [loadNow_accepted hnow] at hbad
        cases hbad
      · rw [hv] at hbad
        cases hbad
      · exact absurd henv hbad

/-- A load that shows the candidate does not differ from it. -/
theorem not_differs {sn : PersistedSnapshot} (hnow : loadNow p = .ok sn) (hv : sn.hasVault = true)
    (henv : sn.envelope = envelope) : reloadDiffers .ok sn envelope = false := by
  have hacc := loadNow_accepted hnow
  simp only [loadAccepted, hv, Bool.and_eq_true, beq_self_eq_true, true_and] at hacc
  simp [reloadDiffers, hv, henv, hacc.1]

theorem update (h : Mirrors rt) (hw : rt.persistence.Steady) (expected : UInt64)
    (envelope : VaultEnvelope) (nowMs : UInt64) :
    Mirrors (rt.updateEncryptedVault compatibleNvsPersistence gcm expected envelope nowMs).2 := by
  by_cases hadm : AdmitsUpdate gcm rt expected envelope
  swap
  · obtain ⟨_, _, he⟩ := update_refused compatibleNvsPersistence nowMs hadm
    rw [he]
    exact h
  rcases hrep : compatibleNvsPersistence.replaceEnvelope expected envelope rt.persistence with
    ⟨st, w⟩
  obtain ⟨hloads, hcase⟩ :=
    replaced_steady hw (loadable_of_stored (h.stored_some hadm.2.2.2.1)) hrep
  rcases update_admitted nowMs hadm hrep with ⟨hne, he⟩ | ⟨hok, hre⟩
  · rw [he]
    exact h.withPersistence hloads (hcase.resolve_right fun hn => hne hn.1).2
  · obtain ⟨_, sn, w', hload, hc, hnow, hv, henv⟩ := hcase.resolve_left fun hn => hn.1 hok
    rcases hre _ sn w' hload with ⟨_, _, rt', he, hp, henv', hv', _⟩ | ⟨hdiff, _⟩
    · rw [he]
      refine of_stored hv' henv' ?_
      show storedVault rt'.persistence.content = _
      rw [hp, hc, storedVault_of_load hnow, if_pos hv, henv]
    · rw [not_differs hnow hv henv] at hdiff
      cases hdiff

theorem rekey (h : Mirrors rt) (hw : rt.persistence.Steady) (expected : UInt64)
    (envelope : VaultEnvelope) (vmk : Vmk) :
    Mirrors (rt.rekeyEncryptedVault compatibleNvsPersistence gcm expected envelope vmk).2 := by
  by_cases hadm : AdmitsRekey gcm rt expected envelope vmk
  swap
  · obtain ⟨_, _, he⟩ := rekey_refused compatibleNvsPersistence hadm
    rw [he]
    exact h
  rcases hrep : compatibleNvsPersistence.replaceEnvelope expected envelope rt.persistence with
    ⟨st, w⟩
  obtain ⟨hloads, hcase⟩ :=
    replaced_steady hw (loadable_of_stored (h.stored_some hadm.2.2.2.1)) hrep
  rcases rekey_admitted hadm hrep with ⟨hne, he⟩ | ⟨hok, hre⟩
  · rw [he]
    exact h.withPersistence hloads (hcase.resolve_right fun hn => hne hn.1).2
  · obtain ⟨_, sn, w', hload, hc, hnow, hv, henv⟩ := hcase.resolve_left fun hn => hn.1 hok
    rcases hre _ sn w' hload with ⟨_, rt', he, hp, henv', hv', _⟩ | ⟨hdiff, _⟩
    · rw [he]
      refine of_stored hv' henv' ?_
      show storedVault rt'.persistence.content = _
      rw [hp, hc, storedVault_of_load hnow, if_pos hv, henv]
    · rw [not_differs hnow hv henv] at hdiff
      cases hdiff

theorem reset (h : Mirrors rt) (hw : rt.persistence.Steady) :
    Mirrors (rt.factoryReset compatibleNvsPersistence).2 := by
  rcases factoryReset_cases compatibleNvsPersistence rt with ⟨_, he⟩ | ⟨_, st, w, hf, hcase⟩
  · rw [he]
    exact h
  · have hok := NvsPersistence.eraseAll_steady hw
    rw [hf] at hok
    rcases hcase with ⟨hne, _⟩ | ⟨_, he⟩
    · exact absurd hok hne
    · rw [he]
      refine ⟨?_, nofun⟩
      show storedVault w.content = none
      rw [(NvsPersistence.eraseAll_stored hf).2 hok]
      rfl

/-- **On storage that works every call keeps the copy.** -/
theorem step (h : Mirrors rt) (hinv : Inv rt) (hw : rt.persistence.Steady) (call : Call) :
    Mirrors (rt.step compatibleNvsPersistence gcm call) := by
  cases call with
  | initializeRuntime => exact initializeRuntime hw
  | formatForSchema2 => exact h.format hw
  | installEncryptedVault envelope vmk => exact h.install hw envelope vmk
  | unlock vmk nowMs => exact h.of_same (.unlock gcm rt vmk nowMs)
  | lock => exact h.of_same (.lock rt)
  | enterRecoveryBoundary => exact h.of_same (.lock rt)
  | enterVmkRekeyBoundary => exact h.of_same (.enterVmkRekeyBoundary rt)
  | updateEncryptedVault expected envelope nowMs => exact h.update hw expected envelope nowMs
  | rekeyEncryptedVault expected envelope vmk => exact h.rekey hw expected envelope vmk
  | listCredentials => exact (resident_stored h hinv (.inl rfl)).1
  | withCredential credentialId consumer =>
    exact (resident_stored h hinv (.inr (.inl ⟨credentialId, consumer, rfl⟩))).1
  | withWifi consumer => exact (resident_stored h hinv (.inr (.inr (.inl ⟨consumer, rfl⟩)))).1
  | setLastUsed credentialId =>
    exact (resident_stored h hinv (.inr (.inr (.inr ⟨credentialId, rfl⟩)))).1
  | factoryReset => exact h.reset hw

end Mirrors

end Runtime

end M5Auth.VaultRuntime
