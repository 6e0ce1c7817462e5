import M5Auth.Registration.Proof.Clears

/-!
# The stored registration

`storedRecord` is the registration that a start finds in the partition. Where failing writes store
nothing, a clear removes it if it is reported to work, and an initial installation stores its record
exactly if it is (`clearForRecovery_stored`, `installInitial_stored`).

`Mirrors st`: the snapshot shows the stored registration, or none where none is stored. On storage
that works every operation keeps it.
-/

namespace M5Auth.Registration

open FaultyStore FaultyStore.Prog

variable {importKey : P256PublicKey → Bool}

/-- The registration that a start finds. -/
def storedRecord (importKey : P256PublicKey → Bool) (c : NvsContent) : Option Record :=
  c.active.bind (decodeRegistration importKey)

theorem storedRecord_eq_some {c : NvsContent} {r : Record} :
    storedRecord importKey c = some r ↔ Stored importKey c r := Iff.rfl

theorem storedRecord_congr {c c' : NvsContent} (h : c'.active = c.active) :
    storedRecord importKey c' = storedRecord importKey c := by rw [storedRecord, storedRecord, h]

theorem storedRecord_none {c : NvsContent} (h : c.active = none) :
    storedRecord importKey c = none := by rw [storedRecord, h, Option.bind_none]

/-- The content has this Device ID. -/
def HasDeviceId (deviceId : DeviceIdCandidate) (c : NvsContent) : Prop :=
  c.deviceId = some deviceId.1.1

/-! ## Programs -/

section
variable (importKey)

theorem oracle_readRegistration : KeepsOracle (readRegistration importKey) := by
  refine .bind (.call _) fun ns => ?_
  cases ns with
  | none => exact .throw _
  | some ns =>
    refine .bind (.call _) fun size => ?_
    cases size with
    | none => exact .throw _
    | some size =>
      refine .ite (.throw _) (.bind (.call _) fun r => ?_)
      cases r with
      | none => exact .throw _
      | some r => exact .pure _

theorem oracle_writeRegistration (r : Record) : KeepsOracle (writeRegistration r) :=
  .bind (.change _) fun _ => .write _

theorem oracle_eraseRegistration : KeepsOracle eraseRegistration :=
  .bind (.change _) fun _ => .write _

theorem oracle_loadOrCreateDeviceId (candidate : DeviceIdCandidate) :
    KeepsOracle (loadOrCreateDeviceId candidate) := by
  refine .bind (.call _) fun _ => .bind (.change _) fun _ => .bind (.call _) fun size => ?_
  cases size with
  | none => exact .bind (.write _) fun _ => .pure _
  | some size =>
    refine .ite (.throw _) (.bind (.call _) fun deviceId => ?_)
    cases deviceId with
    | none => exact .throw _
    | some deviceId => exact .ite (.throw _) (.pure _)

end

theorem write_works (r : Record) : Works (fun _ => True) (writeRegistration r) fun _ _ => True :=
  .bind (Q := fun _ _ => True) (.change fun _ _ => trivial) fun _ => .write fun _ _ => trivial

variable (importKey) in
/-- Without faults a refresh shows what is stored. -/
theorem readRegistration_steady {nvs : Nvs} (hw : nvs.Steady) :
    ∃ res nvs', readRegistration importKey nvs = (res, nvs') ∧ nvs'.Steady ∧
      nvs'.content = nvs.content ∧
      storedRecord importKey nvs.content = res.toOption := by
  obtain ⟨res, nvs', he, _, hres⟩ := readRegistration_settles importKey (· = nvs.content) nvs
    hw.reliable rfl
  have hsteady := (oracle_readRegistration importKey).steady hw
  rw [he] at hsteady
  refine ⟨res, nvs', he, hsteady, ?_⟩
  cases res with
  | ok r => exact ⟨hres.1, hres.1 ▸ hres.2⟩
  | error status =>
    refine ⟨hres.1, ?_⟩
    by_contra hne
    obtain ⟨r, hr⟩ := Option.ne_none_iff_exists'.1 hne
    rcases readRegistration_cases (storedRecord_eq_some.1 hr) with ⟨_, hok⟩ | ⟨hnot, _⟩
    · rw [hok] at he
      cases he
    · exact hnot fun k _ => hw _

namespace Store

variable {st : Store}

/-! ## What an operation leaves in the storage -/

theorem cleared_stored (h : st.nvs.Untorn) :
    (storedRecord importKey (st.cleared eraseRegistration).2.nvs.content =
        storedRecord importKey st.nvs.content ∨
      storedRecord importKey (st.cleared eraseRegistration).2.nvs.content = none) ∧
    ((st.cleared eraseRegistration).1 = .ok →
      storedRecord importKey (st.cleared eraseRegistration).2.nvs.content = none) := by
  rcases hp : eraseRegistration st.nvs with ⟨res, nvs⟩
  obtain ⟨_, hres⟩ := eraseRegistration_atomic st.nvs.content st.nvs h rfl res nvs hp
  rw [cleared, run_eq hp]
  cases res with
  | error status =>
    obtain ⟨hne, hactive, _⟩ := hres
    exact ⟨.inl (storedRecord_congr hactive), fun hok => absurd hok hne⟩
  | ok _ =>
    have hnone : storedRecord importKey nvs.content = none := storedRecord_none hres.1
    exact ⟨.inr hnone, fun _ => hnone⟩

variable (importKey) in
/-- A clear removes the registration, if it does anything. -/
theorem clearRegistration_stored (h : st.nvs.Untorn) :
    (storedRecord importKey st.clearRegistration.2.nvs.content =
        storedRecord importKey st.nvs.content ∨
      storedRecord importKey st.clearRegistration.2.nvs.content = none) ∧
    (st.clearRegistration.1 = .ok →
      storedRecord importKey st.clearRegistration.2.nvs.content = none) := by
  unfold clearRegistration
  dsimp only
  split
  · exact ⟨.inl rfl, nofun⟩
  · exact cleared_stored (by exact h)

theorem clearForRecovery_stored (h : Truthful importKey st) {deviceId : DeviceIdCandidate}
    (hid : HasDeviceId deviceId st.nvs.content) :
    (storedRecord importKey st.clearForRecovery.2.nvs.content =
        storedRecord importKey st.nvs.content ∨
      storedRecord importKey st.clearForRecovery.2.nvs.content = none) ∧
    (st.clearForRecovery.1 = .ok →
      storedRecord importKey st.clearForRecovery.2.nvs.content = none) := by
  unfold clearForRecovery
  split
  swap
  · exact clearRegistration_stored importKey h.untorn
  unfold clearCorruptRegistrationForRecovery
  split
  · exact clearRegistration_stored importKey h.untorn
  rename_i hready
  dsimp only
  split
  · exact ⟨.inl rfl, nofun⟩
  split
  · rename_i hcorrupt
    exact absurd hid ((h.corruptId (by simpa using hready) hcorrupt).2 deviceId)
  · exact cleared_stored (by exact h.untorn)

/-- An initial installation stores its record where there is none, or leaves the storage. -/
theorem installInitial_stored (h : Truthful importKey st) (r : Record) {status : Status}
    {st' : Store} (he : st.installInitial importKey r = (status, st')) :
    (status = .ok ∧ storedRecord importKey st.nvs.content = none ∧
        storedRecord importKey st'.nvs.content = some r) ∨
      (status ≠ .ok ∧
        storedRecord importKey st'.nvs.content = storedRecord importKey st.nvs.content) := by
  unfold installInitial at he
  split at he
  · obtain ⟨rfl, rfl⟩ := Prod.mk.inj he
    exact .inr ⟨by simp, rfl⟩
  rename_i hready
  have hready' : st.Identified := .inl (by simpa using hready)
  obtain ⟨refresh, nvs, snapshot, hl, ht, hc, _, hnone⟩ := load_atomic h hready'
  rw [hl] at he
  dsimp only at he
  split at he
  · rename_i hfound
    obtain ⟨rfl, rfl⟩ := Prod.mk.inj he
    refine .inr ⟨?_, by rw [show (st.moved nvs snapshot).nvs.content = _ from hc]⟩
    split
    · simp
    · rename_i hne
      exact hne
  rename_i hfound
  rw [ne_eq, not_not] at hfound
  split at he
  · obtain ⟨rfl, rfl⟩ := Prod.mk.inj he
    exact .inr ⟨by simp, by rw [show (st.moved nvs snapshot).nvs.content = _ from hc]⟩
  obtain ⟨status', nvs', snapshot', hp, _, _, hcase⟩ := persist_atomic ht hready' r
  rw [hp] at he
  obtain ⟨rfl, rfl⟩ := Prod.mk.inj he
  rcases hcase with ⟨hok, hstored⟩ | ⟨hne, hactive⟩
  · exact .inl ⟨hok, storedRecord_none (hnone hfound), hstored⟩
  · exact .inr ⟨hne, storedRecord_congr (hactive.trans (congrArg _ hc))⟩

/-! ## The snapshot -/

/-- The snapshot shows the stored registration. -/
def Mirrors (importKey : P256PublicKey → Bool) (st : Store) : Prop :=
  storedRecord importKey st.nvs.content =
    if st.snapshot.registrationPresent then some st.snapshot.toRecord else none

/-- The operation left a store whose snapshot shows the registration, on storage that works. -/
structure Sound (importKey : P256PublicKey → Bool) (st : Store) : Prop where
  steady : st.nvs.Steady
  mirrors : Mirrors importKey st

namespace Sound

theorem load (hw : st.nvs.Steady) : Sound importKey (st.loadRegistration importKey).2 := by
  obtain ⟨res, nvs, he, hsteady, hc, hstored⟩ := readRegistration_steady importKey hw
  rw [load_eq st he]
  rw [← hc] at hstored
  cases res <;> exact ⟨hsteady, hstored⟩

theorem persist (h : Sound importKey st) (r : Record) :
    Sound importKey (st.persistRegistration importKey r).2 := by
  unfold persistRegistration
  cases hv : r.valid importKey
  · exact h
  obtain ⟨_, nvs, he, _⟩ := (write_works r).run h.steady.reliable trivial
  have hsteady := (oracle_writeRegistration r).steady h.steady
  obtain ⟨_, hstored, _⟩ := writeRegistration_atomic st.nvs.content hv st.nvs h.steady.untorn rfl
    _ nvs he
  rw [he] at hsteady
  simp only [Bool.not_true, Bool.false_eq_true, if_false, run_eq he]
  exact ⟨hsteady, hstored⟩

theorem installInitial (h : Sound importKey st) (r : Record) :
    Sound importKey (st.installInitial importKey r).2 := by
  unfold Store.installInitial
  split
  · exact h
  rcases hl : st.loadRegistration importKey with ⟨refresh, st'⟩
  have hload : Sound importKey (st.loadRegistration importKey).2 := load h.steady
  rw [hl] at hload
  dsimp only
  split
  · exact hload
  split
  · exact hload
  · exact hload.persist r

theorem replace (h : Sound importKey st) (expectedEpoch : UInt32) (r : Record) :
    Sound importKey (st.replace importKey expectedEpoch r).2 := by
  unfold Store.replace
  split
  · exact h
  rcases hl : st.loadRegistration importKey with ⟨refresh, st'⟩
  have hload : Sound importKey (st.loadRegistration importKey).2 := load h.steady
  rw [hl] at hload
  dsimp only
  split
  · exact hload
  split
  · exact hload
  · exact hload.persist r

theorem cleared (hw : st.nvs.Steady) : Sound importKey (st.cleared eraseRegistration).2 := by
  obtain ⟨_, nvs, he, _, hnone⟩ := erase_works.run hw.reliable trivial
  have hsteady := oracle_eraseRegistration.steady hw
  rw [he] at hsteady
  rw [Store.cleared, run_eq he]
  exact ⟨hsteady, storedRecord_none hnone⟩

theorem clearRegistration (h : Sound importKey st) : Sound importKey st.clearRegistration.2 := by
  unfold Store.clearRegistration
  dsimp only
  split
  · exact ⟨h.steady, h.mirrors⟩
  · exact cleared (by exact h.steady)

theorem clearCorrupt (h : Sound importKey st) (ht : Truthful importKey st)
    {deviceId : DeviceIdCandidate} (hid : HasDeviceId deviceId st.nvs.content) :
    Sound importKey st.clearCorruptRegistrationForRecovery.2 := by
  unfold clearCorruptRegistrationForRecovery
  split
  · exact h.clearRegistration
  rename_i hready
  dsimp only
  split
  · exact ⟨h.steady, h.mirrors⟩
  split
  · rename_i hcorrupt
    exact absurd hid ((ht.corruptId (by simpa using hready) hcorrupt).2 deviceId)
  · exact cleared (by exact h.steady)

/-- The start of a Device that has its Device ID. -/
theorem start {nvs : Nvs} (hw : nvs.Steady) {deviceId : DeviceIdCandidate}
    (hid : HasDeviceId deviceId nvs.content) (candidate : DeviceIdCandidate) :
    Sound importKey (({ nvs } : Store).initializeStore importKey candidate).2 := by
  have hok : DeviceIdOk nvs.content := deviceIdOk_of_some hid deviceId.2
  obtain ⟨res, nvs', he, _, hres⟩ := loadOrCreateDeviceId_settles nvs.content.active candidate nvs
    hw.reliable rfl
  have hsteady := (oracle_loadOrCreateDeviceId candidate).steady hw
  rw [he] at hsteady
  have hrun : ({ nvs } : Store).blank.run (loadOrCreateDeviceId candidate) =
      (res, ({ nvs } : Store).blank.withNvs nvs') := run_eq he
  rw [initializeStore, hrun]
  cases res with
  | error status =>
    obtain ⟨rfl, _⟩ := hres
    exact absurd rfl (loadOrCreateDeviceId_triple nvs.content.active candidate nvs ⟨rfl, hok⟩ _ _
      he).1
  | ok read =>
    obtain ⟨res', nvs'', hread, hsteady', hc, hstored⟩ :=
      readRegistration_steady importKey hsteady
    obtain ⟨_, _, hr, _, hcase⟩ := readRegistration_settles importKey (fun _ => True) nvs'
      hsteady.reliable trivial
    have hl := load_eq ((({ nvs } : Store).blank.withNvs nvs').withSnapshot (bare read)) hread
    rw [hread] at hr
    obtain ⟨rfl, rfl⟩ := Prod.mk.inj hr
    rw [← hc] at hstored
    cases res' with
    | ok r =>
      simp only [hl]
      exact ⟨hsteady', hstored⟩
    | error status =>
      obtain ⟨_, ⟨rfl, _⟩ | ⟨rfl, _⟩⟩ := hcase
      · simp only [hl]
        exact ⟨hsteady', hstored⟩
      · simp only [hl]
        exact ⟨hsteady', hstored⟩

end Sound

end Store

end M5Auth.Registration
