import M5Auth.Registration.Proof.Cases

/-!
# The registration a store shows

`Genuine`: whatever NVS calls failed, a registration that the RAM snapshot shows passed the
store's own field checks. Every operation keeps it.
-/

namespace M5Auth.Registration

open FaultyStore FaultyStore.Prog

variable {importKey : P256PublicKey → Bool}

theorem triple_get {β : Type} (f : NvsContent → β) :
    Triple (fun _ => True) (get f) (fun _ _ => True) (fun _ _ => True) :=
  .call (fun _ _ => trivial) fun _ _ _ => trivial

/-- What is read is valid. -/
theorem readRegistration_valid : Triple (fun _ : NvsContent => True) (readRegistration importKey)
    (fun r _ => r.valid importKey = true) (fun _ _ => True) := by
  refine .bind (triple_get _) fun ns => ?_
  cases ns with
  | none => exact .throw fun _ _ => trivial
  | some ns =>
    refine .bind (triple_get _) fun size => ?_
    cases size with
    | none => exact .throw fun _ _ => trivial
    | some size =>
      refine .ite (fun _ => .throw fun _ _ => trivial) fun _ => .bind
        (Q := fun r c => r = c.active.bind (decodeRegistration importKey))
        (.call (fun _ _ => rfl) fun _ _ _ => trivial) fun r => ?_
      cases r with
      | none => exact .throw fun _ _ => trivial
      | some r =>
        refine .pure fun c h => ?_
        obtain ⟨encoded, _, hdecode⟩ := Option.bind_eq_some_iff.1 h.symm
        exact (decodeRegistration_valid hdecode).2

namespace Store

variable {st : Store}

/-- A registration that is shown is a valid one. -/
def Genuine (importKey : P256PublicKey → Bool) (st : Store) : Prop :=
  st.snapshot.registrationPresent = true → st.snapshot.toRecord.valid importKey = true

/-- Only the snapshot counts. -/
theorem Genuine.congr {st' : Store} (h : Genuine importKey st)
    (he : st'.snapshot = st.snapshot) : Genuine importKey st' := by
  rw [Genuine, he]
  exact h

theorem genuine_bare (deviceId : DeviceId) (he : st.snapshot = bare deviceId) :
    Genuine importKey st := by
  intro hp
  rw [he] at hp
  cases hp

theorem genuine_loadRegistration (st : Store) :
    Genuine importKey (st.loadRegistration importKey).2 := by
  rcases hr : readRegistration importKey st.nvs with ⟨res, nvs'⟩
  have hvalid := readRegistration_valid st.nvs trivial res nvs' hr
  rw [load_eq st hr]
  cases res with
  | ok r => exact fun _ => hvalid
  | error status => exact genuine_bare _ rfl

theorem Genuine.persistRegistration (h : Genuine importKey st) (r : Record) :
    Genuine importKey (st.persistRegistration importKey r).2 := by
  unfold Store.persistRegistration
  split
  · exact h
  · rename_i hvalid
    rcases hw : writeRegistration r st.nvs with ⟨res, nvs'⟩
    rw [run_eq hw]
    cases res with
    | ok _ => exact fun _ => (by simpa using hvalid : r.valid importKey = true)
    | error status => exact h.congr rfl

theorem Genuine.installInitial (h : Genuine importKey st) (r : Record) :
    Genuine importKey (st.installInitial importKey r).2 := by
  have hload : Genuine importKey (st.loadRegistration importKey).2 := genuine_loadRegistration st
  unfold Store.installInitial
  split
  · exact h
  · dsimp only
    split
    · exact hload
    · split
      · exact hload
      · exact hload.persistRegistration r

theorem Genuine.replace (h : Genuine importKey st) (expectedEpoch : UInt32) (r : Record) :
    Genuine importKey (st.replace importKey expectedEpoch r).2 := by
  have hload : Genuine importKey (st.loadRegistration importKey).2 := genuine_loadRegistration st
  unfold Store.replace
  split
  · exact h
  · dsimp only
    split
    · exact hload
    · split
      · exact hload
      · exact hload.persistRegistration r

theorem Genuine.cleared (h : Genuine importKey st) (p : NvsProg Unit) :
    Genuine importKey (st.cleared p).2 := by
  rcases hr : p st.nvs with ⟨res, nvs'⟩
  rw [Store.cleared, run_eq hr]
  cases res with
  | ok _ => exact genuine_bare _ rfl
  | error status => exact h.congr rfl

theorem Genuine.clearRegistration (h : Genuine importKey st) :
    Genuine importKey st.clearRegistration.2 := by
  have hcount : Genuine importKey { st with clears := st.clears + 1 } := h.congr rfl
  unfold Store.clearRegistration
  dsimp only
  split
  · exact hcount
  · exact hcount.cleared _

theorem Genuine.clearCorrupt (h : Genuine importKey st) :
    Genuine importKey st.clearCorruptRegistrationForRecovery.2 := by
  have hcount : Genuine importKey { st with clears := st.clears + 1 } := h.congr rfl
  unfold clearCorruptRegistrationForRecovery
  split
  · exact h.clearRegistration
  · dsimp only
    split
    · exact hcount
    · split
      · exact hcount.cleared _
      · exact hcount.cleared _

theorem genuine_initialize (st : Store) (candidate : DeviceIdCandidate) :
    Genuine importKey (st.initializeStore importKey candidate).2 := by
  rcases hp : loadOrCreateDeviceId candidate st.nvs with ⟨res, nvs'⟩
  have hrun : st.blank.run (loadOrCreateDeviceId candidate) = (res, st.blank.withNvs nvs') :=
    run_eq hp
  rw [initializeStore, hrun]
  cases res with
  | error status =>
    dsimp only
    split
    · exact genuine_bare _ rfl
    · exact genuine_bare (Bytes.zero 16) rfl
  | ok deviceId =>
    have hload : Genuine importKey
        (((st.blank.withNvs nvs').withSnapshot (bare deviceId)).loadRegistration importKey).2 :=
      genuine_loadRegistration _
    dsimp only
    split
    · exact genuine_bare _ rfl
    · split
      · exact genuine_bare (Bytes.zero 16) rfl
      · exact hload.congr rfl

end Store

end M5Auth.Registration
