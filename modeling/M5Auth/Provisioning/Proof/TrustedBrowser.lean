import M5Auth.Provisioning.PowerCycle
import M5Auth.Provisioning.Proof.ReplacementCases

/-!
# One trusted browser at a time

Runs of steps and power cycles on registration NVS whose failing writes store nothing.
`SingleTrustedBrowser` collects what holds of the stored registration along such a run: its epochs
only move forward, by one for each replacement, the Device ID stays, and an unlock or a re-key is
completed by the stored registration only. `single_trusted_browser`: every run has it.

`registration_step` says what a step does to the stored registration, and `Described` is the
invariant of the run.
-/

namespace M5Auth.Provisioning.Device

open Registration (EpochStep NvsContent Stored)
open Registration.Store (Truthful)
open FaultyStore (World)
open Run (StepAt stateAt)
open Session (BeginContext)

variable {σ : Type} {env : Env σ} {d d' : Device σ}

/-- What the registration partition holds. -/
abbrev stored (d : Device σ) : NvsContent := d.registration.nvs.content

/-! ## The stored registration in a step -/

theorem ready_of_notRequired (h : d.decision = .notRequired) : d.registration.ready = true := by
  by_contra hready
  rw [Bool.not_eq_true] at hready
  unfold decision recoveryResetDecision at h
  split at h
  · cases h
  · simp only [classifyRecoveryReset, Registration.Store.readSnapshot, hready, Bool.not_false,
      if_true] at h
    cases havailable : d.registration.recoveryResetAvailable <;>
      simp only [havailable, if_true, Bool.false_eq_true, if_false] at h <;> split at h
    · split at h
      · cases h
      · cases h
    · cases h
    · split at h
      · cases h
      · cases h
    · cases h

theorem clearRegistration_clears (st : Registration.Store) :
    st.clearRegistration.2.clears = st.clears + 1 := by
  unfold Registration.Store.clearRegistration
  dsimp only
  split
  · rfl
  · unfold Registration.Store.cleared Registration.Store.run
    rcases Registration.eraseRegistration _ with ⟨_ | _, nvs⟩ <;> rfl

theorem clearCorrupt_clears (st : Registration.Store) :
    st.clearCorruptRegistrationForRecovery.2.clears = st.clears + 1 := by
  unfold Registration.Store.clearCorruptRegistrationForRecovery
  split
  · exact clearRegistration_clears st
  · dsimp only
    split
    · rfl
    · split
      · unfold Registration.Store.cleared Registration.Store.run
        rcases Registration.recoverDeviceId _ _ with ⟨_ | _, nvs⟩ <;> rfl
      · unfold Registration.Store.cleared Registration.Store.run
        rcases Registration.eraseRegistration _ with ⟨_ | _, nvs⟩ <;> rfl

/-- The confirmed recovery of a Device whose stored Device ID is none. -/
def RecoversDeviceId (env : Env σ) (d : Device σ) (i : Input) (d' : Device σ) : Prop :=
  (∀ id : Registration.DeviceIdCandidate, d.stored.deviceId ≠ some id.1.1) ∧
    Requests env (fun h frame m d' => ResetDone env h frame m .recovery d') d i d'

/-- What a step does to the stored registration. -/
structure RegistrationStep (env : Env σ) (d : Device σ) (i : Input) (d' : Device σ) : Prop where
  truthful : Truthful env.prims.importKey d'.registration
  epochs : d'.registration.clears = d.registration.clears →
    EpochStep env.prims.importKey d.stored d'.stored
  deviceId : d'.stored.deviceId = d.stored.deviceId ∨ RecoversDeviceId env d i d'

/-- The registration that a bound replacement meets is the one before it. -/
theorem replaced_next (ht : Truthful env.prims.importKey d.registration) (hb : d.Bound d.context)
    (hrep : d.Replacing) : ∃ r, Stored env.prims.importKey d.stored r ∧
      (proposedRecord d.context).registrationId ≠ r.registrationId ∧
      (proposedRecord d.context).brkPublicKey ≠ r.brkPublicKey := by
  have hdesc := hb.describedBy
  have hvault : d.runtime.hasVault = true := by
    rcases hrep with hop | ⟨_, hv⟩
    · exact hdesc.replacement hop
    · exact hv
  have hop : d.context.operation = .recovery ∨ d.context.operation = .browserReplacement := by
    rcases hrep with hop | ⟨hop, _⟩
    · exact .inr hop
    · exact .inl hop
  obtain ⟨_, _, hid, hbrk⟩ := hdesc.recovery hop hvault
  exact ⟨_, ht.registered (hdesc.paired.1 ▸ hvault), hid, hbrk⟩

theorem RegistrationStep.of_store {i : Input} {st : Registration.Store}
    (hreg : d'.registration = st) (ht : Truthful env.prims.importKey st)
    (hepochs : st.clears = d.registration.clears →
      EpochStep env.prims.importKey d.stored st.nvs.content)
    (hid : st.nvs.content.deviceId = d.stored.deviceId ∨ RecoversDeviceId env d i d') :
    RegistrationStep env d i d' := by
  subst hreg
  exact ⟨ht, hepochs, hid⟩

/-- A clear: the Device ID is kept, or a confirmed recovery found none. -/
theorem cleared_step (ht : Truthful env.prims.importKey d.registration) {i : Input}
    {kind : ResetKind}
    (hdone : Requests env (fun h frame m d' => ResetDone env h frame m kind d') d i d')
    (hreg : d'.registration = d.registration.clearRegistration.2 ∨
      d'.registration = d.registration.clearCorruptRegistrationForRecovery.2) :
    RegistrationStep env d i d' := by
  rcases hreg with hreg | hreg
  · obtain ⟨ht', hid⟩ := Registration.Store.clearRegistration_truthful ht
    refine .of_store hreg ht' (fun h => ?_) (.inl hid)
    rw [clearRegistration_clears] at h
    omega
  · obtain ⟨ht', hid⟩ := Registration.Store.clearCorrupt_truthful ht
    refine .of_store hreg ht' (fun h => ?_) ?_
    · rw [clearCorrupt_clears] at h
      omega
    cases kind with
    | recovery => exact hid.imp_right fun hinvalid => ⟨hinvalid, hdone⟩
    | healthy =>
      -- a healthy reset meets a store that is ready, which keeps its Device ID
      obtain ⟨line, m, frame, _, _, hdone⟩ := hdone
      have hallowed : (d.housekeeping m.nowMs).healthyResetAllowed = true := hdone.eligible
      simp only [healthyResetAllowed, Bool.and_eq_true, beq_iff_eq] at hallowed
      have hready := ready_of_notRequired hallowed.1
      rw [(quiet_housekeeping env d m.nowMs).registration] at hready
      left
      rw [Registration.Store.clearCorruptRegistrationForRecovery, if_pos hready]
      exact (Registration.Store.clearRegistration_truthful ht).2

/-- **The stored registration in one step.** -/
theorem registration_step (ht : Truthful env.prims.importKey d.registration) (i : Input) :
    RegistrationStep env d i (d.step env i) := by
  rcases registration_cases env d i with hreg | ⟨line, m, frame, rfl, hacc, heffect⟩
  · exact .of_store hreg ht (fun _ => .refl _) (.inl rfl)
  have hk : (d.housekeeping m.nowMs).registration = d.registration :=
    (quiet_housekeeping env d m.nowMs).registration
  cases heffect with
  | kept hreg => exact .of_store (hreg.trans hk) ht (fun _ => .refl _) (.inl rfl)
  | installed record _ hreg =>
    obtain ⟨status, nvs, snapshot, he, ht', hid, hepochs⟩ :=
      Registration.Store.installInitial_atomic ht record
    rw [hk, he] at hreg
    exact .of_store hreg ht' (fun _ => hepochs) (.inl hid)
  | replaced _ hcomp hrep status hreg =>
    obtain ⟨r, hr, hid, hbrk⟩ := replaced_next (hk.symm ▸ ht) hcomp.bound.2 hrep
    rw [stored, hk] at hr
    obtain ⟨status', nvs, snapshot, he, ht', hdev, hcase⟩ :=
      Registration.Store.replace_atomic ht
        ((d.housekeeping m.nowMs).context.registrationEpoch - 1)
        (proposedRecord (d.housekeeping m.nowMs).context)
    rw [hk, he] at hreg
    refine .of_store (congrArg Prod.snd hreg).symm ht' (fun _ => ?_) (.inl hdev)
    rcases hcase with ⟨_, hstored, old, hold, hvault, hbound, hnext⟩ | ⟨_, hactive⟩
    · obtain rfl := hold.unique hr
      exact .replaced _ _ hold hstored ⟨hvault, hbound, hnext, hid, hbrk⟩
    · exact .kept hactive
  | cleared kind hdone hreg =>
    rw [hk] at hreg
    exact cleared_step ht ⟨line, m, frame, rfl, hacc, hdone⟩ hreg

/-! ## The registration an attempt is bound to -/

/-- The registration named by the context is the stored one. -/
def NamedBy (importKey : Registration.P256PublicKey → Bool) (c : NvsContent)
    (context : BeginContext) (r : Registration.Record) : Prop :=
  Stored importKey c r ∧ context.registrationId = r.registrationId ∧
    context.registrationEpoch = r.epoch ∧ context.currentBrkPublicKey = r.brkPublicKey

/-- A signed operation is bound to the stored registration. -/
theorem DescribedBy.named {context : BeginContext} (h : d.DescribedBy context)
    (ht : Truthful env.prims.importKey d.registration)
    (hsigned : context.operation.signatureRequired = true) :
    NamedBy env.prims.importKey d.stored context d.registration.snapshot.toRecord := by
  obtain ⟨hvault, hid, hepoch, hbrk⟩ := h.registered hsigned
  exact ⟨ht.registered (h.paired.1 ▸ hvault), hid, hepoch, hbrk⟩

/-- What holds in every state of a Device's life. -/
structure Described (env : Env σ) (d : Device σ) : Prop where
  auth : AuthInv d
  truthful : Truthful env.prims.importKey d.registration
  /-- A key that is held for a re-key was delivered under the stored registration. -/
  rekey : d.sink.pending = true → d.sink.context.operation = .vmkRekey →
    ∃ r, NamedBy env.prims.importKey d.stored d.sink.context r

theorem Described.boot (env : Env σ) (storage : σ) {nvs : Registration.Nvs} (hw : nvs.Untorn)
    (candidate : Registration.DeviceIdCandidate) : Described env (boot env storage nvs candidate) where
  auth := .of_idle (idle_boot env storage nvs candidate)
  truthful := (Registration.Store.initialize_atomic env.prims.importKey hw candidate).1
  rekey hp := by cases hp

/-- A pending re-key survives the steps that leave the slot and the registration alone. -/
theorem Described.rekey_withdraws (h : Described env d) (hw : Withdraws d d')
    (hreg : d'.registration = d.registration) (hp : d'.sink.pending = true)
    (hop : d'.sink.context.operation = .vmkRekey) :
    ∃ r, NamedBy env.prims.importKey d'.stored d'.sink.context r := by
  obtain ⟨hp', hctx, _⟩ := hw.pending hp
  rw [hctx] at hop ⊢
  rw [stored, hreg]
  exact h.rekey hp' hop

/-- The slot after a request. -/
theorem Described.rekey_request (h : Described env d) {frame : Frame} {m : Moment}
    {response : Response} (he : RequestEffect env d frame m response d')
    (hp : d'.sink.pending = true) (hop : d'.sink.context.operation = .vmkRekey) :
    ∃ r, NamedBy env.prims.importKey d'.stored d'.sink.context r := by
  have hnone {P : Prop} (h : d'.sink.pending = false) : P := by
    rw [hp] at h
    cases h
  cases he with
  | session he =>
    cases he with
    | quiet hq => exact h.rekey_withdraws hq.toWithdraws hq.registration hp hop
    | begun context descriptor hb => exact hnone hb.pending
    | authorized webPublicKey transcript signature ha =>
      rw [ha.sink] at hp hop ⊢
      rw [stored, ha.registration]
      exact h.rekey hp hop
    | completed vmk hc =>
      cases hc.delivered with
      | dropped hp' _ _ => exact hnone hp'
      | tried hp' _ _ _ => exact hnone hp'
      | held _ hctx _ _ _ hreg =>
        rw [hctx] at hop ⊢
        rw [stored, hreg]
        exact ⟨_, hc.bound.2.describedBy.named h.truthful (by rw [hop]; rfl)⟩
  | resetBegun kind attemptId hb => exact hnone hb.pending
  | resetDone kind hd =>
    have hno := (h.auth.alone kind hd.active.1).1.2.2
    rw [(hd.withdraws.pending hp).1] at hno
    cases hno
  | installed hi => exact hnone hi.closed
  | rekeyed hr => exact hnone hr.closed

theorem Described.quiet (h : Described env d) (hq : Quiet env d d') : Described env d' where
  auth := h.auth.quiet hq
  truthful := by
    rw [hq.registration]
    exact h.truthful
  rekey hp hop := h.rekey_withdraws hq.toWithdraws hq.registration hp hop

/-- **A step keeps the invariant.** -/
theorem Described.step (h : Described env d) (i : Input) : Described env (d.step env i) where
  auth := h.auth.step i
  truthful := (registration_step h.truthful i).truthful
  rekey hp hop := by
    cases step_cases env d i with
    | quiet hq => exact h.rekey_withdraws hq.toWithdraws hq.registration hp hop
    | pressed hpr _ =>
      rw [hpr.sink] at hp hop ⊢
      rw [stored, hpr.registration]
      exact h.rekey hp hop
    | request line m frame response _ _ he =>
      exact (h.quiet (quiet_housekeeping env d m.nowMs)).rekey_request he hp hop

theorem Described.next (h : Described env d) (e : Event) : Described env (d.next env e) := by
  cases e with
  | input i => exact h.step i
  | reboot candidate => exact .boot env d.runtime.persistence h.truthful.untorn candidate

/-! ## Runs -/

/-- The event handles an accepted request that it answers with success. -/
def Succeeds (env : Env σ) (P : Device σ → Frame → Prop) (d : Device σ) (e : Event)
    (_ : Device σ) : Prop :=
  ∃ line m frame, e = .input (.line line m) ∧ Accepted env line frame ∧
    (d.handleLine env line m).1.ok = true ∧ P (d.housekeeping m.nowMs) frame

/-- A replacement of the registration that is reported as successful. -/
def ReplacesRegistration (env : Env σ) (context : BeginContext) : Device σ → Event → Device σ → Prop :=
  Succeeds env fun h frame => frame.operation = .session .complete ∧ h.context = context ∧
    h.Replacing

/-- A trusted unlock or re-key attempt is completed. -/
def CompletesTrusted (env : Env σ) (context : BeginContext) :
    Device σ → Event → Device σ → Prop :=
  Succeeds env fun h frame => frame.operation = .session .complete ∧ h.context = context ∧
    context.operation.signatureRequired = true

/-- A re-keyed Vault is stored under the key of a completed attempt. -/
def StoresRekeyed (env : Env σ) (context : BeginContext) : Device σ → Event → Device σ → Prop :=
  Succeeds env fun h frame => frame.operation = .vaultRekey ∧ h.sink.context = context

/-- The event asks the store for a clear of the registration. -/
def Clears (d : Device σ) (e : Event) (d' : Device σ) : Prop :=
  ∃ i, e = .input i ∧ d'.registration.clears ≠ d.registration.clears

/-- The event is a step of this kind. -/
def Steps (P : Device σ → Input → Device σ → Prop) (d : Device σ) (e : Event) (d' : Device σ) :
    Prop := ∃ i, e = .input i ∧ P d i d'

/-- An authorization of the attempt whose signature verifies under `brkPublicKey`. -/
def AuthorizedUnder (env : Env σ) (r : AttemptRecord)
    (brkPublicKey : Registration.P256PublicKey) : Device σ → Event → Device σ → Prop :=
  Steps fun d i d' => r.Authorizes env d i d' ∧ Requests env (fun _ frame _ _ =>
    ∃ signature, parseAuthorize frame.params =
        some ⟨r.descriptor.attemptId, r.webPublicKey, signature⟩ ∧
      env.prims.verifyBrk brkPublicKey r.transcript signature = true) d i d'

/-- **One trusted browser at a time**, along the run of the Device `d₀` through the events. -/
structure SingleTrustedBrowser (env : Env σ) (d₀ : Device σ) (events : Nat → Event) : Prop where
  /-- Without a clear the stored registration is kept, is the first one, or is the next one. -/
  epochs : ∀ n, ¬ StepAt (next env) d₀ events Clears n → EpochStep env.prims.importKey
    (stateAt (next env) d₀ events n).stored (stateAt (next env) d₀ events (n + 1)).stored
  /-- Without a clear a later registration is the same one or has a larger epoch. -/
  later : ∀ m n r, m ≤ n → (∀ k, m ≤ k → k < n → ¬ StepAt (next env) d₀ events Clears k) →
    Stored env.prims.importKey (stateAt (next env) d₀ events m).stored r →
    ∃ r', Stored env.prims.importKey (stateAt (next env) d₀ events n).stored r' ∧
      (r' = r ∨ r.epoch < r'.epoch)
  /-- A successful replacement stores the next registration, which is the proposed one. -/
  replaced : ∀ n context, StepAt (next env) d₀ events (ReplacesRegistration env context) n → ∃ r,
    Stored env.prims.importKey (stateAt (next env) d₀ events n).stored r ∧
    Stored env.prims.importKey (stateAt (next env) d₀ events (n + 1)).stored
      (proposedRecord context) ∧ r.Next (proposedRecord context)
  /-- Only a confirmed recovery that finds no valid Device ID changes the stored one. -/
  deviceId : ∀ n, (stateAt (next env) d₀ events n).stored.deviceId ≠ none →
    (stateAt (next env) d₀ events (n + 1)).stored.deviceId =
        (stateAt (next env) d₀ events n).stored.deviceId ∨
      StepAt (next env) d₀ events (Steps (RecoversDeviceId env)) n
  /-- The Device goes by its stored Device ID. -/
  identity : ∀ n, (stateAt (next env) d₀ events n).registration.ready = true →
    (stateAt (next env) d₀ events n).stored.deviceId =
      some (stateAt (next env) d₀ events n).registration.snapshot.deviceId.1
  /-- An unlock or a re-key is completed by the registration stored then, under whose key the
  browser had signed the attempt. -/
  completed : ∀ n context, StepAt (next env) d₀ events (CompletesTrusted env context) n →
    ∃ r attempt a, NamedBy env.prims.importKey (stateAt (next env) d₀ events n).stored context r ∧
      attempt.context = context ∧ attempt.Authorized (stateAt (next env) d₀ events n) ∧ a < n ∧
      StepAt (next env) d₀ events (AuthorizedUnder env attempt r.brkPublicKey) a
  /-- A re-keyed Vault is stored under the registration stored then. -/
  rekeyed : ∀ n context, StepAt (next env) d₀ events (StoresRekeyed env context) n →
    ∃ r, NamedBy env.prims.importKey (stateAt (next env) d₀ events n).stored context r

section
variable {d₀ : Device σ} {events : Nat → Event}

theorem described_stateAt (h : Described env d₀) (n : Nat) :
    Described env (stateAt (next env) d₀ events n) :=
  Run.stateAt_inv h (fun _ e hd => hd.next e) n

/-- An event at the registration store. -/
theorem epochs_next (ht : Truthful env.prims.importKey d.registration) (e : Event)
    (hclear : ¬ Clears d e (d.next env e)) :
    EpochStep env.prims.importKey d.stored (d.next env e).stored := by
  cases e with
  | input i =>
    refine (registration_step ht i).epochs ?_
    by_contra hne
    exact hclear ⟨i, rfl, hne⟩
  | reboot candidate =>
    exact .kept (Registration.Store.initialize_atomic env.prims.importKey ht.untorn candidate).2.1

theorem deviceId_next (ht : Truthful env.prims.importKey d.registration) (e : Event)
    (hid : d.stored.deviceId ≠ none) :
    (d.next env e).stored.deviceId = d.stored.deviceId ∨
      Steps (RecoversDeviceId env) d e (d.next env e) := by
  cases e with
  | input i => exact (registration_step ht i).deviceId.imp_right fun h => ⟨i, rfl, h⟩
  | reboot candidate =>
    left
    rcases (Registration.Store.initialize_atomic env.prims.importKey ht.untorn candidate).2.2
      with hnone | hsame
    · exact absurd hnone hid
    · exact hsame

/-- The epochs of two registrations that are stored one after the other. -/
theorem epoch_lt_of_next {r r' : Registration.Record} (h : r.Next r') : r.epoch < r'.epoch := by
  rw [UInt32.lt_iff_toNat_lt, h.epoch_toNat]
  omega

theorem later_stored (h : Described env d₀) {m : Nat} {r : Registration.Record}
    (hr : Stored env.prims.importKey (stateAt (next env) d₀ events m).stored r) (k : Nat)
    (hclear : ∀ j, m ≤ j → j < m + k → ¬ StepAt (next env) d₀ events Clears j) :
    ∃ r', Stored env.prims.importKey (stateAt (next env) d₀ events (m + k)).stored r' ∧
      (r' = r ∨ r.epoch < r'.epoch) := by
  induction k with
  | zero => exact ⟨r, hr, .inl rfl⟩
  | succ k ih =>
    obtain ⟨r', hr', hlt⟩ := ih fun j hj hj' => hclear j hj (by omega)
    have hstep := epochs_next (described_stateAt h (m + k)).truthful (events (m + k))
      (hclear (m + k) (by omega) (by omega))
    cases hstep with
    | kept hactive => exact ⟨r', hr'.of_active hactive, hlt⟩
    | first _ absent _ _ =>
      rw [Stored, absent] at hr'
      cases hr'
    | replaced old r'' before stored next =>
      obtain rfl := before.unique hr'
      have hnext := epoch_lt_of_next next
      refine ⟨r'', stored, .inr ?_⟩
      rcases hlt with rfl | hlt
      · exact hnext
      · exact UInt32.lt_trans hlt hnext

/-- A successful completion comes from a bound attempt. -/
theorem completable_of_ok {line : List UInt8} {m : Moment} {frame : Frame}
    (hacc : Accepted env line frame) (hop : frame.operation = .session .complete)
    (hok : (d.handleLine env line m).1.ok = true) :
    (d.housekeeping m.nowMs).Completable ∧
      Replacement env (d.housekeeping m.nowMs) true (d.step env (.line line m)) := by
  obtain ⟨r, d', he, hcase⟩ := complete_replaces env (d.housekeeping m.nowMs) m hop
    hacc.nonempty hacc.read
  have hline : d.handleLine env line m = (r, d') := by
    rw [handleLine, dispatch_accepted (d.housekeeping m.nowMs) m hacc, he]
  rw [step, hline]
  rw [hline] at hok
  rcases hcase with ⟨hno, _⟩ | ⟨hcomp, hrep⟩
  · rw [show r.ok = true from hok] at hno
    cases hno
  · rw [show r.ok = true from hok] at hrep
    exact ⟨hcomp, hrep⟩

theorem replaced_of_replaces (hd : Described env d) {context : BeginContext} {e : Event}
    (h : ReplacesRegistration env context d e (d.next env e)) :
    ∃ r, Stored env.prims.importKey d.stored r ∧
      Stored env.prims.importKey (d.next env e).stored (proposedRecord context) ∧
      r.Next (proposedRecord context) := by
  obtain ⟨line, m, frame, rfl, hacc, hok, hop, rfl, hrep⟩ := h
  have hk : (d.housekeeping m.nowMs).registration = d.registration :=
    (quiet_housekeeping env d m.nowMs).registration
  obtain ⟨hcomp, hreplacement⟩ := completable_of_ok hacc hop hok
  obtain ⟨r, hr, hid, hbrk⟩ := replaced_next (hk.symm ▸ hd.truthful) hcomp.bound.2 hrep
  rw [stored, hk] at hr
  cases hreplacement with
  | untouched _ failed => cases failed hrep
  | tried status _ hreg hstored =>
    obtain rfl := hstored rfl
    obtain ⟨status', nvs, snapshot, he, _, _, hcase⟩ :=
      Registration.Store.replace_atomic hd.truthful
        ((d.housekeeping m.nowMs).context.registrationEpoch - 1)
        (proposedRecord (d.housekeeping m.nowMs).context)
    rw [hk, he] at hreg
    obtain ⟨rfl, hreg'⟩ := Prod.mk.inj hreg
    rcases hcase with ⟨_, hnew, old, hold, hvault, hbound, hnext⟩ | ⟨hne, _⟩
    · obtain rfl := hold.unique hr
      refine ⟨old, hold, ?_, hvault, hbound, hnext, hid, hbrk⟩
      show Stored env.prims.importKey (d.step env (.line line m)).registration.nvs.content _
      rw [← hreg']
      exact hnew
    · exact absurd rfl hne

/-- An authorized attempt was authorized since the last power-on. -/
theorem authorized_since (h : Described env d₀) (hno : d₀.coordinator.attempt.active = false)
    {r : AttemptRecord} {n : Nat} (hr : r.Authorized (stateAt (next env) d₀ events n)) :
    ∃ a, a < n ∧ StepAt (next env) d₀ events (Steps (r.Authorizes env)) a := by
  have hoff {d : Device σ} (hd : d.coordinator.attempt.active = false) : ¬ r.Authorized d := by
    intro hr
    rw [show d.coordinator.attempt = _ from hr] at hd
    cases hd
  obtain ⟨a, ha⟩ := Run.since (A := r.Authorized) (J := Described env) (C := fun _ _ => True)
    (B := Steps (r.Authorizes env)) (Q := fun _ _ _ => True) (hoff hno) (described_stateAt h)
    (fun d e hd _ hs => by
      cases e with
      | input i =>
        exact (authorized_origin hd.auth i hs).imp (fun h => ⟨i, rfl, h⟩) fun h => ⟨h, trivial⟩
      | reboot candidate => exact absurd hs (hoff rfl))
    (fun _ _ => trivial) hr
  exact ⟨a, ha.before, ha.begun⟩

/-- The signature of a signed attempt verifies under the key of its context. -/
theorem authorizedUnder_of_authorizes {r : AttemptRecord} {e : Event}
    (h : Steps (r.Authorizes env) d e d') (hsigned : r.context.operation.signatureRequired = true) :
    AuthorizedUnder env r r.context.currentBrkPublicKey d e d' := by
  obtain ⟨i, hi, hauth⟩ := h
  refine ⟨i, hi, hauth, hauth.mono fun m frame _ hauth => ?_⟩
  obtain ⟨_, hbound, _, _, ⟨signature, hparse, hverify⟩, _⟩ := hauth
  obtain ⟨_, _, _, hbrk⟩ := hbound.describedBy.registered hsigned
  exact ⟨signature, hparse, by rw [hbrk]; exact hverify hsigned⟩

theorem completed_at (h : Described env d₀) (hno : d₀.coordinator.attempt.active = false)
    {n : Nat} {context : BeginContext}
    (hc : StepAt (next env) d₀ events (CompletesTrusted env context) n) :
    ∃ r attempt a, NamedBy env.prims.importKey (stateAt (next env) d₀ events n).stored context r ∧
      attempt.context = context ∧ attempt.Authorized (stateAt (next env) d₀ events n) ∧ a < n ∧
      StepAt (next env) d₀ events (AuthorizedUnder env attempt r.brkPublicKey) a := by
  obtain ⟨line, m, frame, _, hacc, hok, hop, rfl, hsigned⟩ := hc
  have hd : Described env (stateAt (next env) d₀ events n) := described_stateAt h n
  have hq : Quiet env _ ((stateAt (next env) d₀ events n).housekeeping m.nowMs) :=
    quiet_housekeeping env _ m.nowMs
  have hd' := hd.quiet hq
  obtain ⟨hcomp, _⟩ := completable_of_ok hacc hop hok
  obtain ⟨context, descriptor, webPublicKey, transcript, hatt⟩ :=
    hd'.auth.authorizedOf hcomp.active.1 hcomp.active.2
  have hctx := hd'.auth.context hcomp.active.1 hcomp.bound.1
  rw [hatt] at hctx
  have hctx' : context = ((stateAt (next env) d₀ events n).housekeeping m.nowMs).context := hctx
  have hauthorized : (⟨context, descriptor, webPublicKey, transcript⟩ : AttemptRecord).Authorized
      (stateAt (next env) d₀ events n) := by
    have he := hq.attempt (by rw [hatt]; rfl)
    rw [AttemptRecord.Authorized, ← he]
    exact hatt
  obtain ⟨a, ha, hstep⟩ := authorized_since h hno hauthorized
  have hnamed := hcomp.bound.2.describedBy.named hd'.truthful hsigned
  rw [stored, hq.registration] at hnamed
  have hbrk := hnamed.2.2.2
  rw [← hctx'] at hsigned hbrk
  refine ⟨_, _, a, hnamed, hctx', hauthorized, ha, ?_⟩
  rw [← hbrk]
  exact authorizedUnder_of_authorizes hstep hsigned

/-- A re-key needs the key that a re-key attempt delivered. -/
theorem pending_of_rekeyed {id : Nat} {params : Json} {nowMs : UInt64}
    (h : (d.vaultRekey env id params nowMs).1.ok = true) :
    d.sink.pending = true ∧ d.sink.context.operation = .vmkRekey := by
  unfold vaultRekey at h
  split at h
  · cases h
  · rename_i envelope expectedGeneration _
    cases hvalid : (d.expirePending nowMs).pendingValid .vmkRekey with
    | false =>
      rw [installRekeyedVault] at h
      simp only [hvalid, Bool.not_false, Bool.true_or, if_true] at h
      cases h
    | true =>
      simp only [pendingValid, Bool.and_eq_true, beq_iff_eq] at hvalid
      unfold expirePending at hvalid
      split at hvalid
      · exact ⟨hvalid.1.1, hvalid.2⟩
      · cases hvalid.1.1

theorem rekeyed_at (hd : Described env d) {context : BeginContext} {e : Event}
    (h : StoresRekeyed env context d e d') : ∃ r, NamedBy env.prims.importKey d.stored context r := by
  obtain ⟨line, m, frame, rfl, hacc, hok, hop, rfl⟩ := h
  have hq : Quiet env d (d.housekeeping m.nowMs) := quiet_housekeeping env d m.nowMs
  rw [handleLine, dispatch_accepted (d.housekeeping m.nowMs) m hacc, handleRequest, hop] at hok
  obtain ⟨hp, hkind⟩ := pending_of_rekeyed hok
  obtain ⟨r, hr⟩ := (hd.quiet hq).rekey hp hkind
  rw [stored, hq.registration] at hr
  exact ⟨r, hr⟩

/-- **One trusted browser at a time**, in every life of a Device whose failing registration writes
store nothing. -/
theorem single_trusted_browser (env : Env σ) (storage : σ) {nvs : Registration.Nvs}
    (hw : nvs.Untorn) (candidate : Registration.DeviceIdCandidate) (events : Nat → Event) :
    SingleTrustedBrowser env (boot env storage nvs candidate) events := by
  have h := Described.boot env storage hw candidate
  have hd (n : Nat) :
      Described env (stateAt (next env) (boot env storage nvs candidate) events n) :=
    described_stateAt h n
  exact
    { epochs := fun n hclear => epochs_next (hd n).truthful (events n) hclear
      later := fun m n r hmn hclear hr => by
        obtain ⟨k, rfl⟩ := Nat.exists_eq_add_of_le hmn
        exact later_stored h hr k hclear
      replaced := fun n context hn => replaced_of_replaces (hd n) hn
      deviceId := fun n hid => deviceId_next (hd n).truthful (events n) hid
      identity := fun n hready => (hd n).truthful.identity (.inl hready)
      completed := fun n context hn => completed_at h rfl hn
      rekeyed := fun n context hn => rekeyed_at (hd n) hn }

/-- The unlock of a Device with a registration, before and after a loss of power. -/
theorem single_trusted_browser_sample : SingleTrustedBrowser sampleEnv sampleBoot
    fun n => if n = 7 then .reboot ⟨ones 16, rfl⟩ else .input (sampleInputs (n % 8)) :=
  single_trusted_browser sampleEnv sampleVault World.untorn_reliable ⟨ones 16, rfl⟩ _

end

end M5Auth.Provisioning.Device
