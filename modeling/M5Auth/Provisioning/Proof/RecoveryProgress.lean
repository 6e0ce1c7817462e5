import M5Auth.Provisioning.PowerCycle
import M5Auth.Provisioning.Proof.AutomaticLock
import M5Auth.Provisioning.Proof.BootRecovery
import M5Auth.Provisioning.Proof.RejectedFrames
import M5Auth.Provisioning.Proof.ReplacementCases
import M5Auth.Registration.Proof.Clears

/-!
# A confirmed recovery reset

From `recovery_begin` to `recovery_complete`: the Device in between only waits for the user
(`Awaits`), so the completion classifies it from the runtime and the registration that the begin
left behind (`decision_boundary`). `recovery_progress_iff`: a confirmed completion whose storage
works resets the Device, but for one state. A runtime in `kReprovisionRequired` crosses the
recovery boundary into `kUnprovisioned`; without a registration the Device is then classified as
not needing the reset that its user has just confirmed.
-/

namespace M5Auth.Provisioning

open FaultyStore
open VaultRuntime (AuthNvs Runtime compatibleNvsPersistence)

/-- The environment of the firmware: the Vault lives in NVS. -/
def Env.onNvs {σ : Type} (env : Env σ) : Env AuthNvs where
  persistence := compatibleNvsPersistence
  prims := env.prims
  parse := env.parse
  resetAttemptId := env.resetAttemptId
  metadata := env.metadata

namespace Device

open Registration.Store (Serviceable)
open Run (StepAt stateAt)
open Session (AttemptId deadlineFrom)

variable {σ : Type} {env : Env σ} {d d₀ d' : Device σ}

/-! ## Every state -/

/-- What holds in every state, whatever storage calls failed. -/
structure Sane (d : Device σ) : Prop where
  auth : AuthInv d
  runtime : Runtime.Inv d.runtime
  registration : Serviceable d.registration

theorem serviceable_step (h : Serviceable d.registration) (i : Input) :
    Serviceable (d.step env i).registration := by
  rcases registration_cases env d i with hreg | ⟨line, m, frame, _, _, heffect⟩
  · rw [hreg]
    exact h
  rw [← (quiet_housekeeping env d m.nowMs).registration] at h
  cases heffect with
  | kept hreg =>
    rw [hreg]
    exact h
  | installed record _ hreg =>
    rw [hreg]
    exact h.installInitial record
  | replaced _ _ _ status hreg =>
    rw [show (d.step env i).registration = _ from (congrArg Prod.snd hreg).symm]
    exact h.replace _ _
  | cleared kind _ hreg =>
    rcases hreg with hreg | hreg <;> rw [hreg]
    · exact h.clearRegistration
    · exact h.clearCorrupt

theorem Sane.boot (env : Env σ) (storage : σ) (nvs : Registration.Nvs)
    (candidate : Registration.DeviceIdCandidate) : Sane (boot env storage nvs candidate) where
  auth := .of_idle (idle_boot env storage nvs candidate)
  runtime := .initializeRuntime
  registration := Registration.Store.serviceable_initialize env.prims.importKey nvs candidate

theorem Sane.next (h : Sane d) (e : Event) : Sane (d.next env e) := by
  cases e with
  | input i =>
    exact ⟨h.auth.step i, (step_timed env d i).keeps (fun rt call _ hr => hr.step call) h.runtime,
      serviceable_step h.registration i⟩
  | reboot candidate => exact .boot env d.runtime.persistence d.registration.nvs candidate

theorem sane_stateAt (h : Sane d₀) (events : Nat → Event) (n : Nat) :
    Sane (stateAt (Device.next env) d₀ events n) :=
  Run.stateAt_inv h (fun _ e hd => hd.next e) n

/-! ## Across the boundary -/

/-- The runtime after `recovery_begin`: an error is left as it is. -/
def pastBoundary (rt : Runtime σ) : Runtime σ :=
  if rt.state = .error then rt else rt.enterRecoveryBoundary.2

theorem pastBoundary_cases {rt : Runtime σ} (hi : rt.initialized = true) :
    (rt.state = .error ∧ pastBoundary rt = rt) ∨
    (rt.state ≠ .error ∧ pastBoundary rt = { rt.clearUnlockSessionState with
      state := if rt.hasVault then .locked else .unprovisioned }) := by
  unfold pastBoundary
  by_cases he : rt.state = .error
  · exact .inl ⟨he, if_pos he⟩
  · right
    rw [if_neg he, Runtime.enterRecoveryBoundary_eq_lock]
    refine ⟨he, ?_⟩
    unfold Runtime.lock
    rw [if_neg (by simp [hi])]
    dsimp only
    rw [if_neg (by simpa using he)]
    rfl

theorem pastBoundary_locked {rt : Runtime σ} (hi : rt.initialized = true) :
    (pastBoundary rt).state ≠ .unlocked ∧ (pastBoundary rt).initialized = true := by
  rcases pastBoundary_cases hi with ⟨he, hb⟩ | ⟨_, hb⟩ <;> rw [hb]
  · exact ⟨by rw [he]; decide, hi⟩
  · refine ⟨?_, hi⟩
    dsimp only
    split <;> decide

/-- The state that the recovery boundary declassifies. -/
def Declassified (d : Device σ) : Prop :=
  d.runtime.state = .reprovisionRequired ∧ d.registration.ready = true ∧
    d.registration.snapshot.registrationPresent = false

/-- The store of a Device that needs a reset is ready, or a reset recovers it. -/
theorem settled_of_required (h : d.decision = .required) : Settled d.registration := by
  rcases hr : d.registration.ready with _ | _
  swap
  · exact .inl hr
  rcases ha : d.registration.recoveryResetAvailable with _ | _
  swap
  · exact .inr ⟨hr, ha⟩
  exfalso
  unfold decision recoveryResetDecision at h
  split at h
  · cases h
  · simp only [classifyRecoveryReset, Registration.Store.readSnapshot, hr, ha, Bool.not_false,
      Bool.false_eq_true, if_true, if_false] at h
    split at h
    · split at h <;> cases h
    · cases h

/-- **The classification across the boundary.** -/
theorem decision_boundary (hi : d.runtime.initialized = true) (hinv : Runtime.Inv d.runtime)
    (hreq : d.decision = .required) :
    recoveryResetDecision (pastBoundary d.runtime) d.registration = .required ↔
      ¬ d.Declassified := by
  have hst := settled_of_required hreq
  have hreq' : recoveryResetDecision d.runtime d.registration = .required := hreq
  rcases pastBoundary_cases hi with ⟨he, hb⟩ | ⟨hne, hb⟩
  · rw [hb]
    refine iff_of_true hreq' fun hd => ?_
    rw [hd.1] at he
    cases he
  rw [hb, show recoveryResetDecision { d.runtime.clearUnlockSessionState with
    state := if d.runtime.hasVault then .locked else .unprovisioned } d.registration = _ from
      decision_eq hi hst]
  rw [decision_eq hi hst] at hreq'
  have hstate : ¬ ((if d.runtime.hasVault then VaultRuntime.State.locked else .unprovisioned) =
      .error ∨ (if d.runtime.hasVault then VaultRuntime.State.locked else .unprovisioned) =
      .reprovisionRequired) := by
    split <;> decide
  rw [if_neg hstate]
  simp only [Runtime.clear_hasVault, Runtime.clear_envelope]
  by_cases hrep : d.runtime.state = .reprovisionRequired
  · have hv := hinv.empty (.inr hrep)
    cases hr : d.registration.ready with
    | false => exact iff_of_true (by simp) fun hd => by simp [Declassified, hr] at hd
    | true =>
      cases hp : d.registration.snapshot.registrationPresent with
      | false => exact iff_of_false (by simp [hv]) fun hnot => hnot ⟨hrep, hr, hp⟩
      | true => exact iff_of_true (by simp [hv]) fun hd => by simp [Declassified, hp] at hd
  · rw [if_neg (by simp [hne, hrep])] at hreq'
    exact iff_of_true hreq' fun hd => hrep hd.1

/-! ## The begin -/

/-- The event begins the recovery attempt that it reports. -/
def BeginsRecovery (env : Env σ) (attemptId : AttemptId) (nowMs : UInt64) (d : Device σ)
    (e : Event) (d' : Device σ) : Prop :=
  ∃ line m frame, e = .input (.line line m) ∧ Accepted env line frame ∧
    frame.operation = .recoveryBegin ∧ m.nowMs = nowMs ∧
    (d.handleLine env line m).1 = resetBeginSuccess frame.id attemptId ∧
    d'.recoveryReset.attemptId = attemptId

/-- The Device waits for the confirmation of the attempt that `d₀` has begun. -/
structure Awaits (d₀ d : Device σ) : Prop where
  runtime : d.runtime = d₀.runtime
  registration : d.registration = d₀.registration
  /-- While the gate is served, it is for this attempt and nothing else is active. -/
  attempt : d.presence.gate.state ≠ .idle → d.recoveryReset = d₀.recoveryReset ∧
    d.recoveryReset.active = true ∧
    d.presence.gate.attemptId = d.recoveryReset.attemptId ∧
    d.presence.gate.expiresAtMs = d.recoveryReset.deadlineMs ∧
    d.NoSession ∧ d.healthyReset.active = false

theorem Awaits.withdraws (h : Awaits d₀ d) (hw : Withdraws d d') (hrt : d'.runtime = d.runtime)
    (hreg : d'.registration = d.registration) : Awaits d₀ d' where
  runtime := hrt.trans h.runtime
  registration := hreg.trans h.registration
  attempt hg := by
    have hgate := hw.gate hg
    obtain ⟨hrec, hact, hid, hexp, hno, hhealthy⟩ := h.attempt (hgate ▸ hg)
    have hkept := (hw.owner hg).2.2 hact
    rw [hgate, hkept]
    exact ⟨hrec, hact, hid, hexp, noSession_of_withdraws hw hno,
      inactive_of_withdraws hw (show (d.resetAttempt .healthy).active = false from hhealthy)⟩

theorem Awaits.pressed (h : Awaits d₀ d) (hp : Pressed d d') : Awaits d₀ d' where
  runtime := hp.runtime.trans h.runtime
  registration := hp.registration.trans h.registration
  attempt hg := by
    obtain ⟨_, hid', hexp', hst⟩ := hp.gate hg
    have hg' : d.presence.gate.state ≠ .idle := by
      rcases hst with hst | ⟨hst, _⟩
      · rwa [← hst]
      · rw [hst]
        decide
    obtain ⟨hrec, hact, hid, hexp, hno, hhealthy⟩ := h.attempt hg'
    rw [hp.recovery, hid', hexp', hp.healthy, NoSession, hp.attempt, hp.context.1, hp.sink]
    exact ⟨hrec, hact, hid, hexp, hno, hhealthy⟩

variable (env) in
theorem recoveryBegin_runtime (d : Device σ) (id : Nat) (nowMs : UInt64)
    (hreq : d.decision = .required) :
    (d.recoveryBegin env id nowMs).2.runtime = pastBoundary d.runtime := by
  obtain ⟨boundary, hb, hrt⟩ : ∃ boundary, (if d.disconnect.runtime.state = .error then
      (if d.disconnect.runtime.recoveryResetAllowed then VaultRuntime.Status.ok else .invalidState,
        d.disconnect.runtime)
      else d.disconnect.runtime.enterRecoveryBoundary) = boundary ∧
      boundary.2 = pastBoundary d.runtime := by
    refine ⟨_, rfl, ?_⟩
    rw [disconnect_runtime]
    unfold pastBoundary
    split <;> rfl
  unfold recoveryBegin
  rw [if_neg (by simp [hreq])]
  dsimp only
  rw [hb]
  split
  · exact hrt
  · exact hrt

theorem housekeeping_reprovision (d : Device σ) (nowMs : UInt64) :
    (d.housekeeping nowMs).runtime.state = .reprovisionRequired ↔
      d.runtime.state = .reprovisionRequired := by
  rw [housekeeping_runtime]
  split
  swap
  · exact Iff.rfl
  rename_i hdue
  have hun : d.runtime.state = .unlocked := by
    by_contra hne
    rw [VaultRuntime.Runtime.not_due_of_state hne] at hdue
    cases hdue
  refine iff_of_false ?_ (by simp [hun])
  unfold Runtime.lock
  split
  · rw [hun]
    decide
  · dsimp only
    split
    · simp [hun]
    · dsimp only
      split <;> decide

/-- **The begin**: it crosses the boundary and waits. -/
theorem begun_awaits {attemptId : AttemptId} {nowMs : UInt64} {e : Event}
    (h : BeginsRecovery env attemptId nowMs d e (d.next env e)) :
    ∃ h₀ : Device σ, Quiet env d h₀ ∧ (h₀.Declassified ↔ d.Declassified) ∧
      h₀.decision = .required ∧ (d.next env e).runtime = pastBoundary h₀.runtime ∧
      (d.next env e).registration = h₀.registration ∧
      (d.next env e).recoveryReset = ⟨attemptId, deadlineFrom nowMs, true⟩ ∧
      Awaits (d.next env e) (d.next env e) := by
  obtain ⟨line, m, frame, rfl, hacc, hop, rfl, hresp, rfl⟩ := h
  have hq : Quiet env d (d.housekeeping m.nowMs) := quiet_housekeeping env d m.nowMs
  have hline : d.handleLine env line m =
      (d.housekeeping m.nowMs).recoveryBegin env frame.id m.nowMs := by
    rw [handleLine, dispatch_accepted (d.housekeeping m.nowMs) m hacc, handleRequest, hop]
  obtain ⟨r, d', he, ⟨hok, _⟩ | ⟨attemptId, hb⟩⟩ :=
    recoveryBegin_cases env (d.housekeeping m.nowMs) m frame hop
  · rw [hline, he] at hresp
    rw [show r = _ from hresp] at hok
    cases hok
  have hnext : d.next env (.input (.line line m)) = d' :=
    congrArg Prod.snd (hline.trans he)
  have hrt := recoveryBegin_runtime env (d.housekeeping m.nowMs) frame.id m.nowMs hb.eligible
  rw [he] at hrt
  have hrec : d'.recoveryReset = ⟨attemptId, deadlineFrom m.nowMs, true⟩ := hb.attempt
  obtain ⟨generation, hgate⟩ := hb.gate
  rw [hnext, hrec]
  refine ⟨d.housekeeping m.nowMs, hq, ?_, hb.eligible, hrt, hb.registration, rfl, rfl, rfl,
    fun _ => ?_⟩
  · rw [Declassified, Declassified, housekeeping_reprovision, hq.registration]
  · rw [hrec, hgate]
    exact ⟨rfl, rfl, rfl, rfl, ⟨hb.session, hb.context, hb.pending⟩, hb.other⟩

/-! ## The wait -/

/-- Everything but a request; the poll for the confirmation is one that does not disturb. -/
def Undisturbing (env : Env σ) (i : Input) : Prop :=
  ∀ line m, i = .line line m →
    ∃ frame, Accepted env line frame ∧ frame.operation = .recoveryStatus

theorem resident_locked {rt : Runtime σ} (use : ResidentCall) (hne : rt.state ≠ .unlocked) :
    rt.step env.persistence env.prims.gcm use.call = rt := by
  have hcall : use.call = .listCredentials ∨ (∃ id c, use.call = .withCredential id c) ∨
      (∃ c, use.call = .withWifi c) ∨ ∃ id, use.call = .setLastUsed id := by
    cases use with
    | listCredentials => exact .inl rfl
    | withCredential id consumer => exact .inr (.inl ⟨id, consumer, rfl⟩)
    | withWifi consumer => exact .inr (.inr (.inl ⟨consumer, rfl⟩))
    | setLastUsed id => exact .inr (.inr (.inr ⟨id, rfl⟩))
  rcases Runtime.resident_cases env.persistence env.prims.gcm rt hcall with
    hsame | ⟨hun, _⟩ | ⟨hun, _⟩
  · exact hsame
  · exact absurd hun hne
  · exact absurd hun hne

theorem recoveryStatus_runtime (d : Device σ) (id : Nat) (params : Json) (nowMs : UInt64) :
    (d.recoveryStatus id params nowMs).2.runtime = d.runtime := by
  unfold recoveryStatus withRecoveryAttempt
  split
  · rfl
  · split
    · rfl
    · split
      · exact cancelRecoveryReset_runtime d
      · rfl

theorem housekeeping_locked {nowMs : UInt64} (hne : d.runtime.state ≠ .unlocked) :
    (d.housekeeping nowMs).runtime = d.runtime := by
  rw [housekeeping_runtime, VaultRuntime.Runtime.not_due_of_state hne]
  rfl

/-- **The wait**: nothing but the confirmation of the user changes it. -/
theorem Awaits.step (h : Awaits d₀ d) (hne : d₀.runtime.state ≠ .unlocked) {i : Input}
    (hi : Undisturbing env i) : Awaits d₀ (d.step env i) := by
  have hne' : d.runtime.state ≠ .unlocked := by
    rw [h.runtime]
    exact hne
  have hmoved (hrt : (d.step env i).runtime = d.runtime)
      (hno : ∀ line m, i ≠ .line line m) : Awaits d₀ (d.step env i) := by
    cases step_cases env d i with
    | quiet hq => exact h.withdraws hq.toWithdraws hrt hq.registration
    | pressed hp _ => exact h.pressed hp
    | request line m frame response hi _ _ => exact absurd hi (hno line m)
  cases i with
  | line line m =>
    obtain ⟨frame, hacc, hop⟩ := hi line m rfl
    have hq : Quiet env d (d.housekeeping m.nowMs) := quiet_housekeeping env d m.nowMs
    obtain ⟨r, d', he, hq'⟩ := recoveryStatus_quiet env (d.housekeeping m.nowMs) frame.id
      frame.params m.nowMs
    have hrt := recoveryStatus_runtime (d.housekeeping m.nowMs) frame.id frame.params m.nowMs
    have hstep : d.step env (.line line m) = d' := by
      rw [Device.step, handleLine, dispatch_accepted (d.housekeeping m.nowMs) m hacc,
        handleRequest, hop]
      exact congrArg Prod.snd he
    rw [he] at hrt
    rw [hstep]
    exact h.withdraws (hq.trans hq').toWithdraws (hrt.trans (housekeeping_locked hne'))
      (hq.trans hq').registration
  | housekeeping nowMs => exact hmoved (housekeeping_locked hne') (by simp)
  | disconnect => exact hmoved (disconnect_runtime d) (by simp)
  | observeButton pressed => exact hmoved rfl (by simp)
  | buttonPressed nowMs => exact hmoved rfl (by simp)
  | expirePresence nowMs => exact hmoved rfl (by simp)
  | resident use => exact hmoved (resident_locked use hne') (by simp)

theorem awaits_between (hbegun : Awaits d₀ d₀) (hne : d₀.runtime.state ≠ .unlocked)
    {dₛ : Device σ} {events : Nat → Event} {b : Nat}
    (hstart : stateAt (Device.next env) dₛ events (b + 1) = d₀) (k : Nat)
    (hwait : ∀ j, b < j → j < b + 1 + k → ∃ i, events j = .input i ∧ Undisturbing env i) :
    Awaits d₀ (stateAt (Device.next env) dₛ events (b + 1 + k)) := by
  induction k with
  | zero =>
    rw [Nat.add_zero, hstart]
    exact hbegun
  | succ k ih =>
    obtain ⟨i, hi, hquiet⟩ := hwait (b + 1 + k) (by omega) (by omega)
    have hprev := ih fun j hj hj' => hwait j hj (by omega)
    rw [← Nat.add_assoc, Run.stateAt_succ, hi]
    exact hprev.step hne hquiet

/-! ## The completion -/

/-- Housekeeping finds nothing to do while the Device waits in time. -/
theorem housekeeping_waiting {nowMs : UInt64} (hno : d.NoSession)
    (hhealthy : d.healthyReset.active = false) (hlive : nowMs < d.recoveryReset.deadlineMs)
    (hne : d.runtime.state ≠ .unlocked) : d.housekeeping nowMs = d := by
  have hsession : d.expireSession nowMs = d := by
    unfold expireSession Session.AttemptCoordinator.expire
    simp [hno.1]
  have hpending : d.expirePending nowMs = d := by
    unfold expirePending
    rw [if_pos (.inl (by simp [hno.2.2]))]
  have hresets : d.expireResets nowMs = d := by
    have hexpired : d.healthyReset.expired nowMs = false := by
      simp [FactoryResetAuthorization.expired, hhealthy]
    have hdue : ¬ (d.recoveryReset.active ∧ d.recoveryReset.deadlineMs ≤ nowMs) :=
      fun h => UInt64.not_le.2 hlive h.2
    unfold expireResets
    simp only [hexpired, Bool.false_eq_true, if_false, if_neg hdue]
  unfold housekeeping
  rw [hsession, hpending, hresets]
  dsimp only
  rw [VaultRuntime.Runtime.not_due_of_state hne]
  rfl

theorem consume_confirmed {p : Session.CanonicalPresence} {attemptId : AttemptId} {nowMs : UInt64}
    (hst : p.gate.state = .confirmed) (hid : p.gate.attemptId = attemptId)
    (hlive : nowMs < p.gate.expiresAtMs) :
    ∃ p', p.consumePresence attemptId nowMs = (true, p') := by
  have hexpire : p.gate.expire nowMs = (false, p.gate) := by
    unfold Session.UserPresenceGate.expire
    rw [if_pos (.inr hlive)]
  unfold Session.CanonicalPresence.consumePresence Session.UserPresenceGate.consumeConfirmation
  rw [hexpire]
  simp [hst, Bytes.sameBytes_iff.2 hid.symm]

/-- A confirmed completion resets the Device if the classification still requires it. -/
theorem recoveryComplete_confirmed (env : Env σ) (id : Nat) {params : Json} {nowMs : UInt64}
    (hid : readAttemptId params = some d.recoveryReset.attemptId)
    (hact : d.recoveryReset.active = true) (hlive : nowMs < d.recoveryReset.deadlineMs)
    (hst : d.presence.gate.state = .confirmed)
    (hgid : d.presence.gate.attemptId = d.recoveryReset.attemptId)
    (hglive : nowMs < d.presence.gate.expiresAtMs) :
    ∃ h : Device σ, h.runtime = d.runtime ∧ h.registration = d.registration ∧
      d.recoveryComplete env id params nowMs =
        if d.decision ≠ .required then (.error id "invalid_state", h) else h.completeReset env id := by
  obtain ⟨p', hc⟩ := consume_confirmed hst hgid hglive
  refine ⟨(d.withPresence p').withRecoveryReset {}, rfl, rfl, ?_⟩
  unfold recoveryComplete withRecoveryAttempt
  rw [hid]
  dsimp only
  have hnames : d.recoveryReset.names d.recoveryReset.attemptId = true := by
    rw [RecoveryReset.names, hact, Bytes.sameBytes_iff.2 rfl]
    rfl
  rw [hnames, if_neg (by simp), if_neg (UInt64.not_le.2 hlive), hc]
  rfl

end Device

/-! ## On the firmware's storage -/

namespace Device

open Run (StepAt stateAt)
open Registration.Store (Serviceable)
open Session (AttemptId deadlineFrom)

variable {σ : Type} {env : Env σ}

theorem erase_works : Prog.Works (fun _ => True) VaultRuntime.NvsPersistence.eraseAll
    (fun _ p => p = {}) :=
  .bind (Q := fun _ _ => True) (.ignore fun _ _ => trivial) fun _ => .change fun _ _ => rfl

theorem factoryReset_works {rt : Runtime AuthNvs} (hi : rt.initialized = true)
    (hrel : rt.persistence.Reliable) :
    ∃ rt', rt.factoryReset compatibleNvsPersistence = (.ok, rt') ∧ rt'.persistence.Reliable ∧
      rt'.persistence.content = {} := by
  obtain ⟨_, w, he, hrel', hc⟩ := erase_works.run hrel trivial
  have herase : compatibleNvsPersistence.eraseAll rt.clearUnlockSessionState.persistence =
      (.ok, w) := by
    show VaultRuntime.statusOf (VaultRuntime.NvsPersistence.eraseAll rt.persistence) = _
    rw [he]
    rfl
  have hreset : ∃ rt', rt.factoryReset compatibleNvsPersistence = (.ok, rt') ∧
      rt'.persistence = w := by
    unfold Runtime.factoryReset
    simp only [hi, Bool.not_true, Bool.false_eq_true, if_false, herase, ne_eq, not_true_eq_false]
    exact ⟨_, rfl, rfl⟩
  obtain ⟨rt', hok, hpersistence⟩ := hreset
  exact ⟨rt', hok, hpersistence.symm ▸ hrel', hpersistence.symm ▸ hc⟩

/-- An erased partition starts a Device without a Vault. -/
theorem reboot_empty {w : AuthNvs} (hrel : w.Reliable) (hc : w.content = {}) :
    let rt := ((Runtime.new w).initializeRuntime compatibleNvsPersistence).2
    rt.initialized = true ∧ rt.state = .unprovisioned ∧ rt.hasVault = false := by
  have hload : (VaultRuntime.CompatibleNvsPersistence.load w).1 = .error .unprovisioned := by
    rw [(VaultRuntime.CompatibleNvsPersistence.load_of_reliable hrel).1, hc]
    rfl
  obtain ⟨w', hl⟩ : ∃ w', compatibleNvsPersistence.load w = ((.unprovisioned, {}), w') := by
    rcases he : VaultRuntime.CompatibleNvsPersistence.load w with ⟨status | sn, w'⟩ <;>
      rw [he] at hload <;> simp only [Except.error.injEq, reduceCtorEq] at hload
    exact ⟨w', by simp [compatibleNvsPersistence, he, hload]⟩
  intro rt
  rcases Runtime.initializeRuntime_cases (Runtime.new w) hl with
    ⟨hacc, _⟩ | ⟨_, st', rt', he, _, _, hi, _, hv, _, _, hcase⟩
  · simp [Runtime.loadAccepted] at hacc
  · have hrt : rt = rt' := congrArg Prod.snd he
    rw [hrt]
    rcases hcase with ⟨_, hst, _⟩ | ⟨h, _⟩ | ⟨h, _⟩
    · exact ⟨hi, hst, hv⟩
    · cases h
    · exact absurd rfl h

/-- What a confirmed recovery reset promises: success, nothing stored, and a Device that needs no
recovery after a reboot. -/
structure Progress (env : Env AuthNvs) (response : Response) (d' : Device AuthNvs) : Prop where
  ok : response.ok = true
  noVault : d'.runtime.persistence.content = {}
  noRegistration : d'.registration.nvs.content.active = none
  reboot : ∀ candidate, (d'.next env (.reboot candidate)).decision = .notRequired

variable (env) in
/-- **The reset itself**: on working storage it makes progress. -/
theorem completeReset_progress {d : Device AuthNvs} (id : Nat)
    (hi : d.runtime.initialized = true) (hs : Serviceable d.registration)
    (hst : Settled d.registration) (hvault : d.runtime.persistence.Reliable)
    (hreg : d.registration.nvs.Reliable) :
    Progress env.onNvs (d.completeReset env.onNvs id).1 (d.completeReset env.onNvs id).2 := by
  obtain ⟨reg, hclear, hrel, hnone, hok⟩ := Registration.Store.clear_works hs hreg
    (hst.imp_right And.right)
  obtain ⟨rt, hreset, hrel', hempty⟩ := factoryReset_works hi hvault
  have he : d.completeReset env.onNvs id =
      (emptySuccess id, (d.withRegistration reg).withRuntime rt) := by
    unfold completeReset
    rw [show (if d.registration.readSnapshot.1 = .corrupt then
      d.registration.clearCorruptRegistrationForRecovery else d.registration.clearRegistration) =
        (.ok, reg) from hclear]
    dsimp only
    rw [if_neg (by simp), show (d.withRegistration reg).runtime.factoryReset
      env.onNvs.persistence = (.ok, rt) from hreset]
    rfl
  rw [he]
  refine ⟨rfl, hempty, hnone, fun candidate => ?_⟩
  obtain ⟨hinit, hstate, hv⟩ := reboot_empty hrel' hempty
  obtain ⟨hready, hpresent⟩ :=
    Registration.Store.reboot_bare env.prims.importKey hrel hnone hok candidate
  have hdecision : recoveryResetDecision
      ((Runtime.new rt.persistence).initializeRuntime compatibleNvsPersistence).2
      (({ nvs := reg.nvs } : Registration.Store).initializeStore env.prims.importKey candidate).2 =
        .notRequired := by
    rw [decision_eq hinit (.inl hready), hstate, hready, hv, hpresent]
    simp
  exact hdecision

/-- **A confirmed recovery reset makes progress, unless the boundary declassified the Device.** -/
theorem recovery_progress_iff (env : Env σ) (storage : AuthNvs) (nvs : Registration.Nvs)
    (candidate : Registration.DeviceIdCandidate) (events : Nat → Event) {b c : Nat}
    {attemptId : AttemptId} {nowMs : UInt64} {line : List UInt8} {m : Moment} {frame : Frame}
    (hbegin : StepAt (Device.next env.onNvs) (boot env.onNvs storage nvs candidate) events
      (BeginsRecovery env.onNvs attemptId nowMs) b)
    (hbc : b < c)
    (hwait : ∀ k, b < k → k < c → ∃ i, events k = .input i ∧ Undisturbing env.onNvs i)
    (hline : events c = .input (.line line m)) (hacc : Accepted env.onNvs line frame)
    (hop : frame.operation = .recoveryComplete)
    (hid : readAttemptId frame.params = some attemptId)
    (hconfirmed : (stateAt (Device.next env.onNvs) (boot env.onNvs storage nvs candidate) events
      c).presence.gate.state = .confirmed)
    (hlive : m.nowMs < deadlineFrom nowMs)
    (hvault : (stateAt (Device.next env.onNvs) (boot env.onNvs storage nvs candidate) events
      c).runtime.persistence.Reliable)
    (hreg : (stateAt (Device.next env.onNvs) (boot env.onNvs storage nvs candidate) events
      c).registration.nvs.Reliable) :
    Progress env.onNvs
        ((stateAt (Device.next env.onNvs) (boot env.onNvs storage nvs candidate) events
          c).handleLine env.onNvs line m).1
        (stateAt (Device.next env.onNvs) (boot env.onNvs storage nvs candidate) events (c + 1)) ↔
      ¬ (stateAt (Device.next env.onNvs) (boot env.onNvs storage nvs candidate) events
        b).Declassified := by
  generalize hstart : boot env.onNvs storage nvs candidate = dₛ at *
  have hsane (n : Nat) : Sane (stateAt (Device.next env.onNvs) dₛ events n) :=
    sane_stateAt (hstart ▸ .boot env.onNvs storage nvs candidate) events n
  obtain ⟨h₀, hq, hdecl, hreq, hrt, hregistration, hrec, hawaits⟩ := begun_awaits hbegin
  have hinit := initialized_of_decision (d := h₀) (by rw [hreq]; decide)
  have hinv : Runtime.Inv h₀.runtime :=
    hq.calls.keeps (fun rt call _ h => h.step call) (hsane b).runtime
  obtain ⟨hne, hinit'⟩ := pastBoundary_locked hinit
  rw [← hdecl]
  -- the Device that completes the attempt is the one that began it
  generalize hd₀ : (stateAt (Device.next env.onNvs) dₛ events b).next env.onNvs (events b) = d₀ at *
  obtain ⟨k, rfl⟩ := Nat.exists_eq_add_of_le (Nat.succ_le_of_lt hbc)
  have hw := awaits_between hawaits (by rw [hrt]; exact hne) hd₀ k hwait
  have hs := hsane (b + 1 + k)
  rw [Run.stateAt_succ, hline]
  generalize stateAt (Device.next env.onNvs) dₛ events (b + 1 + k) = d at *
  obtain ⟨hrec', hact, hgid, hgexp, hno, hhealthy⟩ := hw.attempt (by rw [hconfirmed]; decide)
  rw [hrec] at hrec'
  have hlive' : m.nowMs < d.recoveryReset.deadlineMs := by rw [hrec']; exact hlive
  have hrtd : d.runtime = pastBoundary h₀.runtime := hw.runtime.trans hrt
  have hregd : d.registration = h₀.registration := hw.registration.trans hregistration
  have hkeep : d.housekeeping m.nowMs = d :=
    housekeeping_waiting hno hhealthy hlive' (by rw [hrtd]; exact hne)
  obtain ⟨h, hhrt, hhreg, hcomplete⟩ := recoveryComplete_confirmed env.onNvs frame.id
    (by rw [hid, hrec']) hact hlive' hconfirmed hgid
    (by rw [hgexp]; exact hlive')
  have hhandle : d.handleLine env.onNvs line m =
      if d.decision ≠ .required then (.error frame.id "invalid_state", h)
      else h.completeReset env.onNvs frame.id := by
    rw [handleLine, hkeep, dispatch_accepted d m hacc, handleRequest, hop]
    exact hcomplete
  have hdecision : d.decision = .required ↔ ¬ h₀.Declassified := by
    rw [decision, hrtd, hregd]
    exact decision_boundary hinit hinv hreq
  have hstep : d.next env.onNvs (.input (.line line m)) = (d.handleLine env.onNvs line m).2 := rfl
  rw [hstep, ← hdecision, hhandle]
  by_cases hrequired : d.decision = .required
  · rw [if_neg (by simp [hrequired])]
    refine iff_of_true ?_ hrequired
    exact completeReset_progress env frame.id (by rw [hhrt, hrtd]; exact hinit')
      (by rw [hhreg]; exact hs.registration)
      (by rw [hhreg, hregd]; exact settled_of_required hreq) (by rw [hhrt]; exact hvault)
      (by rw [hhreg]; exact hreg)
  · rw [if_pos hrequired]
    refine iff_of_false (fun hp => ?_) hrequired
    cases hp.ok

/-! ## Two recovery resets -/

/-- The reset of `resetInputs`, from a partition of the Vault and the registration NVS. -/
abbrev recoveryRun (partition : VaultRuntime.Partition) (nvs : Registration.Nvs) (n : Nat) :
    Device AuthNvs :=
  stateAt (Device.next resetEnv.onNvs)
    (boot resetEnv.onNvs (.reliable partition) nvs ⟨ones 16, ones_nonzero⟩)
    (fun n => .input (resetInputs n)) n

theorem accepted_begin : Accepted resetEnv.onNvs [0] ⟨1, .recoveryBegin, .object []⟩ :=
  ⟨rfl, by decide, rfl⟩

theorem accepted_complete : Accepted resetEnv.onNvs [1]
    ⟨1, .recoveryComplete, .object [(ascii "attempt_id", binary (ones 16))]⟩ :=
  ⟨rfl, by decide, rfl⟩

theorem begins_recoveryRun {partition : VaultRuntime.Partition} {nvs : Registration.Nvs}
    (h : ((recoveryRun partition nvs 0).handleLine resetEnv.onNvs [0] { nowMs := 0 }).1 =
      resetBeginSuccess 1 (ones 16))
    (hid : (recoveryRun partition nvs 1).recoveryReset.attemptId = ones 16) :
    StepAt (Device.next resetEnv.onNvs)
      (boot resetEnv.onNvs (.reliable partition) nvs ⟨ones 16, rfl⟩)
      (fun n => .input (resetInputs n)) (BeginsRecovery resetEnv.onNvs (ones 16) 0) 0 :=
  ⟨[0], { nowMs := 0 }, _, rfl, accepted_begin, rfl, rfl, h, hid⟩

/-- A registration whose Vault is gone is reset. -/
theorem recovery_progress_sample : Progress resetEnv.onNvs
    ((recoveryRun {} sampleNvs 5).handleLine resetEnv.onNvs [1] { nowMs := 2 }).1
    (recoveryRun {} sampleNvs (5 + 1)) :=
  (recovery_progress_iff resetEnv (.reliable {}) sampleNvs ⟨ones 16, rfl⟩
    (fun n => .input (resetInputs n))
    (begins_recoveryRun (by decide +kernel) (by decide +kernel)) (by decide)
    (fun k hb hc => ⟨_, rfl, by
      rintro line m hline
      obtain rfl | rfl | rfl | rfl : k = 1 ∨ k = 2 ∨ k = 3 ∨ k = 4 := by omega
      all_goals cases hline⟩)
    rfl accepted_complete rfl (by decide +kernel) (by decide +kernel) (by decide +kernel)
    (fun _ _ => rfl) fun _ _ => rfl).2
    fun h => absurd h.1 (by decide +kernel)

/-- A partition of Schema 1, on a Device that was never registered. -/
def legacyPartition : VaultRuntime.Partition := { state := some (some 1) }

def bareNvs : Registration.Nvs := .reliable { reg2 := some { deviceId := some (ones 16).1 } }

/-- A Device that must be reprovisioned: the reset that it requires, begins and lets its user
confirm is then refused. -/
theorem recovery_refused :
    (recoveryRun legacyPartition bareNvs 0).decision = .required ∧
    StepAt (Device.next resetEnv.onNvs)
      (boot resetEnv.onNvs (.reliable legacyPartition) bareNvs ⟨ones 16, rfl⟩)
      (fun n => .input (resetInputs n)) (BeginsRecovery resetEnv.onNvs (ones 16) 0) 0 ∧
    (recoveryRun legacyPartition bareNvs 5).presence.gate.state = .confirmed ∧
    ((recoveryRun legacyPartition bareNvs 5).handleLine resetEnv.onNvs [1] { nowMs := 2 }).1 =
      .error 1 "invalid_state" :=
  ⟨by decide +kernel, begins_recoveryRun (by decide +kernel) (by decide +kernel),
    by decide +kernel, by decide +kernel⟩

end Device

end M5Auth.Provisioning
