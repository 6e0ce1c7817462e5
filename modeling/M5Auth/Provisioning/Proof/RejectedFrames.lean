import M5Auth.Provisioning.ProtocolLoop
import M5Auth.Provisioning.Proof.AutomaticLock

/-!
# Rejected frames

Two checks guard the command stream after the handshake. The handler reads a request from the start
of the line and runs it; only then does the loop consult `classifyProtocolFrame`, which also wants
the line to end there. `rejected_frame_iff`: a line that the strict check rejects has no effect but
the teardown, in every state, exactly if it `tearsDown`; the empty line and most requests with
bytes behind them do not.
-/

namespace M5Auth.Provisioning.Device

open VaultRuntime (Runtime)
open VaultRuntime.Runtime (Inv)

variable {σ : Type} {env : Env σ} {d d' d'' : Device σ}

/-! ## An attempt and its context -/

/-- The session attempt is as before, with its context. -/
def SameAttempt (d d' : Device σ) : Prop :=
  d'.coordinator.attempt = d.coordinator.attempt ∧ d'.contextActive = d.contextActive

/-- The session attempt is as before, or it is over, which needs the condition `ends`. -/
def KeepsAttempt (ends : Prop) (d d' : Device σ) : Prop :=
  SameAttempt d d' ∨ (d'.coordinator.attempt.active = false ∧ ends)

section
variable {ends : Prop}

theorem SameAttempt.refl (d : Device σ) : SameAttempt d d := ⟨rfl, rfl⟩

theorem SameAttempt.trans (h : SameAttempt d d') (h' : SameAttempt d' d'') : SameAttempt d d'' :=
  ⟨h'.1.trans h.1, h'.2.trans h.2⟩

theorem KeepsAttempt.refl (d : Device σ) : KeepsAttempt ends d d := .inl (.refl d)

theorem sameAttempt_cancelHealthyReset (d : Device σ) : SameAttempt d d.cancelHealthyReset :=
  ⟨cancelHealthyReset_attempt d, cancelHealthyReset_contextActive d⟩

theorem sameAttempt_cancelRecoveryReset (d : Device σ) : SameAttempt d d.cancelRecoveryReset :=
  ⟨cancelRecoveryReset_attempt d, cancelRecoveryReset_contextActive d⟩

theorem sameAttempt_expirePending (d : Device σ) (nowMs : UInt64) :
    SameAttempt d (d.expirePending nowMs) := by
  unfold expirePending
  split
  · exact .refl d
  · exact ⟨rfl, rfl⟩

theorem ended_lock (d : Device σ) (h : ends) : KeepsAttempt ends d d.lockSecurityBoundary.2 :=
  .inr ⟨(idle_disconnect d).attempt, h⟩

theorem initialized_of_decision (h : d.decision ≠ .unavailable) :
    d.runtime.initialized = true := by
  by_contra hi
  rw [Bool.not_eq_true] at hi
  simp [decision, recoveryResetDecision, Runtime.metadata, hi] at h

theorem withHealthyAttempt_keeps (id : Nat) (params : Json) (nowMs : UInt64)
    {act : Session.AttemptId → Response × Device σ}
    (hact : ∀ attemptId, KeepsAttempt ends d (act attemptId).2) :
    KeepsAttempt ends d (d.withHealthyAttempt id params nowMs act).2 := by
  unfold withHealthyAttempt
  split
  · exact .refl d
  · split
    · exact .inl (sameAttempt_cancelHealthyReset d)
    · exact hact _
    · exact .refl d

theorem withRecoveryAttempt_keeps (id : Nat) (params : Json) (nowMs : UInt64)
    {act : Session.AttemptId → Response × Device σ}
    (hact : ∀ attemptId, KeepsAttempt ends d (act attemptId).2) :
    KeepsAttempt ends d (d.withRecoveryAttempt id params nowMs act).2 := by
  unfold withRecoveryAttempt
  split
  · exact .refl d
  · split
    · exact .refl d
    · split
      · exact .inl (sameAttempt_cancelRecoveryReset d)
      · exact hact _

theorem sameAttempt_commitReset (d : Device σ) (id : Nat) :
    SameAttempt d (d.commitReset env id).2 := by
  obtain ⟨r, rt, reg, he, _⟩ := commitReset_cases env d id
  rw [he]
  exact ⟨rfl, rfl⟩

theorem factoryResetBegin_keeps (id : Nat) (nowMs : UInt64) :
    KeepsAttempt (d.runtime.initialized = true) d (d.factoryResetBegin env id nowMs).2 := by
  unfold factoryResetBegin
  split
  · exact .refl d
  · rename_i hallowed
    simp only [Bool.not_eq_true', Bool.not_eq_false, healthyResetAllowed, Bool.and_eq_true,
      beq_iff_eq] at hallowed
    exact .inr ⟨(idle_disconnect d).attempt, initialized_of_decision (by rw [hallowed.1]; decide)⟩

theorem factoryResetCommit_keeps (id : Nat) (params : Json) (nowMs : UInt64) :
    KeepsAttempt (d.runtime.initialized = true) d
      (d.factoryResetCommit env id params nowMs).2 := by
  refine withHealthyAttempt_keeps id params nowMs fun attemptId => ?_
  rcases d.presence.consumePresence attemptId nowMs with ⟨consumed, presence⟩
  cases consumed
  · exact .inl ⟨rfl, rfl⟩
  dsimp only
  split
  · exact .inl ⟨rfl, rfl⟩
  · rename_i hallowed
    simp only [Bool.not_eq_true', Bool.not_eq_false, healthyResetAllowed, Bool.and_eq_true,
      beq_iff_eq] at hallowed
    have hi : d.runtime.initialized = true :=
      initialized_of_decision (d := (d.withPresence presence).withHealthyReset .cancel)
        (by rw [hallowed.1]; decide)
    refine .inr ⟨?_, hi⟩
    rw [(sameAttempt_commitReset _ id).1, cancelRecoveryReset_attempt]
    rfl

theorem recoveryBegin_keeps (id : Nat) (nowMs : UInt64) :
    KeepsAttempt (d.runtime.initialized = true) d (d.recoveryBegin env id nowMs).2 := by
  unfold recoveryBegin
  split
  · exact .refl d
  rename_i hrequired
  have hi := initialized_of_decision (d := d) (by
    rw [not_not.1 hrequired]
    decide)
  have hoff := (idle_disconnect d).attempt
  refine .inr ⟨?_, hi⟩
  dsimp only
  split
  · split <;> exact hoff
  · split <;> exact hoff

theorem recoveryComplete_keeps (id : Nat) (params : Json) (nowMs : UInt64) :
    KeepsAttempt ends d (d.recoveryComplete env id params nowMs).2 := by
  refine withRecoveryAttempt_keeps id params nowMs fun attemptId => ?_
  rcases d.presence.consumePresence attemptId nowMs with ⟨consumed, presence⟩
  cases consumed
  · exact .inl ⟨rfl, rfl⟩
  dsimp only
  split
  · exact .inl ⟨rfl, rfl⟩
  · obtain ⟨r, rt, reg, he, _⟩ := completeReset_cases env
      ((d.withPresence presence).withRecoveryReset {}) id
    rw [he]
    exact .inl ⟨rfl, rfl⟩

theorem sameAttempt_installVault (d : Device σ) (envelope : Vault.VaultEnvelope)
    (nowMs : UInt64) : SameAttempt d (d.installVault env envelope nowMs).2 := by
  obtain ⟨ok, rt, reg, he, _⟩ := installVault_cases env d envelope nowMs
  rw [he]
  exact ⟨rfl, rfl⟩

theorem sameAttempt_answer {d : Device σ} (id : Nat) {result : Bool × Device σ}
    (h : SameAttempt d result.2) : SameAttempt d (match result with
      | (true, d) => (emptySuccess id, d)
      | (false, d) => (Response.error id "invalid_state", d)).2 := by
  obtain ⟨ok, d'⟩ := result
  cases ok <;> exact h

theorem sameAttempt_vaultInstall (d : Device σ) (id : Nat) (params : Json) (nowMs : UInt64) :
    SameAttempt d (d.vaultInstall env id params nowMs).2 := by
  have hexp := sameAttempt_expirePending d nowMs
  unfold vaultInstall
  split
  · exact ⟨rfl, rfl⟩
  rename_i envelope _
  split
  · exact .refl d
  refine sameAttempt_answer id ?_
  split
  · unfold installInitialVault
    dsimp only
    split
    · exact hexp
    · exact hexp.trans (sameAttempt_installVault _ envelope nowMs)
  · unfold installRecoveredVault
    dsimp only
    split
    · exact hexp
    · exact hexp.trans (sameAttempt_installVault _ envelope nowMs)
  · exact ⟨rfl, rfl⟩

theorem vaultUpdate_keeps (id : Nat) (params : Json) (nowMs : UInt64) :
    KeepsAttempt (d.runtime.initialized = true) d (d.vaultUpdate env id params nowMs).2 := by
  unfold vaultUpdate
  split
  · exact .refl d
  rename_i envelope expected _
  rcases d.runtime.update_outcome env.persistence env.prims.gcm expected envelope nowMs with
    ⟨world, lastUsed, policy, hst, hval, he⟩ | ⟨status, rt, _, _, he⟩ <;> rw [he] <;> dsimp only
  · split
    · rename_i hdue
      have hi : d.runtime.initialized = true :=
        (d.runtime.updated world envelope lastUsed policy).initialized_of_due hdue.2
      exact ended_lock (d.withRuntime _) hi
    · exact .inl ⟨rfl, rfl⟩
  · rw [if_neg (by simp)]
    exact .inl ⟨rfl, rfl⟩

theorem sameAttempt_installRekeyedVault (d : Device σ) (expected : UInt64)
    (envelope : Vault.VaultEnvelope) (nowMs : UInt64) :
    SameAttempt d (d.installRekeyedVault env expected envelope nowMs).2 := by
  have hexp := sameAttempt_expirePending d nowMs
  unfold installRekeyedVault
  dsimp only
  split <;> exact hexp

theorem vaultRekey_keeps (id : Nat) (params : Json) (nowMs : UInt64) :
    KeepsAttempt (d.runtime.initialized = true) d (d.vaultRekey env id params nowMs).2 := by
  unfold vaultRekey
  split
  · exact .inl ⟨rfl, rfl⟩
  rename_i envelope expected _
  have hsame : SameAttempt d (d.installRekeyedVault env expected envelope nowMs).2 :=
    sameAttempt_installRekeyedVault d expected envelope nowMs
  rcases installRekeyedVault_runtime env d nowMs expected envelope with
    ⟨world, lastUsed, policy, d', _, _, _, he, hrt⟩ | ⟨d', he, _⟩ <;> rw [he] at hsame ⊢
  · dsimp only
    split
    · rename_i hdue
      have hi := VaultRuntime.Runtime.initialized_of_due hdue
      rw [hrt] at hi
      exact ended_lock d' hi |>.elim (fun h => .inl (hsame.trans h)) .inr
    · exact .inl hsame
  · exact .inl hsame

/-- A request outside the session handler leaves the session attempt alone or ends it. -/
theorem request_keeps {frame : Frame} {line : List UInt8} {m : Moment}
    (hop : ∀ request, frame.operation ≠ .session request) :
    KeepsAttempt (d.runtime.initialized = true ∨ frame.operation = .deviceLock) d
      (d.handleRequest env frame line m).2 := by
  have hends {P Q : Prop} {d' : Device σ} (h : KeepsAttempt P d d') : KeepsAttempt (P ∨ Q) d d' :=
    h.imp_right fun h => ⟨h.1, .inl h.2⟩
  unfold handleRequest
  cases h : frame.operation with
  | session request => exact absurd h (hop request)
  | hello =>
    obtain ⟨r, he⟩ := handleHello_stays env d frame.id
    dsimp only
    rw [he]
    exact .refl d
  | factoryResetBegin => exact hends (factoryResetBegin_keeps frame.id m.nowMs)
  | factoryResetStatus => exact withHealthyAttempt_keeps _ _ _ fun _ => .refl d
  | factoryResetCancel =>
    exact withHealthyAttempt_keeps _ _ _ fun _ => .inl (sameAttempt_cancelHealthyReset d)
  | factoryResetCommit => exact hends (factoryResetCommit_keeps frame.id frame.params m.nowMs)
  | recoveryBegin => exact hends (recoveryBegin_keeps frame.id m.nowMs)
  | recoveryStatus => exact withRecoveryAttempt_keeps _ _ _ fun _ => .refl d
  | recoveryComplete => exact recoveryComplete_keeps frame.id frame.params m.nowMs
  | vaultInstall => exact .inl (sameAttempt_vaultInstall d frame.id frame.params m.nowMs)
  | vaultUpdate => exact hends (vaultUpdate_keeps frame.id frame.params m.nowMs)
  | vaultRekey => exact hends (vaultRekey_keeps frame.id frame.params m.nowMs)
  | timeStatus => exact .refl d
  | timeSync =>
    dsimp only
    unfold timeSync
    split
    · exact .refl d
    · exact .inl ⟨rfl, rfl⟩
  | deviceLock => exact ended_lock d (.inr rfl)
  | factoryReset => exact .refl d
  | unsupported => exact .refl d

/-! ## What every state satisfies -/

/-- An active attempt has its context. -/
def Paired (d : Device σ) : Prop := d.coordinator.attempt.active = true → d.contextActive = true

/-- What is known of a Device in every state of a run. -/
structure Sound (d : Device σ) : Prop where
  runtime : Inv d.runtime
  auth : AuthInv d
  paired : Paired d

theorem Paired.of_over (h : d.coordinator.attempt.active = false) : Paired d := fun hact => by
  rw [h] at hact
  cases hact

theorem Paired.same (hp : Paired d) (h : SameAttempt d d') : Paired d' := by
  rw [Paired, h.1, h.2]
  exact hp

theorem Paired.keeps (hp : Paired d) (h : KeepsAttempt ends d d') : Paired d' :=
  h.elim hp.same fun h => .of_over h.1

theorem paired_expireSession (hp : Paired d) (nowMs : UInt64) : Paired (d.expireSession nowMs) := by
  unfold expireSession
  rcases expire_cases d.coordinator nowMs with he | he
  · rw [he]
    exact .of_over rfl
  · rw [he]
    exact hp

theorem paired_housekeeping (hp : Paired d) (nowMs : UInt64) : Paired (d.housekeeping nowMs) := by
  have hresets (d : Device σ) : SameAttempt d (d.expireResets nowMs) := by
    have hrecovery (d : Device σ) : SameAttempt d (if d.recoveryReset.active ∧
        d.recoveryReset.deadlineMs ≤ nowMs then d.cancelRecoveryReset else d) := by
      split
      · exact sameAttempt_cancelRecoveryReset d
      · exact .refl d
    unfold expireResets
    cases d.healthyReset.expired nowMs
    · exact hrecovery d
    · exact (sameAttempt_cancelHealthyReset d).trans (hrecovery _)
  have h := ((paired_expireSession hp nowMs).same (sameAttempt_expirePending _ nowMs)).same
    (hresets _)
  unfold housekeeping
  dsimp only
  split
  · exact .of_over (idle_disconnect _).attempt
  · exact h

theorem over_clear (d : Device σ) {c : Session.AttemptCoordinator}
    (h : c.attempt.active = false) : Paired (d.withCoordinator c).clearContext := .of_over h

theorem paired_sessionBegin (d : Device σ) (id : Nat) (params : Json) (nowMs : UInt64) :
    Paired (d.sessionBegin env id params nowMs).2 := by
  have hover : Paired d.disconnectSession := over_clear d rfl
  unfold sessionBegin
  dsimp only
  split
  · exact hover
  rename_i context _
  split
  · exact hover
  split
  · exact hover
  obtain ⟨c', _, ⟨he, hact⟩ | ⟨descriptor, he, _⟩⟩ :=
    Session.begin_cases env.prims d.disconnectSession.coordinator context nowMs
  · rw [he]
    exact .of_over hact
  · rw [he]
    exact fun _ => rfl

theorem context_of_names {attemptId : Session.AttemptId} (h : d.namesAttempt attemptId = true) :
    d.contextActive = true := by
  simp only [namesAttempt, Bool.and_eq_true] at h
  exact h.1.1

theorem paired_sessionAuthorize (d : Device σ) (id : Nat) (params : Json) (nowMs : UInt64) :
    Paired (d.sessionAuthorize env id params nowMs).2 := by
  have hover : Paired d.disconnectSession := over_clear d rfl
  unfold sessionAuthorize
  split
  · exact hover
  rename_i request _
  split
  · exact hover
  rename_i hnames
  split
  · exact hover
  rcases Session.authorize_cases env.prims d.coordinator request.webPublicKey request.signature
    nowMs with he | ⟨transcript, _, _, _, _, he⟩
  · rw [he]
    exact hover
  · rw [he]
    rw [Bool.not_eq_true, Bool.not_eq_false'] at hnames
    exact fun _ => context_of_names hnames

theorem paired_sessionStatus (hp : Paired d) (id : Nat) (params : Json) (nowMs : UInt64) :
    Paired (d.sessionStatus id params nowMs).2 := by
  have hover : Paired d.disconnectSession := over_clear d rfl
  unfold sessionStatus
  split
  · exact hover
  split
  · exact hover
  split
  · exact hover
  rcases expire_cases d.coordinator nowMs with he | he
  · rw [he]
    exact hover
  · rw [he]
    exact hp

theorem paired_sessionComplete (d : Device σ) (id : Nat) (params : Json) (m : Moment) :
    Paired (d.sessionComplete env id params m).2 := by
  have hover : Paired d.disconnectSession := over_clear d rfl
  unfold sessionComplete
  split
  · exact hover
  rename_i request _
  split
  · exact hover
  split
  · exact hover
  obtain ⟨c', hact, _, he | ⟨vmk, he, _⟩⟩ :=
    Session.complete_cases env.prims d.coordinator request.nonce request.ciphertext request.tag
      m.nowMs
  · rw [he]
    exact .of_over hact
  · rw [he]
    dsimp only
    split
    · exact .of_over hact
    obtain ⟨ok, rt, reg, sink, hi, _⟩ := installVmk_cases env (d.withCoordinator c') vmk m.timerMs
    rw [hi]
    cases ok <;> exact .of_over hact

theorem paired_sessionCancel (d : Device σ) (id : Nat) (params : Json) (hp : Paired d) :
    (d.sessionCancel id params).2.coordinator.attempt.active = false := by
  unfold sessionCancel
  split
  · rfl
  split
  · rename_i hoff
    simp only [Bool.or_eq_true, Bool.not_eq_true'] at hoff
    rcases hoff with hoff | hoff
    · by_contra hact
      rw [Bool.not_eq_false] at hact
      rw [hp hact] at hoff
      cases hoff
    · exact hoff
  split <;> rfl

theorem paired_sessionLine (hp : Paired d) (line : List UInt8) (m : Moment) :
    Paired (d.handleSessionLine env line m).2 := by
  have hover : Paired d.disconnectSession := over_clear d rfl
  unfold handleSessionLine
  split
  · exact hover
  split
  · exact hover
  split
  · exact hover
  rename_i frame _
  split
  · exact paired_sessionBegin d frame.id frame.params m.nowMs
  · exact paired_sessionAuthorize d frame.id frame.params m.nowMs
  · exact paired_sessionStatus hp frame.id frame.params m.nowMs
  · exact paired_sessionComplete d frame.id frame.params m
  · exact .of_over (paired_sessionCancel d frame.id frame.params hp)
  · exact hover

theorem sameAttempt_armPendingDeadline (d : Device σ) (nowMs : UInt64) :
    SameAttempt d (d.armPendingDeadline nowMs) := by
  unfold armPendingDeadline
  split
  · exact .refl d
  · exact ⟨rfl, rfl⟩

theorem paired_sessionRequest (hp : Paired d) (frame : Frame) (request : SessionRequest)
    (line : List UInt8) (m : Moment) :
    Paired (d.handleSessionRequest env frame request line m).2 := by
  have hdisc (d : Device σ) : Paired d.disconnect := .of_over (idle_disconnect d).attempt
  have hline : Paired (d.cancelHealthyReset.cancelRecoveryReset.handleSessionLine env line m).2 :=
    paired_sessionLine ((hp.same (sameAttempt_cancelHealthyReset d)).same
      (sameAttempt_cancelRecoveryReset _)) line m
  unfold handleSessionRequest
  dsimp only
  split
  · exact hdisc _
  split
  · exact hdisc _
  rcases he : d.cancelHealthyReset.cancelRecoveryReset.handleSessionLine env line m with
    ⟨response, d'⟩
  rw [he] at hline
  dsimp only
  split
  · obtain ⟨ok, rt, he, _⟩ := prepareAttempt_cases env d'
      { operation := (parseSessionOperation frame.params).getD .trustedBrowserUnlock }
    rw [he]
    cases ok
    · exact .of_over rfl
    · exact hline
  split
  · exact hline.same (sameAttempt_armPendingDeadline d' m.nowMs)
  split
  · exact hline
  · exact hline

theorem Paired.step (hp : Paired d) (i : Input) : Paired (d.step env i) := by
  cases i with
  | line line m =>
    have hhouse := paired_housekeeping hp m.nowMs
    show Paired ((d.housekeeping m.nowMs).dispatch env line m).2
    unfold dispatch
    split
    · exact hhouse
    split
    · exact .of_over (idle_disconnect _).attempt
    split
    · exact .of_over (idle_disconnect _).attempt
    rename_i frame _
    by_cases hop : ∃ request, frame.operation = .session request
    · obtain ⟨request, hop⟩ := hop
      unfold handleRequest
      rw [hop]
      exact paired_sessionRequest hhouse frame request line m
    · exact hhouse.keeps (request_keeps fun request h => hop ⟨request, h⟩)
  | housekeeping nowMs => exact paired_housekeeping hp nowMs
  | disconnect => exact .of_over (idle_disconnect d).attempt
  | observeButton pressed => exact hp
  | buttonPressed nowMs => exact hp
  | expirePresence nowMs => exact hp
  | resident use => exact hp

end

/-! ## Lines that are torn down -/

/-- Every line the handler cannot read, and the requests that only tear down what is authorized:
`session.cancel`, a `session.begin` of an unknown operation and a `session.` line that is too
long. -/
def tearsDown (parse : List UInt8 → Option Json) (line : List UInt8) : Bool :=
  !line.isEmpty && (decide (maxCanonicalMessageBytes < line.length) ||
    match readFrame parse line with
    | .error _ => true
    | .ok frame =>
      match frame.operation with
      | .session request =>
        decide (maxSessionMessageBytes < line.length) || request == .cancel ||
          request == .sessionBegin && (parseSessionOperation frame.params).isNone
      | _ => false)

/-- All that a line leaves of `d` in `d'` is a teardown: nothing is authorized any more, and the
stores, the lock and the clock are as before, unless the automatic lock has just fallen due. -/
structure Unaffected (d : Device σ) (m : Moment) (d' : Device σ) : Prop where
  runtime : d'.runtime = d.runtime ∨
    (d.runtime.automaticLockDue m.nowMs = true ∧ d'.runtime = d.runtime.lock.2)
  registration : d'.registration = d.registration
  clock : d'.clock = d.clock
  idle : Idle d'

section
variable {m : Moment}

theorem housekeeping_lock (d : Device σ) (m : Moment) :
    (d.housekeeping m.nowMs).runtime = d.runtime ∨ (d.runtime.automaticLockDue m.nowMs = true ∧
      (d.housekeeping m.nowMs).runtime = d.runtime.lock.2) := by
  rw [housekeeping_runtime]
  cases hdue : d.runtime.automaticLockDue m.nowMs
  · exact .inl rfl
  · exact .inr ⟨rfl, rfl⟩

theorem cancelHealthyReset_clock (d : Device σ) : d.cancelHealthyReset.clock = d.clock := by
  unfold cancelHealthyReset
  split <;> rfl

theorem cancelRecoveryReset_clock (d : Device σ) : d.cancelRecoveryReset.clock = d.clock := by
  unfold cancelRecoveryReset
  split <;> rfl

theorem disconnect_clock (d : Device σ) : d.disconnect.clock = d.clock := by
  unfold disconnect
  rw [cancelRecoveryReset_clock, cancelHealthyReset_clock]
  rfl

theorem housekeeping_clock (d : Device σ) (nowMs : UInt64) :
    (d.housekeeping nowMs).clock = d.clock := by
  have hsession : (d.expireSession nowMs).clock = d.clock := by
    unfold expireSession
    rcases expire_cases d.coordinator nowMs with he | he
    · rw [he]
      rfl
    · rw [he]
  have hpending (d : Device σ) : (d.expirePending nowMs).clock = d.clock := by
    unfold expirePending
    split <;> rfl
  have hresets (d : Device σ) : (d.expireResets nowMs).clock = d.clock := by
    unfold expireResets
    dsimp only
    split <;> split <;> simp only [cancelRecoveryReset_clock, cancelHealthyReset_clock]
  have h : (((d.expireSession nowMs).expirePending nowMs).expireResets nowMs).clock = d.clock := by
    rw [hresets, hpending, hsession]
  unfold housekeeping
  dsimp only
  split
  · show (disconnect _).clock = d.clock
    rw [disconnect_clock, h]
  · exact h

/-- A teardown after housekeeping. -/
theorem unaffected_disconnect (env : Env σ) (d : Device σ) (m : Moment) :
    Unaffected d m (d.housekeeping m.nowMs).disconnect where
  runtime := by
    rw [disconnect_runtime]
    exact housekeeping_lock d m
  registration := (disconnect_registration _).trans (quiet_housekeeping env d m.nowMs).registration
  clock := (disconnect_clock _).trans (housekeeping_clock d m.nowMs)
  idle := idle_disconnect _

theorem Unaffected.disconnect (h : Unaffected d m d') : Unaffected d m d'.disconnect where
  runtime := by
    rw [disconnect_runtime]
    exact h.runtime
  registration := (disconnect_registration _).trans h.registration
  clock := (disconnect_clock _).trans h.clock
  idle := idle_disconnect _

theorem sessionCancel_clears (d : Device σ) (id : Nat) (params : Json) :
    (d.sessionCancel id params).2.contextActive = false ∧
      (d.sessionCancel id params).2.clock = d.clock := by
  unfold sessionCancel
  split
  · exact ⟨rfl, rfl⟩
  split
  · exact ⟨rfl, rfl⟩
  split <;> exact ⟨rfl, rfl⟩

/-- What `session.cancel` leaves once the resets are cancelled. -/
theorem idle_sessionCancel (hauth : AuthInv d) (hp : Paired d) (hno : d.NoReset) (id : Nat)
    (params : Json) : Idle (d.sessionCancel id params).2.cancelPending := by
  have hover := paired_sessionCancel d id params hp
  obtain ⟨hctx, _⟩ := sessionCancel_clears d id params
  obtain ⟨r, d', he, hsame, hw⟩ := sessionCancel_cases d id params
  rw [he] at hover hctx ⊢
  have hoff := hno.of_eq hsame.healthy hsame.recovery
  refine ⟨hover, hctx, rfl, hoff.1, hoff.2, ?_⟩
  -- a gate that is not idle would have its owner
  by_contra hgate
  have hgate' : d'.presence.gate.state ≠ .idle := hgate
  have hsamegate := hw.gate hgate'
  rcases hauth.owner (hsamegate ▸ hgate') with ⟨hact, _⟩ | ⟨kind, hact, _⟩
  · rw [(hw.owner hgate').1 hact, hact] at hover
    cases hover
  · rw [hno.inactive kind] at hact
    cases hact

theorem unaffected_session {frame : Frame} {request : SessionRequest} {line : List UInt8}
    (hs : Sound d) (hne : line.isEmpty = false) (hread : readFrame env.parse line = .ok frame)
    (hop : frame.operation = .session request)
    (htorn : maxSessionMessageBytes < line.length ∨ request = .cancel ∨
      (request = .sessionBegin ∧ parseSessionOperation frame.params = none)) :
    Unaffected d m ((d.housekeeping m.nowMs).handleSessionRequest env frame request line m).2 := by
  have hq := quiet_housekeeping env d m.nowMs
  have hauth := hs.auth.quiet hq
  have hp := paired_housekeeping hs.paired m.nowMs
  have hlock := housekeeping_lock d m
  have hclock := housekeeping_clock d m.nowMs
  have hreg := hq.registration
  generalize d.housekeeping m.nowMs = h at hauth hp hlock hclock hreg
  have hauth' := hauth.quiet (quiet_cancelResets env h)
  have hp' : Paired h.cancelHealthyReset.cancelRecoveryReset :=
    (hp.same (sameAttempt_cancelHealthyReset h)).same (sameAttempt_cancelRecoveryReset _)
  have hreset : Unaffected d m h.cancelHealthyReset.cancelRecoveryReset.disconnect :=
    { runtime := by simpa using hlock
      registration := by simpa using hreg
      clock := by
        rw [disconnect_clock, cancelRecoveryReset_clock, cancelHealthyReset_clock, hclock]
      idle := idle_disconnect _ }
  unfold handleSessionRequest
  dsimp only
  split
  · exact hreset
  rename_i hlong
  split
  · exact hreset
  rename_i hbegin
  obtain rfl : request = .cancel := by
    rcases htorn with hlong' | rfl | hbegin'
    · exact absurd hlong' hlong
    · rfl
    · exact absurd hbegin' hbegin
  rw [handleSessionLine_of_frame _ m hop hne hlong hread, if_neg (by simp), if_neg (by simp),
    if_pos rfl]
  have hno := noReset_cancelResets h
  have hidle := idle_sessionCancel hauth' hp' hno frame.id frame.params
  obtain ⟨_, hcancelclock⟩ :=
    sessionCancel_clears h.cancelHealthyReset.cancelRecoveryReset frame.id frame.params
  obtain ⟨r, d', he, hsame, _⟩ :=
    sessionCancel_cases h.cancelHealthyReset.cancelRecoveryReset frame.id frame.params
  dsimp only
  rw [he] at hidle hcancelclock ⊢
  rw [cancelRecoveryReset_clock, cancelHealthyReset_clock, hclock] at hcancelclock
  refine ⟨?_, ?_, hcancelclock, hidle⟩
  · show d'.runtime = d.runtime ∨ _ ∧ d'.runtime = _
    rw [hsame.runtime]
    simpa using hlock
  · show d'.registration = d.registration
    rw [hsame.registration]
    simpa using hreg

end

/-! ## The loop -/

section
variable {reader : JsonReader} {line : List UInt8} {m : Moment} {link : Link σ} {written : Bool}

/-- What the strict phase does to the Device with a line that it rejects. -/
theorem receiveLine_device (hphase : link.phase = .strictPostHandshake)
    (hshort : line.length ≤ maxCanonicalMessageBytes) :
    (link.receiveLine reader env line m written).device =
      if written then (link.device.handleLine env line m).2
      else (link.device.handleLine env line m).2.disconnect := by
  unfold Link.receiveLine
  rw [if_neg (by simp [hphase]), if_neg (Nat.not_lt.2 hshort), if_neg (by simp [hphase])]
  cases written
  · rfl
  · dsimp only
    rw [if_neg (by decide), if_pos rfl]
    split
    · rfl
    · split <;> rfl

theorem unaffected_line (hs : Sound d) (hshort : line.length ≤ maxCanonicalMessageBytes)
    (htorn : tearsDown env.parse line = true) : Unaffected d m (d.handleLine env line m).2 := by
  simp only [tearsDown, Bool.and_eq_true, Bool.not_eq_true', Bool.or_eq_true,
    decide_eq_true_eq] at htorn
  obtain ⟨hne, hlong | htorn⟩ := htorn
  · exact absurd hlong (Nat.not_lt.2 hshort)
  unfold handleLine dispatch
  rw [if_neg (by simp [hne]), if_neg (Nat.not_lt.2 hshort)]
  cases hread : readFrame env.parse line with
  | error e => exact unaffected_disconnect env d m
  | ok frame =>
    rw [hread] at htorn
    dsimp only
    unfold handleRequest
    cases hop : frame.operation with
    | session request =>
      simp only [hop, Bool.or_eq_true, decide_eq_true_eq, beq_iff_eq, Bool.and_eq_true,
        Option.isNone_iff_eq_none] at htorn
      exact unaffected_session hs hne hread hop (or_assoc.1 htorn)
    | _ => simp [hop] at htorn

/-- A line that is torn down has no other effect. -/
theorem unaffected_of_tearsDown (hphase : link.phase = .strictPostHandshake)
    (hs : Sound link.device) (htorn : tearsDown env.parse line = true) :
    Unaffected link.device m (link.receiveLine reader env line m written).device := by
  rcases Nat.lt_or_ge maxCanonicalMessageBytes line.length with hlong | hshort
  · have hdown : Unaffected link.device m link.device.disconnect :=
      ⟨.inl (disconnect_runtime _), disconnect_registration _, disconnect_clock _,
        idle_disconnect _⟩
    unfold Link.receiveLine
    rw [if_neg (by simp [hphase]), if_pos hlong]
    cases written
    · exact hdown.disconnect
    · dsimp only
      rw [if_neg (by decide)]
      split <;> exact hdown
  · have hline := unaffected_line (m := m) hs hshort htorn
    rw [receiveLine_device hphase hshort]
    cases written
    · exact hline.disconnect
    · exact hline

end

/-! ## Lines that are not -/

section
variable (storage : σ)

/-! Which attempts a run reaches depends on the environment: a parser may read no `session.begin`,
and a cipher may open nothing. What the handlers do with a line depends on soundness only, so three
sound Devices stand here for the reached ones; the lines below are read in a run. -/

/-- An attempt has just begun. -/
def attempting : Device σ where
  runtime := Runtime.new storage
  registration := { nvs := .reliable {} }
  coordinator := { attempt := Session.startedAttempt {} { expiresAtMs := 1 } }
  contextActive := true

/-- A key waits for its Vault. -/
def keeping : Device σ where
  runtime := Runtime.new storage
  registration := { nvs := .reliable {} }
  sink := { context := { operation := .vmkRekey }, pending := true, deadlineArmed := true
            expiresAtMs := 1 }

/-- The Vault is open. -/
def opened : Device σ where
  runtime :=
    { persistence := storage, initialized := true, schemaReady := true, hasVault := true
      state := .unlocked, envelope := { generation := 1, ciphertext := [0] }
      vmkPresent := true, unlockSessionActive := true }
  registration := { nvs := .reliable {} }

theorem sound_attempting : Sound (attempting storage) where
  runtime := .new storage
  auth :=
    { shape := fun _ => ⟨_, _, .inl rfl⟩
      context := fun _ _ => rfl
      alone := fun kind hact => by cases kind <;> cases hact
      owner := fun hg => absurd rfl hg
      undelivered := fun _ => rfl
      noVault := fun hp => by cases hp }
  paired _ := rfl

theorem sound_keeping : Sound (keeping storage) where
  runtime := .new storage
  auth :=
    { shape := fun hact => by cases hact
      context := fun hact => by cases hact
      alone := fun kind hact => by cases kind <;> cases hact
      owner := fun hg => absurd rfl hg
      undelivered := fun hact => by cases hact
      noVault := fun _ hop => by rcases hop with hop | hop <;> cases hop }
  paired hact := by cases hact

theorem sound_opened : Sound (opened storage) where
  runtime := by
    constructor <;> simp [opened]
    decide
  auth :=
    { shape := fun hact => by cases hact
      context := fun hact => by cases hact
      alone := fun kind hact => by cases kind <;> cases hact
      owner := fun hg => absurd rfl hg
      undelivered := fun hact => by cases hact
      noVault := fun hp => by cases hp }
  paired hact := by cases hact

theorem housekeeping_attempting : (attempting storage).housekeeping 0 = attempting storage := rfl

theorem housekeeping_keeping : (keeping storage).housekeeping 0 = keeping storage := rfl

theorem housekeeping_opened : (opened storage).housekeeping 0 = opened storage := rfl

variable {storage} {line : List UInt8} {m : Moment} {frame : Frame}

theorem not_unaffected_pending (h : d'.sink.pending = true) : ¬ Unaffected d m d' := fun hu => by
  have hoff := hu.idle.pending
  rw [h] at hoff
  cases hoff

theorem not_unaffected_attempt (h : d'.coordinator.attempt.active = true) : ¬ Unaffected d m d' :=
  fun hu => by
    have hoff := hu.idle.attempt
    rw [h] at hoff
    cases hoff

/-- Every request outside the session handler but `device.lock` leaves the attempt active. -/
theorem attempting_remains (hop : ∀ request, frame.operation ≠ .session request)
    (hlock : frame.operation ≠ .deviceLock) :
    ((attempting storage).handleRequest env frame line m).2.coordinator.attempt.active = true := by
  have h : KeepsAttempt _ (attempting storage)
      ((attempting storage).handleRequest env frame line m).2 := request_keeps hop
  rcases h with hsame | ⟨_, hinit | hop⟩
  · rw [hsame.1]
    rfl
  · cases hinit
  · exact absurd hop hlock

/-- A request of the session handler leaves the pending key alone, unless it is torn down. -/
theorem keeping_remains {request : SessionRequest} (hne : line.isEmpty = false)
    (hread : readFrame env.parse line = .ok frame) (hop : frame.operation = .session request)
    (hlong : ¬ maxSessionMessageBytes < line.length) (hcancel : request ≠ .cancel)
    (hbegin : ¬ (request = .sessionBegin ∧ parseSessionOperation frame.params = none)) :
    ((keeping storage).handleSessionRequest env frame request line m).2.sink.pending = true := by
  have hsink (d' : Device σ) (h : SameStore (keeping storage) d') : d'.sink.pending = true := by
    rw [h.sink]
    rfl
  have hnone : ∀ context, ¬ (keeping storage).Bound context := by
    rintro context ⟨snapshot, hb, _⟩
    cases hb
  have hresets : (keeping storage).cancelHealthyReset.cancelRecoveryReset = keeping storage := rfl
  unfold handleSessionRequest
  dsimp only
  rw [hresets, if_neg hlong, if_neg hbegin, handleSessionLine_of_frame _ m hop hne hlong hread]
  cases request with
  | cancel => exact absurd rfl hcancel
  | sessionBegin =>
    obtain ⟨r, d', he, hsame, ⟨hr, _⟩ | ⟨_, context, _, _, hbound, _⟩⟩ :=
      sessionBegin_cases env (keeping storage) frame.id frame.params m.nowMs
    · dsimp only
      rw [he, if_neg (by simp [hr]), if_neg (by simp), if_neg (by simp)]
      exact hsink d' hsame
    · exact absurd hbound (hnone context)
  | authorize =>
    obtain ⟨r, d', he, hsame, _⟩ :=
      sessionAuthorize_cases env (keeping storage) frame.id frame.params m
    dsimp only
    rw [he, if_neg (by simp), if_neg (by simp), if_neg (by simp)]
    exact hsink d' hsame
  | status =>
    obtain ⟨r, d', he, hsame, _⟩ :=
      sessionStatus_cases (keeping storage) frame.id frame.params m.nowMs
    dsimp only
    rw [he, if_neg (by simp), if_neg (by simp), if_neg (by simp)]
    exact hsink d' hsame
  | complete =>
    obtain ⟨r, d', he, _, _, ⟨hsame, _⟩ | ⟨_, _, hact, _⟩⟩ :=
      sessionComplete_cases env (keeping storage) frame.id frame.params m
    · dsimp only
      rw [he, if_neg (by simp)]
      split
      · exact (armed_armPendingDeadline d' m.nowMs).pending.trans (hsink d' hsame)
      · exact hsink d' hsame
    · cases hact
  | other =>
    dsimp only
    rw [if_neg (by simp), if_neg (by simp), if_neg (by simp)]
    rfl

theorem opened_locks : ¬ Unaffected (opened storage) m
    ((opened storage).deviceLock frame.id).2 := by
  intro h
  have hst : ((opened storage).deviceLock frame.id).2.runtime.state = .locked := rfl
  have hnot : (opened storage).runtime.automaticLockDue m.nowMs = false := rfl
  rcases h.runtime with he | ⟨hdue, _⟩
  · rw [he] at hst
    cases hst
  · rw [hnot] at hdue
    cases hdue

end

/-! ## The two checks -/

section
variable {reader : JsonReader} {line : List UInt8}

theorem affected_of_not_tearsDown (storage : σ)
    (htorn : tearsDown env.parse line = false) : ∃ d : Device σ, Sound d ∧
      ¬ Unaffected d { nowMs := 0 } (d.handleLine env line { nowMs := 0 }).2 := by
  have hattempt : (attempting storage).coordinator.attempt.active = true := rfl
  cases hne : line.isEmpty with
  | true =>
    refine ⟨attempting storage, sound_attempting storage, not_unaffected_attempt ?_⟩
    unfold handleLine dispatch
    rw [if_pos hne, housekeeping_attempting]
    exact hattempt
  | false =>
    rw [tearsDown, hne, Bool.not_false, Bool.true_and, Bool.or_eq_false_iff,
      decide_eq_false_iff_not, Nat.not_lt] at htorn
    obtain ⟨hshort, htorn⟩ := htorn
    cases hread : readFrame env.parse line with
    | error e =>
      rw [hread] at htorn
      cases htorn
    | ok frame =>
      rw [hread] at htorn
      have hline (d : Device σ) : d.handleLine env line { nowMs := 0 } =
          (d.housekeeping 0).handleRequest env frame line { nowMs := 0 } :=
        dispatch_accepted _ _ ⟨hne, hshort, hread⟩
      by_cases hsession : ∃ request, frame.operation = .session request
      · obtain ⟨request, hop⟩ := hsession
        simp only [hop, Bool.or_eq_false_iff, decide_eq_false_iff_not, beq_eq_false_iff_ne,
          Bool.and_eq_false_iff] at htorn
        refine ⟨keeping storage, sound_keeping storage, not_unaffected_pending ?_⟩
        rw [hline, housekeeping_keeping]
        unfold handleRequest
        rw [hop]
        refine keeping_remains hne hread hop htorn.1.1 htorn.1.2 fun h => ?_
        simp [h.1, h.2] at htorn
      · have hop : ∀ request, frame.operation ≠ .session request :=
          fun request h => hsession ⟨request, h⟩
        by_cases hlock : frame.operation = .deviceLock
        · refine ⟨opened storage, sound_opened storage, ?_⟩
          rw [hline, housekeeping_opened]
          unfold handleRequest
          rw [hlock]
          exact opened_locks
        · refine ⟨attempting storage, sound_attempting storage, not_unaffected_attempt ?_⟩
          rw [hline, housekeeping_attempting]
          exact attempting_remains hop hlock

/-- **Rejected frames.** After the handshake, a line that the strict check rejects leaves nothing
but a teardown, whatever the state of the Device, the time and the fate of the response, if and
only if the handler tears it down anyway. -/
theorem rejected_frame_iff (storage : σ) (hparse : ∀ line, env.parse line = reader.parse line)
    (line : List UInt8) :
    ((classifyProtocolFrame reader line).valid = false →
      ∀ (link : Link σ) (m : Moment) (written : Bool), link.phase = .strictPostHandshake →
        Sound link.device →
        Unaffected link.device m (link.receiveLine reader env line m written).device) ↔
      (classifyProtocolFrame reader line).valid = true ∨ tearsDown reader.parse line = true := by
  have hreader : env.parse = reader.parse := funext hparse
  rw [← hreader]
  constructor
  · intro h
    by_contra hno
    rw [not_or, Bool.not_eq_true, Bool.not_eq_true] at hno
    obtain ⟨d, hs, haffected⟩ := affected_of_not_tearsDown storage hno.2
    have hshort : line.length ≤ maxCanonicalMessageBytes := by
      by_contra hlong
      rw [Nat.not_le] at hlong
      have hne : line.isEmpty = false := by
        cases line with
        | nil => exact absurd hlong (Nat.not_lt_zero _)
        | cons _ _ => rfl
      have htorn := hno.2
      rw [tearsDown, hne, decide_eq_true hlong] at htorn
      cases htorn
    have hun := h hno.1 ⟨d, .strictPostHandshake⟩ { nowMs := 0 } true rfl hs
    rw [receiveLine_device rfl hshort] at hun
    exact haffected hun
  · rintro (hvalid | htorn) hrejected
    · rw [hvalid] at hrejected
      cases hrejected
    · exact fun link m written hphase hs => unaffected_of_tearsDown hphase hs htorn

end

/-- In every state of a run the Device is sound. -/
theorem sound_stateAt (env : Env σ) (storage : σ) (nvs : Registration.Nvs)
    (candidate : Registration.DeviceIdCandidate) (inp : Nat → Input) (n : Nat) :
    Sound (Run.stateAt (step env) (boot env storage nvs candidate) inp n) where
  runtime := inv_stateAt env storage nvs candidate inp n
  auth := authInv_stateAt env storage nvs candidate inp n
  paired := Run.stateAt_inv (P := Paired) (fun hact => by cases hact) (fun _ i hp => hp.step i) n

/-! ## Two frames -/

/-- A reader of the lines of the trusted unlock: the value is in the first byte. Another one begins
no known operation. -/
def lineReader : JsonReader
  | [] => none
  | 3 :: rest => some (sampleRequest "session.begin" [("operation", .string (ascii "none"))], rest)
  | byte :: rest => (sampleParse [byte]).map fun value => (value, rest)

def lineEnv : Env VaultRuntime.PersistedSnapshot := { sampleEnv with parse := lineReader.parse }

/-- The Device of the trusted unlock after `n` steps, behind its transport. -/
def lineLink (n : Nat) : Link VaultRuntime.PersistedSnapshot where
  device := Run.stateAt (step lineEnv) (boot lineEnv sampleVault sampleNvs ⟨ones 16, ones_nonzero⟩)
    sampleInputs n
  phase := .strictPostHandshake

/-- A `session.begin` with a byte behind it begins an attempt, and the empty line leaves that
attempt active, though the strict check rejects both. -/
theorem rejected_frames_affect :
    ((classifyProtocolFrame lineReader [0, 120]).valid = false ∧
      ¬ Unaffected (lineLink 0).device { nowMs := 0 }
        ((lineLink 0).receiveLine lineReader lineEnv [0, 120] { nowMs := 0 } true).device) ∧
    (classifyProtocolFrame lineReader []).valid = false ∧
      ¬ Unaffected (lineLink 1).device { nowMs := 1 }
        ((lineLink 1).receiveLine lineReader lineEnv [] { nowMs := 1 } true).device := by
  refine ⟨⟨by decide +kernel, not_unaffected_attempt ?_⟩, by decide +kernel,
    not_unaffected_attempt ?_⟩ <;> decide +kernel

theorem sound_lineLink (n : Nat) : Sound (lineLink n).device :=
  sound_stateAt lineEnv sampleVault sampleNvs ⟨ones 16, ones_nonzero⟩ sampleInputs n

/-- The line with a byte behind its request is rejected and not torn down, so it affects some
Device. A `session.begin` of no known operation is torn down, also by the Device that has an
attempt. -/
theorem rejected_frame_iff_sample :
    ¬ ((classifyProtocolFrame lineReader [0, 120]).valid = false →
      ∀ (link : Link VaultRuntime.PersistedSnapshot) (m : Moment) (written : Bool),
        link.phase = .strictPostHandshake → Sound link.device →
        Unaffected link.device m
          (link.receiveLine lineReader lineEnv [0, 120] m written).device) ∧
    (lineLink 1).device.coordinator.attempt.active = true ∧
      Unaffected (lineLink 1).device { nowMs := 1 }
        ((lineLink 1).receiveLine lineReader lineEnv [3, 120] { nowMs := 1 } true).device := by
  refine ⟨fun h => ?_, by decide +kernel, ?_⟩
  · exact absurd ((rejected_frame_iff sampleVault (fun _ => rfl) [0, 120]).1 h) (by decide +kernel)
  · exact (rejected_frame_iff sampleVault (fun _ => rfl) [3, 120]).2 (.inr (by decide +kernel))
      (by decide +kernel) (lineLink 1) { nowMs := 1 } true rfl (sound_lineLink 1)

end M5Auth.Provisioning.Device
