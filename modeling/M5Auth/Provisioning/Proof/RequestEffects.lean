import M5Auth.Provisioning.Proof.SessionEffects

/-!
# What a request may do

Besides the session requests, five requests are not quiet: the two that begin a reset
(`ResetBegun`), the two that carry it out (`ResetDone`), `vault.install` (`VaultInstalled`) and
`vault.rekey` (`VaultRekeyed`). `request_cases` is the list of all of them.
-/

namespace M5Auth.Provisioning

open Session (AttemptId BeginContext AttemptDescriptor)
open VaultRuntime (Call Runtime)
open Vault (VaultEnvelope Vmk)

/-! ## Resets -/

/-- The two kinds of resets. -/
inductive ResetKind where
  | healthy | recovery
  deriving DecidableEq, Repr

namespace ResetKind

/-- The request that begins an attempt of the kind. -/
def beginOperation : ResetKind → RequestOperation
  | healthy => .factoryResetBegin
  | recovery => .recoveryBegin

/-- The request that carries the reset out. -/
def doneOperation : ResetKind → RequestOperation
  | healthy => .factoryResetCommit
  | recovery => .recoveryComplete

def other : ResetKind → ResetKind
  | healthy => recovery
  | recovery => healthy

end ResetKind

namespace Device

variable {σ : Type} {env : Env σ} {d d' : Device σ}

/-- The attempt of a kind. -/
def resetAttempt (d : Device σ) : ResetKind → RecoveryReset
  | .healthy =>
    { attemptId := d.healthyReset.attemptId, deadlineMs := d.healthyReset.deadlineMs
      active := d.healthyReset.active }
  | .recovery => d.recoveryReset

/-- The classification permits a reset of the kind. -/
def eligible (d : Device σ) : ResetKind → Prop
  | .healthy => d.healthyResetAllowed = true
  | .recovery => d.decision = .required

/-- The step from `d` to `d'` begins a reset attempt. -/
structure ResetBegun (env : Env σ) (d : Device σ) (frame : Frame) (m : Moment) (kind : ResetKind)
    (attemptId : AttemptId) (response : Response) (d' : Device σ) : Prop where
  operation : frame.operation = kind.beginOperation
  eligible : d.eligible kind
  response : response = resetBeginSuccess frame.id attemptId
  attempt : d'.resetAttempt kind = ⟨attemptId, Session.deadlineFrom m.nowMs, true⟩
  other : (d'.resetAttempt kind.other).active = false
  session : d'.coordinator.attempt.active = false
  context : d'.contextActive = false
  pending : d'.sink.pending = false
  gate : ∃ generation,
    d'.presence.gate = .beginRequest .factoryReset attemptId m.nowMs generation
  calls : Runtime.Reaches env.persistence env.prims.gcm (·.tame = true) d.runtime d'.runtime
  registration : d'.registration = d.registration

/-- The step from `d` to `d'` carries the reset out: the confirmation of the user is used up, and
the Device is still eligible. -/
structure ResetDone (env : Env σ) (d : Device σ) (frame : Frame) (m : Moment) (kind : ResetKind)
    (d' : Device σ) : Prop where
  withdraws : Withdraws d d'
  operation : frame.operation = kind.doneOperation
  request : readAttemptId frame.params = some (d.resetAttempt kind).attemptId
  active : (d.resetAttempt kind).active = true ∧ m.nowMs < (d.resetAttempt kind).deadlineMs
  confirmed : d.presence.gate.state = .confirmed ∧
    d.presence.gate.attemptId = (d.resetAttempt kind).attemptId ∧
    m.nowMs < d.presence.gate.expiresAtMs
  eligible : d.eligible kind
  closed : (d'.resetAttempt kind).active = false
  idle : d'.presence.gate.state = .idle
  runtime : d'.runtime = d.runtime ∨
    d'.runtime = d.runtime.step env.persistence env.prims.gcm .factoryReset
  registration : d'.registration = d.registration ∨
    d'.registration = d.registration.clearRegistration.2 ∨
    d'.registration = d.registration.clearCorruptRegistrationForRecovery.2

/-- The step from `d` to `d'` installs a Vault under the pending key, and rolls it back if that
fails. -/
structure VaultInstalled (env : Env σ) (d : Device σ) (frame : Frame) (m : Moment)
    (d' : Device σ) : Prop where
  withdraws : Withdraws d d'
  operation : frame.operation = .vaultInstall
  pending : d.sink.pending = true
  context : d.sink.context.operation = .initialProvisioning ∨ d.sink.context.operation = .recovery
  closed : d'.sink.pending = false
  runtime : ∃ envelope rt, rt = (provision env d.runtime envelope d.sink.vmk m.nowMs).2 ∧
    (d'.runtime = rt ∨ d'.runtime = rt.step env.persistence env.prims.gcm .factoryReset)
  registration : d'.registration = d.registration ∨ ∃ record,
    d'.registration = (d.registration.installInitial env.prims.importKey record).2

/-- The step from `d` to `d'` stores a Vault that is encrypted under the pending key. -/
structure VaultRekeyed (env : Env σ) (d : Device σ) (frame : Frame) (m : Moment)
    (d' : Device σ) : Prop where
  withdraws : Withdraws d d'
  operation : frame.operation = .vaultRekey
  pending : d.sink.pending = true
  context : d.sink.context.operation = .vmkRekey
  closed : d'.sink.pending = false
  runtime : ∃ expectedGeneration envelope rt, rt = d.runtime.step env.persistence env.prims.gcm
      (.rekeyEncryptedVault expectedGeneration envelope d.sink.vmk) ∧
    (d'.runtime = rt ∨ d'.runtime = rt.step env.persistence env.prims.gcm .lock)
  registration : d'.registration = d.registration

/-- What a request does to the Device. -/
inductive RequestEffect (env : Env σ) (d : Device σ) (frame : Frame) (m : Moment)
    (response : Response) (d' : Device σ) : Prop
  | session (h : SessionEffect env d frame m d')
  | resetBegun (kind : ResetKind) (attemptId : AttemptId)
      (h : ResetBegun env d frame m kind attemptId response d')
  | resetDone (kind : ResetKind) (h : ResetDone env d frame m kind d')
  | installed (h : VaultInstalled env d frame m d')
  | rekeyed (h : VaultRekeyed env d frame m d')

theorem RequestEffect.quiet {frame : Frame} {m : Moment} {response : Response}
    (h : Quiet env d d') : RequestEffect env d frame m response d' := .session (.quiet h)

/-! ## The healthy reset -/

section
variable (env) (d) (id : Nat) (params : Json) (m : Moment) (frame : Frame)

/-- `factory_reset.begin` is rejected, or begins the attempt that it reports. -/
theorem factoryResetBegin_cases (hop : frame.operation = .factoryResetBegin) :
    ∃ r d', d.factoryResetBegin env frame.id m.nowMs = (r, d') ∧
      ((r.ok = false ∧ Quiet env d d') ∨
        ∃ attemptId, ResetBegun env d frame m .healthy attemptId r d') := by
  unfold factoryResetBegin
  split
  · exact ⟨_, _, rfl, .inl ⟨rfl, .refl d⟩⟩
  · rename_i hallowed
    have hidle := idle_disconnect d
    refine ⟨_, _, rfl, .inr ⟨(env.resetAttemptId d.disconnect.resetDraws).1, ?_⟩⟩
    exact
      { operation := hop, eligible := by simpa [Device.eligible] using hallowed, response := rfl
        attempt := rfl, other := hidle.recovery, session := hidle.attempt
        context := hidle.context, pending := hidle.pending, gate := ⟨_, rfl⟩
        calls := (quiet_disconnect env d).calls, registration := disconnect_registration d }

/-- A request on the healthy attempt is rejected, or it names the active attempt in time. -/
theorem withHealthyAttempt_cases (nowMs : UInt64) (act : AttemptId → Response × Device σ) :
    (∃ r d', d.withHealthyAttempt id params nowMs act = (r, d') ∧ r.ok = false ∧
      Quiet env d d') ∨
    (d.withHealthyAttempt id params nowMs act = act d.healthyReset.attemptId ∧
      readAttemptId params = some d.healthyReset.attemptId ∧
      d.healthyReset.active = true ∧ nowMs < d.healthyReset.deadlineMs) := by
  unfold withHealthyAttempt
  cases hid : readAttemptId params with
  | none => exact .inl ⟨_, _, rfl, rfl, .refl d⟩
  | some attemptId =>
    unfold FactoryResetAuthorization.check
    dsimp only
    cases hact : d.healthyReset.active
    · simp only [Bool.not_false, if_true]
      exact .inl ⟨_, _, rfl, rfl, .refl d⟩
    · simp only [Bool.not_true, Bool.false_eq_true, if_false]
      cases hsame : attemptId.sameBytes d.healthyReset.attemptId
      · simp only [Bool.not_false, if_true]
        exact .inl ⟨_, _, rfl, rfl, .refl d⟩
      · simp only [Bool.not_true, Bool.false_eq_true, if_false]
        obtain rfl := Bytes.sameBytes_iff.1 hsame
        by_cases hexp : d.healthyReset.deadlineMs ≤ nowMs
        · rw [if_pos hexp]
          exact .inl ⟨_, _, rfl, rfl,
            .of_withdraws (withdraws_cancelHealthyReset d) (by simp) (by simp)⟩
        · rw [if_neg hexp]
          exact .inr ⟨rfl, rfl, trivial, UInt64.not_le.1 hexp⟩

theorem factoryResetStatus_quiet (nowMs : UInt64) :
    ∃ r d', d.factoryResetStatus id params nowMs = (r, d') ∧ Quiet env d d' := by
  unfold factoryResetStatus
  rcases withHealthyAttempt_cases env d id params nowMs _ with ⟨r, d', he, _, hq⟩ | ⟨he, _⟩
  · exact ⟨r, d', he, hq⟩
  · rw [he]
    exact ⟨_, _, rfl, .refl d⟩

/-- `factory_reset.cancel` is rejected, or ends the attempt. -/
theorem factoryResetCancel_cases (nowMs : UInt64) :
    ∃ r d', d.factoryResetCancel id params nowMs = (r, d') ∧ Quiet env d d' ∧
      (r.ok = false ∨ d'.healthyReset.active = false) := by
  unfold factoryResetCancel
  rcases withHealthyAttempt_cases env d id params nowMs _ with ⟨r, d', he, hok, hq⟩ | ⟨he, _⟩
  · exact ⟨r, d', he, hq, .inl hok⟩
  · rw [he]
    exact ⟨_, _, rfl, .of_withdraws (withdraws_cancelHealthyReset d) (by simp) (by simp),
      .inr rfl⟩

theorem factoryReset_step (rt : Runtime σ) : (rt.factoryReset env.persistence).2 =
    rt.step env.persistence env.prims.gcm .factoryReset := rfl

theorem commitReset_cases :
    ∃ r rt reg, d.commitReset env id = (r, (d.withRuntime rt).withRegistration reg) ∧
      rt = d.runtime.step env.persistence env.prims.gcm .factoryReset ∧
      (reg = d.registration ∨ reg = d.registration.clearRegistration.2) := by
  rcases hv : d.runtime.factoryReset env.persistence with ⟨vaultStatus, rt⟩
  have hrt : rt = d.runtime.step env.persistence env.prims.gcm .factoryReset := by
    rw [← factoryReset_step, hv]
  simp only [commitReset, hv]
  split
  · exact ⟨_, rt, d.registration, rfl, hrt, .inl rfl⟩
  · exact ⟨_, rt, _, rfl, hrt, .inr rfl⟩

theorem factoryResetCommit_effect (hop : frame.operation = .factoryResetCommit) :
    ∃ r d', d.factoryResetCommit env frame.id frame.params m.nowMs = (r, d') ∧
      RequestEffect env d frame m r d' := by
  unfold factoryResetCommit
  rcases withHealthyAttempt_cases env d frame.id frame.params m.nowMs _ with
    ⟨r, d', he, _, hq⟩ | ⟨he, hid, hact, hlive⟩
  · exact ⟨r, d', he, .quiet hq⟩
  rw [he]
  rcases Session.consume_cases d.presence d.healthyReset.attemptId m.nowMs with
    ⟨p', hc, hg⟩ | ⟨p', hc, hidle, hconf, hgid, hglive⟩
  · rw [hc]
    exact ⟨_, _, rfl, .quiet (.of_withdraws (withdraws_withPresence hg) rfl rfl)⟩
  rw [hc]
  have hw : Withdraws d ((d.withPresence p').withHealthyReset .cancel) := by
    refine ⟨fun _ => rfl, fun h => ⟨h, rfl⟩, fun h => ⟨h, rfl, rfl⟩, fun h => ?_, fun _ => rfl,
      fun h => absurd hidle h, fun h => absurd hidle h⟩
    cases h
  dsimp only
  split
  · exact ⟨_, _, rfl, .quiet (.of_withdraws hw rfl rfl)⟩
  · rename_i hallowed
    have helig : ((d.withPresence p').withHealthyReset .cancel).eligible .healthy := by
      simpa [Device.eligible] using hallowed
    obtain ⟨r, rt, reg, hr, hrt, hreg⟩ := commitReset_cases env
      ((d.withPresence p').withHealthyReset .cancel).disconnectSession.cancelPending.cancelRecoveryReset
      frame.id
    have hw' := ((hw.trans (withdraws_disconnectSession _)).trans
      (withdraws_cancelPending _)).trans (withdraws_cancelRecoveryReset _)
    simp only [cancelRecoveryReset_runtime, cancelRecoveryReset_registration] at hrt hreg
    refine ⟨_, _, hr, .resetDone .healthy ?_⟩
    refine
      { withdraws := hw'.of_store _ _ _ _, operation := hop, request := hid
        active := ⟨hact, hlive⟩, confirmed := ⟨hconf, hgid, hglive⟩
        eligible := helig, closed := ?_, idle := ?_
        runtime := .inr hrt, registration := hreg.imp_right .inl }
    · show (cancelRecoveryReset _).healthyReset.active = false
      rw [cancelRecoveryReset_healthyReset]
      rfl
    · by_contra hne
      have hgate := (withdraws_cancelRecoveryReset
        ((d.withPresence p').withHealthyReset .cancel).disconnectSession.cancelPending).gate hne
      exact hne (hgate ▸ rfl)

/-! ## The recovery reset -/

/-- `recovery_begin` is rejected, or begins the attempt that it reports. -/
theorem recoveryBegin_cases (hop : frame.operation = .recoveryBegin) :
    ∃ r d', d.recoveryBegin env frame.id m.nowMs = (r, d') ∧
      ((r.ok = false ∧ Quiet env d d') ∨
        ∃ attemptId, ResetBegun env d frame m .recovery attemptId r d') := by
  have hidle := idle_disconnect d
  have hquiet := quiet_disconnect env d
  have hboundary : ∃ status rt,
      (if d.disconnect.runtime.state = .error then
        (if d.disconnect.runtime.recoveryResetAllowed then .ok else .invalidState,
          d.disconnect.runtime)
      else d.disconnect.runtime.enterRecoveryBoundary) = (status, rt) ∧
      Quiet env d (d.disconnect.withRuntime rt) := by
    split
    · exact ⟨_, _, rfl, hquiet⟩
    · exact ⟨_, _, rfl, hquiet.withRuntime .enterRecoveryBoundary rfl rfl⟩
  unfold recoveryBegin
  split
  · exact ⟨_, _, rfl, .inl ⟨rfl, .refl d⟩⟩
  rename_i hrequired
  obtain ⟨status, rt, hb, hq⟩ := hboundary
  dsimp only
  rw [hb]
  dsimp only
  split
  · exact ⟨_, _, rfl, .inl ⟨rfl, hq⟩⟩
  · refine ⟨_, _, rfl, .inr ⟨(env.resetAttemptId d.disconnect.resetDraws).1, ?_⟩⟩
    exact
      { operation := hop, eligible := by simpa [Device.eligible] using hrequired, response := rfl
        attempt := rfl, other := hidle.healthy, session := hidle.attempt
        context := hidle.context, pending := hidle.pending, gate := ⟨_, rfl⟩, calls := hq.calls
        registration := disconnect_registration d }

/-- A request on the recovery attempt is rejected, or it names the active attempt in time. -/
theorem withRecoveryAttempt_cases (nowMs : UInt64) (act : AttemptId → Response × Device σ) :
    (∃ r d', d.withRecoveryAttempt id params nowMs act = (r, d') ∧ r.ok = false ∧
      Quiet env d d') ∨
    (d.withRecoveryAttempt id params nowMs act = act d.recoveryReset.attemptId ∧
      readAttemptId params = some d.recoveryReset.attemptId ∧
      d.recoveryReset.active = true ∧ nowMs < d.recoveryReset.deadlineMs) := by
  unfold withRecoveryAttempt
  cases hid : readAttemptId params with
  | none => exact .inl ⟨_, _, rfl, rfl, .refl d⟩
  | some attemptId =>
    dsimp only
    cases hnames : d.recoveryReset.names attemptId
    · simp only [Bool.not_false, if_true]
      exact .inl ⟨_, _, rfl, rfl, .refl d⟩
    · simp only [Bool.not_true, Bool.false_eq_true, if_false]
      simp only [RecoveryReset.names, Bool.and_eq_true] at hnames
      obtain ⟨hact, hsame⟩ := hnames
      obtain rfl := Bytes.sameBytes_iff.1 hsame
      by_cases hexp : d.recoveryReset.deadlineMs ≤ nowMs
      · rw [if_pos hexp]
        exact .inl ⟨_, _, rfl, rfl,
          .of_withdraws (withdraws_cancelRecoveryReset d) (by simp) (by simp)⟩
      · rw [if_neg hexp]
        exact .inr ⟨rfl, rfl, hact, UInt64.not_le.1 hexp⟩

theorem recoveryStatus_quiet (nowMs : UInt64) :
    ∃ r d', d.recoveryStatus id params nowMs = (r, d') ∧ Quiet env d d' := by
  unfold recoveryStatus
  rcases withRecoveryAttempt_cases env d id params nowMs _ with ⟨r, d', he, _, hq⟩ | ⟨he, _⟩
  · exact ⟨r, d', he, hq⟩
  · rw [he]
    exact ⟨_, _, rfl, .refl d⟩

theorem completeReset_cases :
    ∃ r rt reg, d.completeReset env id = (r, (d.withRegistration reg).withRuntime rt) ∧
      (rt = d.runtime ∨ rt = d.runtime.step env.persistence env.prims.gcm .factoryReset) ∧
      (reg = d.registration.clearRegistration.2 ∨
        reg = d.registration.clearCorruptRegistrationForRecovery.2) := by
  have hclear : ∃ status reg, (if d.registration.readSnapshot.1 = .corrupt then
        d.registration.clearCorruptRegistrationForRecovery
      else d.registration.clearRegistration) = (status, reg) ∧
      (reg = d.registration.clearRegistration.2 ∨
        reg = d.registration.clearCorruptRegistrationForRecovery.2) := by
    split
    · exact ⟨_, _, rfl, .inr rfl⟩
    · exact ⟨_, _, rfl, .inl rfl⟩
  obtain ⟨status, reg, he, hreg⟩ := hclear
  simp only [completeReset, he]
  split
  · exact ⟨_, d.runtime, reg, rfl, .inl rfl, hreg⟩
  · exact ⟨_, _, reg, rfl, .inr rfl, hreg⟩

theorem recoveryComplete_effect (hop : frame.operation = .recoveryComplete) :
    ∃ r d', d.recoveryComplete env frame.id frame.params m.nowMs = (r, d') ∧
      RequestEffect env d frame m r d' := by
  unfold recoveryComplete
  rcases withRecoveryAttempt_cases env d frame.id frame.params m.nowMs _ with
    ⟨r, d', he, _, hq⟩ | ⟨he, hid, hact, hlive⟩
  · exact ⟨r, d', he, .quiet hq⟩
  rw [he]
  rcases Session.consume_cases d.presence d.recoveryReset.attemptId m.nowMs with
    ⟨p', hc, hg⟩ | ⟨p', hc, hidle, hconf, hgid, hglive⟩
  · rw [hc]
    exact ⟨_, _, rfl, .quiet (.of_withdraws (withdraws_withPresence hg) rfl rfl)⟩
  rw [hc]
  have hw : Withdraws d ((d.withPresence p').withRecoveryReset {}) := by
    refine ⟨fun _ => rfl, fun h => ⟨h, rfl⟩, fun h => ⟨h, rfl, rfl⟩, fun _ => rfl, fun h => ?_,
      fun h => absurd hidle h, fun h => absurd hidle h⟩
    cases h
  dsimp only
  split
  · exact ⟨_, _, rfl, .quiet (.of_withdraws hw rfl rfl)⟩
  · rename_i hrequired
    have helig : ((d.withPresence p').withRecoveryReset {}).eligible .recovery := by
      simpa [Device.eligible] using hrequired
    obtain ⟨r, rt, reg, hr, hrt, hreg⟩ := completeReset_cases env
      ((d.withPresence p').withRecoveryReset {}) frame.id
    exact ⟨_, _, hr, .resetDone .recovery
      { withdraws := hw.of_store _ _ _ _, operation := hop, request := hid
        active := ⟨hact, hlive⟩, confirmed := ⟨hconf, hgid, hglive⟩
        eligible := helig, closed := rfl, idle := hidle
        runtime := hrt, registration := .inr hreg }⟩

/-! ## Vault requests -/

/-- A valid pending key has not expired. -/
theorem pending_of_valid {operation : Session.Operation} {nowMs : UInt64}
    (h : (d.expirePending nowMs).pendingValid operation = true) :
    d.expirePending nowMs = d ∧ d.sink.pending = true ∧ d.sink.context.operation = operation := by
  simp only [pendingValid, Bool.and_eq_true, beq_iff_eq] at h
  have he : d.expirePending nowMs = d ∨ d.expirePending nowMs = d.cancelPending := by
    unfold expirePending
    split
    · exact .inl rfl
    · exact .inr rfl
  rcases he with he | he
  · rw [he] at h
    exact ⟨he, h.1.1, h.2⟩
  · rw [he] at h
    cases h.1.1

theorem quiet_cancelPending : Quiet env d d.cancelPending :=
  .of_withdraws (withdraws_cancelPending d) rfl rfl

theorem installVault_cases (envelope : VaultEnvelope) (nowMs : UInt64) :
    ∃ ok rt reg, d.installVault env envelope nowMs =
        (ok, ((d.withRegistration reg).withRuntime rt).cancelPending) ∧
      (∃ rt', rt' = (provision env d.runtime envelope d.sink.vmk nowMs).2 ∧
        (rt = rt' ∨ rt = rt'.step env.persistence env.prims.gcm .factoryReset)) ∧
      (reg = d.registration ∨ ∃ record,
        reg = (d.registration.installInitial env.prims.importKey record).2) := by
  unfold installVault
  rcases hp : provision env d.runtime envelope d.sink.vmk nowMs with ⟨status, rt⟩
  dsimp only
  split
  · exact ⟨false, _, d.registration, rfl, ⟨rt, rfl, .inr rfl⟩, .inl rfl⟩
  · split
    · exact ⟨false, _, _, rfl, ⟨rt, rfl, .inr rfl⟩, .inr ⟨_, rfl⟩⟩
    · exact ⟨true, _, _, rfl, ⟨rt, rfl, .inl rfl⟩, .inr ⟨_, rfl⟩⟩

/-- The two installations differ in their checks only. -/
theorem installed_of_cases {operation : Session.Operation} {envelope : VaultEnvelope}
    {nowMs : UInt64} {guard : Bool} {ok : Bool}
    (hg : guard = false → (d.expirePending nowMs).pendingValid operation = true)
    (hop : operation = .initialProvisioning ∨ operation = .recovery)
    (hframe : frame.operation = .vaultInstall) (hm : m.nowMs = nowMs)
    (h : (if guard then (false, (d.expirePending nowMs).cancelPending)
      else (d.expirePending nowMs).installVault env envelope nowMs) = (ok, d')) :
    Quiet env d d' ∨ VaultInstalled env d frame m d' := by
  cases guard with
  | true =>
    obtain rfl : (d.expirePending nowMs).cancelPending = d' := congrArg Prod.snd h
    exact .inl ((quiet_expirePending d nowMs).trans (quiet_cancelPending env _))
  | false =>
    obtain ⟨he, hpend, hctx⟩ := pending_of_valid d (hg rfl)
    rw [he, if_neg (by simp)] at h
    obtain ⟨ok', rt, reg, hi, hrt, hreg⟩ := installVault_cases env d envelope nowMs
    obtain rfl : ((d.withRegistration reg).withRuntime rt).cancelPending = d' := by
      rw [hi] at h
      exact congrArg Prod.snd h
    refine .inr
      { withdraws := (withdraws_cancelPending d).of_store _ _ _ _, operation := hframe
        pending := hpend, context := ?_, closed := rfl, runtime := ?_, registration := hreg }
    · rw [hctx]
      exact hop
    · rw [hm]
      exact ⟨envelope, hrt⟩

theorem installed_answer {result : Bool × Device σ}
    (h : Quiet env d result.2 ∨ VaultInstalled env d frame m result.2) :
    ∃ r d', (match result with
      | (true, d) => (emptySuccess frame.id, d)
      | (false, d) => (Response.error frame.id "invalid_state", d)) = (r, d') ∧
      RequestEffect env d frame m r d' := by
  obtain ⟨ok, d'⟩ := result
  cases ok
  · exact ⟨_, _, rfl, h.elim .quiet .installed⟩
  · exact ⟨_, _, rfl, h.elim .quiet .installed⟩

theorem vaultInstall_effect (hop : frame.operation = .vaultInstall) :
    ∃ r d', d.vaultInstall env frame.id frame.params m.nowMs = (r, d') ∧
      RequestEffect env d frame m r d' := by
  have hcancel : Quiet env d d.cancelPending := quiet_cancelPending env d
  unfold vaultInstall
  split
  · exact ⟨_, _, rfl, .quiet hcancel⟩
  rename_i envelope _
  split
  · exact ⟨_, _, rfl, .quiet (.refl d)⟩
  apply installed_answer
  split
  · refine installed_of_cases env d m frame ?_ (.inl rfl) hop rfl rfl
    simp only [Bool.or_eq_false_iff, Bool.not_eq_false']
    exact fun h => h.1.1.1.1
  · refine installed_of_cases env d m frame ?_ (.inr rfl) hop rfl rfl
    simp only [Bool.or_eq_false_iff, Bool.not_eq_false']
    exact fun h => h.1.1.1.1.1
  · exact .inl hcancel

theorem vaultUpdate_quiet (nowMs : UInt64) :
    ∃ r d', d.vaultUpdate env id params nowMs = (r, d') ∧ Quiet env d d' := by
  unfold vaultUpdate
  split
  · exact ⟨_, _, rfl, .refl d⟩
  rename_i envelope expectedGeneration _
  rcases hu : d.runtime.updateEncryptedVault env.persistence env.prims.gcm expectedGeneration
    envelope nowMs with ⟨⟨status, lockDue⟩, rt⟩
  have hq : Quiet env d (d.withRuntime rt) := by
    refine (Quiet.refl d).withRuntime (.updateEncryptedVault expectedGeneration envelope nowMs)
      rfl ?_
    simp only [Runtime.step, Runtime.exec, hu]
  dsimp only
  split
  · exact ⟨_, _, rfl, hq.trans (quiet_lockSecurityBoundary env _)⟩
  · exact ⟨_, _, rfl, hq⟩

theorem installRekeyedVault_cases (expectedGeneration : UInt64) (envelope : VaultEnvelope)
    (hop : frame.operation = .vaultRekey) :
    ∃ ok d', d.installRekeyedVault env expectedGeneration envelope m.nowMs = (ok, d') ∧
      (Quiet env d d' ∨ (VaultRekeyed env d frame m d' ∧ d'.runtime = d.runtime.step
        env.persistence env.prims.gcm
        (.rekeyEncryptedVault expectedGeneration envelope d.sink.vmk))) := by
  unfold installRekeyedVault
  dsimp only
  split
  · exact ⟨_, _, rfl, .inl ((quiet_expirePending d m.nowMs).trans (quiet_cancelPending env _))⟩
  · rename_i hg
    simp only [Bool.or_eq_true, not_or, Bool.not_eq_true', Bool.not_eq_false] at hg
    obtain ⟨he, hpend, hctx⟩ := pending_of_valid d hg.1.1.1
    rw [he]
    refine ⟨_, _, rfl, .inr ⟨?_, rfl⟩⟩
    exact
      { withdraws := (withdraws_cancelPending d).of_store _ _ _ _, operation := hop
        pending := hpend, context := hctx, closed := rfl
        runtime := ⟨expectedGeneration, envelope, _, rfl, .inl rfl⟩, registration := rfl }

theorem vaultRekey_effect (hop : frame.operation = .vaultRekey) :
    ∃ r d', d.vaultRekey env frame.id frame.params m.nowMs = (r, d') ∧
      RequestEffect env d frame m r d' := by
  unfold vaultRekey
  split
  · exact ⟨_, _, rfl, .quiet (quiet_cancelPending env d)⟩
  rename_i envelope expectedGeneration _
  obtain ⟨ok, d', he, hcase⟩ :=
    installRekeyedVault_cases env d m frame expectedGeneration envelope hop
  rw [he]
  cases ok with
  | false => exact ⟨_, _, rfl, hcase.elim .quiet fun h => .rekeyed h.1⟩
  | true =>
    dsimp only
    split
    · refine ⟨_, _, rfl, ?_⟩
      rcases hcase with hq | ⟨h, hrt⟩
      · exact .quiet (hq.trans (quiet_lockSecurityBoundary env d'))
      · have hlock : d'.lockSecurityBoundary.2.runtime =
            d'.runtime.step env.persistence env.prims.gcm .lock := by
          show d'.disconnect.runtime.lock.2 = _
          rw [disconnect_runtime]
          rfl
        refine .rekeyed
          { h with
            withdraws := h.withdraws.trans (quiet_lockSecurityBoundary env d').toWithdraws
            closed := (idle_disconnect d').pending
            runtime := ⟨expectedGeneration, envelope, _, rfl, .inr ?_⟩, registration := ?_ }
        · rw [hlock, hrt]
        · exact (disconnect_registration d').trans h.registration
    · exact ⟨_, _, rfl, hcase.elim .quiet fun h => .rekeyed h.1⟩

/-! ## All requests -/

theorem timeSync_quiet : ∃ r d', d.timeSync id params m = (r, d') ∧ Quiet env d d' := by
  have hclock (clock : Time.TrustedClock) : Quiet env d { d with clock } :=
    .of_withdraws ((Withdraws.refl d).of_store _ _ _ _) rfl rfl
  unfold timeSync
  split
  · exact ⟨_, _, rfl, .refl d⟩
  · exact ⟨_, _, rfl, hclock _⟩

theorem handleHello_stays : ∃ r, d.handleHello env id = (r, d) := by
  unfold handleHello
  split
  · exact ⟨_, rfl⟩
  · split
    · exact ⟨_, rfl⟩
    · exact ⟨_, rfl⟩

/-- **The effect of an accepted request.** -/
theorem request_cases {line : List UInt8} (hne : line.isEmpty = false)
    (hread : readFrame env.parse line = .ok frame) :
    ∃ r d', d.handleRequest env frame line m = (r, d') ∧ RequestEffect env d frame m r d' := by
  have hquiet {result : Response × Device σ} (h : ∃ r d', result = (r, d') ∧ Quiet env d d') :
      ∃ r d', result = (r, d') ∧ RequestEffect env d frame m r d' := by
    obtain ⟨r, d', he, hq⟩ := h
    exact ⟨r, d', he, .quiet hq⟩
  have hbegun {result : Response × Device σ} {kind : ResetKind} (h : ∃ r d', result = (r, d') ∧
      ((r.ok = false ∧ Quiet env d d') ∨
        ∃ attemptId, ResetBegun env d frame m kind attemptId r d')) :
      ∃ r d', result = (r, d') ∧ RequestEffect env d frame m r d' := by
    obtain ⟨r, d', he, ⟨_, hq⟩ | ⟨attemptId, hb⟩⟩ := h
    · exact ⟨r, d', he, .quiet hq⟩
    · exact ⟨r, d', he, .resetBegun kind attemptId hb⟩
  unfold handleRequest
  cases hop : frame.operation with
  | session request =>
    obtain ⟨r, d', he, _, heffect⟩ := sessionRequest_cases env d m hop hne hread
    exact ⟨r, d', he, .session heffect⟩
  | hello =>
    obtain ⟨r, he⟩ := handleHello_stays env d frame.id
    exact ⟨r, d, he, .quiet (.refl d)⟩
  | factoryResetBegin => exact hbegun (factoryResetBegin_cases env d m frame hop)
  | factoryResetStatus => exact hquiet (factoryResetStatus_quiet env d _ _ _)
  | factoryResetCancel =>
    obtain ⟨r, d', he, hq, _⟩ := factoryResetCancel_cases env d frame.id frame.params m.nowMs
    exact ⟨r, d', he, .quiet hq⟩
  | factoryResetCommit => exact factoryResetCommit_effect env d m frame hop
  | recoveryBegin => exact hbegun (recoveryBegin_cases env d m frame hop)
  | recoveryStatus => exact hquiet (recoveryStatus_quiet env d _ _ _)
  | recoveryComplete => exact recoveryComplete_effect env d m frame hop
  | vaultInstall => exact vaultInstall_effect env d m frame hop
  | vaultUpdate => exact hquiet (vaultUpdate_quiet env d _ _ _)
  | vaultRekey => exact vaultRekey_effect env d m frame hop
  | timeStatus => exact ⟨_, d, rfl, .quiet (.refl d)⟩
  | timeSync => exact hquiet (timeSync_quiet env d _ _ m)
  | deviceLock => exact ⟨_, _, rfl, .quiet (quiet_lockSecurityBoundary env d)⟩
  | factoryReset => exact ⟨_, d, rfl, .quiet (.refl d)⟩
  | unsupported => exact ⟨_, d, rfl, .quiet (.refl d)⟩

end

end Device

end M5Auth.Provisioning
