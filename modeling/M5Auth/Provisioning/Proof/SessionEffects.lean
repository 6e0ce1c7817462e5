import M5Auth.Provisioning.Proof.Effects
import M5Auth.Session.Proof.AttemptCases

/-!
# What a session request may do

Three session requests do more than withdraw authorizations: `session.begin` starts an attempt
(`SessionBegun`), `session.authorize` takes it to the user's presence (`SessionAuthorized`) and
`session.complete` uses it up and delivers its key (`SessionCompleted`).
`sessionRequest_cases`: every other outcome of a session request is quiet, and all of them end the
reset attempts.
-/

namespace M5Auth.Provisioning.Device

open Registration (P256PublicKey)
open Session (AttemptDescriptor BeginContext authorizedAttempt startedAttempt)
open Vault (Vmk)
open VaultRuntime (Call Runtime)

variable {σ : Type} {env : Env σ} {d d' : Device σ}

/-! ## The three events -/

/-- The binding of the Device matches the context. -/
def Bound (d : Device σ) (context : BeginContext) : Prop :=
  ∃ snapshot, d.binding = some snapshot ∧ beginMatchesSnapshot context snapshot = true

/-- The two reset attempts are over. -/
def NoReset (d : Device σ) : Prop :=
  d.healthyReset.active = false ∧ d.recoveryReset.active = false

/-- The step from `d` to `d'` starts an attempt for `context`. -/
structure SessionBegun (env : Env σ) (d : Device σ) (frame : Frame) (context : BeginContext)
    (descriptor : AttemptDescriptor) (d' : Device σ) : Prop where
  operation : frame.operation = .session .sessionBegin
  parsed : parseBeginContext frame.params = some context
  bound : d.Bound context
  prepared : (d.prepareAttempt context).1 = true
  attempt : d'.coordinator.attempt = startedAttempt context descriptor
  context : d'.contextActive = true ∧ d'.context = context
  pending : d'.sink.pending = false
  gate : d'.presence.gate.state = .idle
  noReset : d'.NoReset
  calls : Runtime.Reaches env.persistence env.prims.gcm (·.tame = true) d.runtime d'.runtime
  registration : d'.registration = d.registration

/-- The step from `d` to `d'` authorizes the attempt of `d`: the browser's key and signature are
bound to the transcript, and the gate awaits the user. -/
structure SessionAuthorized (env : Env σ) (d : Device σ) (frame : Frame) (m : Moment)
    (webPublicKey : P256PublicKey) (transcript signature : List UInt8) (d' : Device σ) : Prop where
  operation : frame.operation = .session .authorize
  request : parseAuthorize frame.params =
    some { attemptId := d.coordinator.attempt.descriptor.attemptId, webPublicKey, signature }
  active : d.coordinator.attempt.active = true ∧
    d.coordinator.attempt.state = .awaitingAuthorization
  bound : d.contextActive = true ∧ d.Bound d.context
  encoded : Session.encodeTranscript env.prims.importKey d.coordinator.attempt.context
    d.coordinator.attempt.descriptor webPublicKey = some transcript
  signed : d.coordinator.attempt.context.operation.signatureRequired = true →
    env.prims.verifyBrk d.coordinator.attempt.context.currentBrkPublicKey transcript signature =
      true
  attempt : d'.coordinator.attempt =
    { d.coordinator.attempt with webPublicKey, transcript, state := .awaitingPresence }
  context : d'.contextActive = true ∧ d'.context = d.context
  sink : d'.sink = d.sink
  gate : ∃ generation, d'.presence.gate = .beginRequest
    d.coordinator.attempt.context.operation.presenceOperation
    d.coordinator.attempt.descriptor.attemptId m.nowMs generation
  noReset : d'.NoReset
  runtime : d'.runtime = d.runtime
  registration : d'.registration = d.registration

/-- What becomes of a delivered key: nothing, it is held for a Vault yet to come, or it is tried on
the stored Vault, whose registration may be replaced. -/
inductive Delivered (env : Env σ) (d : Device σ) (vmk : Vmk) (timerMs : UInt64)
    (d' : Device σ) : Prop
  | dropped (pending : d'.sink.pending = false) (runtime : d'.runtime = d.runtime)
      (registration : d'.registration = d.registration)
  | held (pending : d'.sink.pending = true) (context : d'.sink.context = d.context)
      (vmk : d'.sink.vmk = vmk)
      (operation : d.context.operation = .initialProvisioning ∨ d.context.operation = .vmkRekey ∨
        (d.context.operation = .recovery ∧ d.runtime.hasVault = false))
      (runtime : d'.runtime = d.runtime) (registration : d'.registration = d.registration)
  | tried (pending : d'.sink.pending = false)
      (operation : d.context.operation = .trustedBrowserUnlock ∨ d.context.operation = .recovery ∨
        d.context.operation = .browserReplacement)
      (runtime : d'.runtime = d.runtime.step env.persistence env.prims.gcm (.unlock vmk timerMs) ∨
        d'.runtime = (d.runtime.step env.persistence env.prims.gcm (.unlock vmk timerMs)).step
          env.persistence env.prims.gcm .lock)
      (registration : d'.registration = d.registration ∨ ∃ expectedEpoch record,
        d'.registration = (d.registration.replace env.prims.importKey expectedEpoch record).2)

/-- The step from `d` to `d'` completes the attempt of `d`: the confirmation of the user is used up
and the key that the browser sent is opened. -/
structure SessionCompleted (env : Env σ) (d : Device σ) (frame : Frame) (m : Moment) (vmk : Vmk)
    (d' : Device σ) : Prop where
  operation : frame.operation = .session .complete
  active : d.coordinator.attempt.active = true ∧
    (d.coordinator.attempt.state = .awaitingPresence ∨ d.coordinator.attempt.state = .confirmed)
  bound : d.contextActive = true ∧ d.Bound d.context
  opened : ∃ request, parseComplete frame.params = some request ∧
    request.attemptId = d.coordinator.attempt.descriptor.attemptId ∧
    env.prims.openVmk d.coordinator.attempt.crypto.devicePublicKey
      d.coordinator.attempt.webPublicKey (Session.hkdfSalt d.coordinator.attempt.descriptor)
      d.coordinator.attempt.transcript request.nonce request.ciphertext request.tag
      d.coordinator.attempt.transcript = some vmk
  confirmed : d.presence.gate.state = .confirmed ∧
    d.presence.gate.attemptId = d.coordinator.attempt.descriptor.attemptId ∧
    m.nowMs < d.presence.gate.expiresAtMs
  attempt : d'.coordinator.attempt.active = false
  context : d'.contextActive = false
  gate : d'.presence.gate.state = .idle
  noReset : d'.NoReset
  delivered : Delivered env d vmk m.timerMs d'

/-! ## The requests -/

/-- The store behind the session handler is left alone. -/
structure SameStore (d d' : Device σ) : Prop where
  runtime : d'.runtime = d.runtime
  registration : d'.registration = d.registration
  sink : d'.sink = d.sink
  healthy : d'.healthyReset = d.healthyReset
  recovery : d'.recoveryReset = d.recoveryReset

theorem SameStore.refl (d : Device σ) : SameStore d d := ⟨rfl, rfl, rfl, rfl, rfl⟩

theorem sameStore_disconnectSession (d : Device σ) : SameStore d d.disconnectSession :=
  ⟨rfl, rfl, rfl, rfl, rfl⟩

/-- A session whose attempt and context are gone and whose gate is idle. -/
theorem withdraws_ended (hs : SameStore d d') (ha : d'.coordinator.attempt.active = false)
    (hc : d'.contextActive = false) (hg : d'.presence.gate.state = .idle) : Withdraws d d' where
  attempt h := by
    rw [ha] at h
    cases h
  context h := by
    rw [hc] at h
    cases h
  pending h := by
    rw [hs.sink] at h
    exact ⟨h, by rw [hs.sink], by rw [hs.sink]⟩
  healthy _ := hs.healthy
  recovery _ := hs.recovery
  gate h := absurd hg h
  owner h := absurd hg h

/-- An idle Device has withdrawn everything. -/
theorem Idle.withdraws (h : Idle d') (d : Device σ) : Withdraws d d' where
  attempt ha := by
    rw [h.attempt] at ha
    cases ha
  context ha := by
    rw [h.context] at ha
    cases ha
  pending ha := by
    rw [h.pending] at ha
    cases ha
  healthy ha := by
    rw [h.healthy] at ha
    cases ha
  recovery ha := by
    rw [h.recovery] at ha
    cases ha
  gate hg := absurd h.gate hg
  owner hg := absurd h.gate hg

theorem bound_of_matches (h : d.currentBindingMatches = true) :
    d.contextActive = true ∧ d.Bound d.context := by
  simp only [currentBindingMatches, Bool.and_eq_true, Option.any_eq_true] at h
  exact ⟨h.1, h.2⟩

theorem active_of_names {attemptId : Session.AttemptId} (h : d.namesAttempt attemptId = true) :
    d.coordinator.attempt.active = true ∧
      attemptId = d.coordinator.attempt.descriptor.attemptId := by
  simp only [namesAttempt, Bool.and_eq_true] at h
  exact ⟨h.1.2, Bytes.sameBytes_iff.1 h.2⟩

variable (env) in
theorem sessionBegin_cases (d : Device σ) (id : Nat) (params : Json) (nowMs : UInt64) :
    ∃ r d', d.sessionBegin env id params nowMs = (r, d') ∧ SameStore d d' ∧
      ((r.ok = false ∧ Withdraws d d') ∨
      (r.ok = true ∧ ∃ context descriptor,
        parseBeginContext params = some context ∧ d.Bound context ∧
        d'.coordinator.attempt = startedAttempt context descriptor ∧
        d'.contextActive = true ∧ d'.context = context ∧ d'.presence.gate.state = .idle)) := by
  have hend := withdraws_disconnectSession d
  have hsame := sameStore_disconnectSession d
  unfold sessionBegin
  cases hp : parseBeginContext params with
  | none => exact ⟨_, _, rfl, hsame, .inl ⟨rfl, hend⟩⟩
  | some context =>
    cases hb : d.disconnectSession.binding with
    | none =>
      simp only [hb]
      exact ⟨_, _, rfl, hsame, .inl ⟨rfl, hend⟩⟩
    | some snapshot =>
      cases hm : beginMatchesSnapshot context snapshot with
      | false =>
        simp only [hb, hm, Bool.not_false, if_true]
        exact ⟨_, _, rfl, hsame, .inl ⟨rfl, hend⟩⟩
      | true =>
        simp only [hb, hm, Bool.not_true, Bool.false_eq_true, if_false]
        obtain ⟨c', hgate, ⟨he, hact⟩ | ⟨descriptor, he, hatt⟩⟩ :=
          Session.begin_cases env.prims d.disconnectSession.coordinator context nowMs
        · rw [he]
          refine ⟨_, _, rfl, ⟨rfl, rfl, rfl, rfl, rfl⟩, .inl ⟨rfl, ?_⟩⟩
          refine withdraws_ended ⟨rfl, rfl, rfl, rfl, rfl⟩ hact rfl ?_
          simp only [presence, withCoordinator, hgate]
          rfl
        · rw [he]
          refine ⟨_, _, rfl, ⟨rfl, rfl, rfl, rfl, rfl⟩, .inr ⟨rfl, ?_⟩⟩
          refine ⟨context, descriptor, rfl, ⟨snapshot, hb, hm⟩, hatt, rfl, rfl, ?_⟩
          simp only [presence, withCoordinator, hgate]
          rfl

variable (env) in
/-- `prepare_attempt` empties the pending slot and moves the runtime over a boundary at most. -/
theorem prepareAttempt_cases (d : Device σ) (context : BeginContext) :
    ∃ ok rt, d.prepareAttempt context = (ok, d.cancelPending.withRuntime rt) ∧
      Runtime.Reaches env.persistence env.prims.gcm (·.tame = true) d.runtime rt := by
  have hsame : d.cancelPending = d.cancelPending.withRuntime d.runtime := rfl
  have hstay (ok : Bool) : ∃ ok' rt, (ok, d.cancelPending) = (ok', d.cancelPending.withRuntime rt) ∧
      Runtime.Reaches env.persistence env.prims.gcm (·.tame = true) d.runtime rt :=
    ⟨ok, _, by rw [← hsame], .refl _⟩
  have hmove (call : Call) (htame : call.tame = true) : ∃ ok rt,
      d.cancelPending.applied (d.cancelPending.runtime.exec env.persistence env.prims.gcm call) =
        (ok, d.cancelPending.withRuntime rt) ∧
      Runtime.Reaches env.persistence env.prims.gcm (·.tame = true) d.runtime rt :=
    ⟨_, _, rfl, .one call htame⟩
  unfold prepareAttempt
  dsimp only
  split
  · exact hstay _
  · split
    · exact hstay _
    · exact hstay _
    · split
      · exact hstay _
      · exact hmove .enterRecoveryBoundary rfl
    · split
      · exact hstay _
      · exact hmove .enterRecoveryBoundary rfl
    · split
      · exact hstay _
      · exact hmove .enterVmkRekeyBoundary rfl

/-- Whether an attempt can be prepared depends on the runtime and on the operation. -/
theorem prepareAttempt_congr {context context' : BeginContext} (hrt : d'.runtime = d.runtime)
    (hop : context'.operation = context.operation) :
    (d'.prepareAttempt context').1 = (d.prepareAttempt context).1 := by
  unfold prepareAttempt
  have hrt' : d'.cancelPending.runtime = d.cancelPending.runtime := hrt
  dsimp only
  rw [hrt', hop]
  split
  · rfl
  · split
    · rfl
    · rfl
    · split
      · rfl
      · rfl
    · split
      · rfl
      · rfl
    · split
      · rfl
      · rfl

/-- The router reads the operation from the same field as the session handler. -/
theorem operation_of_context {params : Json} {context : BeginContext}
    (h : parseBeginContext params = some context) :
    parseSessionOperation params = some context.operation := by
  simp only [parseBeginContext, Option.bind_eq_bind, Option.bind_eq_some_iff] at h
  obtain ⟨operation, ⟨text, hread, hparse⟩, _, _, _, _, _, _, _, _, _, _, _, _, _, _, h⟩ := h
  cases h
  unfold readString at hread
  unfold parseSessionOperation
  split at hread
  · cases hread
  · rename_i value hvalue
    split at hread
    · cases hread
    · cases hread
      rw [hvalue]
      exact hparse

variable (env) in
theorem sessionAuthorize_cases (d : Device σ) (id : Nat) (params : Json) (m : Moment) :
    ∃ r d', d.sessionAuthorize env id params m.nowMs = (r, d') ∧ SameStore d d' ∧
      (Withdraws d d' ∨ ∃ webPublicKey transcript signature,
        parseAuthorize params =
          some ⟨d.coordinator.attempt.descriptor.attemptId, webPublicKey, signature⟩ ∧
        (d.contextActive = true ∧ d.Bound d.context) ∧
        d.coordinator.attempt.active = true ∧
        d.coordinator.attempt.state = .awaitingAuthorization ∧
        Session.encodeTranscript env.prims.importKey d.coordinator.attempt.context
          d.coordinator.attempt.descriptor webPublicKey = some transcript ∧
        d.coordinator.signatureAccepted env.prims transcript signature m.nowMs = true ∧
        d' = d.withCoordinator ((d.coordinator.withPresence
          (d.presence.beginPresence d.coordinator.attempt.context.operation.presenceOperation
            d.coordinator.attempt.descriptor.attemptId m.nowMs)).withAttempt
          { d.coordinator.attempt with
            webPublicKey, transcript, state := .awaitingPresence })) := by
  have hend := withdraws_disconnectSession d
  have hsame := sameStore_disconnectSession d
  unfold sessionAuthorize
  cases hp : parseAuthorize params with
  | none => exact ⟨_, _, rfl, hsame, .inl hend⟩
  | some request =>
    cases hn : d.namesAttempt request.attemptId with
    | false =>
      simp only [hn, Bool.not_false, if_true]
      exact ⟨_, _, rfl, hsame, .inl hend⟩
    | true =>
      cases hb : d.currentBindingMatches with
      | false =>
        simp only [hn, Bool.not_true, Bool.not_false, Bool.false_eq_true, if_false, if_true]
        exact ⟨_, _, rfl, hsame, .inl hend⟩
      | true =>
        simp only [hn, Bool.not_true, Bool.false_eq_true, if_false]
        rcases Session.authorize_cases env.prims d.coordinator request.webPublicKey
          request.signature m.nowMs with he | ⟨transcript, hact, hst, htr, hsig, he⟩
        · rw [he]
          exact ⟨_, _, rfl, hsame, .inl hend⟩
        · rw [he]
          refine ⟨_, _, rfl, ⟨rfl, rfl, rfl, rfl, rfl⟩, .inr ?_⟩
          refine ⟨request.webPublicKey, transcript, request.signature, ?_, bound_of_matches hb,
            hact, hst, htr, hsig, rfl⟩
          rw [← (active_of_names hn).2]

theorem sessionStatus_cases (d : Device σ) (id : Nat) (params : Json) (nowMs : UInt64) :
    ∃ r d', d.sessionStatus id params nowMs = (r, d') ∧ SameStore d d' ∧ Withdraws d d' := by
  have hend := withdraws_disconnectSession d
  have hsame := sameStore_disconnectSession d
  unfold sessionStatus
  split
  · exact ⟨_, _, rfl, hsame, hend⟩
  · split
    · exact ⟨_, _, rfl, hsame, hend⟩
    · split
      · exact ⟨_, _, rfl, hsame, hend⟩
      · rcases expire_cases d.coordinator nowMs with he | he <;> rw [he]
        · exact ⟨_, _, rfl, hsame, hend⟩
        · exact ⟨_, _, rfl, .refl d, .refl d⟩

theorem sessionCancel_cases (d : Device σ) (id : Nat) (params : Json) :
    ∃ r d', d.sessionCancel id params = (r, d') ∧ SameStore d d' ∧ Withdraws d d' := by
  have hend := withdraws_disconnectSession d
  have hsame := sameStore_disconnectSession d
  have hclear : Withdraws d d.clearContext := by
    constructor <;> intro h
    case context => cases h
    case pending => exact ⟨h, rfl, rfl⟩
    case owner => exact ⟨fun _ => rfl, fun _ => rfl, fun _ => rfl⟩
    all_goals rfl
  unfold sessionCancel
  split
  · exact ⟨_, _, rfl, hsame, hend⟩
  · split
    · exact ⟨_, _, rfl, ⟨rfl, rfl, rfl, rfl, rfl⟩, hclear⟩
    · split
      · exact ⟨_, _, rfl, hsame, hend⟩
      · exact ⟨_, _, rfl, hsame, hend⟩

/-! ## Delivering the key -/

/-- What becomes of a key concerns the stores before and after, the operation and the slot. -/
theorem Delivered.congr {e e' : Device σ} {vmk : Vmk} {timerMs : UInt64}
    (h : Delivered env d vmk timerMs d')
    (hrt : e.runtime = d.runtime) (hreg : e.registration = d.registration)
    (hctx : e.context = d.context) (hrt' : e'.runtime = d'.runtime)
    (hreg' : e'.registration = d'.registration) (hpend : e'.sink.pending = d'.sink.pending)
    (hpctx : e'.sink.context = d'.sink.context) (hvmk : e'.sink.vmk = d'.sink.vmk) :
    Delivered env e vmk timerMs e' := by
  cases h with
  | dropped hp hr hg =>
    exact .dropped (hpend.trans hp) (by rw [hrt', hr, hrt]) (by rw [hreg', hg, hreg])
  | held hp hc hv hop hr hg =>
    exact .held (hpend.trans hp) (by rw [hpctx, hc, hctx]) (hvmk.trans hv)
      (by rw [hctx, hrt]; exact hop) (by rw [hrt', hr, hrt]) (by rw [hreg', hg, hreg])
  | tried hp hop hr hg =>
    exact .tried (hpend.trans hp) (by rw [hctx]; exact hop) (by rw [hrt', hrt]; exact hr)
      (by rw [hreg', hreg]; exact hg)

variable (env) in
/-- A replacement tries the key, then replaces the registration. -/
theorem installReplacement_cases (d : Device σ) (context : BeginContext) (vmk : Vmk)
    (timerMs : UInt64) :
    ∃ ok rt reg, d.installReplacement env context vmk timerMs =
        (ok, (d.withRuntime rt).withRegistration reg) ∧
      ((rt = d.runtime ∧ reg = d.registration) ∨
      ((rt = d.runtime.step env.persistence env.prims.gcm (.unlock vmk timerMs) ∨
          rt = (d.runtime.step env.persistence env.prims.gcm (.unlock vmk timerMs)).step
            env.persistence env.prims.gcm .lock) ∧
        (reg = d.registration ∨ ∃ expectedEpoch record,
          reg = (d.registration.replace env.prims.importKey expectedEpoch record).2))) := by
  unfold installReplacement
  split
  · exact ⟨false, d.runtime, d.registration, rfl, .inl ⟨rfl, rfl⟩⟩
  · rcases hu : d.runtime.unlock env.prims.gcm vmk timerMs with ⟨status, rt⟩
    have hstep : rt = d.runtime.step env.persistence env.prims.gcm (.unlock vmk timerMs) := by
      simp only [Runtime.step, Runtime.exec, hu]
    dsimp only
    split
    · exact ⟨false, rt, d.registration, rfl, .inr ⟨.inl hstep, .inl rfl⟩⟩
    · rcases hr : (d.withRuntime rt).registration.replace env.prims.importKey
          (context.registrationEpoch - 1)
          { vaultId := context.vaultId, registrationId := context.registrationId
            epoch := context.registrationEpoch
            brkPublicKey := context.proposedBrkPublicKey } with ⟨status', reg⟩
      have hreg : reg = (d.registration.replace env.prims.importKey
          (context.registrationEpoch - 1) _).2 := (congrArg Prod.snd hr).symm
      dsimp only
      split
      · exact ⟨false, rt.lock.2, reg, rfl,
          .inr ⟨.inr (by rw [← hstep]; rfl), .inr ⟨_, _, hreg⟩⟩⟩
      · exact ⟨true, rt, reg, rfl, .inr ⟨.inl hstep, .inr ⟨_, _, hreg⟩⟩⟩

theorem hasVault_of_metadata {rt : Runtime σ} {metadata : VaultRuntime.Metadata}
    (h : rt.metadata = .ok metadata) : metadata.hasVault = rt.hasVault := by
  unfold Runtime.metadata at h
  split at h
  · cases h
  · cases h
    rfl

variable (env) in
theorem installVmk_cases (d : Device σ) (vmk : Vmk) (timerMs : UInt64) :
    ∃ ok rt reg sink, d.installVmk env d.context vmk timerMs =
        (ok, ((d.withSink sink).withRuntime rt).withRegistration reg) ∧
      Delivered env d vmk timerMs (((d.withSink sink).withRuntime rt).withRegistration reg) := by
  have hdrop : Delivered env d vmk timerMs d.cancelPending := .dropped rfl rfl rfl
  have hreplace (hop : d.context.operation = .recovery ∨
      d.context.operation = .browserReplacement) : ∃ ok rt reg sink,
      d.cancelPending.installReplacement env d.context vmk timerMs =
        (ok, ((d.withSink sink).withRuntime rt).withRegistration reg) ∧
      Delivered env d vmk timerMs (((d.withSink sink).withRuntime rt).withRegistration reg) := by
    obtain ⟨ok, rt, reg, he, ⟨rfl, rfl⟩ | ⟨hrt, hreg⟩⟩ :=
      installReplacement_cases env d.cancelPending d.context vmk timerMs
    · exact ⟨ok, _, _, {}, he, hdrop⟩
    · exact ⟨ok, rt, reg, {}, he, .tried rfl (.inr hop) hrt hreg⟩
  unfold installVmk
  dsimp only
  split
  · rename_i hop
    exact ⟨_, _, _, {}, rfl, .tried rfl (.inl hop) (.inl rfl) (.inl rfl)⟩
  · rename_i hop
    split
    · exact ⟨false, _, _, {}, rfl, hdrop⟩
    · rename_i metadata hmeta
      split
      · exact hreplace (.inl hop)
      · rename_i hv
        split
        · exact ⟨false, _, _, {}, rfl, hdrop⟩
        · have hvault : d.runtime.hasVault = false := by
            have hv' := hasVault_of_metadata hmeta
            rw [Bool.not_eq_true] at hv
            rw [hv] at hv'
            exact hv'.symm
          exact ⟨true, _, _, { vmk, context := d.context, pending := true }, rfl,
            .held rfl rfl rfl (.inr (.inr ⟨hop, hvault⟩)) rfl rfl⟩
  · rename_i hop
    exact hreplace (.inr hop)
  · rename_i hop
    exact ⟨true, _, _, { vmk, context := d.context, pending := true }, rfl,
      .held rfl rfl rfl (.inl hop) rfl rfl⟩
  · rename_i hop
    exact ⟨true, _, _, { vmk, context := d.context, pending := true }, rfl,
      .held rfl rfl rfl (.inr (.inl hop)) rfl rfl⟩

variable (env) in
theorem sessionComplete_cases (d : Device σ) (id : Nat) (params : Json) (m : Moment) :
    ∃ r d', d.sessionComplete env id params m = (r, d') ∧ d'.healthyReset = d.healthyReset ∧
      d'.recoveryReset = d.recoveryReset ∧
      ((SameStore d d' ∧ Withdraws d d') ∨ ∃ vmk request,
        d.coordinator.attempt.active = true ∧
        (d.coordinator.attempt.state = .awaitingPresence ∨
          d.coordinator.attempt.state = .confirmed) ∧
        (d.contextActive = true ∧ d.Bound d.context) ∧
        (parseComplete params = some request ∧
          request.attemptId = d.coordinator.attempt.descriptor.attemptId ∧
          env.prims.openVmk d.coordinator.attempt.crypto.devicePublicKey
            d.coordinator.attempt.webPublicKey (Session.hkdfSalt d.coordinator.attempt.descriptor)
            d.coordinator.attempt.transcript request.nonce request.ciphertext request.tag
            d.coordinator.attempt.transcript = some vmk) ∧
        (d.presence.gate.state = .confirmed ∧
          d.presence.gate.attemptId = d.coordinator.attempt.descriptor.attemptId ∧
          m.nowMs < d.presence.gate.expiresAtMs) ∧
        d'.coordinator.attempt.active = false ∧ d'.contextActive = false ∧
        d'.presence.gate.state = .idle ∧ Delivered env d vmk m.timerMs d') := by
  have hend := withdraws_disconnectSession d
  have hsame := sameStore_disconnectSession d
  unfold sessionComplete
  cases hp : parseComplete params with
  | none => exact ⟨_, _, rfl, rfl, rfl, .inl ⟨hsame, hend⟩⟩
  | some request =>
    cases hn : d.namesAttempt request.attemptId with
    | false =>
      simp only [hn, Bool.not_false, if_true]
      exact ⟨_, _, rfl, rfl, rfl, .inl ⟨hsame, hend⟩⟩
    | true =>
      cases hb : d.currentBindingMatches with
      | false =>
        simp only [hn, Bool.not_true, Bool.not_false, Bool.false_eq_true, if_false, if_true]
        exact ⟨_, _, rfl, rfl, rfl, .inl ⟨hsame, hend⟩⟩
      | true =>
        simp only [hn, Bool.not_true, Bool.false_eq_true, if_false]
        obtain ⟨c', hact', hidle, he | ⟨vmk, he, hact, hst, hconf, hid, hlive, hopen⟩⟩ :=
          Session.complete_cases env.prims d.coordinator request.nonce request.ciphertext
            request.tag m.nowMs
        · rw [he]
          have hstore : SameStore d (d.withCoordinator c').clearContext := ⟨rfl, rfl, rfl, rfl, rfl⟩
          exact ⟨_, _, rfl, rfl, rfl, .inl ⟨hstore, withdraws_ended hstore hact' rfl hidle⟩⟩
        · rw [he]
          -- the binding does not depend on the coordinator, so the second check cannot fail
          have hb' : (d.withCoordinator c').currentBindingMatches = true := hb
          simp only [hb', Bool.not_true, Bool.false_eq_true, if_false]
          obtain ⟨ok, rt, reg, sink, hi, hdel⟩ :=
            installVmk_cases env (d.withCoordinator c') vmk m.timerMs
          refine ⟨if ok then emptySuccess id else .error id "invalid_state",
            ((((d.withCoordinator c').withSink sink).withRuntime rt).withRegistration
              reg).clearContext, ?_, rfl, rfl, .inr ⟨vmk, request, hact, hst, bound_of_matches hb,
            ⟨rfl, (active_of_names hn).2, Session.opened_of_openVmk hopen⟩, ⟨hconf, hid, hlive⟩,
            hact', rfl, hidle, hdel.congr rfl rfl rfl rfl rfl rfl rfl rfl⟩⟩
          rw [show (d.withCoordinator c').installVmk env (d.withCoordinator c').context vmk
            m.timerMs = _ from hi]
          cases ok <;> rfl

/-! ## The session branch of the router -/

section
variable (d : Device σ)

theorem noReset_cancelResets : d.cancelHealthyReset.cancelRecoveryReset.NoReset := by
  simp [NoReset]

variable (env) in
theorem quiet_cancelResets : Quiet env d d.cancelHealthyReset.cancelRecoveryReset :=
  .of_withdraws ((withdraws_cancelHealthyReset d).trans (withdraws_cancelRecoveryReset _))
    (by simp) (by simp)

theorem bound_cancelResets {context : BeginContext}
    (h : d.cancelHealthyReset.cancelRecoveryReset.Bound context) : d.Bound context := by
  simpa [Bound, binding] using h

end

theorem NoReset.of_eq (h : d.NoReset) (hh : d'.healthyReset = d.healthyReset)
    (hr : d'.recoveryReset = d.recoveryReset) : d'.NoReset := by
  rw [NoReset, hh, hr]
  exact h

theorem SameStore.quiet (h : SameStore d d') (hw : Withdraws d d') : Quiet env d d' :=
  .of_withdraws hw h.runtime h.registration

theorem handleSessionLine_of_frame {frame : Frame} {request : SessionRequest}
    {line : List UInt8} (d : Device σ) (m : Moment) (hop : frame.operation = .session request)
    (hne : line.isEmpty = false) (hlen : ¬ line.length > maxSessionMessageBytes)
    (hread : readFrame env.parse line = .ok frame) :
    d.handleSessionLine env line m = match request with
      | .sessionBegin => d.sessionBegin env frame.id frame.params m.nowMs
      | .authorize => d.sessionAuthorize env frame.id frame.params m.nowMs
      | .status => d.sessionStatus frame.id frame.params m.nowMs
      | .complete => d.sessionComplete env frame.id frame.params m
      | .cancel => d.sessionCancel frame.id frame.params
      | .other => d.failClosed frame.id "unsupported_op" := by
  simp only [handleSessionLine, hne, Bool.false_eq_true, if_false, if_neg hlen, hread, hop]
  cases request <;> rfl

/-- Only the deadline of the pending key is set. -/
structure Armed (d d' : Device σ) : Prop where
  coordinator : d'.coordinator = d.coordinator
  context : d'.context = d.context
  contextActive : d'.contextActive = d.contextActive
  runtime : d'.runtime = d.runtime
  registration : d'.registration = d.registration
  healthy : d'.healthyReset = d.healthyReset
  recovery : d'.recoveryReset = d.recoveryReset
  pending : d'.sink.pending = d.sink.pending
  pendingContext : d'.sink.context = d.sink.context
  vmk : d'.sink.vmk = d.sink.vmk

theorem Armed.refl (d : Device σ) : Armed d d :=
  ⟨rfl, rfl, rfl, rfl, rfl, rfl, rfl, rfl, rfl, rfl⟩

theorem armed_armPendingDeadline (d : Device σ) (nowMs : UInt64) :
    Armed d (d.armPendingDeadline nowMs) := by
  unfold armPendingDeadline
  split <;> exact ⟨rfl, rfl, rfl, rfl, rfl, rfl, rfl, rfl, rfl, rfl⟩

theorem Armed.quiet (h : Armed d d') : Quiet env d d' := by
  refine .of_withdraws ?_ h.runtime h.registration
  constructor <;> intro hs
  case attempt => rw [h.coordinator]
  case context =>
    rw [h.contextActive] at hs
    exact ⟨hs, h.context⟩
  case pending =>
    rw [h.pending] at hs
    exact ⟨hs, h.pendingContext, h.vmk⟩
  case healthy => exact h.healthy
  case recovery => exact h.recovery
  case gate => rw [presence, h.coordinator, presence]
  case owner => exact ⟨fun _ => by rw [h.coordinator], fun _ => h.healthy, fun _ => h.recovery⟩

/-- What a session request does to the Device. -/
inductive SessionEffect (env : Env σ) (d : Device σ) (frame : Frame) (m : Moment)
    (d' : Device σ) : Prop
  | quiet (h : Quiet env d d')
  | begun (context : BeginContext) (descriptor : AttemptDescriptor)
      (h : SessionBegun env d frame context descriptor d')
  | authorized (webPublicKey : P256PublicKey) (transcript signature : List UInt8)
      (h : SessionAuthorized env d frame m webPublicKey transcript signature d')
  | completed (vmk : Vmk) (h : SessionCompleted env d frame m vmk d')

section
variable (env) (d : Device σ) {frame : Frame} {line : List UInt8} (m : Moment)

theorem sessionBegin_effect (hop : frame.operation = .session .sessionBegin)
    (hne : line.isEmpty = false) (hread : readFrame env.parse line = .ok frame) :
    ∃ r d', d.handleSessionRequest env frame .sessionBegin line m = (r, d') ∧ NoReset d' ∧
      SessionEffect env d frame m d' := by
  have hg := noReset_cancelResets d
  have hq := quiet_cancelResets env d
  have hidle := idle_disconnect d.cancelHealthyReset.cancelRecoveryReset
  unfold handleSessionRequest
  dsimp only
  split
  · exact ⟨_, _, rfl, ⟨hidle.healthy, hidle.recovery⟩, .quiet (hq.trans (quiet_disconnect env _))⟩
  rename_i hlen
  split
  · exact ⟨_, _, rfl, ⟨hidle.healthy, hidle.recovery⟩, .quiet (hq.trans (quiet_disconnect env _))⟩
  rw [handleSessionLine_of_frame _ m hop hne hlen hread]
  obtain ⟨r, d', he, hsame, ⟨hok, hw⟩ | ⟨hok, context, descriptor, hparse, hbound, hatt, hact,
    hctx, hgate⟩⟩ := sessionBegin_cases env d.cancelHealthyReset.cancelRecoveryReset
      frame.id frame.params m.nowMs
  · simp only [he, hok, Bool.false_eq_true, and_false, if_false, reduceCtorEq]
    exact ⟨_, _, rfl, hg.of_eq hsame.healthy hsame.recovery, .quiet (hq.trans (hsame.quiet hw))⟩
  have hno : d'.NoReset := hg.of_eq hsame.healthy hsame.recovery
  have hrt : d'.runtime = d.runtime := by rw [hsame.runtime]; simp
  have hreg : d'.registration = d.registration := by rw [hsame.registration]; simp
  obtain ⟨ok, rt, hprep, hreach⟩ := prepareAttempt_cases env d'
    { operation := (parseSessionOperation frame.params).getD .trustedBrowserUnlock }
  simp only [he, hok, and_self, if_true, hprep]
  rw [hrt] at hreach
  cases ok
  · have hidle' : Idle (d'.cancelPending.withRuntime rt).disconnectSession.cancelPending :=
      ⟨rfl, rfl, rfl, hno.1, hno.2, rfl⟩
    exact ⟨_, _, rfl, ⟨hno.1, hno.2⟩,
      .quiet { hidle'.withdraws d with calls := hreach, registration := hreg }⟩
  · have hop' : (parseSessionOperation frame.params).getD .trustedBrowserUnlock =
        context.operation := by rw [operation_of_context hparse, Option.getD_some]
    have hprepared := congrArg Prod.fst hprep
    rw [prepareAttempt_congr hrt hop'] at hprepared
    exact ⟨_, _, rfl, ⟨hno.1, hno.2⟩, .begun context descriptor
      { operation := hop, parsed := hparse, bound := bound_cancelResets d hbound
        prepared := hprepared, attempt := hatt, context := ⟨hact, hctx⟩, pending := rfl
        gate := hgate, noReset := hno, calls := hreach, registration := hreg }⟩

theorem sessionAuthorize_effect (hop : frame.operation = .session .authorize)
    (hne : line.isEmpty = false) (hread : readFrame env.parse line = .ok frame) :
    ∃ r d', d.handleSessionRequest env frame .authorize line m = (r, d') ∧ NoReset d' ∧
      SessionEffect env d frame m d' := by
  have hg := noReset_cancelResets d
  have hq := quiet_cancelResets env d
  have hidle := idle_disconnect d.cancelHealthyReset.cancelRecoveryReset
  unfold handleSessionRequest
  dsimp only
  split
  · exact ⟨_, _, rfl, ⟨hidle.healthy, hidle.recovery⟩, .quiet (hq.trans (quiet_disconnect env _))⟩
  rename_i hlen
  rw [handleSessionLine_of_frame _ m hop hne hlen hread]
  obtain ⟨r, d', he, hsame, hcase⟩ := sessionAuthorize_cases env
    d.cancelHealthyReset.cancelRecoveryReset frame.id frame.params m
  have hno : d'.NoReset := hg.of_eq hsame.healthy hsame.recovery
  simp only [he, reduceCtorEq, false_and, if_false]
  refine ⟨_, _, rfl, hno, ?_⟩
  rcases hcase with hw | ⟨webPublicKey, transcript, signature, hparse, ⟨hctx, hbound⟩, hact, hst,
    henc, hsig, rfl⟩
  · exact .quiet (hq.trans (hsame.quiet hw))
  · simp only [cancelRecoveryReset_attempt, cancelHealthyReset_attempt] at hparse hact hst henc
    refine .authorized webPublicKey transcript signature
      { operation := hop, request := hparse, active := ⟨hact, hst⟩
        bound := ⟨by simpa using hctx, by simpa using bound_cancelResets d hbound⟩
        encoded := henc, signed := fun hreq => ?_, attempt := ?_, context := ⟨hctx, ?_⟩
        sink := ?_, noReset := hno, runtime := ?_, registration := ?_
        gate := ⟨d.cancelHealthyReset.cancelRecoveryReset.presence.buttonPressGeneration, ?_⟩ }
    · simpa using Session.verified_of_accepted hsig (by simpa using hreq)
    · simp [withCoordinator, Session.AttemptCoordinator.withAttempt]
    · simp [withCoordinator]
    · simp [withCoordinator]
    · simp only [cancelRecoveryReset_attempt, cancelHealthyReset_attempt]
      rfl
    · simp [withCoordinator]
    · simp [withCoordinator]

theorem sessionComplete_effect (hop : frame.operation = .session .complete)
    (hne : line.isEmpty = false) (hread : readFrame env.parse line = .ok frame) :
    ∃ r d', d.handleSessionRequest env frame .complete line m = (r, d') ∧ NoReset d' ∧
      SessionEffect env d frame m d' := by
  have hg := noReset_cancelResets d
  have hq := quiet_cancelResets env d
  have hidle := idle_disconnect d.cancelHealthyReset.cancelRecoveryReset
  unfold handleSessionRequest
  dsimp only
  split
  · exact ⟨_, _, rfl, ⟨hidle.healthy, hidle.recovery⟩, .quiet (hq.trans (quiet_disconnect env _))⟩
  rename_i hlen
  rw [handleSessionLine_of_frame _ m hop hne hlen hread]
  obtain ⟨r, d', he, hh, hr, hcase⟩ := sessionComplete_cases env
    d.cancelHealthyReset.cancelRecoveryReset frame.id frame.params m
  have hno : d'.NoReset := hg.of_eq hh hr
  have hfinish : ∃ r' d'', (if r.ok = true then (r, d'.armPendingDeadline m.nowMs) else (r, d')) =
      (r', d'') ∧ (d'' = d' ∨ d'' = d'.armPendingDeadline m.nowMs) := by
    cases r.ok
    · exact ⟨_, _, rfl, .inl rfl⟩
    · exact ⟨_, _, rfl, .inr rfl⟩
  obtain ⟨r', d'', he', hd''⟩ := hfinish
  have harm := armed_armPendingDeadline d' m.nowMs
  have hfar : Armed d' d'' := by
    rcases hd'' with rfl | rfl
    · exact .refl _
    · exact harm
  simp only [he, reduceCtorEq, false_and, if_false, true_and, he']
  refine ⟨_, _, rfl, hno.of_eq hfar.healthy hfar.recovery, ?_⟩
  rcases hcase with ⟨hsame, hw⟩ | ⟨vmk, request, hact, hst, ⟨hctx, hbound⟩, hopen,
    ⟨hconf, hid, hlive⟩, hact', hctx', hidle', hdel⟩
  · exact .quiet ((hq.trans (hsame.quiet hw)).trans hfar.quiet)
  · have hgate : d.cancelHealthyReset.cancelRecoveryReset.presence.gate = d.presence.gate :=
      hq.gate (by rw [hconf]; simp)
    simp only [cancelRecoveryReset_attempt, cancelHealthyReset_attempt] at hact hst hopen hid
    rw [hgate] at hconf hid hlive
    refine .completed vmk
      { operation := hop, active := ⟨hact, hst⟩
        bound := ⟨by simpa using hctx, by simpa using bound_cancelResets d hbound⟩
        opened := ⟨request, hopen⟩, confirmed := ⟨hconf, hid, hlive⟩
        attempt := by rw [hfar.coordinator]; exact hact'
        context := by rw [hfar.contextActive]; exact hctx'
        gate := by rw [presence, hfar.coordinator]; exact hidle'
        noReset := hno.of_eq hfar.healthy hfar.recovery
        delivered := hdel.congr (by simp) (by simp) (by simp) hfar.runtime hfar.registration
          hfar.pending hfar.pendingContext hfar.vmk }

theorem sessionStatus_effect (hop : frame.operation = .session .status)
    (hne : line.isEmpty = false) (hread : readFrame env.parse line = .ok frame) :
    ∃ r d', d.handleSessionRequest env frame .status line m = (r, d') ∧ NoReset d' ∧
      SessionEffect env d frame m d' := by
  have hq := quiet_cancelResets env d
  have hidle := idle_disconnect d.cancelHealthyReset.cancelRecoveryReset
  unfold handleSessionRequest
  dsimp only
  split
  · exact ⟨_, _, rfl, ⟨hidle.healthy, hidle.recovery⟩, .quiet (hq.trans (quiet_disconnect env _))⟩
  rename_i hlen
  rw [handleSessionLine_of_frame _ m hop hne hlen hread]
  obtain ⟨r, d', he, hsame, hw⟩ := sessionStatus_cases
    d.cancelHealthyReset.cancelRecoveryReset frame.id frame.params m.nowMs
  simp only [he, reduceCtorEq, false_and, if_false]
  exact ⟨_, _, rfl, (noReset_cancelResets d).of_eq hsame.healthy hsame.recovery,
    .quiet (hq.trans (hsame.quiet hw))⟩

theorem sessionCancel_effect (hop : frame.operation = .session .cancel)
    (hne : line.isEmpty = false) (hread : readFrame env.parse line = .ok frame) :
    ∃ r d', d.handleSessionRequest env frame .cancel line m = (r, d') ∧ NoReset d' ∧
      SessionEffect env d frame m d' := by
  have hq := quiet_cancelResets env d
  have hidle := idle_disconnect d.cancelHealthyReset.cancelRecoveryReset
  unfold handleSessionRequest
  dsimp only
  split
  · exact ⟨_, _, rfl, ⟨hidle.healthy, hidle.recovery⟩, .quiet (hq.trans (quiet_disconnect env _))⟩
  rename_i hlen
  rw [handleSessionLine_of_frame _ m hop hne hlen hread]
  obtain ⟨r, d', he, hsame, hw⟩ := sessionCancel_cases
    d.cancelHealthyReset.cancelRecoveryReset frame.id frame.params
  simp only [he, reduceCtorEq, false_and, if_false, if_true]
  exact ⟨_, _, rfl, (noReset_cancelResets d).of_eq hsame.healthy hsame.recovery,
    .quiet ((hq.trans (hsame.quiet hw)).trans (.of_withdraws (withdraws_cancelPending _) rfl rfl))⟩

theorem sessionOther_effect (hop : frame.operation = .session .other)
    (hne : line.isEmpty = false) (hread : readFrame env.parse line = .ok frame) :
    ∃ r d', d.handleSessionRequest env frame .other line m = (r, d') ∧ NoReset d' ∧
      SessionEffect env d frame m d' := by
  have hq := quiet_cancelResets env d
  have hidle := idle_disconnect d.cancelHealthyReset.cancelRecoveryReset
  unfold handleSessionRequest
  dsimp only
  split
  · exact ⟨_, _, rfl, ⟨hidle.healthy, hidle.recovery⟩, .quiet (hq.trans (quiet_disconnect env _))⟩
  rename_i hlen
  rw [handleSessionLine_of_frame _ m hop hne hlen hread]
  simp only [failClosed, reduceCtorEq, false_and, if_false]
  exact ⟨_, _, rfl, noReset_cancelResets d,
    .quiet (hq.trans (.of_withdraws (withdraws_disconnectSession _) rfl rfl))⟩

/-- **A session request ends the reset attempts, and is quiet or one of the three events.** -/
theorem sessionRequest_cases {request : SessionRequest} (hop : frame.operation = .session request)
    (hne : line.isEmpty = false) (hread : readFrame env.parse line = .ok frame) :
    ∃ r d', d.handleSessionRequest env frame request line m = (r, d') ∧ NoReset d' ∧
      SessionEffect env d frame m d' := by
  cases request with
  | sessionBegin => exact sessionBegin_effect env d m hop hne hread
  | authorize => exact sessionAuthorize_effect env d m hop hne hread
  | status => exact sessionStatus_effect env d m hop hne hread
  | complete => exact sessionComplete_effect env d m hop hne hread
  | cancel => exact sessionCancel_effect env d m hop hne hread
  | other => exact sessionOther_effect env d m hop hne hread

end

end M5Auth.Provisioning.Device
