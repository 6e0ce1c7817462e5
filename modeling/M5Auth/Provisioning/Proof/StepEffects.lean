import M5Auth.Lib.Run
import M5Auth.Provisioning.Proof.RequestEffects

/-!
# What a step may do

`step_cases`: a step of the Device is quiet, moves the presence gate (`Pressed`), or is an accepted
request, whose effect is counted from the Device after its housekeeping. `AuthInv` is what all
steps keep: who owns the gate, what excludes what, and where the attempts come from.
-/

namespace M5Auth.Provisioning.Device

open Session (AttemptDescriptor BeginContext authorizedAttempt startedAttempt)
open VaultRuntime (Call Runtime)

variable {σ : Type} {env : Env σ} {d d' : Device σ} {i : Input}

/-! ## The gate -/

/-- Only the gate moved: it was cleared, or kept its request, which may now be confirmed. -/
structure Pressed (d d' : Device σ) : Prop where
  attempt : d'.coordinator.attempt = d.coordinator.attempt
  context : d'.contextActive = d.contextActive ∧ d'.context = d.context
  sink : d'.sink = d.sink
  healthy : d'.healthyReset = d.healthyReset
  recovery : d'.recoveryReset = d.recoveryReset
  runtime : d'.runtime = d.runtime
  registration : d'.registration = d.registration
  gate : d'.presence.gate.state ≠ .idle →
    d'.presence.gate.operation = d.presence.gate.operation ∧
    d'.presence.gate.attemptId = d.presence.gate.attemptId ∧
    d'.presence.gate.expiresAtMs = d.presence.gate.expiresAtMs ∧
    (d'.presence.gate.state = d.presence.gate.state ∨
      (d.presence.gate.state = .awaiting ∧ d'.presence.gate.state = .confirmed))

theorem pressed_withPresence {presence : Session.CanonicalPresence}
    (h : presence.gate.state ≠ .idle →
      presence.gate.operation = d.presence.gate.operation ∧
      presence.gate.attemptId = d.presence.gate.attemptId ∧
      presence.gate.expiresAtMs = d.presence.gate.expiresAtMs ∧
      (presence.gate.state = d.presence.gate.state ∨
        (d.presence.gate.state = .awaiting ∧ presence.gate.state = .confirmed))) :
    Pressed d (d.withPresence presence) :=
  ⟨rfl, ⟨rfl, rfl⟩, rfl, rfl, rfl, rfl, rfl, h⟩

/-! ## Steps -/

/-- The line is a request whose frame is accepted. -/
structure Accepted (env : Env σ) (line : List UInt8) (frame : Frame) : Prop where
  nonempty : line.isEmpty = false
  short : line.length ≤ maxCanonicalMessageBytes
  read : readFrame env.parse line = .ok frame

/-- What a step does to the Device. -/
inductive StepEffect (env : Env σ) (d : Device σ) (i : Input) (d' : Device σ) : Prop
  | quiet (h : Quiet env d d')
  | pressed (h : Pressed d d') (button : d.presence.gate.state = .awaiting →
      d'.presence.gate.state = .confirmed → ∃ nowMs, i = .buttonPressed nowMs)
  | request (line : List UInt8) (m : Moment) (frame : Frame) (response : Response)
      (hi : i = .line line m) (accepted : Accepted env line frame)
      (h : RequestEffect env (d.housekeeping m.nowMs) frame m response d')

theorem dispatch_cases (env : Env σ) (d : Device σ) (line : List UInt8) (m : Moment) :
    ∃ r d', d.dispatch env line m = (r, d') ∧ (Quiet env d d' ∨ ∃ frame,
      Accepted env line frame ∧ RequestEffect env d frame m r d') := by
  unfold dispatch
  cases hne : line.isEmpty with
  | true => exact ⟨_, _, rfl, .inl (.refl d)⟩
  | false =>
    simp only [Bool.false_eq_true, if_false]
    split
    · exact ⟨_, _, rfl, .inl (quiet_disconnect env d)⟩
    rename_i hlen
    cases hread : readFrame env.parse line with
    | error e => exact ⟨_, _, rfl, .inl (quiet_disconnect env d)⟩
    | ok frame =>
      obtain ⟨r, d', he, heffect⟩ := request_cases env d m frame hne hread
      exact ⟨r, d', he, .inr ⟨frame, ⟨hne, Nat.not_lt.1 hlen, hread⟩, heffect⟩⟩

variable (env d i) in
/-- **The effect of a step.** -/
theorem step_cases : StepEffect env d i (d.step env i) := by
  cases i with
  | line line m =>
    have hq := quiet_housekeeping env d m.nowMs
    obtain ⟨r, d', he, hquiet | ⟨frame, hacc, heffect⟩⟩ :=
      dispatch_cases env (d.housekeeping m.nowMs) line m
    · simp only [step, handleLine, he]
      exact .quiet (hq.trans hquiet)
    · simp only [step, handleLine, he]
      exact .request line m frame r rfl hacc heffect
  | housekeeping nowMs => exact .quiet (quiet_housekeeping env d nowMs)
  | disconnect => exact .quiet (quiet_disconnect env d)
  | observeButton pressed =>
    obtain ⟨hst, hop, hid, hexp⟩ := Session.observe_cases d.presence.gate pressed
    refine .pressed (pressed_withPresence fun _ => ⟨hop, hid, hexp, .inl hst⟩) fun ha hc => ?_
    have hsame : (d.step env (.observeButton pressed)).presence.gate.state =
      d.presence.gate.state := hst
    rw [hsame, ha] at hc
    cases hc
  | buttonPressed nowMs =>
    refine .pressed (pressed_withPresence fun hne => ?_) fun _ _ => ⟨nowMs, rfl⟩
    rcases Session.pressed_cases d.presence nowMs with he | ⟨generation, he⟩
    · rw [he]
      exact ⟨rfl, rfl, rfl, .inl rfl⟩
    · rw [he] at hne ⊢
      rcases Session.confirm_cases d.presence.gate nowMs generation with hidle | h
      · exact absurd hidle hne
      · exact h
  | expirePresence nowMs =>
    refine .quiet (.of_withdraws (withdraws_withPresence fun hne => ?_) rfl rfl)
    rcases Session.expire_gate d.presence.gate nowMs with ⟨he, _⟩ | ⟨he, _⟩
    · exact absurd (by simp only [Session.CanonicalPresence.expirePresence, he]; rfl) hne
    · simp only [Session.CanonicalPresence.expirePresence, he]
      rfl
  | resident use => exact .quiet ((Quiet.refl d).withRuntime use.call (by cases use <;> rfl) rfl)

/-! ## The runtime's calls in a step -/

section
open Vault (Vmk VaultEnvelope)
open VaultRuntime.Runtime (Reaches)

/-- The readings of the millisecond clock that come with an input. -/
def Input.Reads : Input → UInt64 → Prop
  | .line _ m, t => t = m.nowMs ∨ t = m.timerMs
  | .housekeeping nowMs, t | .buttonPressed nowMs, t | .expirePresence nowMs, t => t = nowMs
  | _, _ => False

/-- The calls that a step with input `i` makes: an unlock takes the time that came with the
input. -/
def Timed (i : Input) (call : Call) : Prop := ∀ vmk t, call = .unlock vmk t → i.Reads t

theorem timed_of_tame (i : Input) {call : Call} (h : call.tame = true) : Timed i call := by
  rintro vmk t rfl
  cases h

theorem provision_timed (rt : Runtime σ) (envelope : VaultEnvelope) (vmk : Vmk) {nowMs : UInt64}
    (hread : i.Reads nowMs) : Reaches env.persistence env.prims.gcm (Timed i) rt
      (provision env rt envelope vmk nowMs).2 := by
  have hformat : Timed i .formatForSchema2 := nofun
  have hinstall : Timed i (.installEncryptedVault envelope vmk) := nofun
  have hunlock : Timed i (.unlock vmk nowMs) := by
    rintro _ _ ⟨⟩
    exact hread
  have h₁ : Reaches env.persistence env.prims.gcm (Timed i) rt _ := .one _ hformat
  rcases hf : rt.formatForSchema2 env.persistence with ⟨st, rt₁⟩
  have he₁ : rt.step env.persistence env.prims.gcm .formatForSchema2 = rt₁ := congrArg Prod.snd hf
  rw [he₁] at h₁
  have h₂ := h₁.trans (Reaches.one _ hinstall)
  rcases hin : rt₁.installEncryptedVault env.persistence env.prims.gcm envelope vmk with ⟨st', rt₂⟩
  have he₂ : rt₁.step env.persistence env.prims.gcm (.installEncryptedVault envelope vmk) = rt₂ :=
    congrArg Prod.snd hin
  rw [he₂] at h₂
  unfold provision
  rw [hf]
  cases st <;> try exact h₁
  simp only [hin]
  cases st' <;> try exact h₂
  exact h₂.trans (Reaches.one _ hunlock)

theorem delivered_timed {vmk : Vmk} {t : UInt64} (hread : i.Reads t)
    (h : Delivered env d vmk t d') :
    Reaches env.persistence env.prims.gcm (Timed i) d.runtime d'.runtime := by
  have hunlock : Timed i (.unlock vmk t) := by
    rintro _ _ ⟨⟩
    exact hread
  cases h with
  | dropped _ hrt => exact hrt ▸ .refl _
  | held _ _ _ _ hrt => exact hrt ▸ .refl _
  | tried _ _ hrt =>
    rcases hrt with hrt | hrt <;> rw [hrt]
    · exact .one _ hunlock
    · exact (Reaches.one _ hunlock).trans (.one _ (timed_of_tame i rfl))

theorem request_timed {m : Moment} {frame : Frame} {response : Response} {line : List UInt8}
    (hi : i = .line line m) (h : RequestEffect env d frame m response d') :
    Reaches env.persistence env.prims.gcm (Timed i) d.runtime d'.runtime := by
  have htame (hcalls : Reaches env.persistence env.prims.gcm (·.tame = true) d.runtime
      d'.runtime) : Reaches env.persistence env.prims.gcm (Timed i) d.runtime d'.runtime :=
    hcalls.mono fun _ => timed_of_tame i
  have hreset : Timed i .factoryReset := nofun
  cases h with
  | session h =>
    cases h with
    | quiet h => exact htame h.calls
    | begun _ _ h => exact htame h.calls
    | authorized _ _ _ h => exact h.runtime ▸ .refl _
    | completed vmk h => exact delivered_timed (hi ▸ .inr rfl) h.delivered
  | resetBegun _ _ h => exact htame h.calls
  | resetDone _ h =>
    rcases h.runtime with hrt | hrt <;> rw [hrt]
    · exact .refl _
    · exact .one _ hreset
  | installed h =>
    obtain ⟨envelope, rt, rfl, hrt⟩ := h.runtime
    have hread : i.Reads m.nowMs := hi ▸ .inl rfl
    have hprov : Reaches env.persistence env.prims.gcm (Timed i) d.runtime _ :=
      provision_timed d.runtime envelope d.sink.vmk hread
    rcases hrt with hrt | hrt <;> rw [hrt]
    · exact hprov
    · exact hprov.trans (.one _ hreset)
  | rekeyed h =>
    obtain ⟨expected, envelope, rt, rfl, hrt⟩ := h.runtime
    have hrekey : Timed i (.rekeyEncryptedVault expected envelope d.sink.vmk) := nofun
    rcases hrt with hrt | hrt <;> rw [hrt]
    · exact .one _ hrekey
    · exact (Reaches.one _ hrekey).trans (.one _ (timed_of_tame i rfl))

variable (env d) in
theorem step_timed (i : Input) :
    Reaches env.persistence env.prims.gcm (Timed i) d.runtime (d.step env i).runtime := by
  cases step_cases env d i with
  | quiet h => exact h.calls.mono fun _ => timed_of_tame i
  | pressed h => exact h.runtime ▸ .refl _
  | request line m frame response hi _ h =>
    have hhouse := (quiet_housekeeping env d m.nowMs).calls.mono fun _ => timed_of_tame i
    exact hhouse.trans (request_timed hi h)

end

/-! ## The invariant of the authorizations -/

/-- The attempt of the session is over. -/
def NoSession (d : Device σ) : Prop :=
  d.coordinator.attempt.active = false ∧ d.contextActive = false ∧ d.sink.pending = false

/-- What holds of the authorizations in every state. -/
structure AuthInv (d : Device σ) : Prop where
  /-- An attempt is one that was begun, and perhaps authorized. -/
  shape : d.coordinator.attempt.active = true →
    ∃ context descriptor, d.coordinator.attempt = startedAttempt context descriptor ∨
      ∃ webPublicKey transcript,
        d.coordinator.attempt = authorizedAttempt context descriptor webPublicKey transcript
  /-- The session handler keeps the context of the attempt. -/
  context : d.coordinator.attempt.active = true → d.contextActive = true →
    d.coordinator.attempt.context = d.context
  /-- A reset attempt excludes a session and the other reset. -/
  alone : ∀ kind, (d.resetAttempt kind).active = true →
    d.NoSession ∧ (d.resetAttempt kind.other).active = false
  /-- The gate serves the session attempt or a reset attempt. -/
  owner : d.presence.gate.state ≠ .idle →
    (d.coordinator.attempt.active = true ∧
      d.coordinator.attempt.state = .awaitingPresence ∧
      d.presence.gate.attemptId = d.coordinator.attempt.descriptor.attemptId ∧
      d.presence.gate.operation = d.coordinator.attempt.context.operation.presenceOperation) ∨
    ∃ kind, (d.resetAttempt kind).active = true ∧
      d.presence.gate.attemptId = (d.resetAttempt kind).attemptId ∧
      d.presence.gate.operation = .factoryReset
  /-- No key is pending during an attempt. -/
  undelivered : d.coordinator.attempt.active = true → d.sink.pending = false
  /-- A key that is held for a new Vault meets no Vault. -/
  noVault : d.sink.pending = true →
    d.sink.context.operation = .initialProvisioning ∨ d.sink.context.operation = .recovery →
    d.runtime.hasVault = false

theorem resetAttempt_of_withdraws (h : Withdraws d d') {kind : ResetKind}
    (hact : (d'.resetAttempt kind).active = true) : d'.resetAttempt kind = d.resetAttempt kind := by
  cases kind with
  | healthy => simp only [resetAttempt, h.healthy hact]
  | recovery => exact h.recovery hact

theorem noSession_of_withdraws (h : Withdraws d d') (hno : d.NoSession) : d'.NoSession := by
  refine ⟨?_, ?_, ?_⟩
  · by_contra hact
    rw [Bool.not_eq_false] at hact
    rw [h.attempt hact, hno.1] at hact
    cases hact
  · by_contra hact
    rw [Bool.not_eq_false] at hact
    have hctx := (h.context hact).1
    rw [hno.2.1] at hctx
    cases hctx
  · by_contra hact
    rw [Bool.not_eq_false] at hact
    have hpend := (h.pending hact).1
    rw [hno.2.2] at hpend
    cases hpend

theorem inactive_of_withdraws (h : Withdraws d d') {kind : ResetKind}
    (hoff : (d.resetAttempt kind).active = false) : (d'.resetAttempt kind).active = false := by
  by_contra hact
  rw [Bool.not_eq_false] at hact
  rw [resetAttempt_of_withdraws h hact, hoff] at hact
  cases hact

/-- A withdrawal keeps the invariant, if no Vault appears under a pending key. -/
theorem AuthInv.of_withdraws (hi : AuthInv d) (h : Withdraws d d')
    (hv : d'.sink.pending = true → d.runtime.hasVault = false → d'.runtime.hasVault = false) :
    AuthInv d' where
  shape hact := by
    have hatt := h.attempt hact
    rw [hatt] at hact ⊢
    exact hi.shape hact
  context hact hctx := by
    obtain ⟨hctx', he⟩ := h.context hctx
    have hatt := h.attempt hact
    rw [hatt] at hact ⊢
    rw [he]
    exact hi.context hact hctx'
  alone kind hact := by
    have he := resetAttempt_of_withdraws h hact
    rw [he] at hact
    obtain ⟨hno, hoff⟩ := hi.alone kind hact
    exact ⟨noSession_of_withdraws h hno, inactive_of_withdraws h hoff⟩
  owner hg := by
    have hgate := h.gate hg
    obtain ⟨ha, hh, hr⟩ := h.owner hg
    rw [hgate] at hg ⊢
    rcases hi.owner hg with ⟨hact, hst, hid, hop⟩ | ⟨kind, hact, hid, hop⟩
    · rw [ha hact]
      exact .inl ⟨hact, hst, hid, hop⟩
    · refine .inr ⟨kind, ?_⟩
      have he : d'.resetAttempt kind = d.resetAttempt kind := by
        cases kind with
        | healthy => simp only [resetAttempt, hh hact]
        | recovery => exact hr hact
      rw [he]
      exact ⟨hact, hid, hop⟩
  undelivered hact := by
    rw [h.attempt hact] at hact
    by_contra hp
    rw [Bool.not_eq_false] at hp
    have hp' := (h.pending hp).1
    rw [hi.undelivered hact] at hp'
    cases hp'
  noVault hp hop := by
    obtain ⟨hp', hctx, _⟩ := h.pending hp
    rw [hctx] at hop
    exact hv hp (hi.noVault hp' hop)

theorem AuthInv.quiet (hi : AuthInv d) (h : Quiet env d d') : AuthInv d' :=
  hi.of_withdraws h.toWithdraws fun _ hv => h.calls.hasVault (fun _ hc => hc) hv

theorem AuthInv.pressed (hi : AuthInv d) (h : Pressed d d') : AuthInv d' where
  shape := by
    rw [h.attempt]
    exact hi.shape
  context := by
    rw [h.attempt, h.context.1, h.context.2]
    exact hi.context
  alone kind hact := by
    have he : ∀ kind, d'.resetAttempt kind = d.resetAttempt kind := by
      intro kind
      cases kind with
      | healthy => simp only [resetAttempt, h.healthy]
      | recovery => exact h.recovery
    rw [he] at hact
    rw [NoSession, h.attempt, h.context.1, h.sink, he]
    exact hi.alone kind hact
  owner hg := by
    obtain ⟨hop, hid, _, hst⟩ := h.gate hg
    have hg' : d.presence.gate.state ≠ .idle := by
      rcases hst with hst | ⟨hst, _⟩
      · rwa [← hst]
      · rw [hst]
        decide
    have he : ∀ kind, d'.resetAttempt kind = d.resetAttempt kind := by
      intro kind
      cases kind with
      | healthy => simp only [resetAttempt, h.healthy]
      | recovery => exact h.recovery
    simp only [h.attempt, hid, hop, he]
    exact hi.owner hg'
  undelivered := by
    rw [h.attempt, h.sink]
    exact hi.undelivered
  noVault := by
    rw [h.sink, h.runtime]
    exact hi.noVault

/-! ## The invariant is kept -/

theorem NoReset.inactive (h : d.NoReset) (kind : ResetKind) :
    (d.resetAttempt kind).active = false := by
  cases kind with
  | healthy => exact h.1
  | recovery => exact h.2

theorem hasVault_of_binding {snapshot : SessionDeviceSnapshot} (h : d.binding = some snapshot) :
    d.runtime.hasVault = snapshot.vaultPresent := by
  unfold binding bindingSnapshot at h
  split at h
  · rename_i metadata registration hmeta hreg
    split at h
    · cases h
    · split at h
      · cases h
      · dsimp only at h
        split at h
        · cases h
        · cases h
          exact (hasVault_of_metadata hmeta).symm
  · cases h

/-- An initial provisioning is bound to a Device without a Vault. -/
theorem Bound.noVault {context : BeginContext} (h : d.Bound context)
    (hop : context.operation = .initialProvisioning) : d.runtime.hasVault = false := by
  obtain ⟨snapshot, hb, hm⟩ := h
  rw [hasVault_of_binding hb]
  simp only [beginMatchesSnapshot, hop, cleanUnprovisionedSnapshot, Bool.and_eq_true,
    Bool.not_eq_true'] at hm
  exact hm.2.1.1.1.1.1.1.1.1.1.1.1

section
variable {frame : Frame} {m : Moment}

theorem AuthInv.begun {context : BeginContext} {descriptor : AttemptDescriptor}
    (h : SessionBegun env d frame context descriptor d') : AuthInv d' where
  shape _ := ⟨context, descriptor, .inl h.attempt⟩
  context _ _ := by rw [h.attempt, h.context.2]; rfl
  alone kind hact := by
    rw [h.noReset.inactive kind] at hact
    cases hact
  owner hg := absurd h.gate hg
  undelivered _ := h.pending
  noVault hp := by
    rw [h.pending] at hp
    cases hp

/-- An attempt that awaits its authorization is one that was begun. -/
theorem AuthInv.started (hi : AuthInv d) (hact : d.coordinator.attempt.active = true)
    (hst : d.coordinator.attempt.state = .awaitingAuthorization) :
    ∃ context descriptor, d.coordinator.attempt = startedAttempt context descriptor := by
  obtain ⟨context, descriptor, he | ⟨webPublicKey, transcript, he⟩⟩ := hi.shape hact
  · exact ⟨context, descriptor, he⟩
  · rw [he] at hst
    cases hst

/-- An attempt that awaits the user is one that was authorized. -/
theorem AuthInv.authorizedOf (hi : AuthInv d) (hact : d.coordinator.attempt.active = true)
    (hst : d.coordinator.attempt.state = .awaitingPresence ∨
      d.coordinator.attempt.state = .confirmed) :
    ∃ context descriptor webPublicKey transcript,
      d.coordinator.attempt = authorizedAttempt context descriptor webPublicKey transcript := by
  obtain ⟨context, descriptor, he | ⟨webPublicKey, transcript, he⟩⟩ := hi.shape hact
  · rw [he] at hst
    rcases hst with hst | hst <;> cases hst
  · exact ⟨context, descriptor, webPublicKey, transcript, he⟩

theorem AuthInv.authorized (hi : AuthInv d) {webPublicKey : Registration.P256PublicKey}
    {transcript signature : List UInt8}
    (h : SessionAuthorized env d frame m webPublicKey transcript signature d') : AuthInv d' := by
  obtain ⟨context, descriptor, he⟩ := hi.started h.active.1 h.active.2
  have hatt : d'.coordinator.attempt =
      authorizedAttempt context descriptor webPublicKey transcript := by rw [h.attempt, he]; rfl
  obtain ⟨generation, hgate⟩ := h.gate
  refine ⟨fun _ => ?_, fun _ _ => ?_, fun kind hact => ?_, fun _ => .inl ?_, fun _ => ?_,
    fun hp hop => ?_⟩
  · exact ⟨context, descriptor, .inr ⟨webPublicKey, transcript, hatt⟩⟩
  · rw [h.context.2, ← hi.context h.active.1 h.bound.1, hatt, he]
    rfl
  · rw [h.noReset.inactive kind] at hact
    cases hact
  · rw [hgate, hatt, he]
    exact ⟨rfl, rfl, rfl, rfl⟩
  · rw [h.sink]
    exact hi.undelivered h.active.1
  · rw [h.sink] at hp hop
    rw [h.runtime]
    exact hi.noVault hp hop

theorem AuthInv.completed {vmk : Vault.Vmk} (h : SessionCompleted env d frame m vmk d') :
    AuthInv d' where
  shape hact := by
    rw [h.attempt] at hact
    cases hact
  context hact := by
    rw [h.attempt] at hact
    cases hact
  alone kind hact := by
    rw [h.noReset.inactive kind] at hact
    cases hact
  owner hg := absurd h.gate hg
  undelivered hact := by
    rw [h.attempt] at hact
    cases hact
  noVault hp hop := by
    cases h.delivered with
    | dropped hp' _ _ =>
      rw [hp'] at hp
      cases hp
    | held _ hctx _ hop' hrt _ =>
      rw [hctx] at hop
      rw [hrt]
      rcases hop' with hop' | hop' | ⟨_, hv⟩
      · exact h.bound.2.noVault hop'
      · rw [hop'] at hop
        rcases hop with hop | hop <;> cases hop
      · exact hv
    | tried hp' _ _ _ =>
      rw [hp'] at hp
      cases hp

theorem AuthInv.resetBegun {kind : ResetKind} {attemptId : Session.AttemptId}
    {response : Response} (h : ResetBegun env d frame m kind attemptId response d') :
    AuthInv d' := by
  obtain ⟨generation, hgate⟩ := h.gate
  refine ⟨fun hact => ?_, fun hact => ?_, fun kind' hact => ?_, fun _ => .inr ⟨kind, ?_⟩,
    fun _ => h.pending, fun hp => ?_⟩
  · rw [h.session] at hact
    cases hact
  · rw [h.session] at hact
    cases hact
  · refine ⟨⟨h.session, h.context, h.pending⟩, ?_⟩
    have hkind : kind' = kind := by
      by_contra hne
      have hother : kind' = kind.other := by
        cases kind <;> cases kind' <;> first | rfl | exact absurd rfl hne
      rw [hother, h.other] at hact
      cases hact
    rw [hkind]
    exact h.other
  · rw [h.attempt, hgate]
    exact ⟨rfl, rfl, rfl⟩
  · rw [h.pending] at hp
    cases hp

theorem AuthInv.resetDone (hi : AuthInv d) {kind : ResetKind}
    (h : ResetDone env d frame m kind d') : AuthInv d' := by
  refine hi.of_withdraws h.withdraws fun hp => ?_
  have hno := noSession_of_withdraws h.withdraws (hi.alone kind h.active.1).1
  rw [hno.2.2] at hp
  cases hp

theorem AuthInv.request (hi : AuthInv d) {response : Response}
    (h : RequestEffect env d frame m response d') : AuthInv d' := by
  cases h with
  | session h =>
    cases h with
    | quiet h => exact hi.quiet h
    | begun _ _ h => exact .begun h
    | authorized _ _ _ h => exact hi.authorized h
    | completed _ h => exact .completed h
  | resetBegun _ _ h => exact .resetBegun h
  | resetDone _ h => exact hi.resetDone h
  | installed h =>
    refine hi.of_withdraws h.withdraws fun hp => ?_
    rw [h.closed] at hp
    cases hp
  | rekeyed h =>
    refine hi.of_withdraws h.withdraws fun hp => ?_
    rw [h.closed] at hp
    cases hp

end

/-- **Every step keeps the invariant of the authorizations.** -/
theorem AuthInv.step (hi : AuthInv d) (i : Input) : AuthInv (d.step env i) := by
  cases step_cases env d i with
  | quiet h => exact hi.quiet h
  | pressed h _ => exact hi.pressed h
  | request _ m _ _ _ _ h =>
    have hq : Quiet env d (d.housekeeping m.nowMs) := quiet_housekeeping env d m.nowMs
    exact (hi.quiet hq).request h

theorem idle_boot (env : Env σ) (storage : σ) (nvs : Registration.Nvs)
    (candidate : Registration.DeviceIdCandidate) : Idle (boot env storage nvs candidate) :=
  ⟨rfl, rfl, rfl, rfl, rfl, rfl⟩

theorem AuthInv.of_idle (h : Idle d) : AuthInv d where
  shape hact := by
    rw [h.attempt] at hact
    cases hact
  context hact := by
    rw [h.attempt] at hact
    cases hact
  alone kind hact := by
    rw [NoReset.inactive ⟨h.healthy, h.recovery⟩ kind] at hact
    cases hact
  owner hg := absurd h.gate hg
  undelivered _ := h.pending
  noVault hp := by
    rw [h.pending] at hp
    cases hp

end M5Auth.Provisioning.Device
