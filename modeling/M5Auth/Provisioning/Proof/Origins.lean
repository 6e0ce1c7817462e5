import M5Auth.Provisioning.Proof.StepEffects

/-!
# Where an authorization comes from

For every authorization that holds after a step: it held before, or the step is the one event that
brings it about. `attempt_origin`, `confirmed_origin`, `pending_origin` and `reset_origin` say so
for the session attempt, the confirmation of the user, the pending key and a reset attempt;
`opened_origin` for the key that a step puts in force.
-/

namespace M5Auth.Provisioning.Device

open Session (AttemptDescriptor BeginContext authorizedAttempt startedAttempt)
open Vault (Vmk)
open VaultRuntime (Call Runtime)
open VaultRuntime.Runtime (Unopened)

variable {σ : Type} {env : Env σ} {d d' : Device σ} {i : Input}

/-- The step handles an accepted request with this effect, counted from the Device after its
housekeeping. -/
def Requests (env : Env σ) (effect : Device σ → Frame → Moment → Device σ → Prop)
    (d : Device σ) (i : Input) (d' : Device σ) : Prop :=
  ∃ line m frame, i = .line line m ∧ Accepted env line frame ∧
    effect (d.housekeeping m.nowMs) frame m d'

theorem Requests.mono {effect effect' : Device σ → Frame → Moment → Device σ → Prop}
    (h : Requests env effect d i d')
    (hmono : ∀ m frame, Quiet env d (d.housekeeping m.nowMs) →
      effect (d.housekeeping m.nowMs) frame m d' →
      effect' (d.housekeeping m.nowMs) frame m d') :
    Requests env effect' d i d' := by
  obtain ⟨line, m, frame, hi, hacc, he⟩ := h
  exact ⟨line, m, frame, hi, hacc, hmono m frame (quiet_housekeeping env d m.nowMs) he⟩

/-! ## The session attempt -/

/-- An active attempt was active before, or was just begun or authorized. -/
theorem attempt_origin (env : Env σ) (d : Device σ) (i : Input)
    (hact : (d.step env i).coordinator.attempt.active = true) :
    (d.step env i).coordinator.attempt = d.coordinator.attempt ∨
    (∃ context descriptor, Requests env (fun h frame _ d' =>
      SessionBegun env h frame context descriptor d') d i (d.step env i)) ∨
    ∃ webPublicKey transcript signature, Requests env (fun h frame m d' =>
      SessionAuthorized env h frame m webPublicKey transcript signature d') d i
        (d.step env i) := by
  cases step_cases env d i with
  | quiet h => exact .inl (h.attempt hact)
  | pressed h _ => exact .inl h.attempt
  | request line m frame response hi hacc h =>
    have hq : Quiet env d (d.housekeeping m.nowMs) := quiet_housekeeping env d m.nowMs
    have hkept (hw : Withdraws (d.housekeeping m.nowMs) (d.step env i)) :
        (d.step env i).coordinator.attempt = d.coordinator.attempt :=
      (hq.toWithdraws.trans hw).attempt hact
    have hnone {P : Prop} (h : (d.step env i).coordinator.attempt.active = false) : P := by
      rw [hact] at h
      cases h
    cases h with
    | session h =>
      cases h with
      | quiet h => exact .inl (hkept h.toWithdraws)
      | begun context descriptor h =>
        exact .inr (.inl ⟨context, descriptor, line, m, frame, hi, hacc, h⟩)
      | authorized webPublicKey transcript signature h =>
        exact .inr (.inr ⟨webPublicKey, transcript, signature, line, m, frame, hi, hacc, h⟩)
      | completed vmk h => exact hnone h.attempt
    | resetBegun kind attemptId h => exact hnone h.session
    | resetDone kind h => exact .inl (hkept h.withdraws)
    | installed h => exact .inl (hkept h.withdraws)
    | rekeyed h => exact .inl (hkept h.withdraws)

/-! ## The gate -/

/-- The gate serves the same request as before, which the step may have confirmed. -/
structure GateKept (d : Device σ) (i : Input) (d' : Device σ) : Prop where
  served : d.presence.gate.state ≠ .idle
  attemptId : d'.presence.gate.attemptId = d.presence.gate.attemptId
  operation : d'.presence.gate.operation = d.presence.gate.operation
  state : d'.presence.gate.state = d.presence.gate.state ∨
    (d.presence.gate.state = .awaiting ∧ d'.presence.gate.state = .confirmed ∧
      ∃ nowMs, i = .buttonPressed nowMs)

theorem GateKept.of_withdraws (h : Withdraws d d') (hg : d'.presence.gate.state ≠ .idle) :
    GateKept d i d' := by
  have he := h.gate hg
  exact ⟨he ▸ hg, by rw [he], by rw [he], .inl (by rw [he])⟩

theorem GateKept.of_pressed (h : Pressed d d') (hg : d'.presence.gate.state ≠ .idle)
    (hbutton : d.presence.gate.state = .awaiting → d'.presence.gate.state = .confirmed →
      ∃ nowMs, i = .buttonPressed nowMs) : GateKept d i d' := by
  obtain ⟨hop, hid, _, hst⟩ := h.gate hg
  refine ⟨?_, hid, hop, ?_⟩
  · rcases hst with hst | ⟨hst, _⟩
    · rwa [← hst]
    · rw [hst]
      decide
  · rcases hst with hst | ⟨ha, hc⟩
    · exact .inl hst
    · exact .inr ⟨ha, hc, hbutton ha hc⟩

/-- A request that the gate serves was served before, or was just made. -/
theorem gate_origin (env : Env σ) (d : Device σ) (i : Input)
    (hg : (d.step env i).presence.gate.state ≠ .idle) :
    GateKept d i (d.step env i) ∨
    (∃ webPublicKey transcript signature, Requests env (fun h frame m d' =>
      SessionAuthorized env h frame m webPublicKey transcript signature d') d i
        (d.step env i)) ∨
    ∃ kind attemptId response, Requests env (fun h frame m d' =>
      ResetBegun env h frame m kind attemptId response d') d i (d.step env i) := by
  cases step_cases env d i with
  | quiet h => exact .inl (.of_withdraws h.toWithdraws hg)
  | pressed h hbutton => exact .inl (.of_pressed h hg hbutton)
  | request line m frame response hi hacc h =>
    have hq : Quiet env d (d.housekeeping m.nowMs) := quiet_housekeeping env d m.nowMs
    have hkept (hw : Withdraws (d.housekeeping m.nowMs) (d.step env i)) :
        GateKept d i (d.step env i) := .of_withdraws (hq.toWithdraws.trans hw) hg
    cases h with
    | session h =>
      cases h with
      | quiet h => exact .inl (hkept h.toWithdraws)
      | begun context descriptor h => exact absurd h.gate hg
      | authorized webPublicKey transcript signature h =>
        exact .inr (.inl ⟨webPublicKey, transcript, signature, line, m, frame, hi, hacc, h⟩)
      | completed vmk h => exact absurd h.gate hg
    | resetBegun kind attemptId h =>
      exact .inr (.inr ⟨kind, attemptId, response, line, m, frame, hi, hacc, h⟩)
    | resetDone kind h => exact absurd h.idle hg
    | installed h => exact .inl (hkept h.withdraws)
    | rekeyed h => exact .inl (hkept h.withdraws)

/-- A confirmation was there before, or the user just gave it for the request that the gate
awaited. -/
theorem confirmed_origin (env : Env σ) (d : Device σ) (i : Input)
    (hg : (d.step env i).presence.gate.state = .confirmed) :
    GateKept d i (d.step env i) := by
  rcases gate_origin env d i (by rw [hg]; decide) with
    h | ⟨_, _, _, _, _, _, _, _, h⟩ | ⟨_, _, _, _, _, _, _, _, h⟩
  · exact h
  all_goals
    obtain ⟨_, hgate⟩ := h.gate
    rw [hgate] at hg
    cases hg

/-! ## The pending key -/

/-- A pending key was pending before, or was just delivered. -/
theorem pending_origin (env : Env σ) (d : Device σ) (i : Input)
    (hp : (d.step env i).sink.pending = true) :
    (d.sink.pending = true ∧ (d.step env i).sink.context = d.sink.context ∧
      (d.step env i).sink.vmk = d.sink.vmk) ∨
    Requests env (fun h frame m d' => SessionCompleted env h frame m d'.sink.vmk d' ∧
      d'.sink.context = h.context ∧ (h.context.operation = .initialProvisioning ∨
        h.context.operation = .vmkRekey ∨ h.context.operation = .recovery)) d i
      (d.step env i) := by
  cases step_cases env d i with
  | quiet h => exact .inl (h.pending hp)
  | pressed h _ =>
    rw [h.sink] at hp
    exact .inl ⟨hp, by rw [h.sink], by rw [h.sink]⟩
  | request line m frame response hi hacc h =>
    have hq : Quiet env d (d.housekeeping m.nowMs) := quiet_housekeeping env d m.nowMs
    have hnone {P : Prop} (h : (d.step env i).sink.pending = false) : P := by
      rw [hp] at h
      cases h
    cases h with
    | session h =>
      cases h with
      | quiet h => exact .inl ((hq.toWithdraws.trans h.toWithdraws).pending hp)
      | begun context descriptor h => exact hnone h.pending
      | authorized webPublicKey transcript signature h =>
        rw [h.sink] at hp ⊢
        exact .inl (hq.pending hp)
      | completed vmk h =>
        cases h.delivered with
        | dropped hp' _ _ => exact hnone hp'
        | tried hp' _ _ _ => exact hnone hp'
        | held _ hctx hvmk hop _ _ =>
          subst hvmk
          exact .inr ⟨line, m, frame, hi, hacc, h, hctx, hop.imp_right (.imp_right And.left)⟩
    | resetBegun kind attemptId h => exact hnone h.pending
    | resetDone kind h => exact .inl ((hq.toWithdraws.trans h.withdraws).pending hp)
    | installed h => exact hnone h.closed
    | rekeyed h => exact hnone h.closed

/-! ## The reset attempts -/

/-- What an accepted request leaves of a reset attempt: it is kept, or the request begins it. -/
theorem reset_request_origin {kind : ResetKind} {frame : Frame} {m : Moment} {response : Response}
    (h : RequestEffect env d frame m response d') (hact : (d'.resetAttempt kind).active = true) :
    d'.resetAttempt kind = d.resetAttempt kind ∨
      ResetBegun env d frame m kind (d'.resetAttempt kind).attemptId response d' := by
  have hnone {P : Prop} (h : (d'.resetAttempt kind).active = false) : P := by
    rw [hact] at h
    cases h
  cases h with
  | session h =>
    cases h with
    | quiet h => exact .inl (resetAttempt_of_withdraws h.toWithdraws hact)
    | begun context descriptor h => exact hnone (h.noReset.inactive kind)
    | authorized webPublicKey transcript signature h => exact hnone (h.noReset.inactive kind)
    | completed vmk h => exact hnone (h.noReset.inactive kind)
  | resetBegun kind' attemptId h =>
    by_cases hkind : kind' = kind
    · subst hkind
      right
      rw [h.attempt]
      exact h
    · have hother : kind = kind'.other := by
        cases kind <;> cases kind' <;> first | rfl | exact absurd rfl hkind
      exact hnone (hother ▸ h.other)
  | resetDone kind' h => exact .inl (resetAttempt_of_withdraws h.withdraws hact)
  | installed h => exact .inl (resetAttempt_of_withdraws h.withdraws hact)
  | rekeyed h => exact .inl (resetAttempt_of_withdraws h.withdraws hact)

/-- An active reset attempt was active before, or was just begun. -/
theorem reset_origin (env : Env σ) (d : Device σ) (i : Input) (kind : ResetKind)
    (hact : ((d.step env i).resetAttempt kind).active = true) :
    (d.step env i).resetAttempt kind = d.resetAttempt kind ∨
    ∃ response, Requests env (fun h frame m d' =>
      ResetBegun env h frame m kind ((d.step env i).resetAttempt kind).attemptId response d') d i
        (d.step env i) := by
  cases step_cases env d i with
  | quiet h => exact .inl (resetAttempt_of_withdraws h.toWithdraws hact)
  | pressed h _ => exact .inl (by cases kind <;> simp only [resetAttempt, h.healthy, h.recovery])
  | request line m frame response hi hacc h =>
    have hq : Quiet env d (d.housekeeping m.nowMs) := quiet_housekeeping env d m.nowMs
    rcases reset_request_origin h hact with he | hb
    · rw [he] at hact
      exact .inl (he.trans (resetAttempt_of_withdraws hq.toWithdraws hact))
    · exact .inr ⟨response, line, m, frame, hi, hacc, hb⟩

/-! ## The key in force -/

/-- The step puts the key `vmk` in force: it is the next one of the history. -/
def Unlocks (vmk : Vmk) (d d' : Device σ) : Prop := d'.runtime.unlocks = vmk :: d.runtime.unlocks

/-- The requests that may put a key in force, and whose key it is. -/
inductive OpeningRequest (env : Env σ) (vmk : Vmk) (h : Device σ) (frame : Frame) (m : Moment)
    (d' : Device σ) : Prop
  | completed (completed : SessionCompleted env h frame m vmk d')
      (operation : h.context.operation = .trustedBrowserUnlock ∨
        h.context.operation = .recovery ∨ h.context.operation = .browserReplacement)
  | installed (installed : VaultInstalled env h frame m d') (key : h.sink.vmk = vmk)
  | rekeyed (rekeyed : VaultRekeyed env h frame m d') (key : h.sink.vmk = vmk)

theorem opens_trans {rt rt' rt'' : Runtime σ} {vmk : Vmk} (h : Unopened rt rt')
    (h' : Unopened rt' rt'' ∨ rt''.unlocks = vmk :: rt'.unlocks) :
    Unopened rt rt'' ∨ rt''.unlocks = vmk :: rt.unlocks := by
  rcases h' with h' | h'
  · exact .inl (h.trans h')
  · exact .inr (by rw [h', h.unlocks])

theorem trans_opens {rt rt' rt'' : Runtime σ} {vmk : Vmk}
    (h : Unopened rt rt' ∨ rt'.unlocks = vmk :: rt.unlocks) (h' : Unopened rt' rt'') :
    Unopened rt rt'' ∨ rt''.unlocks = vmk :: rt.unlocks := by
  rcases h with h | h
  · exact .inl (h.trans h')
  · exact .inr (by rw [h'.unlocks, h])

/-- A call with one key opens the Vault with it, or opens nothing. -/
theorem opens_step (env : Env σ) (rt : Runtime σ) (call : Call) {vmk : Vmk}
    (h : call.opens = some vmk) :
    Unopened rt (rt.step env.persistence env.prims.gcm call) ∨
      (rt.step env.persistence env.prims.gcm call).unlocks = vmk :: rt.unlocks := by
  rcases Runtime.step_unlocks env.persistence env.prims.gcm rt call with hu | ⟨vmk', ho, he⟩
  · exact .inl hu
  · rw [h] at ho
    cases ho
    exact .inr he

/-- A call without a key opens nothing. -/
theorem unopened_step (env : Env σ) (rt : Runtime σ) (call : Call) (h : call.opens = none) :
    Unopened rt (rt.step env.persistence env.prims.gcm call) := by
  rcases Runtime.step_unlocks env.persistence env.prims.gcm rt call with hu | ⟨_, ho, _⟩
  · exact hu
  · rw [h] at ho
    cases ho

theorem opens_provision (env : Env σ) (rt : Runtime σ) (envelope : Vault.VaultEnvelope)
    (vmk : Vmk) (nowMs : UInt64) :
    Unopened rt (provision env rt envelope vmk nowMs).2 ∨
      (provision env rt envelope vmk nowMs).2.unlocks = vmk :: rt.unlocks := by
  have hformat : Unopened rt (rt.formatForSchema2 env.persistence).2 :=
    unopened_step env rt .formatForSchema2 rfl
  unfold provision
  split
  · rename_i rt₁ he₁
    rw [he₁] at hformat
    have hinstall : Unopened rt₁
        (rt₁.installEncryptedVault env.persistence env.prims.gcm envelope vmk).2 :=
      unopened_step env rt₁ (.installEncryptedVault envelope vmk) rfl
    split
    · rename_i rt₂ he₂
      rw [he₂] at hinstall
      exact opens_trans (hformat.trans hinstall)
        (opens_step env rt₂ (.unlock vmk nowMs) rfl)
    · exact .inl (hformat.trans hinstall)
  · exact .inl hformat

/-- **A step opens nothing, or puts one key in force by one of the three requests.** -/
theorem opened_origin (env : Env σ) (d : Device σ) (i : Input) :
    Unopened d.runtime (d.step env i).runtime ∨
    ∃ vmk, Unlocks vmk d (d.step env i) ∧ Requests env (OpeningRequest env vmk) d i
      (d.step env i) := by
  have htame {rt rt' : Runtime σ}
      (h : Runtime.Reaches env.persistence env.prims.gcm (·.tame = true) rt rt') :
      Unopened rt rt' := h.unopened fun _ hc => Runtime.opens_of_tame hc
  cases step_cases env d i with
  | quiet h => exact .inl (htame h.calls)
  | pressed h _ => exact .inl (by rw [h.runtime]; exact .refl _)
  | request line m frame response hi hacc h =>
    have hq : Quiet env d (d.housekeeping m.nowMs) := quiet_housekeeping env d m.nowMs
    have hu := htame hq.calls
    have hopened {vmk : Vmk} (hcase : Unopened (d.housekeeping m.nowMs).runtime
        (d.step env i).runtime ∨
        (d.step env i).runtime.unlocks = vmk :: (d.housekeeping m.nowMs).runtime.unlocks)
        (hreq : OpeningRequest env vmk (d.housekeeping m.nowMs) frame m (d.step env i)) :
        Unopened d.runtime (d.step env i).runtime ∨
        ∃ vmk, Unlocks vmk d (d.step env i) ∧ Requests env (OpeningRequest env vmk) d i
          (d.step env i) := by
      rcases opens_trans hu hcase with hu | ho
      · exact .inl hu
      · exact .inr ⟨vmk, ho, line, m, frame, hi, hacc, hreq⟩
    cases h with
    | session h =>
      cases h with
      | quiet h => exact .inl (hu.trans (htame h.calls))
      | begun context descriptor h => exact .inl (hu.trans (htame h.calls))
      | authorized webPublicKey transcript signature h => exact .inl (by rw [h.runtime]; exact hu)
      | completed vmk h =>
        cases h.delivered with
        | dropped _ hr _ => exact .inl (by rw [hr]; exact hu)
        | held _ _ _ _ hr _ => exact .inl (by rw [hr]; exact hu)
        | tried _ hop hr _ =>
          refine hopened ?_ (.completed h hop)
          have ho := opens_step env (d.housekeeping m.nowMs).runtime
            (.unlock vmk m.timerMs) rfl
          rcases hr with hr | hr
          · rw [hr]
            exact ho
          · rw [hr]
            exact trans_opens ho (unopened_step env _ .lock rfl)
    | resetBegun kind attemptId h => exact .inl (hu.trans (htame h.calls))
    | resetDone kind h =>
      rcases h.runtime with hr | hr
      · exact .inl (by rw [hr]; exact hu)
      · exact .inl (by rw [hr]; exact hu.trans (unopened_step env _ .factoryReset rfl))
    | installed h =>
      obtain ⟨envelope, rt, rfl, hr⟩ := h.runtime
      refine hopened ?_ (.installed h rfl)
      have ho := opens_provision env (d.housekeeping m.nowMs).runtime envelope
        (d.housekeeping m.nowMs).sink.vmk m.nowMs
      rcases hr with hr | hr
      · rw [hr]
        exact ho
      · rw [hr]
        exact trans_opens ho (unopened_step env _ .factoryReset rfl)
    | rekeyed h =>
      obtain ⟨expectedGeneration, envelope, rt, rfl, hr⟩ := h.runtime
      refine hopened ?_ (.rekeyed h rfl)
      have ho := opens_step env (d.housekeeping m.nowMs).runtime (.rekeyEncryptedVault expectedGeneration
        envelope (d.housekeeping m.nowMs).sink.vmk) rfl
      rcases hr with hr | hr
      · rw [hr]
        exact ho
      · rw [hr]
        exact trans_opens ho (unopened_step env _ .lock rfl)

end M5Auth.Provisioning.Device
