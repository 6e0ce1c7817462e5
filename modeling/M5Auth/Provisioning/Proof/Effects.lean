import M5Auth.Provisioning.CanonicalHandler
import M5Auth.VaultRuntime.Proof.CallEffects

/-!
# What a step may do to the authorizations

An authorization is something the Device will act on later: the session attempt, the pending key,
the two reset attempts and the presence gate they share. Most steps only withdraw some of them
(`Withdraws`), call no runtime operation that opens or destroys a Vault (`Reaches Tame`) and leave
the registration alone: they are `Quiet`. Housekeeping and the disconnect are.
-/

namespace M5Auth.Provisioning.Device

open VaultRuntime (Call Persistence Runtime)

variable {σ : Type} {env : Env σ} {d d' d'' : Device σ}

/-! ## Withdrawing -/

/-- Whatever `d'` authorizes, `d` does; and the gate is not left without its owner. -/
structure Withdraws (d d' : Device σ) : Prop where
  attempt : d'.coordinator.attempt.active = true → d'.coordinator.attempt = d.coordinator.attempt
  context : d'.contextActive = true → d.contextActive = true ∧ d'.context = d.context
  pending : d'.sink.pending = true →
    d.sink.pending = true ∧ d'.sink.context = d.sink.context ∧ d'.sink.vmk = d.sink.vmk
  healthy : d'.healthyReset.active = true → d'.healthyReset = d.healthyReset
  recovery : d'.recoveryReset.active = true → d'.recoveryReset = d.recoveryReset
  gate : d'.presence.gate.state ≠ .idle → d'.presence.gate = d.presence.gate
  owner : d'.presence.gate.state ≠ .idle →
    (d.coordinator.attempt.active = true → d'.coordinator.attempt = d.coordinator.attempt) ∧
    (d.healthyReset.active = true → d'.healthyReset = d.healthyReset) ∧
    (d.recoveryReset.active = true → d'.recoveryReset = d.recoveryReset)

namespace Withdraws

theorem refl (d : Device σ) : Withdraws d d :=
  ⟨fun _ => rfl, fun h => ⟨h, rfl⟩, fun h => ⟨h, rfl, rfl⟩, fun _ => rfl, fun _ => rfl,
    fun _ => rfl, fun _ => ⟨fun _ => rfl, fun _ => rfl, fun _ => rfl⟩⟩

theorem trans (h : Withdraws d d') (h' : Withdraws d' d'') : Withdraws d d'' where
  attempt ha := by
    have he := h'.attempt ha
    exact he.trans (h.attempt (he ▸ ha))
  context hc := by
    obtain ⟨hc', he⟩ := h'.context hc
    obtain ⟨hc'', he'⟩ := h.context hc'
    exact ⟨hc'', he.trans he'⟩
  pending hp := by
    obtain ⟨hp', hc, hv⟩ := h'.pending hp
    obtain ⟨hp'', hc', hv'⟩ := h.pending hp'
    exact ⟨hp'', hc.trans hc', hv.trans hv'⟩
  healthy ha := by
    have he := h'.healthy ha
    exact he.trans (h.healthy (he ▸ ha))
  recovery ha := by
    have he := h'.recovery ha
    exact he.trans (h.recovery (he ▸ ha))
  gate hg := by
    have he := h'.gate hg
    exact he.trans (h.gate (he ▸ hg))
  owner hg := by
    obtain ⟨ha', hh', hr'⟩ := h'.owner hg
    obtain ⟨ha, hh, hr⟩ := h.owner (h'.gate hg ▸ hg)
    refine ⟨fun hact => ?_, fun hact => ?_, fun hact => ?_⟩
    · have he := ha hact
      exact (ha' (he ▸ hact)).trans he
    · have he := hh hact
      exact (hh' (he ▸ hact)).trans he
    · have he := hr hact
      exact (hr' (he ▸ hact)).trans he

end Withdraws

/-- The runtime, the registration, the clock and the random source hold no authorization. -/
theorem Withdraws.of_store (h : Withdraws d d') (runtime : Runtime σ)
    (registration : Registration.Store) (clock : Time.TrustedClock) (resetDraws : Nat) :
    Withdraws d { d' with runtime, registration, clock, resetDraws } :=
  ⟨h.attempt, h.context, h.pending, h.healthy, h.recovery, h.gate, h.owner⟩

theorem withdraws_disconnectSession (d : Device σ) : Withdraws d d.disconnectSession := by
  constructor <;> intro h
  case attempt => cases h
  case context => cases h
  case pending => exact ⟨h, rfl, rfl⟩
  case healthy => rfl
  case recovery => rfl
  all_goals exact absurd rfl h

theorem withdraws_cancelPending (d : Device σ) : Withdraws d d.cancelPending := by
  constructor <;> intro h
  case pending => cases h
  case context => exact ⟨h, rfl⟩
  case owner => exact ⟨fun _ => rfl, fun _ => rfl, fun _ => rfl⟩
  all_goals rfl

theorem withdraws_cancelHealthyReset (d : Device σ) : Withdraws d d.cancelHealthyReset := by
  cases hact : d.healthyReset.active
  · have he : d.cancelHealthyReset = d.withHealthyReset .cancel := by simp [cancelHealthyReset, hact]
    rw [he]
    constructor <;> intro h
    case healthy => cases h
    case context => exact ⟨h, rfl⟩
    case pending => exact ⟨h, rfl, rfl⟩
    case owner => exact ⟨fun _ => rfl, fun h' => by simp [hact] at h', fun _ => rfl⟩
    all_goals rfl
  · have he : d.cancelHealthyReset =
        (d.withPresence d.presence.cancelPresence).withHealthyReset .cancel := by
      simp [cancelHealthyReset, hact]
    rw [he]
    constructor <;> intro h
    case healthy => cases h
    case context => exact ⟨h, rfl⟩
    case pending => exact ⟨h, rfl, rfl⟩
    case gate => exact absurd rfl h
    case owner => exact absurd rfl h
    all_goals rfl

theorem withdraws_cancelRecoveryReset (d : Device σ) : Withdraws d d.cancelRecoveryReset := by
  cases hact : d.recoveryReset.active
  · have he : d.cancelRecoveryReset = d.withRecoveryReset {} := by simp [cancelRecoveryReset, hact]
    rw [he]
    constructor <;> intro h
    case recovery => cases h
    case context => exact ⟨h, rfl⟩
    case pending => exact ⟨h, rfl, rfl⟩
    case owner => exact ⟨fun _ => rfl, fun _ => rfl, fun h' => by simp [hact] at h'⟩
    all_goals rfl
  · have he : d.cancelRecoveryReset =
        (d.withPresence d.presence.cancelPresence).withRecoveryReset {} := by
      simp [cancelRecoveryReset, hact]
    rw [he]
    constructor <;> intro h
    case recovery => cases h
    case context => exact ⟨h, rfl⟩
    case pending => exact ⟨h, rfl, rfl⟩
    case gate => exact absurd rfl h
    case owner => exact absurd rfl h
    all_goals rfl

theorem withdraws_disconnect (d : Device σ) : Withdraws d d.disconnect :=
  (((withdraws_disconnectSession d).trans (withdraws_cancelPending _)).trans
    (withdraws_cancelHealthyReset _)).trans (withdraws_cancelRecoveryReset _)

/-- A gate that is left alone or cleared, with no owner withdrawn. -/
theorem withdraws_withPresence {presence : Session.CanonicalPresence}
    (h : presence.gate.state ≠ .idle → presence.gate = d.presence.gate) :
    Withdraws d (d.withPresence presence) := by
  constructor <;> intro hs
  case gate => exact h hs
  case context => exact ⟨hs, rfl⟩
  case pending => exact ⟨hs, rfl, rfl⟩
  case owner => exact ⟨fun _ => rfl, fun _ => rfl, fun _ => rfl⟩
  all_goals rfl

/-! ## The parts a withdrawal leaves alone -/

section
variable (d : Device σ)

@[simp] theorem disconnectSession_runtime : d.disconnectSession.runtime = d.runtime := rfl
@[simp] theorem disconnectSession_registration :
    d.disconnectSession.registration = d.registration := rfl
@[simp] theorem cancelPending_runtime : d.cancelPending.runtime = d.runtime := rfl
@[simp] theorem cancelPending_registration : d.cancelPending.registration = d.registration := rfl

@[simp] theorem cancelHealthyReset_runtime : d.cancelHealthyReset.runtime = d.runtime := by
  unfold cancelHealthyReset
  split <;> rfl
@[simp] theorem cancelHealthyReset_registration :
    d.cancelHealthyReset.registration = d.registration := by
  unfold cancelHealthyReset
  split <;> rfl
@[simp] theorem cancelHealthyReset_attempt :
    d.cancelHealthyReset.coordinator.attempt = d.coordinator.attempt := by
  unfold cancelHealthyReset
  split <;> rfl
@[simp] theorem cancelHealthyReset_context : d.cancelHealthyReset.context = d.context := by
  unfold cancelHealthyReset
  split <;> rfl
@[simp] theorem cancelHealthyReset_contextActive :
    d.cancelHealthyReset.contextActive = d.contextActive := by
  unfold cancelHealthyReset
  split <;> rfl
@[simp] theorem cancelHealthyReset_sink : d.cancelHealthyReset.sink = d.sink := by
  unfold cancelHealthyReset
  split <;> rfl
@[simp] theorem cancelHealthyReset_healthyReset : d.cancelHealthyReset.healthyReset = {} := rfl
@[simp] theorem cancelHealthyReset_recoveryReset :
    d.cancelHealthyReset.recoveryReset = d.recoveryReset := by
  unfold cancelHealthyReset
  split <;> rfl

@[simp] theorem cancelRecoveryReset_runtime : d.cancelRecoveryReset.runtime = d.runtime := by
  unfold cancelRecoveryReset
  split <;> rfl
@[simp] theorem cancelRecoveryReset_registration :
    d.cancelRecoveryReset.registration = d.registration := by
  unfold cancelRecoveryReset
  split <;> rfl
@[simp] theorem cancelRecoveryReset_attempt :
    d.cancelRecoveryReset.coordinator.attempt = d.coordinator.attempt := by
  unfold cancelRecoveryReset
  split <;> rfl
@[simp] theorem cancelRecoveryReset_context : d.cancelRecoveryReset.context = d.context := by
  unfold cancelRecoveryReset
  split <;> rfl
@[simp] theorem cancelRecoveryReset_contextActive :
    d.cancelRecoveryReset.contextActive = d.contextActive := by
  unfold cancelRecoveryReset
  split <;> rfl
@[simp] theorem cancelRecoveryReset_sink : d.cancelRecoveryReset.sink = d.sink := by
  unfold cancelRecoveryReset
  split <;> rfl
@[simp] theorem cancelRecoveryReset_recoveryReset : d.cancelRecoveryReset.recoveryReset = {} := rfl
@[simp] theorem cancelRecoveryReset_healthyReset :
    d.cancelRecoveryReset.healthyReset = d.healthyReset := by
  unfold cancelRecoveryReset
  split <;> rfl

@[simp] theorem disconnect_runtime : d.disconnect.runtime = d.runtime := by simp [disconnect]
@[simp] theorem disconnect_registration : d.disconnect.registration = d.registration := by
  simp [disconnect]

end

/-! ## Nothing authorized -/

/-- No attempt, no pending key, no reset attempt, and an idle gate. -/
structure Idle (d : Device σ) : Prop where
  attempt : d.coordinator.attempt.active = false
  context : d.contextActive = false
  pending : d.sink.pending = false
  healthy : d.healthyReset.active = false
  recovery : d.recoveryReset.active = false
  gate : d.presence.gate.state = .idle

theorem Idle.of_withdraws (h : Idle d) (hw : Withdraws d d') : Idle d' where
  attempt := by
    by_contra hact
    rw [Bool.not_eq_false] at hact
    rw [hw.attempt hact, h.attempt] at hact
    cases hact
  context := by
    by_contra hact
    rw [Bool.not_eq_false] at hact
    exact absurd (hw.context hact).1 (by simp [h.context])
  pending := by
    by_contra hact
    rw [Bool.not_eq_false] at hact
    exact absurd (hw.pending hact).1 (by simp [h.pending])
  healthy := by
    by_contra hact
    rw [Bool.not_eq_false] at hact
    rw [hw.healthy hact, h.healthy] at hact
    cases hact
  recovery := by
    by_contra hact
    rw [Bool.not_eq_false] at hact
    rw [hw.recovery hact, h.recovery] at hact
    cases hact
  gate := by
    by_contra hg
    exact hg ((hw.gate hg).symm ▸ h.gate)

theorem idle_disconnect (d : Device σ) : Idle d.disconnect := by
  have hw := (withdraws_cancelHealthyReset d.disconnectSession.cancelPending).trans
    (withdraws_cancelRecoveryReset _)
  refine ⟨by simp [disconnect]; rfl, by simp [disconnect]; rfl, by simp [disconnect]; rfl,
    by simp [disconnect], by simp [disconnect], ?_⟩
  by_contra hg
  exact hg ((hw.gate hg).symm ▸ rfl)

/-! ## Quiet steps -/

/-- The step authorizes nothing, opens no Vault, destroys none and leaves the registration. -/
structure Quiet (env : Env σ) (d d' : Device σ) : Prop extends Withdraws d d' where
  calls : Runtime.Reaches env.persistence env.prims.gcm (·.tame = true) d.runtime d'.runtime
  registration : d'.registration = d.registration

namespace Quiet

theorem of_withdraws (h : Withdraws d d') (hr : d'.runtime = d.runtime)
    (hg : d'.registration = d.registration) : Quiet env d d' :=
  { h with calls := hr ▸ .refl _, registration := hg }

theorem refl (d : Device σ) : Quiet env d d := of_withdraws (.refl d) rfl rfl

theorem trans (h : Quiet env d d') (h' : Quiet env d' d'') : Quiet env d d'' :=
  { h.toWithdraws.trans h'.toWithdraws with
    calls := h.calls.trans h'.calls, registration := h'.registration.trans h.registration }

/-- One more tame call. -/
theorem withRuntime (h : Quiet env d d') (call : Call) (htame : call.tame = true) {rt : Runtime σ}
    (he : rt = d'.runtime.step env.persistence env.prims.gcm call) :
    Quiet env d (d'.withRuntime rt) :=
  { h.toWithdraws.of_store _ _ _ _ with
    calls := he ▸ h.calls.trans (.one call htame), registration := h.registration }

end Quiet

variable (env) in
theorem quiet_disconnect (d : Device σ) : Quiet env d d.disconnect :=
  .of_withdraws (withdraws_disconnect d) (disconnect_runtime d) (disconnect_registration d)

variable (env) in
theorem quiet_lockSecurityBoundary (d : Device σ) : Quiet env d d.lockSecurityBoundary.2 :=
  (quiet_disconnect env d).withRuntime .lock rfl rfl

theorem expire_cases (c : Session.AttemptCoordinator) (nowMs : UInt64) :
    c.expire nowMs = (true, c.cancel) ∨ c.expire nowMs = (false, c) := by
  unfold Session.AttemptCoordinator.expire
  simp only
  split
  · exact .inr rfl
  · split
    · exact .inl rfl
    · exact .inr rfl

theorem quiet_expireSession (d : Device σ) (nowMs : UInt64) :
    Quiet env d (d.expireSession nowMs) := by
  unfold expireSession
  rcases expire_cases d.coordinator nowMs with he | he <;> rw [he]
  · exact .of_withdraws (withdraws_disconnectSession d) rfl rfl
  · exact .refl d

theorem quiet_expirePending (d : Device σ) (nowMs : UInt64) :
    Quiet env d (d.expirePending nowMs) := by
  unfold expirePending
  split
  · exact .refl d
  · exact .of_withdraws (withdraws_cancelPending d) rfl rfl

theorem quiet_expireResets (d : Device σ) (nowMs : UInt64) :
    Quiet env d (d.expireResets nowMs) := by
  have hrecovery (d : Device σ) : Quiet env d (if d.recoveryReset.active ∧
      d.recoveryReset.deadlineMs ≤ nowMs then d.cancelRecoveryReset else d) := by
    split
    · exact .of_withdraws (withdraws_cancelRecoveryReset d) (by simp) (by simp)
    · exact .refl d
  unfold expireResets
  cases hexp : d.healthyReset.expired nowMs
  · exact hrecovery d
  · exact (Quiet.of_withdraws (withdraws_cancelHealthyReset d) (by simp) (by simp)).trans
      (hrecovery d.cancelHealthyReset)

variable (env) in
theorem quiet_housekeeping (d : Device σ) (nowMs : UInt64) :
    Quiet env d (d.housekeeping nowMs) := by
  have hs : Quiet env d (d.expireSession nowMs) := quiet_expireSession d nowMs
  have h := (hs.trans (quiet_expirePending _ nowMs)).trans (quiet_expireResets _ nowMs)
  unfold housekeeping
  simp only
  split
  · exact h.trans (quiet_lockSecurityBoundary env _)
  · exact h

end M5Auth.Provisioning.Device
