import M5Auth.Provisioning.Proof.UnlockAuthorization

/-!
# A Vault that cannot be read is left alone

A boot whose load reports a generic I/O error or a Vault of an unsupported format leaves the
runtime in `kError` without the reset permission. The Device then stays `Sealed`: every attempt is
refused when it begins, so there is nothing to authorize an operation that would write.
-/

namespace M5Auth.Provisioning.Device

open Run (stateAt)
open VaultRuntime (Call PersistedSnapshot Persistence Reply Runtime Status)

variable {σ : Type} {env : Env σ} {d d' : Device (σ × List Reply)}

/-- The load reports a fault that the firmware cannot judge: a generic I/O error or a Vault of a
format that it does not know. -/
def Unreadable (status : Status) (sn : PersistedSnapshot) : Prop :=
  status = .io ∨ status = .unsupportedVaultFormat ∨
    (status = .ok ∧ sn.schemaReady = true ∧ sn.hasVault = true ∧
      Vault.isSupportedVaultFormat sn.envelope.vaultFormatVersion = false)

/-- The runtime failed closed, nothing is authorized, and the persistence was called no more. -/
structure Sealed (log : List Reply) (d : Device (σ × List Reply)) : Prop where
  state : d.runtime.state = .error
  refused : d.runtime.recoveryResetAllowed = false
  noVault : d.runtime.hasVault = false
  log : d.runtime.log = log
  idle : Idle d

namespace Sealed

variable {log : List Reply}

theorem calls {rt rt' : Runtime (σ × List Reply)} {P : Persistence (σ × List Reply)}
    {gcm : Vault.GcmOpen} (h : Runtime.Reaches P gcm (·.tame = true) rt rt')
    (hst : rt.state = .error) : rt'.state = .error ∧
      rt'.recoveryResetAllowed = rt.recoveryResetAllowed ∧ rt'.hasVault = rt.hasVault ∧
      rt'.log = rt.log := by
  refine h.keeps (I := fun rt' => rt'.state = .error ∧
      rt'.recoveryResetAllowed = rt.recoveryResetAllowed ∧ rt'.hasVault = rt.hasVault ∧
      rt'.log = rt.log) (fun rt' call hc hi => ?_) ⟨hst, rfl, rfl, rfl⟩
  rcases Runtime.step_of_error (P := P) hc hi.1 with he | he <;> rw [he]
  · exact hi
  · exact hi

theorem quiet {env : Env (σ × List Reply)} (h : Sealed log d) (hq : Quiet env d d') :
    Sealed log d' := by
  obtain ⟨hst, ha, hv, hlog⟩ := calls hq.calls h.state
  exact ⟨hst, ha.trans h.refused, hv.trans h.noVault, hlog.trans h.log,
    h.idle.of_withdraws hq.toWithdraws⟩

theorem pressed (h : Sealed log d) (hp : Pressed d d') : Sealed log d' := by
  refine ⟨by rw [hp.runtime]; exact h.state, by rw [hp.runtime]; exact h.refused,
    by rw [hp.runtime]; exact h.noVault, by rw [hp.runtime]; exact h.log, ?_⟩
  refine ⟨by rw [hp.attempt]; exact h.idle.attempt, by rw [hp.context.1]; exact h.idle.context,
    by rw [hp.sink]; exact h.idle.pending, by rw [hp.healthy]; exact h.idle.healthy,
    by rw [hp.recovery]; exact h.idle.recovery, ?_⟩
  by_contra hg
  rcases (hp.gate hg).2.2.2 with hst | ⟨hst, _⟩
  · rw [hst, h.idle.gate] at hg
    exact hg rfl
  · rw [h.idle.gate] at hst
    cases hst

/-- No attempt can be prepared. -/
theorem unprepared (h : Sealed log d) (context : Session.BeginContext) :
    (d.prepareAttempt context).1 = false := by
  have hv : d.cancelPending.runtime.hasVault = false := h.noVault
  have hst : d.cancelPending.runtime.state = .error := h.state
  unfold prepareAttempt
  dsimp only
  split
  · rfl
  · rename_i metadata hmeta
    obtain rfl : d.cancelPending.runtime.report = metadata := by
      unfold Runtime.metadata at hmeta
      split at hmeta
      · cases hmeta
      · cases hmeta
        rfl
    simp only [Runtime.report, hv, hst]
    cases context.operation <;> rfl

/-- No reset is offered. -/
theorem ineligible (h : Sealed log d) (kind : ResetKind) : ¬ d.eligible kind := by
  have hdecision : d.decision = .unavailable := by
    unfold decision recoveryResetDecision
    split
    · rfl
    · rename_i metadata hmeta
      obtain rfl : d.runtime.report = metadata := by
        unfold Runtime.metadata at hmeta
        split at hmeta
        · cases hmeta
        · cases hmeta
          rfl
      simp [classifyRecoveryReset, Runtime.report, h.state, h.refused]
  cases kind <;> simp [eligible, healthyResetAllowed, hdecision]

theorem request {env : Env (σ × List Reply)} {frame : Frame} {m : Moment} {response : Response}
    (h : Sealed log d) (he : RequestEffect env d frame m response d') : Sealed log d' := by
  cases he with
  | session he =>
    cases he with
    | quiet hq => exact h.quiet hq
    | begun context descriptor hb =>
      have hprepared := hb.prepared
      rw [h.unprepared] at hprepared
      cases hprepared
    | authorized webPublicKey transcript signature ha =>
      have hact := ha.active.1
      rw [h.idle.attempt] at hact
      cases hact
    | completed vmk hc =>
      have hact := hc.active.1
      rw [h.idle.attempt] at hact
      cases hact
  | resetBegun kind attemptId hb => exact absurd hb.eligible (h.ineligible kind)
  | resetDone kind hd => exact absurd hd.eligible (h.ineligible kind)
  | installed hi =>
    have hp := hi.pending
    rw [h.idle.pending] at hp
    cases hp
  | rekeyed hr =>
    have hp := hr.pending
    rw [h.idle.pending] at hp
    cases hp

theorem step {env : Env (σ × List Reply)} (h : Sealed log d) (i : Input) :
    Sealed log (d.step env i) := by
  cases step_cases env d i with
  | quiet hq => exact h.quiet hq
  | pressed hp _ => exact h.pressed hp
  | request _ m _ _ _ _ he =>
    have hq : Quiet env d (d.housekeeping m.nowMs) := quiet_housekeeping _ d m.nowMs
    exact (h.quiet hq).request he

end Sealed

theorem sealed_boot {storage world : σ} {status : Status} {sn : PersistedSnapshot}
    (nvs : Registration.Nvs) (candidate : Registration.DeviceIdCandidate)
    (hload : env.persistence.load storage = ((status, sn), world)) (h : Unreadable status sn) :
    Sealed [.load status sn] (boot env.logged (storage, []) nvs candidate) := by
  have hload' : env.persistence.logged.load ((Runtime.new (storage, ([] : List Reply))).persistence)
      = ((status, sn), (world, [.load status sn])) :=
    Persistence.logged_load _ (storage, []) hload
  have hst : status ≠ .unprovisioned ∧ status ≠ .reprovisionRequired ∧
      VaultRuntime.Runtime.loadAllowed status sn = false ∧
      VaultRuntime.Runtime.loadAccepted status sn = false := by
    rcases h with rfl | rfl | ⟨rfl, hs, hv, hf⟩
    · exact ⟨by decide, by decide, rfl, rfl⟩
    · exact ⟨by decide, by decide, rfl, rfl⟩
    · refine ⟨by decide, by decide, ?_, ?_⟩
      · simp [Runtime.loadAllowed, hs, hf]
      · simp [Runtime.loadAccepted, hs, hv, VaultRuntime.validEnvelopeFraming, hf]
  obtain ⟨hu, hr, hallowed, haccepted⟩ := hst
  rcases Runtime.initializeRuntime_cases _ hload' with
    ⟨hacc, _⟩ | ⟨_, st, rt', he, _, hw, _, _, hvault, _, _, hcase⟩
  · rw [haccepted] at hacc
    cases hacc
  · rcases hcase with ⟨hu', _⟩ | ⟨hr', _⟩ | ⟨_, _, herr, ha⟩
    · exact absurd hu' hu
    · exact absurd hr' hr
    · have hboot : (boot env.logged (storage, []) nvs candidate).runtime = rt' := by
        rw [← show _ = rt' from congrArg Prod.snd he]
        rfl
      refine ⟨by rw [hboot]; exact herr, by rw [hboot, ha]; exact hallowed,
        by rw [hboot]; exact hvault, ?_, idle_boot _ _ _ _⟩
      rw [hboot, Runtime.log, hw]

/-- **Nothing erases a Vault that the firmware cannot read.** After a boot whose load reports a
generic I/O error or an unsupported format, no sequence of inputs makes the Device call the
persistence again: it is never formatted, erased or written. -/
theorem unreadable_untouched {storage world : σ} {status : Status} {sn : PersistedSnapshot}
    (nvs : Registration.Nvs) (candidate : Registration.DeviceIdCandidate)
    (hload : env.persistence.load storage = ((status, sn), world)) (h : Unreadable status sn)
    (inp : Nat → Input) (n : Nat) :
    (stateAt (step env.logged) (boot env.logged (storage, []) nvs candidate) inp n).runtime.log =
      [.load status sn] :=
  (Run.stateAt_inv (sealed_boot nvs candidate hload h) (fun _ i hs => hs.step i) n).log

/-- A load that fails with an I/O error, and the user's presses on the button afterwards. -/
theorem unreadable_untouched_io :
    (stateAt (step ({ sampleEnv with persistence :=
        { ramPersistence with load := fun s => ((.io, {}), s) } } : Env PersistedSnapshot).logged)
      (boot ({ sampleEnv with persistence :=
        { ramPersistence with load := fun s => ((.io, {}), s) } } : Env PersistedSnapshot).logged
        (sampleVault, []) sampleNvs ⟨ones 16, rfl⟩) sampleInputs 7).runtime.log =
      [.load .io {}] :=
  unreadable_untouched sampleNvs ⟨ones 16, rfl⟩ rfl (.inl rfl) sampleInputs 7

end M5Auth.Provisioning.Device
