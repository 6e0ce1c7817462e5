import M5Auth.Provisioning.Proof.UnlockAuthorization
import M5Auth.Registration.Proof.Cases

/-!
# Only an authorized reset destroys

The persistence is asked to format or erase, and the registration store to clear, in three
requests only (`destroyed_origin`): the two that carry a reset out, and a `vault.install` on a
Device without a Vault. `AuthorizedReset` is the history of a reset: an attempt that was begun,
that nothing disturbed since, and that the user confirmed at the button. `destruction_authorized`
gives every destroying step such a history.
-/

namespace M5Auth.Provisioning.Device

open Registration (Nvs DeviceIdCandidate)
open Session (AttemptId)
open VaultRuntime (Call Reply Runtime)
open VaultRuntime.Runtime (Undestroyed)
open Run (StepAt stateAt since)

variable {σ : Type} {env : Env σ}

/-! ## Destroying steps -/

/-- The step asks the persistence to format or erase, or the registration store to clear. -/
def Destroys (d d' : Device (σ × List Reply)) : Prop :=
  ¬ Undestroyed d.runtime d'.runtime ∨ d'.registration.clears ≠ d.registration.clears

section
variable {d d' : Device (σ × List Reply)} {i : Input}

theorem undestroyed_step (env : Env σ) (rt : Runtime (σ × List Reply)) (call : Call)
    (h : call.destructive = false) :
    Undestroyed rt (rt.step env.logged.persistence env.logged.prims.gcm call) :=
  Runtime.step_undestroyed (P := env.persistence) rt h

/-- The requests that may destroy. -/
inductive DestroyingRequest (env : Env (σ × List Reply)) (h : Device (σ × List Reply))
    (frame : Frame) (m : Moment) (d' : Device (σ × List Reply)) : Prop
  | reset (kind : ResetKind) (done : ResetDone env h frame m kind d')
  | installed (installed : VaultInstalled env h frame m d')

/-- A step that destroys is one of the three requests. -/
theorem destroyed_origin (env : Env σ) (d : Device (σ × List Reply)) (i : Input)
    (hd : Destroys d (d.step env.logged i)) :
    Requests env.logged (DestroyingRequest env.logged) d i (d.step env.logged i) := by
  have htame {rt rt' : Runtime (σ × List Reply)} (h : Runtime.Reaches
      env.logged.persistence env.logged.prims.gcm (·.tame = true) rt rt') : Undestroyed rt rt' :=
    Runtime.Reaches.undestroyed (P := env.persistence) h
      fun _ hc => Runtime.destructive_of_tame hc
  have hkept {P : Prop} (hu : Undestroyed d.runtime (d.step env.logged i).runtime)
      (hc : (d.step env.logged i).registration.clears = d.registration.clears) : P :=
    (hd.elim (fun h => h hu) fun h => h hc).elim
  cases step_cases env.logged d i with
  | quiet h => exact hkept (htame h.calls) (by rw [h.registration])
  | pressed h _ =>
    exact hkept (by rw [h.runtime]; exact .refl _) (by rw [h.registration])
  | request line m frame response hi hacc h =>
    have hq : Quiet env.logged d (d.housekeeping m.nowMs) := quiet_housekeeping _ d m.nowMs
    have hu := htame hq.calls
    have hkept' {P : Prop} (hu' : Undestroyed (d.housekeeping m.nowMs).runtime
        (d.step env.logged i).runtime) (hc : (d.step env.logged i).registration.clears =
        (d.housekeeping m.nowMs).registration.clears) : P :=
      hkept (hu.trans hu') (by rw [hc, hq.registration])
    cases h with
    | session h =>
      cases h with
      | quiet h => exact hkept' (htame h.calls) (by rw [h.registration])
      | begun context descriptor h => exact hkept' (htame h.calls) (by rw [h.registration])
      | authorized webPublicKey transcript signature h =>
        exact hkept' (by rw [h.runtime]; exact .refl _) (by rw [h.registration])
      | completed vmk h =>
        cases h.delivered with
        | dropped _ hr hg => exact hkept' (by rw [hr]; exact .refl _) (by rw [hg])
        | held _ _ _ _ hr hg => exact hkept' (by rw [hr]; exact .refl _) (by rw [hg])
        | tried _ _ hr hg =>
          refine hkept' ?_ ?_
          · have hun := undestroyed_step env (d.housekeeping m.nowMs).runtime
              (.unlock vmk m.timerMs) rfl
            rcases hr with hr | hr
            · rw [hr]
              exact hun
            · rw [hr]
              exact hun.trans (undestroyed_step env _ .lock rfl)
          · rcases hg with hg | ⟨_, _, hg⟩
            · rw [hg]
            · rw [hg, Registration.Store.replace_clears]
    | resetBegun kind attemptId h => exact hkept' (htame h.calls) (by rw [h.registration])
    | resetDone kind h => exact ⟨line, m, frame, hi, hacc, .reset kind h⟩
    | installed h => exact ⟨line, m, frame, hi, hacc, .installed h⟩
    | rekeyed h =>
      obtain ⟨expectedGeneration, envelope, rt, rfl, hr⟩ := h.runtime
      refine hkept' ?_ (by rw [h.registration])
      have hun := undestroyed_step env (d.housekeeping m.nowMs).runtime
        (.rekeyEncryptedVault expectedGeneration envelope (d.housekeeping m.nowMs).sink.vmk) rfl
      rcases hr with hr | hr
      · rw [hr]
        exact hun
      · rw [hr]
        exact hun.trans (undestroyed_step env _ .lock rfl)

end

/-! ## Disturbances -/

/-- The time of the housekeeping that the input starts with. -/
def housekeepingTime : Input → Option UInt64
  | .line _ m => some m.nowMs
  | .housekeeping nowMs => some nowMs
  | _ => none

/-- What ends a reset attempt of the kind: a disconnect, its expiry, a rejected line, a session
request, a lock, another attempt, or its cancellation. -/
inductive Disturbs (env : Env σ) (kind : ResetKind) (d : Device σ) (i : Input) : Prop
  | disconnect (h : i = .disconnect)
  | expired (nowMs : UInt64) (h : housekeepingTime i = some nowMs)
      (expired : (d.resetAttempt kind).deadlineMs ≤ nowMs)
  | unanswered (nowMs : UInt64) (h : i = .expirePresence nowMs)
      (expired : d.presence.gate.expiresAtMs ≤ nowMs)
  | locked (nowMs : UInt64) (h : housekeepingTime i = some nowMs)
      (due : (((d.expireSession nowMs).expirePending nowMs).expireResets
        nowMs).runtime.automaticLockDue nowMs = true)
  | rejected (line : List UInt8) (m : Moment) (h : i = .line line m)
      (nonempty : line.isEmpty = false) (rejected : ∀ frame, ¬ Accepted env line frame)
  | request (line : List UInt8) (m : Moment) (frame : Frame) (h : i = .line line m)
      (accepted : Accepted env line frame)
      (operation : (∃ request, frame.operation = .session request) ∨
        frame.operation = .deviceLock ∨
        ((∃ kind : ResetKind, frame.operation = kind.beginOperation) ∨
            (kind = .healthy ∧ frame.operation = .factoryResetCancel)) ∧
          ((d.housekeeping m.nowMs).handleRequest env frame line m).1.ok = true)

section
variable {d d' : Device σ} {kind : ResetKind}

theorem expireResets_off (d : Device σ) {nowMs : UInt64}
    (h : (d.resetAttempt kind).deadlineMs ≤ nowMs) :
    ((d.expireResets nowMs).resetAttempt kind).active = false := by
  unfold expireResets
  cases kind with
  | healthy =>
    simp only [resetAttempt] at h ⊢
    cases hact : d.healthyReset.active
    · have hexp : d.healthyReset.expired nowMs = false := by
        simp [FactoryResetAuthorization.expired, hact]
      simp only [hexp, Bool.false_eq_true, if_false]
      split
      · simpa using hact
      · exact hact
    · have hexp : d.healthyReset.expired nowMs = true := by
        simp [FactoryResetAuthorization.expired, hact, h]
      simp only [hexp, if_true]
      split <;> simp
  | recovery =>
    have hrecovery (d : Device σ) (h : d.recoveryReset.deadlineMs ≤ nowMs) :
        (if d.recoveryReset.active ∧ d.recoveryReset.deadlineMs ≤ nowMs then d.cancelRecoveryReset
          else d).recoveryReset.active = false := by
      split
      · simp
      · rename_i hnot
        by_contra hact
        rw [Bool.not_eq_false] at hact
        exact hnot ⟨hact, h⟩
    simp only [resetAttempt] at h ⊢
    cases hexp : d.healthyReset.expired nowMs
    · exact hrecovery d h
    · exact hrecovery d.cancelHealthyReset (by simpa using h)

theorem Idle.inactive (h : Idle d) (kind : ResetKind) : (d.resetAttempt kind).active = false :=
  NoReset.inactive ⟨h.healthy, h.recovery⟩ kind

/-- An expired attempt does not survive the housekeeping. -/
theorem expired_housekeeping (env : Env σ) (d : Device σ) {nowMs : UInt64}
    (h : (d.resetAttempt kind).deadlineMs ≤ nowMs) :
    ((d.housekeeping nowMs).resetAttempt kind).active = false := by
  have hs : Quiet env d (d.expireSession nowMs) := quiet_expireSession d nowMs
  have hpre := (hs.trans (quiet_expirePending _ nowMs)).toWithdraws
  unfold housekeeping
  dsimp only
  split
  · exact (idle_disconnect _).inactive kind
  · cases hact : (((d.expireSession nowMs).expirePending nowMs).resetAttempt kind).active
    · have hw : Quiet env _ (((d.expireSession nowMs).expirePending nowMs).expireResets nowMs) :=
        quiet_expireResets _ nowMs
      exact inactive_of_withdraws hw.toWithdraws hact
    · rw [← resetAttempt_of_withdraws hpre hact] at h
      exact expireResets_off _ h

/-- Nor does any attempt survive a lock that is due. -/
theorem locked_housekeeping (d : Device σ) (kind : ResetKind) {nowMs : UInt64}
    (h : (((d.expireSession nowMs).expirePending nowMs).expireResets
      nowMs).runtime.automaticLockDue nowMs = true) :
    ((d.housekeeping nowMs).resetAttempt kind).active = false := by
  unfold housekeeping
  dsimp only
  rw [if_pos h]
  exact (idle_disconnect _).inactive kind

/-! ## A line of the serial port -/

theorem dispatch_accepted {line : List UInt8} {frame : Frame} (d : Device σ) (m : Moment)
    (h : Accepted env line frame) : d.dispatch env line m = d.handleRequest env frame line m := by
  unfold dispatch
  rw [h.nonempty, if_neg (by simp), if_neg (Nat.not_lt.2 h.short), h.read]

theorem dispatch_rejected {line : List UInt8} (d : Device σ) (m : Moment)
    (hne : line.isEmpty = false) (h : ∀ frame, ¬ Accepted env line frame) :
    (d.dispatch env line m).2 = d.disconnect := by
  unfold dispatch
  rw [hne, if_neg (by simp)]
  split
  · rfl
  · rename_i hlen
    cases hread : readFrame env.parse line with
    | error e => rfl
    | ok frame => exact absurd ⟨hne, Nat.not_lt.1 hlen, hread⟩ (h frame)

/-- An attempt that a line does not leave inactive was active after the housekeeping, or is
begun by the line. -/
theorem line_origin {line : List UInt8} {m : Moment}
    (hact : ((d.step env (.line line m)).resetAttempt kind).active = true) :
    ((d.housekeeping m.nowMs).resetAttempt kind).active = true ∨ ∃ response, Requests env
      (fun h frame now d' => ResetBegun env h frame now kind
        ((d.step env (.line line m)).resetAttempt kind).attemptId response d') d (.line line m)
      (d.step env (.line line m)) := by
  obtain ⟨r, d', he, hquiet | ⟨frame, hacc, heffect⟩⟩ :=
    dispatch_cases env (d.housekeeping m.nowMs) line m
  all_goals
    have hstep : d.step env (.line line m) = d' := by
      simp only [step, handleLine, he]
    rw [hstep] at hact ⊢
  · left
    rw [← resetAttempt_of_withdraws hquiet.toWithdraws hact]
    exact hact
  · rcases reset_request_origin heffect hact with hsame | hb
    · left
      rw [← hsame]
      exact hact
    · exact .inr ⟨r, line, m, frame, rfl, hacc, hb⟩

/-! ## An attempt that is held -/

/-- The attempt of the kind is active, and the gate serves it; for a healthy reset the Device is
unlocked. -/
structure ResetHeld (kind : ResetKind) (attemptId : AttemptId) (d : Device σ) : Prop where
  active : (d.resetAttempt kind).active = true
  id : (d.resetAttempt kind).attemptId = attemptId
  served : d.presence.gate.state ≠ .idle
  gateId : d.presence.gate.attemptId = attemptId
  gateOperation : d.presence.gate.operation = .factoryReset
  unlocked : kind = .healthy → d.runtime.state = .unlocked

/-- The step begins an attempt of the kind, and reports its identifier. -/
def BeginsReset (env : Env σ) (kind : ResetKind) (attemptId : AttemptId) :
    Device σ → Input → Device σ → Prop :=
  Requests env fun h frame m d' =>
    ∃ response, ResetBegun env h frame m kind attemptId response d'

theorem unlocked_before {attemptId : AttemptId} {i : Input} (hi : AuthInv d)
    (h : ResetHeld kind attemptId (d.step env i)) (hk : kind = .healthy) :
    d.runtime.state = .unlocked := by
  rcases opened_origin env d i with hu | ⟨vmk, _, line, m, frame, _, _, hreq⟩
  · exact hu.unlocked (h.unlocked hk)
  have hq : Quiet env d (d.housekeeping m.nowMs) := quiet_housekeeping _ d m.nowMs
  have hpending {P : Prop} (hw : Withdraws (d.housekeeping m.nowMs) (d.step env i))
      (hp : (d.housekeeping m.nowMs).sink.pending = true) : P := by
    have hact := h.active
    rw [resetAttempt_of_withdraws hw h.active] at hact
    have hno := ((hi.quiet hq).alone kind hact).1.2.2
    rw [hp] at hno
    cases hno
  cases hreq with
  | completed hc _ =>
    have hoff := hc.noReset.inactive kind
    rw [h.active] at hoff
    cases hoff
  | installed hv _ => exact hpending hv.withdraws hv.pending
  | rekeyed hv _ => exact hpending hv.withdraws hv.pending

theorem undisturbed {attemptId : AttemptId} {i : Input}
    (h : ResetHeld kind attemptId (d.step env i))
    (hnot : ¬ BeginsReset env kind attemptId d i (d.step env i)) : ¬ Disturbs env kind d i := by
  have hoff {P : Prop} (hoff : ((d.step env i).resetAttempt kind).active = false) : P := by
    rw [h.active] at hoff
    cases hoff
  -- a line after whose housekeeping the attempt is over would have to begin it
  have hline {line : List UInt8} {m : Moment} (hi : i = .line line m)
      (hover : ((d.housekeeping m.nowMs).resetAttempt kind).active = false) : False := by
    subst hi
    rcases line_origin h.active with hact | ⟨response, hb⟩
    · rw [hover] at hact
      cases hact
    · rw [h.id] at hb
      exact hnot (hb.mono fun _ _ _ hb => ⟨response, hb⟩)
  have htime {nowMs : UInt64} (htime : housekeepingTime i = some nowMs)
      (hover : ((d.housekeeping nowMs).resetAttempt kind).active = false) : False := by
    cases i with
    | line line m =>
      cases htime
      exact hline rfl hover
    | housekeeping now =>
      cases htime
      exact hoff hover
    | disconnect => cases htime
    | observeButton pressed => cases htime
    | buttonPressed now => cases htime
    | expirePresence now => cases htime
    | resident use => cases htime
  intro hd
  cases hd with
  | disconnect hi =>
    subst hi
    exact hoff ((idle_disconnect d).inactive kind)
  | expired nowMs hi hexp => exact htime hi (expired_housekeeping env d hexp)
  | locked nowMs hi hdue => exact htime hi (locked_housekeeping d kind hdue)
  | unanswered nowMs hi hexp =>
    subst hi
    have hserved := h.served
    rcases Session.expire_gate d.presence.gate nowMs with ⟨he, _⟩ | ⟨he, hidle | hlive⟩
    · exact hserved (by
        show (d.presence.expirePresence nowMs).gate.state = .idle
        rw [Session.CanonicalPresence.expirePresence, he]
        rfl)
    · exact hserved (by
        show (d.presence.expirePresence nowMs).gate.state = .idle
        rw [Session.CanonicalPresence.expirePresence, he]
        exact hidle)
    · exact absurd hlive (UInt64.not_lt.2 hexp)
  | rejected line m hi hne hrej =>
    subst hi
    refine hoff ?_
    have hstep : d.step env (.line line m) = (d.housekeeping m.nowMs).disconnect := by
      simp only [step, handleLine]
      exact dispatch_rejected _ m hne hrej
    rw [hstep]
    exact (idle_disconnect _).inactive kind
  | request line m frame hi hacc hop =>
    subst hi
    have hstep : d.step env (.line line m) =
        ((d.housekeeping m.nowMs).handleRequest env frame line m).2 := by
      simp only [step, handleLine, dispatch_accepted _ m hacc]
    rcases hop with ⟨request, hop⟩ | hop | ⟨⟨kind', hop⟩ | ⟨hk, hop⟩, hok⟩
    · obtain ⟨r, d', he, hno, _⟩ :=
        sessionRequest_cases env (d.housekeeping m.nowMs) m hop hacc.nonempty hacc.read
      simp only [handleRequest, hop, he] at hstep
      exact hoff (hstep ▸ hno.inactive kind)
    · simp only [handleRequest, hop] at hstep
      exact hoff (hstep ▸ (idle_disconnect (d.housekeeping m.nowMs)).inactive kind)
    · have hbegun : ∃ id r, ResetBegun env (d.housekeeping m.nowMs) frame m kind' id r
          (d.step env (.line line m)) := by
        cases kind' with
        | healthy =>
          obtain ⟨r, d', he, ⟨hr, _⟩ | ⟨id, hb⟩⟩ :=
            factoryResetBegin_cases env (d.housekeeping m.nowMs) m frame hop
          · simp only [handleRequest, hop, ResetKind.beginOperation, he, hr] at hok
            cases hok
          · simp only [handleRequest, hop, ResetKind.beginOperation, he] at hstep
            exact ⟨id, r, hstep ▸ hb⟩
        | recovery =>
          obtain ⟨r, d', he, ⟨hr, _⟩ | ⟨id, hb⟩⟩ :=
            recoveryBegin_cases env (d.housekeeping m.nowMs) m frame hop
          · simp only [handleRequest, hop, ResetKind.beginOperation, he, hr] at hok
            cases hok
          · simp only [handleRequest, hop, ResetKind.beginOperation, he] at hstep
            exact ⟨id, r, hstep ▸ hb⟩
      obtain ⟨id, r, hb⟩ := hbegun
      by_cases hkind : kind' = kind
      · subst hkind
        have hid := h.id
        rw [hb.attempt] at hid
        subst hid
        exact hnot ⟨line, m, frame, rfl, hacc, r, hb⟩
      · have hother : kind = kind'.other := by
          cases kind <;> cases kind' <;> first | rfl | exact absurd rfl hkind
        exact hoff (hother ▸ hb.other)
    · subst hk
      obtain ⟨r, d', he, _, hr | hover⟩ :=
        factoryResetCancel_cases env (d.housekeeping m.nowMs) frame.id frame.params m.nowMs
      · simp only [handleRequest, hop, he, hr] at hok
        cases hok
      · simp only [handleRequest, hop, he] at hstep
        exact hoff (hstep ▸ hover)

/-- A held attempt was begun by the step, or was held before and not disturbed. -/
theorem held_origin {attemptId : AttemptId} (hi : AuthInv d) (i : Input)
    (h : ResetHeld kind attemptId (d.step env i)) :
    BeginsReset env kind attemptId d i (d.step env i) ∨
      (ResetHeld kind attemptId d ∧ ¬ Disturbs env kind d i) := by
  by_cases hb : BeginsReset env kind attemptId d i (d.step env i)
  · exact .inl hb
  refine .inr ⟨?_, undisturbed h hb⟩
  have hbegins (h' : ∃ response, Requests env (fun h frame m d' =>
      ResetBegun env h frame m kind attemptId response d') d i (d.step env i)) : False := by
    obtain ⟨response, h'⟩ := h'
    exact hb (h'.mono fun _ _ _ h' => ⟨response, h'⟩)
  have hattempt : (d.step env i).resetAttempt kind = d.resetAttempt kind := by
    rcases reset_origin env d i kind h.active with he | h'
    · exact he
    · rw [h.id] at h'
      exact (hbegins h').elim
  have hgate : GateKept d i (d.step env i) := by
    rcases gate_origin env d i h.served with hk | ⟨_, _, _, _, _, _, _, _, ha⟩ |
      ⟨kind', id, response, line, m, frame, hline, hacc, hr⟩
    · exact hk
    · have hoff := ha.noReset.inactive kind
      rw [h.active] at hoff
      cases hoff
    · by_cases hkind : kind' = kind
      · subst hkind
        have hid := h.id
        rw [hr.attempt] at hid
        subst hid
        exact (hbegins ⟨response, line, m, frame, hline, hacc, hr⟩).elim
      · have hother : kind = kind'.other := by
          cases kind <;> cases kind' <;> first | rfl | exact absurd rfl hkind
        have hoff := hr.other
        rw [← hother, h.active] at hoff
        cases hoff
  exact
    { active := hattempt ▸ h.active, id := hattempt ▸ h.id, served := hgate.served
      gateId := hgate.attemptId ▸ h.gateId, gateOperation := hgate.operation ▸ h.gateOperation
      unlocked := unlocked_before hi h }

end

/-! ## The history of a destroying step -/

/-- The button confirms the request of a reset attempt. -/
def ConfirmsReset (attemptId : AttemptId) (d : Device σ) (i : Input) (d' : Device σ) : Prop :=
  (∃ nowMs, i = .buttonPressed nowMs) ∧ d.presence.gate.state = .awaiting ∧
    d.presence.gate.attemptId = attemptId ∧ d.presence.gate.operation = .factoryReset ∧
    d'.presence.gate.state = .confirmed

/-- **The history of a reset**: step `n` of the run carries out the attempt that step `b` began,
the latest of its kind, and that the user confirmed in step `p`. Between `b` and `n` nothing
disturbed the attempt, and between `p` and `n` nothing was destroyed. -/
structure AuthorizedReset (env : Env (σ × List Reply)) (d₀ : Device (σ × List Reply))
    (inp : Nat → Input) (kind : ResetKind) (attemptId : AttemptId) (b p n : Nat) : Prop where
  order : b < p ∧ p < n
  begun : StepAt (step env) d₀ inp (BeginsReset env kind attemptId) b
  confirmed : StepAt (step env) d₀ inp (ConfirmsReset attemptId) p
  done : StepAt (step env) d₀ inp (Requests env fun h frame m d' =>
    ResetDone env h frame m kind d' ∧ (h.resetAttempt kind).attemptId = attemptId) n
  held : ∀ k, b < k → k ≤ n → ResetHeld kind attemptId (stateAt (step env) d₀ inp k)
  undisturbed : ∀ k, b < k → k < n →
    ¬ Disturbs env kind (stateAt (step env) d₀ inp k) (inp k)
  fresh : ∀ k, p < k → k ≤ n → (stateAt (step env) d₀ inp k).presence.gate.state = .confirmed
  only : ∀ k, p < k → k < n →
    ¬ Destroys (stateAt (step env) d₀ inp k) (stateAt (step env) d₀ inp (k + 1))

/-- **The history of an installation**: step `n` of the run installs a Vault on a Device without
one, under the key of an authorized attempt; since its confirmation nothing was destroyed. -/
structure AuthorizedInstall (env : Env (σ × List Reply)) (d₀ : Device (σ × List Reply))
    (inp : Nat → Input) (r : AttemptRecord) (vmk : Vault.Vmk) (b a p c n : Nat) : Prop where
  key : AuthorizedKey env d₀ inp r vmk b a p c
  order : c < n
  operation : r.context.operation = .initialProvisioning ∨ r.context.operation = .recovery
  installed : StepAt (step env) d₀ inp (Requests env fun h frame m d' =>
    VaultInstalled env h frame m d' ∧ h.runtime.hasVault = false ∧ h.sink.vmk = vmk) n
  only : ∀ k, p < k → k < n →
    ¬ Destroys (stateAt (step env) d₀ inp k) (stateAt (step env) d₀ inp (k + 1))

section
variable (env) (storage : σ × List Reply) (nvs : Nvs) (candidate : DeviceIdCandidate)
  (inp : Nat → Input)

/-- While a confirmed reset attempt is held, only its own request destroys. -/
theorem reset_only {kind : ResetKind} {attemptId : AttemptId} {k : Nat}
    (hk : ResetHeld kind attemptId
      (stateAt (step env.logged) (boot env.logged storage nvs candidate) inp k))
    (hnext : (stateAt (step env.logged) (boot env.logged storage nvs candidate) inp
      (k + 1)).presence.gate.state = .confirmed) :
    ¬ Destroys (stateAt (step env.logged) (boot env.logged storage nvs candidate) inp k)
      (stateAt (step env.logged) (boot env.logged storage nvs candidate) inp (k + 1)) := by
  intro hd
  have hi := authInv_stateAt env.logged storage nvs candidate inp k
  obtain ⟨line, m, frame, _, _, hreq⟩ := destroyed_origin env _ (inp k) hd
  have hq : Quiet env.logged _ ((stateAt (step env.logged) (boot env.logged storage nvs candidate)
    inp k).housekeeping m.nowMs) := quiet_housekeeping _ _ m.nowMs
  cases hreq with
  | reset kind' hdone =>
    exact absurd (hnext.symm.trans hdone.idle) (by decide)
  | installed hv =>
    have hno := (hi.alone kind hk.active).1.2.2
    rw [(hq.pending hv.pending).1] at hno
    cases hno

/-- While an attempt is authorized or its key is pending, only an installation destroys. -/
theorem install_only {k : Nat}
    (hk : (stateAt (step env.logged) (boot env.logged storage nvs candidate) inp
        k).coordinator.attempt.active = true ∨
      ((stateAt (step env.logged) (boot env.logged storage nvs candidate) inp
          k).sink.pending = true ∧
        (stateAt (step env.logged) (boot env.logged storage nvs candidate) inp
          (k + 1)).sink.pending = true)) :
    ¬ Destroys (stateAt (step env.logged) (boot env.logged storage nvs candidate) inp k)
      (stateAt (step env.logged) (boot env.logged storage nvs candidate) inp (k + 1)) := by
  intro hd
  have hi := authInv_stateAt env.logged storage nvs candidate inp k
  obtain ⟨line, m, frame, _, _, hreq⟩ := destroyed_origin env _ (inp k) hd
  have hq : Quiet env.logged _ ((stateAt (step env.logged) (boot env.logged storage nvs candidate)
    inp k).housekeeping m.nowMs) := quiet_housekeeping _ _ m.nowMs
  cases hreq with
  | reset kind hdone =>
    have hact := hdone.active.1
    rw [resetAttempt_of_withdraws hq.toWithdraws hact] at hact
    have hno := (hi.alone kind hact).1
    rcases hk with hk | ⟨hk, _⟩
    · rw [hno.1] at hk
      cases hk
    · rw [hno.2.2] at hk
      cases hk
  | installed hv =>
    rcases hk with hk | ⟨_, hk⟩
    · have hno := hi.undelivered hk
      rw [(hq.pending hv.pending).1] at hno
      cases hno
    · exact absurd (hk.symm.trans hv.closed) (by decide)

theorem reset_history {kind : ResetKind} {n : Nat}
    (h : StepAt (step env.logged) (boot env.logged storage nvs candidate) inp
      (Requests env.logged fun h frame m d' => ResetDone env.logged h frame m kind d') n) :
    ∃ attemptId b p, AuthorizedReset env.logged (boot env.logged storage nvs candidate) inp kind
      attemptId b p n := by
  obtain ⟨line, m, frame, hline, hacc, hdone⟩ := h
  have hinv := authInv_stateAt env.logged storage nvs candidate inp
  have hq : Quiet env.logged _ ((stateAt (step env.logged) (boot env.logged storage nvs candidate)
    inp n).housekeeping m.nowMs) := quiet_housekeeping _ _ m.nowMs
  have hgate := hq.gate (by rw [hdone.confirmed.1]; decide)
  have hsame := resetAttempt_of_withdraws hq.toWithdraws hdone.active.1
  have hactive := hdone.active.1
  rw [hsame] at hactive
  have hconf := hdone.confirmed
  rw [hgate] at hconf
  -- the attempt is held when its request arrives
  have hheld : ResetHeld kind (((stateAt (step env.logged) (boot env.logged storage nvs candidate)
      inp n).housekeeping m.nowMs).resetAttempt kind).attemptId
      (stateAt (step env.logged) (boot env.logged storage nvs candidate) inp n) := by
    refine ⟨hactive, by rw [hsame], by rw [hconf.1]; decide, hconf.2.1, ?_, fun hk => ?_⟩
    · rcases (hinv n).owner (by rw [hconf.1]; decide) with ⟨hact, _⟩ | ⟨_, _, _, hop⟩
      · have hno := ((hinv n).alone kind hactive).1.1
        rw [hact] at hno
        cases hno
      · exact hop
    · subst hk
      have hunlocked : ((stateAt (step env.logged) (boot env.logged storage nvs candidate) inp
          n).housekeeping m.nowMs).runtime.state = .unlocked := by
        have helig : _ = true := hdone.eligible
        simp only [healthyResetAllowed, Bool.and_eq_true, beq_iff_eq] at helig
        exact helig.2
      exact (hq.calls.unopened fun _ hc => Runtime.opens_of_tame hc).unlocked hunlocked
  obtain ⟨b, hb⟩ := since (A := ResetHeld kind (((stateAt (step env.logged) (boot env.logged
      storage nvs candidate) inp n).housekeeping m.nowMs).resetAttempt kind).attemptId)
    (C := fun _ _ => True) (B := BeginsReset env.logged kind _)
    (Q := fun s i _ => ¬ Disturbs env.logged kind s i) (fun h0 => by
      have hact := h0.active
      cases kind <;> cases hact) hinv
    (fun s i hi _ hs => held_origin hi i hs) (fun _ _ => trivial) hheld
  obtain ⟨p, hp⟩ := since (A := fun d : Device (σ × List Reply) =>
      d.presence.gate.state = .confirmed ∧ d.presence.gate.attemptId =
        (((stateAt (step env.logged) (boot env.logged storage nvs candidate) inp
          n).housekeeping m.nowMs).resetAttempt kind).attemptId ∧
        d.presence.gate.operation = .factoryReset) (C := fun _ _ => True)
    (B := ConfirmsReset _) (Q := fun _ _ _ => True) (fun h0 => by cases h0.1) hinv
    (fun s i _ _ hs => by
      obtain ⟨hst, hid, hop⟩ := hs
      have hkept := confirmed_origin env.logged s i hst
      rw [hkept.attemptId] at hid
      rw [hkept.operation] at hop
      rcases hkept.state with he | ⟨ha, hc, hbutton⟩
      · exact .inr ⟨⟨he ▸ hst, hid, hop⟩, trivial⟩
      · exact .inl ⟨hbutton, ha, hid, hop, hc⟩)
    (fun _ _ => trivial) ⟨hconf.1, hconf.2.1, hheld.gateOperation⟩
  have hbp : b < p := by
    obtain ⟨_, _, _, _, _, _, hbegun⟩ := hb.begun
    obtain ⟨_, hgate'⟩ := hbegun.gate
    by_contra hle
    have hstate := (hp.held (b + 1) (by omega) (by have := hb.before; omega)).1
    exact absurd (hstate.symm.trans (congrArg (·.state) hgate')) (by simp [Session.UserPresenceGate.beginRequest])
  refine ⟨_, b, p, ⟨⟨hbp, hp.before⟩, hb.begun, hp.begun, ⟨line, m, frame, hline, hacc, hdone,
    rfl⟩, hb.held, hb.kept, fun k hk hk' => (hp.held k hk hk').1, fun k hk hk' => ?_⟩⟩
  exact reset_only env storage nvs candidate inp (hb.held k (by omega) (by omega))
    (hp.held (k + 1) (by omega) (by omega)).1

theorem install_history {n : Nat}
    (h : StepAt (step env.logged) (boot env.logged storage nvs candidate) inp
      (Requests env.logged fun h frame m d' => VaultInstalled env.logged h frame m d') n) :
    ∃ r vmk b a p c, AuthorizedInstall env.logged (boot env.logged storage nvs candidate) inp r
      vmk b a p c n := by
  obtain ⟨line, m, frame, hline, hacc, hv⟩ := h
  have hinv := authInv_stateAt env.logged storage nvs candidate inp
  have hq : Quiet env.logged _ ((stateAt (step env.logged) (boot env.logged storage nvs candidate)
    inp n).housekeeping m.nowMs) := quiet_housekeeping _ _ m.nowMs
  obtain ⟨hp, hctx, hvmk⟩ := hq.pending hv.pending
  obtain ⟨r, b, a, p, c, hkey, hcn, hrctx, hheld⟩ :=
    pending_history storage nvs candidate inp ⟨hp, hctx.symm, hvmk.symm⟩
  refine ⟨r, _, b, a, p, c, hkey, hcn, ?_, ⟨line, m, frame, hline, hacc, hv, ?_, rfl⟩,
    fun k hk hk' => ?_⟩
  · rw [hrctx]
    exact hv.context
  · exact ((hinv n).quiet hq).noVault hv.pending hv.context
  · refine install_only env storage nvs candidate inp ?_
    rcases Nat.lt_or_ge c k with hck | hck
    · exact .inr ⟨(hheld k hck (by omega)).1, (hheld (k + 1) (by omega) (by omega)).1⟩
    · left
      have hauth := hkey.same k (by have := hkey.order; omega) hck
      rw [show _ = _ from hauth]
      rfl

/-- **Every destruction is authorized.** In every run from power-on: at no time are two of the
session attempt, the healthy reset and the recovery reset active; and a step that asks the
persistence to format or erase, or the registration store to clear, carries out a reset or installs
a Vault on a Device without one, with the history of its authorization. -/
theorem destruction_authorized (n : Nat) :
    (∀ kind, ((stateAt (step env.logged) (boot env.logged storage nvs candidate) inp
        n).resetAttempt kind).active = true →
      (stateAt (step env.logged) (boot env.logged storage nvs candidate) inp
        n).coordinator.attempt.active = false ∧
      ((stateAt (step env.logged) (boot env.logged storage nvs candidate) inp
        n).resetAttempt kind.other).active = false) ∧
    (Destroys (stateAt (step env.logged) (boot env.logged storage nvs candidate) inp n)
      (stateAt (step env.logged) (boot env.logged storage nvs candidate) inp (n + 1)) →
      (∃ kind attemptId b p, AuthorizedReset env.logged
        (boot env.logged storage nvs candidate) inp kind attemptId b p n) ∨
      ∃ r vmk b a p c, AuthorizedInstall env.logged (boot env.logged storage nvs candidate) inp r
        vmk b a p c n) := by
  have hi := authInv_stateAt env.logged storage nvs candidate inp n
  refine ⟨fun kind hact => ⟨(hi.alone kind hact).1.1, (hi.alone kind hact).2⟩, fun hd => ?_⟩
  obtain ⟨line, m, frame, hline, hacc, hreq⟩ := destroyed_origin env _ (inp n) hd
  cases hreq with
  | reset kind hdone =>
    exact .inl ⟨kind, reset_history env storage nvs candidate inp
      ⟨line, m, frame, hline, hacc, hdone⟩⟩
  | installed hv =>
    exact .inr (install_history env storage nvs candidate inp ⟨line, m, frame, hline, hacc, hv⟩)

end

/-! ## A recovery reset -/

open VaultRuntime (PersistedSnapshot)

/-- A parser of two lines: begin a recovery reset, complete it. -/
def resetParse : List UInt8 → Option Json
  | [0] => some <| sampleRequest "factory_reset.recovery_begin" []
  | [1] => some <| sampleRequest "factory_reset.recovery_complete"
    [("attempt_id", binary (ones 16))]
  | _ => none

def resetEnv : Env PersistedSnapshot := { sampleEnv with parse := resetParse }

/-- Begin, release the button twice, press it, complete. -/
def resetInputs : Nat → Input
  | 0 => .line [0] { nowMs := 0 }
  | 1 => .observeButton false
  | 2 => .observeButton false
  | 3 => .observeButton true
  | 4 => .buttonPressed 1
  | _ => .line [1] { nowMs := 2 }

/-- Power-on with the registration of a Vault that is gone. -/
abbrev resetBoot : Device (PersistedSnapshot × List Reply) :=
  boot resetEnv.logged ({ schemaReady := true }, []) sampleNvs ⟨ones 16, ones_nonzero⟩

/-- The sixth step clears the registration, with the history of its authorization. -/
theorem destruction_authorized_recovery :
    (∃ kind attemptId b p,
      AuthorizedReset resetEnv.logged resetBoot resetInputs kind attemptId b p 5) ∨
    ∃ r vmk b a p c, AuthorizedInstall resetEnv.logged resetBoot resetInputs r vmk b a p c 5 :=
  (destruction_authorized resetEnv ({ schemaReady := true }, []) sampleNvs ⟨ones 16, rfl⟩
    resetInputs 5).2 (.inr (by decide +kernel))

end M5Auth.Provisioning.Device
