import M5Auth.Provisioning.Proof.ResetAuthorization
import M5Auth.VaultRuntime.Proof.Residency
import M5Auth.VaultRuntime.Proof.SessionOrigin
import M5Auth.VaultRuntime.Proof.VersionedStore

/-!
# The automatic lock cannot be postponed

`SessionSince env d₀ inp t m n`: the unlock session that is open after `n` steps of a run was
started by an unlock at the reading `t` in step `m`. `automatic_lock`: over a clock that never goes
back, a Device that is unlocked after a housekeeping, a `vault.update` or a `vault.rekey` handled at
`now` is within the policy of its Vault, counted from `t`; a disabled policy locks nothing.
-/

namespace M5Auth.Provisioning.Device

open Run
open Vault (Vmk VaultEnvelope)
open VaultRuntime (Call Faithful Runtime millisecondsPerDay)
open VaultRuntime.Runtime (Closed Coherent Current Guarded Inv Reaches Starts Stays
  validateEnvelopeWithKey)

variable {σ : Type} (env : Env σ) (d : Device σ)

/-! ## The clock -/

/-- A clock that never goes back: `clock n` is the time of step `n`. -/
structure Clocked (clock : Nat → UInt64) (inp : Nat → Input) : Prop where
  forward : ∀ n, clock n ≤ clock (n + 1)
  reads : ∀ n t, (inp n).Reads t → clock n ≤ t ∧ t ≤ clock (n + 1)

theorem Clocked.mono {clock : Nat → UInt64} {inp : Nat → Input} (h : Clocked clock inp) {m n : Nat}
    (hmn : m ≤ n) : clock m ≤ clock n := by
  induction hmn with
  | refl => exact UInt64.le_refl _
  | step _ ih => exact UInt64.le_trans ih (h.forward _)

/-! ## After a request the lock is not due -/

section
variable (nowMs : UInt64)

theorem lockSecurityBoundary_runtime : d.lockSecurityBoundary.2.runtime = d.runtime.lock.2 := by
  show d.disconnect.runtime.lock.2 = _
  rw [disconnect_runtime]

theorem expirePending_runtime : (d.expirePending nowMs).runtime = d.runtime := by
  unfold expirePending
  split <;> rfl

theorem expireResets_runtime : (d.expireResets nowMs).runtime = d.runtime := by
  unfold expireResets
  dsimp only
  split <;> split <;> simp

theorem expireSession_runtime : (d.expireSession nowMs).runtime = d.runtime := by
  unfold expireSession
  rcases expire_cases d.coordinator nowMs with he | he
  · rw [he]
    rfl
  · rw [he]

/-- Housekeeping locks the runtime if the automatic lock is due, and else leaves it alone. -/
theorem housekeeping_runtime : (d.housekeeping nowMs).runtime =
    if d.runtime.automaticLockDue nowMs then d.runtime.lock.2 else d.runtime := by
  have hexp : (((d.expireSession nowMs).expirePending nowMs).expireResets nowMs).runtime =
      d.runtime := by
    rw [expireResets_runtime, expirePending_runtime, expireSession_runtime]
  unfold housekeeping
  dsimp only
  rw [hexp]
  split
  · rw [lockSecurityBoundary_runtime, hexp]
  · exact hexp

theorem not_due_housekeeping :
    (d.housekeeping nowMs).runtime.automaticLockDue nowMs = false := by
  rw [housekeeping_runtime]
  cases hdue : d.runtime.automaticLockDue nowMs
  · exact hdue
  · exact d.runtime.not_due_lock nowMs (VaultRuntime.Runtime.initialized_of_due hdue)

/-- What `vault.update` does to the runtime: nothing that matters to the lock, or the commit of the
requested envelope, and a lock if that is due. -/
theorem vaultUpdate_runtime (id : Nat) (params : Json) :
    ((d.vaultUpdate env id params nowMs).1.ok = false ∧
      ((∃ world, (d.vaultUpdate env id params nowMs).2.runtime = d.runtime.withPersistence world) ∨
        Closed (d.vaultUpdate env id params nowMs).2.runtime)) ∨
    ∃ envelope expected world lastUsed policy, parseReplacement params = some (envelope, expected) ∧
      d.runtime.state = .unlocked ∧
      validateEnvelopeWithKey env.prims.gcm envelope d.runtime.vmk = .ok policy ∧
      (d.vaultUpdate env id params nowMs).2.runtime =
        if (d.runtime.updated world envelope lastUsed policy).automaticLockDue nowMs then
          (d.runtime.updated world envelope lastUsed policy).lock.2
        else d.runtime.updated world envelope lastUsed policy := by
  unfold vaultUpdate
  cases hparse : parseReplacement params with
  | none => exact .inl ⟨rfl, .inl ⟨d.runtime.persistence, rfl⟩⟩
  | some request =>
    obtain ⟨envelope, expected⟩ := request
    dsimp only
    rcases d.runtime.update_outcome env.persistence env.prims.gcm expected envelope nowMs with
      ⟨world, lastUsed, policy, hst, hval, he⟩ | ⟨status, rt, hne, hrt, he⟩
    · right
      refine ⟨envelope, expected, world, lastUsed, policy, rfl, hst, hval, ?_⟩
      rw [he]
      dsimp only
      split
      · rename_i hdue
        rw [lockSecurityBoundary_runtime, if_pos hdue.2]
        rfl
      · rename_i hdue
        rw [if_neg fun h => hdue ⟨rfl, h⟩]
        rfl
    · left
      rw [he]
      dsimp only
      rw [if_neg (by simp), statusResponse, if_neg hne]
      exact ⟨rfl, hrt⟩

/-- A re-keyed Vault is installed under the pending key, or the session is left suspended or
ended. -/
theorem installRekeyedVault_runtime (expected : UInt64) (envelope : VaultEnvelope) :
    (∃ world lastUsed policy d', d.runtime.state = .locked ∧
      d.runtime.unlockSessionActive = true ∧
      validateEnvelopeWithKey env.prims.gcm envelope d.sink.vmk = .ok policy ∧
      d.installRekeyedVault env expected envelope nowMs = (true, d') ∧
      d'.runtime = d.runtime.rekeyed world envelope lastUsed d.sink.vmk policy) ∨
    ∃ d', d.installRekeyedVault env expected envelope nowMs = (false, d') ∧
      ((∃ world, d'.runtime = d.runtime.withPersistence world) ∨ Closed d'.runtime) := by
  unfold installRekeyedVault
  dsimp only
  split
  · exact .inr ⟨_, rfl, .inl ⟨d.runtime.persistence, expirePending_runtime d nowMs⟩⟩
  rename_i hg
  simp only [Bool.or_eq_true, not_or, Bool.not_eq_true', Bool.not_eq_false] at hg
  rw [(pending_of_valid d hg.1.1.1).1]
  rcases d.runtime.rekey_outcome env.persistence env.prims.gcm expected envelope d.sink.vmk with
    ⟨world, lastUsed, policy, hst, hact, hval, he⟩ | ⟨status, rt, hne, hrt, he⟩
  · rw [he]
    exact .inl ⟨world, lastUsed, policy, _, hst, hact, hval, rfl, rfl⟩
  · rw [he]
    dsimp only
    rw [beq_eq_false_iff_ne.2 hne]
    exact .inr ⟨_, rfl, hrt⟩

/-- What `vault.rekey` does to the runtime: nothing that matters to the lock, or the commit of the
requested envelope under the pending key, and a lock if that is due. -/
theorem vaultRekey_runtime (id : Nat) (params : Json) :
    ((d.vaultRekey env id params nowMs).1.ok = false ∧
      ((∃ world, (d.vaultRekey env id params nowMs).2.runtime = d.runtime.withPersistence world) ∨
        Closed (d.vaultRekey env id params nowMs).2.runtime)) ∨
    ∃ envelope expected world lastUsed policy, parseReplacement params = some (envelope, expected) ∧
      d.runtime.state = .locked ∧ d.runtime.unlockSessionActive = true ∧
      validateEnvelopeWithKey env.prims.gcm envelope d.sink.vmk = .ok policy ∧
      (d.vaultRekey env id params nowMs).2.runtime =
        if (d.runtime.rekeyed world envelope lastUsed d.sink.vmk policy).automaticLockDue nowMs then
          (d.runtime.rekeyed world envelope lastUsed d.sink.vmk policy).lock.2
        else d.runtime.rekeyed world envelope lastUsed d.sink.vmk policy := by
  unfold vaultRekey
  cases hparse : parseReplacement params with
  | none => exact .inl ⟨rfl, .inl ⟨d.runtime.persistence, rfl⟩⟩
  | some request =>
    obtain ⟨envelope, expected⟩ := request
    dsimp only
    rcases installRekeyedVault_runtime env d nowMs expected envelope with
      ⟨world, lastUsed, policy, d', hst, hact, hval, he, hrt⟩ | ⟨d', he, hrt⟩
    · right
      refine ⟨envelope, expected, world, lastUsed, policy, rfl, hst, hact, hval, ?_⟩
      rw [he, ← hrt]
      dsimp only
      split
      · exact lockSecurityBoundary_runtime d'
      · rfl
    · left
      rw [he]
      exact ⟨rfl, hrt⟩

end

/-! ## While the Device is unlocked nothing starts a session -/

section
variable {env} {d} {i : Input}

/-- A housekeeping that finds the automatic lock due leaves nothing authorized. -/
theorem idle_housekeeping {nowMs : UInt64} (h : d.runtime.automaticLockDue nowMs = true) :
    Idle (d.housekeeping nowMs) := by
  have hexp : (((d.expireSession nowMs).expirePending nowMs).expireResets nowMs).runtime =
      d.runtime := by
    rw [expireResets_runtime, expirePending_runtime, expireSession_runtime]
  unfold housekeeping
  dsimp only
  rw [hexp, if_pos h]
  exact (idle_disconnect _).of_withdraws ((Withdraws.refl _).of_store _ _ _ _)

theorem opening_not_unlocked {vmk : Vmk} {frame : Frame} {m : Moment} {d' : Device σ}
    (hinv : Inv d.runtime) (hauth : AuthInv d) (hst : d.runtime.state = .unlocked)
    (h : OpeningRequest env vmk d frame m d') : d'.runtime.unlocks = d.runtime.unlocks := by
  have hlock (rt : Runtime σ) : rt.lock.2.unlocks = rt.unlocks := (rt.unopened_lock).unlocks
  cases h with
  | completed h _ =>
    cases h.delivered with
    | dropped _ hrt => rw [hrt]
    | held _ _ _ _ hrt => rw [hrt]
    | tried _ _ hrt =>
      have hsame : d.runtime.step env.persistence env.prims.gcm (.unlock vmk m.timerMs) =
          d.runtime := by
        rcases d.runtime.unlock_cases env.prims.gcm vmk m.timerMs with
          ⟨_, _, he⟩ | ⟨_, hlocked, _⟩
        · exact congrArg Prod.snd he
        · rw [hst] at hlocked
          cases hlocked
      rcases hrt with hrt | hrt <;> rw [hrt, hsame]
      exact hlock d.runtime
  | installed h _ =>
    have hno := hauth.noVault h.pending h.context
    rw [(hinv.vault (.inr hst)).1] at hno
    cases hno
  | rekeyed h _ =>
    obtain ⟨expected, envelope, rt, rfl, hrt⟩ := h.runtime
    have hsame : d.runtime.step env.persistence env.prims.gcm
        (.rekeyEncryptedVault expected envelope d.sink.vmk) = d.runtime := by
      have hadm : ¬ VaultRuntime.Runtime.AdmitsRekey env.prims.gcm d.runtime expected envelope
          d.sink.vmk := fun hadm => by
        have hlocked := hadm.2.1
        rw [hst] at hlocked
        cases hlocked
      obtain ⟨_, _, he⟩ := VaultRuntime.Runtime.rekey_refused env.persistence hadm
      exact congrArg Prod.snd he
    rcases hrt with hrt | hrt <;> rw [hrt, hsame]
    exact hlock d.runtime

theorem not_starts_unlocked {t : UInt64} (hinv : Inv d.runtime) (hauth : AuthInv d)
    (hst : d.runtime.state = .unlocked) :
    ¬ Starts env.persistence env.prims.gcm (Timed i) t d.runtime (d.step env i).runtime := by
  intro hstart
  have hlt := hstart.unlocks_lt
  rcases opened_origin env d i with hun | ⟨vmk, _, line, m, frame, _, _, hreq⟩
  · rw [hun.unlocks] at hlt
    omega
  have hq := quiet_housekeeping env d m.nowMs
  cases hdue : d.runtime.automaticLockDue m.nowMs
  · have hrt : (d.housekeeping m.nowMs).runtime = d.runtime := by
      rw [housekeeping_runtime, hdue]
      rfl
    have hsame := opening_not_unlocked (hrt ▸ hinv) (hauth.quiet hq) (hrt ▸ hst) hreq
    rw [hsame, hrt] at hlt
    omega
  · have hidle := idle_housekeeping hdue
    cases hreq with
    | completed h _ => exact absurd h.active.1 (by simp [hidle.attempt])
    | installed h _ => exact absurd h.pending (by simp [hidle.pending])
    | rekeyed h _ => exact absurd h.pending (by simp [hidle.pending])

end

/-! ## Along a run -/

/-- The unlock session that is open after `n` steps was started by an unlock at `t` in step `m`,
and every step since stayed inside it. -/
abbrev SessionSince (d₀ : Device σ) (inp : Nat → Input) (t : UInt64) (m n : Nat) : Prop :=
  Since (step env) d₀ inp (fun d => d.runtime.unlockSessionActive = true)
    (fun d i d' => Starts env.persistence env.prims.gcm (Timed i) t d.runtime d'.runtime)
    (fun d i d' => Stays env.persistence env.prims.gcm (Timed i) d.runtime d'.runtime) m n

/-- The automatic-lock policy of the Vault in use. -/
def Policy (policy : Option UInt8) : Prop :=
  validateEnvelopeWithKey env.prims.gcm d.runtime.envelope d.runtime.vmk = .ok policy

/-- A request that replaces the stored Vault. -/
def Replaces (env : Env σ) (line : List UInt8) (frame : Frame) : Prop :=
  Accepted env line frame ∧ (frame.operation = .vaultUpdate ∨ frame.operation = .vaultRekey)

/-- A housekeeping, a `vault.update` or a `vault.rekey`, handled at `nowMs`. -/
def Handles (i : Input) (nowMs : UInt64) : Prop :=
  i = .housekeeping nowMs ∨
    ∃ line m frame, i = .line line m ∧ m.nowMs = nowMs ∧ Replaces env line frame

/-- The key that the new Vault of a request must open with. -/
def replacementKey (operation : RequestOperation) : Vmk :=
  if operation = .vaultRekey then d.sink.vmk else d.runtime.vmk

section
variable {env} {d}

theorem handles_reads {i : Input} {nowMs : UInt64} (h : Handles env i nowMs) : i.Reads nowMs := by
  rcases h with rfl | ⟨line, m, frame, rfl, rfl, _⟩
  · rfl
  · exact .inl rfl

theorem handled_cases {line : List UInt8} {m : Moment} {frame : Frame}
    (h : Replaces env line frame) :
    (frame.operation = .vaultUpdate ∧ d.handleLine env line m =
      (d.housekeeping m.nowMs).vaultUpdate env frame.id frame.params m.nowMs) ∨
    (frame.operation = .vaultRekey ∧ d.handleLine env line m =
      (d.housekeeping m.nowMs).vaultRekey env frame.id frame.params m.nowMs) := by
  obtain ⟨hacc, hop⟩ := h
  have hdispatch : d.handleLine env line m =
      (d.housekeeping m.nowMs).handleRequest env frame line m := dispatch_accepted _ m hacc
  rcases hop with hop | hop
  · exact .inl ⟨hop, by rw [hdispatch, handleRequest, hop]⟩
  · exact .inr ⟨hop, by rw [hdispatch, handleRequest, hop]⟩

/-- **After the step the lock is not due.** -/
theorem handles_not_due {i : Input} {nowMs : UInt64} (h : Handles env i nowMs) :
    (d.step env i).runtime.automaticLockDue nowMs = false := by
  have hhouse := not_due_housekeeping d nowMs
  have hkept {rt : Runtime σ} (hrt : (∃ world, rt =
      (d.housekeeping nowMs).runtime.withPersistence world) ∨ Closed rt) :
      rt.automaticLockDue nowMs = false := by
    rcases hrt with ⟨world, rfl⟩ | hclosed
    · exact hhouse
    · exact VaultRuntime.Runtime.not_due_of_state hclosed.state
  have hlocked (rt : Runtime σ) : (if rt.automaticLockDue nowMs then rt.lock.2
      else rt).automaticLockDue nowMs = false := by
    cases hdue : rt.automaticLockDue nowMs
    · exact hdue
    · exact rt.not_due_lock nowMs (VaultRuntime.Runtime.initialized_of_due hdue)
  rcases h with rfl | ⟨line, m, frame, rfl, rfl, hreq⟩
  · exact hhouse
  show (d.handleLine env line m).2.runtime.automaticLockDue m.nowMs = false
  rcases handled_cases (d := d) (m := m) hreq with ⟨_, he⟩ | ⟨_, he⟩ <;> rw [he]
  · rcases vaultUpdate_runtime env (d.housekeeping m.nowMs) m.nowMs frame.id
      frame.params with ⟨_, hrt⟩ | ⟨_, _, _, _, _, _, _, _, hrt⟩
    · exact hkept hrt
    · rw [hrt]
      exact hlocked _
  · rcases vaultRekey_runtime env (d.housekeeping m.nowMs) m.nowMs frame.id
      frame.params with ⟨_, hrt⟩ | ⟨_, _, _, _, _, _, _, _, _, hrt⟩
    · exact hkept hrt
    · rw [hrt]
      exact hlocked _

/-- A Vault whose policy is disabled is replaced without a lock. -/
theorem replaced_disabled {line : List UInt8} {m : Moment} {frame : Frame} {envelope : VaultEnvelope}
    {expected : UInt64} (hreq : Replaces env line frame)
    (hparse : parseReplacement frame.params = some (envelope, expected))
    (hok : (d.handleLine env line m).1.ok = true)
    (hval : validateEnvelopeWithKey env.prims.gcm envelope
      ((d.housekeeping m.nowMs).replacementKey frame.operation) = .ok none) :
    (d.step env (.line line m)).runtime.state = .unlocked := by
  show (d.handleLine env line m).2.runtime.state = .unlocked
  rcases handled_cases (d := d) (m := m) hreq with ⟨hop, he⟩ | ⟨hop, he⟩ <;> rw [he] at hok ⊢
  · rcases vaultUpdate_runtime env (d.housekeeping m.nowMs) m.nowMs frame.id
      frame.params with ⟨hno, _⟩ | ⟨_, _, w, lastUsed, policy, hparse', _, hval', hrt⟩
    · rw [hno] at hok
      cases hok
    · rw [hparse] at hparse'
      cases hparse'
      rw [replacementKey, hop, if_neg (by decide), hval'] at hval
      cases hval
      rw [hrt, if_neg (by simp [VaultRuntime.Runtime.not_due_of_disabled,
        VaultRuntime.Runtime.updated])]
      rfl
  · rcases vaultRekey_runtime env (d.housekeeping m.nowMs) m.nowMs frame.id
      frame.params with ⟨hno, _⟩ | ⟨_, _, w, lastUsed, policy, hparse', _, _, hval', hrt⟩
    · rw [hno] at hok
      cases hok
    · rw [hparse] at hparse'
      cases hparse'
      rw [replacementKey, hop, if_pos rfl, hval'] at hval
      cases hval
      rw [hrt, if_neg (by simp [VaultRuntime.Runtime.not_due_of_disabled,
        VaultRuntime.Runtime.rekeyed, VaultRuntime.Runtime.updated])]
      rfl

end

section
variable (storage : σ) (nvs : Registration.Nvs) (candidate : Registration.DeviceIdCandidate)
  (inp : Nat → Input) (n : Nat)

/-- What power-on gives and every call of the runtime keeps holds along a run. -/
theorem runtime_stateAt {I : Runtime σ → Prop}
    (h0 : I ((Runtime.new storage).initializeRuntime env.persistence).2)
    (hstep : ∀ rt call, I rt → I (rt.step env.persistence env.prims.gcm call)) :
    I (stateAt (step env) (boot env storage nvs candidate) inp n).runtime :=
  stateAt_inv (P := fun d => I d.runtime) h0
    (fun d i hi => (step_timed env d i).keeps (fun rt call _ => hstep rt call) hi) n

theorem closed_boot : Closed (boot env storage nvs candidate).runtime :=
  VaultRuntime.Runtime.closed_initializeRuntime env.persistence (Runtime.new storage)

theorem inv_stateAt : Inv (stateAt (step env) (boot env storage nvs candidate) inp n).runtime :=
  runtime_stateAt env storage nvs candidate inp n .initializeRuntime fun _ call h => h.step call

theorem guarded_stateAt :
    Guarded (stateAt (step env) (boot env storage nvs candidate) inp n).runtime :=
  runtime_stateAt env storage nvs candidate inp n
    (closed_boot env storage nvs candidate).guarded
    fun rt call h => h.of_session (rt.session_step env.persistence env.prims.gcm call)

theorem current_stateAt :
    Current env.prims.gcm (stateAt (step env) (boot env storage nvs candidate) inp n).runtime :=
  runtime_stateAt env storage nvs candidate inp n
    (fun hst => absurd hst (closed_boot env storage nvs candidate).state)
    fun _ call h => h.step call

/-- Over a faithful persistence the Vault in use is the stored one. -/
theorem coherent_stateAt {stored : σ → Option VaultEnvelope}
    (hP : Faithful env.persistence stored) :
    Coherent stored (stateAt (step env) (boot env storage nvs candidate) inp n).runtime :=
  (runtime_stateAt env storage nvs candidate inp n
    (I := fun rt => Inv rt ∧ Coherent stored rt)
    ⟨.initializeRuntime, Coherent.initializeRuntime hP (Runtime.new storage)⟩
    fun _ call h => ⟨h.1.step call, h.2.step hP h.1 call⟩).2

/-- An open session has its start. -/
theorem session_started
    (hact : (stateAt (step env) (boot env storage nvs candidate) inp
      n).runtime.unlockSessionActive = true) :
    ∃ t m, SessionSince env (boot env storage nvs candidate) inp t m n := by
  obtain ⟨m, hm⟩ := since (A := fun d : Device σ => d.runtime.unlockSessionActive = true)
    (J := fun _ => True) (C := fun _ _ => True)
    (B := fun d i d' => ∃ t, Starts env.persistence env.prims.gcm (Timed i) t d.runtime d'.runtime)
    (Q := fun d i d' => Stays env.persistence env.prims.gcm (Timed i) d.runtime d'.runtime)
    (fun h => by
      have hoff := (closed_boot env storage nvs candidate).unlockSessionActive
      rw [hoff] at h
      cases h) (fun _ => trivial)
    (fun d i _ _ h => ((step_timed env d i).session h).symm) (fun _ _ => trivial) hact
  obtain ⟨t, ht⟩ := hm.begun
  exact ⟨t, m, hm.before, ht, hm.held, hm.kept⟩

variable {env storage nvs candidate inp n}

/-- The unlock time that the runtime remembers is the one of the session's start. -/
theorem SessionSince.since {d₀ : Device σ} {t : UInt64} {m : Nat}
    (h : SessionSince env d₀ inp t m n) :
    (stateAt (step env) d₀ inp n).runtime.unlockedSinceMs = t := by
  have hrel := h.rel
    (R := fun d d' : Device σ => d'.runtime.unlockedSinceMs = d.runtime.unlockedSinceMs)
    (fun _ => rfl) (fun _ _ _ h h' => h'.trans h) fun _ _ _ hQ => hQ.since
  exact hrel.trans (VaultRuntime.Runtime.Starts.since h.begun)

theorem SessionSince.reads {d₀ : Device σ} {t : UInt64} {m : Nat} {clock : Nat → UInt64}
    (hclock : Clocked clock inp) (h : SessionSince env d₀ inp t m n) :
    clock m ≤ t ∧ t ≤ clock n := by
  obtain ⟨_, _, _, htimed, ⟨vmk, rfl, _⟩, _⟩ := h.begun
  obtain ⟨hle, hge⟩ := hclock.reads m t (htimed vmk t rfl)
  exact ⟨hle, UInt64.le_trans hge (hclock.mono h.before)⟩

/-- A step that ends in the session without an unlock continues it. -/
theorem SessionSince.next {d₀ : Device σ} {t : UInt64} {m : Nat}
    (h : SessionSince env d₀ inp t m n)
    (hact : (stateAt (step env) d₀ inp (n + 1)).runtime.unlockSessionActive = true)
    (hstays : StepAt (step env) d₀ inp (fun d i d' =>
      Stays env.persistence env.prims.gcm (Timed i) d.runtime d'.runtime) n) :
    SessionSince env d₀ inp t m (n + 1) := by
  have hbefore := h.before
  refine ⟨by omega, h.begun, fun k hk hk' => ?_, fun k hk hk' => ?_⟩
  · rcases Nat.lt_or_ge n k with hnk | hnk
    · obtain rfl : k = n + 1 := by omega
      exact hact
    · exact h.held k hk hnk
  · rcases Nat.lt_or_ge k n with hkn | hkn
    · exact h.kept k hk hkn
    · obtain rfl : k = n := by omega
      exact hstays

end

section
variable {env} {d}

/-- Neither `vault.update` nor `vault.rekey` unlocks. -/
theorem replaces_without_unlock {line : List UInt8} {m : Moment} {frame : Frame}
    (hreq : Replaces env line frame) :
    Reaches env.persistence env.prims.gcm (fun call => ∀ vmk t, call ≠ .unlock vmk t) d.runtime
      (d.step env (.line line m)).runtime := by
  have htame {rt rt' : Runtime σ} (h : Reaches env.persistence env.prims.gcm (·.tame = true) rt rt') :
      Reaches env.persistence env.prims.gcm (fun call => ∀ vmk t, call ≠ .unlock vmk t) rt rt' :=
    h.mono fun call hc vmk t he => by
      rw [he] at hc
      cases hc
  have hhouse := htame (quiet_housekeeping env d m.nowMs).calls
  obtain ⟨⟨_, _, hread⟩, hop⟩ := hreq
  cases step_cases env d (.line line m) with
  | quiet h => exact htame h.calls
  | pressed h _ => exact h.runtime ▸ .refl _
  | request line' m' frame' response hi hacc h =>
    cases hi
    obtain rfl : frame = frame' := by
      have hread' := hacc.read
      rw [hread] at hread'
      cases hread'
      rfl
    have hother {operation : RequestOperation} {P : Prop} (he : frame.operation = operation)
        (hne : operation ≠ .vaultUpdate ∧ operation ≠ .vaultRekey) : P := by
      rcases hop with hop | hop <;> rw [hop] at he
      · exact absurd he.symm hne.1
      · exact absurd he.symm hne.2
    refine hhouse.trans ?_
    cases h with
    | session h =>
      cases h with
      | quiet h => exact htame h.calls
      | begun _ _ h => exact htame h.calls
      | authorized _ _ _ h => exact h.runtime ▸ .refl _
      | completed vmk h => exact hother h.operation (by decide)
    | resetBegun _ _ h => exact htame h.calls
    | resetDone kind h => exact hother h.operation (by cases kind <;> decide)
    | installed h => exact hother h.operation (by decide)
    | rekeyed h =>
      obtain ⟨expected, envelope, rt, rfl, hrt⟩ := h.runtime
      rcases hrt with hrt | hrt <;> rw [hrt]
      · exact .one _ nofun
      · exact (Reaches.one _ nofun).trans (.one _ nofun)

/-- What is handled at `nowMs` goes on with the session that it leaves open. -/
theorem handles_stays {i : Input} {nowMs : UInt64} (h : Handles env i nowMs)
    (hact : (d.step env i).runtime.unlockSessionActive = true) :
    d.runtime.unlockSessionActive = true ∧
      Stays env.persistence env.prims.gcm (Timed i) d.runtime (d.step env i).runtime := by
  have hreach : Reaches env.persistence env.prims.gcm (fun call => ∀ vmk t, call ≠ .unlock vmk t)
      d.runtime (d.step env i).runtime := by
    rcases h with rfl | ⟨line, m, frame, rfl, _, hreq⟩
    · refine (quiet_housekeeping env d nowMs).calls.mono fun call hc vmk t he => ?_
      rw [he] at hc
      cases hc
    · exact replaces_without_unlock hreq
  rcases hreach.session hact with ⟨hbefore, hstays⟩ | ⟨t, _, _, _, hno, ⟨vmk, he, _⟩, _⟩
  · exact ⟨hbefore, hstays.mono fun call hno vmk t he => absurd he (hno vmk t)⟩
  · exact absurd he (hno vmk t)

/-- Nothing starts another session while the Device is unlocked. -/
theorem unlocked_stays {i : Input} (hinv : Inv d.runtime) (hauth : AuthInv d)
    (hst : d.runtime.state = .unlocked)
    (hact : (d.step env i).runtime.unlockSessionActive = true) :
    Stays env.persistence env.prims.gcm (Timed i) d.runtime (d.step env i).runtime := by
  rcases (step_timed env d i).session hact with ⟨_, hstays⟩ | ⟨t, hstart⟩
  · exact hstays
  · exact absurd hstart (not_starts_unlocked hinv hauth hst)

end

/-! ## The automatic lock -/

/-- What holds of the automatic lock after `n` steps. -/
structure AutomaticLock (d₀ : Device σ) (inp : Nat → Input) (clock : Nat → UInt64) (n : Nat) :
    Prop where
  /-- An unlocked Device is in a session that one unlock started. -/
  started : (stateAt (step env) d₀ inp n).runtime.state = .unlocked →
    ∃ t m, SessionSince env d₀ inp t m n
  /-- The time from which the lock counts is the reading of that unlock. -/
  origin : ∀ t m, SessionSince env d₀ inp t m n →
    (stateAt (step env) d₀ inp n).runtime.unlockedSinceMs = t ∧ clock m ≤ t ∧ t ≤ clock n
  /-- A session goes on unless another unlock starts a new one. -/
  continued : ∀ t m, SessionSince env d₀ inp t m n →
    (stateAt (step env) d₀ inp (n + 1)).runtime.unlockSessionActive = true →
    SessionSince env d₀ inp t m (n + 1) ∨ ∃ t', SessionSince env d₀ inp t' n (n + 1)
  /-- No step does so while the Device is unlocked, and no housekeeping, update or re-key ever. -/
  kept : ∀ t m, SessionSince env d₀ inp t m n →
    (stateAt (step env) d₀ inp (n + 1)).runtime.unlockSessionActive = true →
    ((stateAt (step env) d₀ inp n).runtime.state = .unlocked ∨
      ∃ nowMs, Handles env (inp n) nowMs) →
    SessionSince env d₀ inp t m (n + 1)
  /-- A Device found unlocked by a housekeeping, an update or a re-key is within its policy. -/
  within : ∀ t m nowMs days, SessionSince env d₀ inp t m (n + 1) → Handles env (inp n) nowMs →
    (stateAt (step env) d₀ inp (n + 1)).runtime.state = .unlocked →
    (stateAt (step env) d₀ inp (n + 1)).Policy env (some days) →
    nowMs.toNat < t.toNat + days.toNat * millisecondsPerDay
  /-- Housekeeping leaves a Device whose policy is disabled unlocked. -/
  disabled : (stateAt (step env) d₀ inp n).runtime.state = .unlocked →
    (stateAt (step env) d₀ inp n).Policy env none → ∀ nowMs,
      ((stateAt (step env) d₀ inp n).housekeeping nowMs).runtime =
        (stateAt (step env) d₀ inp n).runtime
  /-- So does a request that commits a Vault with a disabled policy. -/
  replaced : ∀ line moment frame envelope expected, inp n = .line line moment →
    Replaces env line frame → parseReplacement frame.params = some (envelope, expected) →
    ((stateAt (step env) d₀ inp n).handleLine env line moment).1.ok = true →
    validateEnvelopeWithKey env.prims.gcm envelope
      (((stateAt (step env) d₀ inp n).housekeeping moment.nowMs).replacementKey
        frame.operation) = .ok none →
    (stateAt (step env) d₀ inp (n + 1)).runtime.state = .unlocked
  /-- The Vault in use is the stored one. -/
  stored : ∀ stored, Faithful env.persistence stored →
    (stateAt (step env) d₀ inp n).runtime.state = .unlocked →
    stored (stateAt (step env) d₀ inp n).runtime.persistence =
      some (stateAt (step env) d₀ inp n).runtime.envelope

/-- **The automatic lock cannot be postponed.** -/
theorem automatic_lock (storage : σ) (nvs : Registration.Nvs)
    (candidate : Registration.DeviceIdCandidate) {inp : Nat → Input} {clock : Nat → UInt64}
    (hclock : Clocked clock inp) (n : Nat) :
    AutomaticLock env (boot env storage nvs candidate) inp clock n where
  started hst := session_started env storage nvs candidate inp n
    ((guarded_stateAt env storage nvs candidate inp n).active hst)
  origin t m h := ⟨h.since, h.reads hclock⟩
  continued t m h hact := by
    rcases (step_timed env _ (inp n)).session hact with ⟨_, hstays⟩ | ⟨t', hstart⟩
    · exact .inl (h.next hact hstays)
    · refine .inr ⟨t', Nat.lt_succ_self n, hstart, fun k hk hk' => ?_, fun k hk hk' => ?_⟩
      · obtain rfl : k = n + 1 := by omega
        exact hact
      · omega
  kept t m h hact hcase := by
    refine h.next hact ?_
    rcases hcase with hst | ⟨nowMs, hhandles⟩
    · exact unlocked_stays (inv_stateAt env storage nvs candidate inp n)
        (authInv_stateAt env storage nvs candidate inp n) hst hact
    · exact (handles_stays hhandles hact).2
  within t m nowMs days h hhandles hst hpolicy := by
    have hact := (guarded_stateAt env storage nvs candidate inp (n + 1)).active hst
    have hcurrent := current_stateAt env storage nvs candidate inp (n + 1) hst
    have hdays : (stateAt (step env) (boot env storage nvs candidate) inp
        (n + 1)).runtime.autoLockDays = some days := by
      rw [Policy, hcurrent] at hpolicy
      exact Except.ok.inj hpolicy
    -- the session was open before the step, so its start lies before `nowMs`
    obtain ⟨hbefore, hstays⟩ := handles_stays hhandles hact
    obtain ⟨t', m', h'⟩ := session_started env storage nvs candidate inp n hbefore
    have hle : (stateAt (step env) (boot env storage nvs candidate) inp
        (n + 1)).runtime.unlockedSinceMs ≤ nowMs := by
      have hsame := hstays.since
      rw [h'.since] at hsame
      rw [stateAt_succ, hsame]
      exact UInt64.le_trans (h'.reads hclock).2 (hclock.reads n nowMs (handles_reads hhandles)).1
    have hwithin := VaultRuntime.Runtime.within_of_not_due (handles_not_due hhandles)
      (inv_stateAt env storage nvs candidate inp (n + 1)) hst hact hdays hle
    rw [← h.since]
    exact hwithin
  disabled hst hpolicy nowMs := by
    have hcurrent := current_stateAt env storage nvs candidate inp n hst
    rw [Policy, hcurrent] at hpolicy
    rw [housekeeping_runtime,
      VaultRuntime.Runtime.not_due_of_disabled (Except.ok.inj hpolicy), if_neg (by decide)]
  replaced line moment frame envelope expected hi hreq hparse hok hval := by
    rw [stateAt_succ, hi]
    exact replaced_disabled hreq hparse hok hval
  stored stored hP hst := (coherent_stateAt env storage nvs candidate inp n hP).copy (.inr hst)

/-! ## A run with its clock -/

/-- A plaintext of format 2 without accounts, with an automatic lock after one day. -/
def oneDayPlaintext : List UInt8 := Vault.plaintextMagicV2 ++ [0, 2, 0, 0, 0, 1, 1]

/-- Every decryption gives `oneDayPlaintext`. -/
def policyEnv : Env VaultRuntime.PersistedSnapshot :=
  { sampleEnv with
    prims := { sampleEnv.prims with gcm := fun _ _ _ _ _ => some oneDayPlaintext } }

def policyVault : VaultRuntime.PersistedSnapshot :=
  { sampleVault with
    envelope := { sampleVault.envelope with vaultFormatVersion := Vault.vaultFormatVersion2 } }

/-- Power-on with a Vault that locks after a day. -/
abbrev policyBoot : Device VaultRuntime.PersistedSnapshot :=
  boot policyEnv policyVault sampleNvs ⟨ones 16, ones_nonzero⟩

/-- A trusted unlock in the seventh step, a housekeeping one millisecond before a day has passed
since, and housekeeping from then on. -/
def sampleTimes : Nat → Input
  | 0 => .line [0] { nowMs := 0 }
  | 1 => .line [1] { nowMs := 1, timerUs := 1000 }
  | 2 => .observeButton false
  | 3 => .observeButton false
  | 4 => .observeButton true
  | 5 => .buttonPressed 5
  | 6 => .line [2] { nowMs := 6, timerUs := 7000 }
  | 7 => .housekeeping 86400006
  | _ => .housekeeping 86400007

def sampleClock : Nat → UInt64
  | _ + 9 => 86400007
  | 8 => 86400006
  | n => .ofNat n

theorem sampleTimes_clocked : Clocked sampleClock sampleTimes where
  forward n := by
    rcases Nat.lt_or_ge n 9 with h | h
    · have hle : ∀ k < 9, sampleClock k ≤ sampleClock (k + 1) := by decide
      exact hle n h
    · obtain ⟨k, rfl⟩ := Nat.exists_eq_add_of_le' h
      exact UInt64.le_refl _
  reads n t h := by
    match n, h with
    | 0, h => rcases h with rfl | rfl <;> decide
    | 1, h => rcases h with rfl | rfl <;> decide
    | 5, h => obtain rfl := h; decide
    | 6, h => rcases h with rfl | rfl <;> decide
    | 7, h => obtain rfl := h; decide
    | 8, h => obtain rfl := h; decide
    | n + 9, h =>
      obtain rfl : t = 86400007 := h
      exact ⟨UInt64.le_refl _, UInt64.le_refl _⟩

/-- The Device is unlocked up to the last millisecond of the day, and locked then. -/
theorem automatic_lock_sample :
    (stateAt (step policyEnv) policyBoot sampleTimes 8).runtime.state = .unlocked ∧
    (stateAt (step policyEnv) policyBoot sampleTimes 8).Policy policyEnv (some 1) ∧
    (stateAt (step policyEnv) policyBoot sampleTimes 9).runtime.state = .locked ∧
    AutomaticLock policyEnv policyBoot sampleTimes sampleClock 7 :=
  ⟨by decide +kernel, by rw [Policy]; decide +kernel, by decide +kernel,
    automatic_lock policyEnv policyVault sampleNvs ⟨ones 16, rfl⟩ sampleTimes_clocked 7⟩

end M5Auth.Provisioning.Device
