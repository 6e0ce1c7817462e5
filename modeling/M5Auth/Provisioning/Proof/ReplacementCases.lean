import M5Auth.Provisioning.Proof.ResetAuthorization
import M5Auth.Registration.Proof.Epochs

/-!
# What a step does to the registration

`complete_replaces` follows `session.complete` down to the registration store: which record a
replacement stores, and that a successful one was stored. `registration_cases` adds the other
requests; a step leaves the store alone, installs a first registration, replaces it by the one of
the bound context, or clears it for a confirmed reset.
-/

namespace M5Auth.Provisioning.Device

open Registration (EpochStep Record Store Stored)
open Session (BeginContext)
open Vault (Vmk)

variable {σ : Type} {env : Env σ} {d d' : Device σ}

/-! ## The replacement -/

/-- The record that `install_vmk` stores for a replacement. -/
def proposedRecord (context : BeginContext) : Record where
  vaultId := context.vaultId
  registrationId := context.registrationId
  epoch := context.registrationEpoch
  brkPublicKey := context.proposedBrkPublicKey

/-- The attempt replaces the registration of the stored Vault. -/
def Replacing (d : Device σ) : Prop :=
  d.context.operation = .browserReplacement ∨
    (d.context.operation = .recovery ∧ d.runtime.hasVault = true)

/-- What a delivered key does to the registration; `ok` is the result. -/
inductive Replacement (env : Env σ) (d : Device σ) (ok : Bool) (d' : Device σ) : Prop
  | untouched (registration : d'.registration = d.registration) (failed : d.Replacing → ok = false)
  | tried (status : Registration.Status) (replacing : d.Replacing)
      (replaced : d.registration.replace env.prims.importKey (d.context.registrationEpoch - 1)
        (proposedRecord d.context) = (status, d'.registration))
      (stored : ok = true → status = .ok)

theorem Replacement.congr {e e' : Device σ} {ok : Bool} (h : Replacement env d ok d')
    (hctx : e.context = d.context) (hrt : e.runtime = d.runtime)
    (hreg : e.registration = d.registration) (hreg' : e'.registration = d'.registration) :
    Replacement env e ok e' := by
  have hrep : e.Replacing ↔ d.Replacing := by rw [Replacing, Replacing, hctx, hrt]
  cases h with
  | untouched registration failed =>
    exact .untouched (by rw [hreg', registration, hreg]) fun hr => failed (hrep.1 hr)
  | tried status replacing replaced stored =>
    exact .tried status (hrep.2 replacing) (by rw [hreg, hreg', hctx, replaced]) stored

variable (env) in
theorem installReplacement_replaces (d : Device σ) (vmk : Vmk) (timerMs : UInt64)
    (hrep : d.Replacing) :
    ∃ ok d', d.installReplacement env d.context vmk timerMs = (ok, d') ∧
      Replacement env d ok d' := by
  unfold installReplacement
  split
  · exact ⟨_, _, rfl, .untouched rfl fun _ => rfl⟩
  rcases d.runtime.unlock env.prims.gcm vmk timerMs with ⟨status, rt⟩
  dsimp only
  split
  · exact ⟨_, _, rfl, .untouched rfl fun _ => rfl⟩
  rcases hr : d.registration.replace env.prims.importKey (d.context.registrationEpoch - 1)
    (proposedRecord d.context) with ⟨status', reg⟩
  have hr' : (d.withRuntime rt).registration.replace env.prims.importKey
      (d.context.registrationEpoch - 1)
      { vaultId := d.context.vaultId, registrationId := d.context.registrationId
        epoch := d.context.registrationEpoch
        brkPublicKey := d.context.proposedBrkPublicKey } = (status', reg) := hr
  rw [hr']
  dsimp only
  split
  · exact ⟨_, _, rfl, .tried status' hrep hr fun hok => by cases hok⟩
  · rename_i hok
    rw [ne_eq, not_not] at hok
    exact ⟨_, _, rfl, .tried status' hrep hr fun _ => hok⟩

variable (env) in
theorem installVmk_replaces (d : Device σ) (vmk : Vmk) (timerMs : UInt64) :
    ∃ ok d', d.installVmk env d.context vmk timerMs = (ok, d') ∧ Replacement env d ok d' := by
  have hreplace (hrep : d.Replacing) : ∃ ok d',
      d.cancelPending.installReplacement env d.context vmk timerMs = (ok, d') ∧
        Replacement env d ok d' := by
    obtain ⟨ok, d', he, h⟩ := installReplacement_replaces env d.cancelPending vmk timerMs hrep
    exact ⟨ok, d', he, h.congr rfl rfl rfl rfl⟩
  have hno {op : Session.Operation} (hop : d.context.operation = op)
      (hb : op ≠ .browserReplacement) (hr : op ≠ .recovery) : ¬ d.Replacing := by
    rintro (h | ⟨h, _⟩)
    · exact hb (hop.symm.trans h)
    · exact hr (hop.symm.trans h)
  unfold installVmk
  dsimp only
  split
  · rename_i hop
    exact ⟨_, _, rfl, .untouched rfl fun h => absurd h (hno hop (by simp) (by simp))⟩
  · rename_i hop
    split
    · exact ⟨_, _, rfl, .untouched rfl fun _ => rfl⟩
    · rename_i metadata hmeta
      have hv := hasVault_of_metadata hmeta
      split
      · rename_i hvault
        exact hreplace (.inr ⟨hop, by rw [← hvault, hv]; rfl⟩)
      · rename_i hvault
        have hnot : ¬ d.Replacing := by
          rintro (h | ⟨_, h⟩)
          · rw [hop] at h
            cases h
          · exact hvault (hv.trans h)
        split
        · exact ⟨_, _, rfl, .untouched rfl fun h => absurd h hnot⟩
        · exact ⟨_, _, rfl, .untouched rfl fun h => absurd h hnot⟩
  · rename_i hop
    exact hreplace (.inl hop)
  · rename_i hop
    exact ⟨_, _, rfl, .untouched rfl fun h => absurd h (hno hop (by simp) (by simp))⟩
  · rename_i hop
    exact ⟨_, _, rfl, .untouched rfl fun h => absurd h (hno hop (by simp) (by simp))⟩

/-- The attempt that a `session.complete` gets to deliver. -/
structure Completable (d : Device σ) : Prop where
  active : d.coordinator.attempt.active = true ∧
    (d.coordinator.attempt.state = .awaitingPresence ∨ d.coordinator.attempt.state = .confirmed)
  bound : d.contextActive = true ∧ d.Bound d.context

variable (env) in
theorem sessionComplete_replaces (d : Device σ) (id : Nat) (params : Json) (m : Moment) :
    ∃ r d', d.sessionComplete env id params m = (r, d') ∧
      ((r.ok = false ∧ d'.registration = d.registration) ∨
        (d.Completable ∧ Replacement env d r.ok d')) := by
  unfold sessionComplete
  cases hp : parseComplete params with
  | none => exact ⟨_, _, rfl, .inl ⟨rfl, rfl⟩⟩
  | some request =>
    cases hn : d.namesAttempt request.attemptId with
    | false =>
      simp only [hn, Bool.not_false, if_true]
      exact ⟨_, _, rfl, .inl ⟨rfl, rfl⟩⟩
    | true =>
      cases hb : d.currentBindingMatches with
      | false =>
        simp only [hn, Bool.not_true, Bool.not_false, Bool.false_eq_true, if_false, if_true]
        exact ⟨_, _, rfl, .inl ⟨rfl, rfl⟩⟩
      | true =>
        simp only [hn, Bool.not_true, Bool.false_eq_true, if_false]
        obtain ⟨c', _, _, he | ⟨vmk, he, hact, hst, _⟩⟩ :=
          Session.complete_cases env.prims d.coordinator request.nonce request.ciphertext
            request.tag m.nowMs
        · rw [he]
          exact ⟨_, _, rfl, .inl ⟨rfl, rfl⟩⟩
        · rw [he]
          -- the binding does not depend on the coordinator, so the second check cannot fail
          have hb' : (d.withCoordinator c').currentBindingMatches = true := hb
          simp only [hb', Bool.not_true, Bool.false_eq_true, if_false]
          obtain ⟨ok, d', hi, hrep⟩ := installVmk_replaces env (d.withCoordinator c') vmk m.timerMs
          rw [hi]
          have hcomp : d.Completable := ⟨⟨hact, hst⟩, bound_of_matches hb⟩
          cases ok
          · exact ⟨_, _, rfl, .inr ⟨hcomp, hrep.congr rfl rfl rfl rfl⟩⟩
          · exact ⟨_, _, rfl, .inr ⟨hcomp, hrep.congr rfl rfl rfl rfl⟩⟩

variable (env) in
/-- **A `session.complete` at the registration store.** -/
theorem complete_replaces (d : Device σ) {frame : Frame} {line : List UInt8} (m : Moment)
    (hop : frame.operation = .session .complete) (hne : line.isEmpty = false)
    (hread : readFrame env.parse line = .ok frame) :
    ∃ r d', d.handleRequest env frame line m = (r, d') ∧
      ((r.ok = false ∧ d'.registration = d.registration) ∨
        (d.Completable ∧ Replacement env d r.ok d')) := by
  unfold handleRequest
  rw [hop]
  dsimp only
  unfold handleSessionRequest
  dsimp only
  split
  · exact ⟨_, _, rfl, .inl ⟨rfl, by simp⟩⟩
  rename_i hlen
  rw [handleSessionLine_of_frame _ m hop hne hlen hread]
  obtain ⟨r, d', he, hcase⟩ := sessionComplete_replaces env
    d.cancelHealthyReset.cancelRecoveryReset frame.id frame.params m
  have hcase' {d'' : Device σ} (hreg : d''.registration = d'.registration) :
      (r.ok = false ∧ d''.registration = d.registration) ∨
        (d.Completable ∧ Replacement env d r.ok d'') := by
    rcases hcase with ⟨hok, h⟩ | ⟨⟨hact, hbound⟩, h⟩
    · exact .inl ⟨hok, hreg.trans (h.trans (by simp))⟩
    · refine .inr ⟨⟨by simpa using hact, by simpa using hbound.1, ?_⟩,
        h.congr (by simp) (by simp) (by simp) hreg⟩
      simpa using bound_cancelResets d hbound.2
  simp only [he, reduceCtorEq, false_and, if_false, true_and]
  split
  · exact ⟨_, _, rfl, hcase' (armed_armPendingDeadline d' m.nowMs).registration⟩
  · exact ⟨_, _, rfl, hcase' rfl⟩

/-! ## A step -/

/-- The request at the registration store. -/
inductive RegistrationEffect (env : Env σ) (d : Device σ) (frame : Frame) (m : Moment)
    (response : Response) (d' : Device σ) : Prop
  | kept (registration : d'.registration = d.registration)
  | installed (record : Record) (operation : frame.operation = .vaultInstall)
      (registration : d'.registration =
        (d.registration.installInitial env.prims.importKey record).2)
  | replaced (operation : frame.operation = .session .complete) (completable : d.Completable)
      (replacing : d.Replacing) (status : Registration.Status)
      (registration : d.registration.replace env.prims.importKey
        (d.context.registrationEpoch - 1) (proposedRecord d.context) = (status, d'.registration))
  | cleared (kind : ResetKind) (h : ResetDone env d frame m kind d')
      (registration : d'.registration = d.registration.clearRegistration.2 ∨
        d'.registration = d.registration.clearCorruptRegistrationForRecovery.2)

/-- Only a completion, an install or a confirmed reset moves the registration store. -/
theorem RegistrationEffect.of_request {frame : Frame} {m : Moment} {response : Response}
    (h : RequestEffect env d frame m response d')
    (hcomplete : frame.operation = .session .complete →
      (response.ok = false ∧ d'.registration = d.registration) ∨
        (d.Completable ∧ Replacement env d response.ok d')) :
    RegistrationEffect env d frame m response d' := by
  cases h with
  | session h =>
    cases h with
    | quiet h => exact .kept h.registration
    | begun context descriptor h => exact .kept h.registration
    | authorized webPublicKey transcript signature h => exact .kept h.registration
    | completed vmk h =>
      rcases hcomplete h.operation with ⟨_, hreg⟩ | ⟨hcomp, hrep⟩
      · exact .kept hreg
      · cases hrep with
        | untouched hreg _ => exact .kept hreg
        | tried status replacing replaced stored =>
          exact .replaced h.operation hcomp replacing status replaced
  | resetBegun kind attemptId h => exact .kept h.registration
  | resetDone kind h =>
    rcases h.registration with hreg | hreg | hreg
    · exact .kept hreg
    · exact .cleared kind h (.inl hreg)
    · exact .cleared kind h (.inr hreg)
  | installed h =>
    rcases h.registration with hreg | ⟨record, hreg⟩
    · exact .kept hreg
    · exact .installed record h.operation hreg
  | rekeyed h => exact .kept h.registration

variable (env d) in
/-- **What a step does to the registration store.** -/
theorem registration_cases (i : Input) :
    (d.step env i).registration = d.registration ∨
    ∃ line m frame, i = .line line m ∧ Accepted env line frame ∧
      RegistrationEffect env (d.housekeeping m.nowMs) frame m (d.handleLine env line m).1
        (d.step env i) := by
  cases i with
  | line line m =>
    obtain ⟨r, d', he, hquiet | ⟨frame, hacc, heffect⟩⟩ :=
      dispatch_cases env (d.housekeeping m.nowMs) line m
    · left
      simp only [step, handleLine, he]
      rw [hquiet.registration, (quiet_housekeeping env d m.nowMs).registration]
    · refine .inr ⟨line, m, frame, rfl, hacc, ?_⟩
      simp only [step, handleLine, he]
      refine .of_request heffect fun hop => ?_
      obtain ⟨r', d'', he', hcase⟩ := complete_replaces env (d.housekeeping m.nowMs) m hop
        hacc.nonempty hacc.read
      rw [dispatch_accepted (d.housekeeping m.nowMs) m hacc, he'] at he
      obtain ⟨rfl, rfl⟩ := Prod.mk.inj he
      exact hcase
  | housekeeping nowMs => exact .inl (quiet_housekeeping env d nowMs).registration
  | disconnect => exact .inl (disconnect_registration d)
  | observeButton pressed => exact .inl rfl
  | buttonPressed nowMs => exact .inl rfl
  | expirePresence nowMs => exact .inl rfl
  | resident use => exact .inl rfl

end M5Auth.Provisioning.Device
