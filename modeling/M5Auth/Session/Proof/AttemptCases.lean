import M5Auth.Session.AttemptCoordinator

/-!
# What the coordinator can do

One case lemma for each operation of the presence gate and of the attempt coordinator. An attempt
is `startedAttempt` after its `begin` and `authorizedAttempt` after its `authorize`.
-/

namespace M5Auth.Session

open Registration (P256PublicKey)
open Vault (Vmk VaultNonce VaultTag)

/-! ## The presence gate -/

theorem expire_gate (gate : UserPresenceGate) (nowMs : UInt64) :
    (gate.expire nowMs = (true, .clear) ∧ gate.state ≠ .idle ∧ gate.expiresAtMs ≤ nowMs) ∨
    (gate.expire nowMs = (false, gate) ∧ (gate.state = .idle ∨ nowMs < gate.expiresAtMs)) := by
  unfold UserPresenceGate.expire
  split
  · rename_i h
    exact .inr ⟨rfl, h⟩
  · rename_i h
    rw [not_or, UInt64.not_lt] at h
    exact .inl ⟨rfl, h⟩

/-- The gate waits for or holds the confirmation of this attempt. -/
def UserPresenceGate.serves (gate : UserPresenceGate) (operation : PresenceOperation)
    (attemptId : AttemptId) : Prop :=
  gate.state ≠ .idle ∧ gate.operation = operation ∧ gate.attemptId = attemptId

/-- A consumed confirmation was there, for this attempt and in time. -/
theorem consume_cases (p : CanonicalPresence) (attemptId : AttemptId) (nowMs : UInt64) :
    (∃ p', p.consumePresence attemptId nowMs = (false, p') ∧
      (p'.gate.state ≠ .idle → p'.gate = p.gate)) ∨
    (∃ p', p.consumePresence attemptId nowMs = (true, p') ∧ p'.gate.state = .idle ∧
      p.gate.state = .confirmed ∧ p.gate.attemptId = attemptId ∧ nowMs < p.gate.expiresAtMs) := by
  unfold CanonicalPresence.consumePresence UserPresenceGate.consumeConfirmation
  rcases expire_gate p.gate nowMs with ⟨he, _, _⟩ | ⟨he, hlive⟩
  · left
    simp only [he, true_or, if_true]
    exact ⟨_, rfl, fun h => absurd rfl h⟩
  simp only [he, Bool.false_eq_true, false_or]
  by_cases hst : p.gate.state = .confirmed
  swap
  · left
    simp only [hst, ne_eq, not_false_eq_true, if_true]
    exact ⟨_, rfl, fun _ => rfl⟩
  simp only [hst, ne_eq, not_true_eq_false, if_false]
  cases hid : attemptId.sameBytes p.gate.attemptId
  · left
    exact ⟨_, rfl, fun h => absurd rfl h⟩
  · right
    refine ⟨_, rfl, rfl, trivial, (Bytes.sameBytes_iff.1 hid).symm, ?_⟩
    rcases hlive with h | h
    · rw [hst] at h
      cases h
    · exact h

/-- A sample of the button neither begins nor confirms a request. -/
theorem observe_cases (gate : UserPresenceGate) (pressed : Bool) :
    (gate.observeInputState pressed).state = gate.state ∧
    (gate.observeInputState pressed).operation = gate.operation ∧
    (gate.observeInputState pressed).attemptId = gate.attemptId ∧
    (gate.observeInputState pressed).expiresAtMs = gate.expiresAtMs := by
  unfold UserPresenceGate.observeInputState
  split
  · exact ⟨rfl, rfl, rfl, rfl⟩
  · split
    · cases pressed
      · simp only [Bool.false_eq_true, if_false]
        split <;> split <;> exact ⟨rfl, rfl, rfl, rfl⟩
      · exact ⟨rfl, rfl, rfl, rfl⟩
    · exact ⟨rfl, rfl, rfl, rfl⟩

/-- A press confirms the awaited request, clears the gate, or uses up its sample. -/
theorem confirm_cases (gate : UserPresenceGate) (nowMs inputGeneration : UInt64) :
    (gate.confirmCurrent nowMs inputGeneration).2.state = .idle ∨
    ((gate.confirmCurrent nowMs inputGeneration).2.operation = gate.operation ∧
      (gate.confirmCurrent nowMs inputGeneration).2.attemptId = gate.attemptId ∧
      (gate.confirmCurrent nowMs inputGeneration).2.expiresAtMs = gate.expiresAtMs ∧
      ((gate.confirmCurrent nowMs inputGeneration).2.state = gate.state ∨
        (gate.state = .awaiting ∧
          (gate.confirmCurrent nowMs inputGeneration).2.state = .confirmed))) := by
  unfold UserPresenceGate.confirmCurrent
  rcases expire_gate gate nowMs with ⟨he, _, _⟩ | ⟨he, _⟩
  · left
    simp only [he, true_or, if_true]
    rfl
  right
  simp only [he, Bool.false_eq_true, false_or]
  by_cases hst : gate.state = .awaiting
  swap
  · simp only [hst, ne_eq, not_false_eq_true, if_true]
    exact ⟨trivial, trivial, trivial, .inl trivial⟩
  simp only [hst, ne_eq, not_true_eq_false, if_false]
  split
  · exact ⟨rfl, rfl, rfl, .inl hst⟩
  · split
    · exact ⟨rfl, rfl, rfl, .inl rfl⟩
    · exact ⟨rfl, rfl, rfl, .inr ⟨trivial, rfl⟩⟩

theorem pressed_cases (p : CanonicalPresence) (nowMs : UInt64) :
    (p.buttonPressed nowMs).gate = p.gate ∨
    ∃ generation,
      (p.buttonPressed nowMs).gate = (p.gate.confirmCurrent nowMs generation).2 := by
  by_cases hidle : p.gate.state = .idle
  · exact .inl (by simp [CanonicalPresence.buttonPressed, hidle])
  · exact .inr ⟨_, by simp only [CanonicalPresence.buttonPressed, if_neg hidle]; rfl⟩

/-! ## The coordinator -/

/-- The attempt that `begin` starts. -/
def startedAttempt (context : BeginContext) (descriptor : AttemptDescriptor) : Attempt where
  crypto :=
    { attemptId := descriptor.attemptId, challenge := descriptor.challenge
      devicePublicKey := descriptor.devicePublicKey, expiresAtMs := descriptor.expiresAtMs
      active := true }
  context
  descriptor
  active := true
  state := .awaitingAuthorization

/-- The attempt after its `authorize`. -/
def authorizedAttempt (context : BeginContext) (descriptor : AttemptDescriptor)
    (webPublicKey : P256PublicKey) (transcript : List UInt8) : Attempt :=
  { startedAttempt context descriptor with
    webPublicKey, transcript, state := .awaitingPresence }

section
variable (prims : Primitives) (c : AttemptCoordinator)

theorem begin_cases (context : BeginContext) (nowMs : UInt64) :
    ∃ c', c'.presence = c.presence.cancelPresence ∧
      ((c.beginAttempt prims context nowMs = (none, c') ∧ c'.attempt.active = false) ∨
      ∃ descriptor, c.beginAttempt prims context nowMs = (some descriptor, c') ∧
        c'.attempt = startedAttempt context descriptor) := by
  unfold AttemptCoordinator.beginAttempt
  split
  · exact ⟨_, rfl, .inl ⟨rfl, rfl⟩⟩
  · cases hm : prims.material c.draws with
    | none => exact ⟨_, rfl, .inl ⟨rfl, rfl⟩⟩
    | some material =>
      unfold DeviceSession.beginSession
      simp only
      split
      · rename_i crypto heq
        exact ⟨_, rfl, .inl ⟨rfl, rfl⟩⟩
      · rename_i descriptor crypto heq
        refine ⟨_, rfl, .inr ⟨descriptor, rfl, ?_⟩⟩
        split at heq
        · simp at heq
        · simp only [Prod.mk.injEq, Option.some.injEq] at heq
          obtain ⟨rfl, rfl⟩ := heq
          rfl

variable {prims c} in
/-- A required signature verifies under the BRK of the context. -/
theorem verified_of_accepted {transcript signature : List UInt8} {nowMs : UInt64}
    (h : c.signatureAccepted prims transcript signature nowMs = true)
    (hreq : c.attempt.context.operation.signatureRequired = true) :
    prims.verifyBrk c.attempt.context.currentBrkPublicKey transcript signature = true := by
  simp only [AttemptCoordinator.signatureAccepted, hreq, if_true,
    DeviceSession.verifyBrkSignature, Bool.and_eq_true] at h
  exact h.2.2

theorem authorize_cases (webPublicKey : P256PublicKey) (signature : List UInt8)
    (nowMs : UInt64) :
    c.authorize prims webPublicKey signature nowMs = (false, c.cancel) ∨
    ∃ transcript, c.attempt.active = true ∧ c.attempt.state = .awaitingAuthorization ∧
      encodeTranscript prims.importKey c.attempt.context c.attempt.descriptor webPublicKey =
        some transcript ∧
      c.signatureAccepted prims transcript signature nowMs = true ∧
      c.authorize prims webPublicKey signature nowMs = (true,
        (c.withPresence (c.presence.beginPresence c.attempt.context.operation.presenceOperation
          c.attempt.descriptor.attemptId nowMs)).withAttempt
          { c.attempt with webPublicKey, transcript, state := .awaitingPresence }) := by
  unfold AttemptCoordinator.authorize
  simp only
  split
  · exact .inl rfl
  · rename_i hact
    simp only [Bool.or_eq_true, Bool.not_eq_true', bne_iff_ne, ne_eq, not_or, not_not,
      Bool.not_eq_false] at hact
    split
    · exact .inl rfl
    · rename_i transcript htr
      split
      · exact .inl rfl
      · rename_i hsig
        simp only [Bool.not_eq_true', Bool.not_eq_false] at hsig
        exact .inr ⟨transcript, hact.1.1, hact.1.2, htr, hsig, rfl⟩

theorem complete_cases (nonce : VaultNonce) (ciphertext : Vmk) (tag : VaultTag)
    (nowMs : UInt64) :
    ∃ c', c'.attempt.active = false ∧ c'.presence.gate.state = .idle ∧
      (c.complete prims nonce ciphertext tag nowMs = (none, c') ∨
      ∃ vmk, c.complete prims nonce ciphertext tag nowMs = (some vmk, c') ∧
        c.attempt.active = true ∧
        (c.attempt.state = .awaitingPresence ∨ c.attempt.state = .confirmed) ∧
        c.presence.gate.state = .confirmed ∧
        c.presence.gate.attemptId = c.attempt.descriptor.attemptId ∧
        nowMs < c.presence.gate.expiresAtMs ∧
        c.attempt.crypto.openVmk prims c.attempt.webPublicKey (hkdfSalt c.attempt.descriptor)
          c.attempt.transcript nonce ciphertext tag c.attempt.transcript nowMs = some vmk) := by
  unfold AttemptCoordinator.complete
  simp only
  split
  · exact ⟨_, rfl, rfl, .inl rfl⟩
  · rename_i hact
    rcases consume_cases c.presence c.attempt.descriptor.attemptId nowMs with
      ⟨p', he, _⟩ | ⟨p', he, hidle, hconf, hid, hlive⟩
    · rw [he]
      exact ⟨_, rfl, rfl, .inl rfl⟩
    · rw [he]
      refine ⟨(c.withPresence p').withAttempt { c.attempt.wipeStaged with crypto := {} }, rfl,
        hidle, ?_⟩
      simp only [Bool.or_eq_true, Bool.and_eq_true, Bool.not_eq_true', bne_iff_ne, ne_eq, not_or,
        not_and, not_not, Bool.not_eq_false] at hact
      cases hopen : c.attempt.crypto.openVmk prims c.attempt.webPublicKey
        (hkdfSalt c.attempt.descriptor) c.attempt.transcript nonce ciphertext tag
        c.attempt.transcript nowMs with
      | none => exact .inl rfl
      | some vmk =>
        refine .inr ⟨vmk, rfl, hact.1.1, ?_, hconf, hid, hlive, rfl⟩
        by_cases hst : c.attempt.state = .awaitingPresence
        · exact .inl hst
        · exact .inr (hact.1.2 hst)

variable {prims} in
/-- What is opened comes out of the library's key delivery. -/
theorem opened_of_openVmk {s : DeviceSession} {webPublicKey : P256PublicKey}
    {salt info aad : List UInt8} {nonce : VaultNonce} {ciphertext vmk : Vmk} {tag : VaultTag}
    {nowMs : UInt64}
    (h : s.openVmk prims webPublicKey salt info nonce ciphertext tag aad nowMs = some vmk) :
    prims.openVmk s.devicePublicKey webPublicKey salt info nonce ciphertext tag aad =
      some vmk := by
  unfold DeviceSession.openVmk at h
  split at h
  · cases h
  · exact h

end

end M5Auth.Session
