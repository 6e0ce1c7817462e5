import M5Auth.Session.AttemptCoordinator

/-!
# The coordinator over any presence binding

`AttemptCoordinator` talks to the user's presence through the interface `PresenceBinding`; the
Device gives it `CanonicalPresence`. Here the coordinator is taken over any binding, with the spans
of `complete` at any lengths, with each reset of the key material where `DeviceSession` makes it,
and with the output that a failed decryption leaves. `toBinding_begin` … `toBinding_expire` show
that `AttemptCoordinator` is this coordinator at `CanonicalPresence`.
-/

namespace M5Auth.Session

open Registration (P256PublicKey)
open Vault (Vmk VaultNonce VaultTag)

/-- The interface `PresenceBinding`. -/
structure PresenceBinding (π : Type) where
  beginPresence : PresenceOperation → AttemptId → UInt64 → π → Bool × π
  consumePresence : AttemptId → UInt64 → π → Bool × π
  cancelPresence : π → π
  presenceConfirmed : π → Bool

/-- `CanonicalPresence` behind the interface. -/
def PresenceBinding.canonical : PresenceBinding CanonicalPresence where
  beginPresence operation attemptId nowMs p := (true, p.beginPresence operation attemptId nowMs)
  consumePresence attemptId nowMs p := p.consumePresence attemptId nowMs
  cancelPresence p := p.cancelPresence
  presenceConfirmed p := p.presenceConfirmed

/-- The cryptographic library, with what a failed decryption leaves in its output. -/
structure SessionPrimitives where
  importKey : P256PublicKey → Bool
  verifyBrk : P256PublicKey → List UInt8 → List UInt8 → Bool
  openVmk : P256PublicKey → P256PublicKey → List UInt8 → List UInt8 → VaultNonce → Vmk →
    VaultTag → List UInt8 → Bool × Vmk
  material : Nat → Option AttemptMaterial

/-! ## The session's resets -/

namespace DeviceSession

variable (prims : SessionPrimitives) (s : DeviceSession)

/-- `matches_attempt`. -/
def checkAttempt (attemptId : AttemptId) (nowMs : UInt64) : Bool × DeviceSession :=
  if !s.isActive nowMs then (false, {})
  else if !attemptId.sameBytes s.attemptId then (false, {})
  else (true, s)

/-- `verify_brk_signature`. -/
def checkSignature (brk : P256PublicKey) (transcript signature : List UInt8) (nowMs : UInt64) :
    Bool × DeviceSession :=
  if !s.isActive nowMs || brk.1.head? != some 0x04 ||
      !boundedNonempty transcript maxTranscriptBytes || signature.length != brkSignatureBytes ||
      !prims.verifyBrk brk transcript signature then (false, {})
  else (true, s)

/-- `open_vmk`: whether the key was opened, the output, and the session. -/
def openSpans (webPublicKey : P256PublicKey) (hkdfSalt hkdfInfo nonce ciphertext tag transcriptAad :
    List UInt8) (nowMs : UInt64) : Bool × Vmk × DeviceSession :=
  match Bytes.ofList? 12 nonce, Bytes.ofList? 32 ciphertext, Bytes.ofList? 16 tag with
  | some nonce, some ciphertext, some tag =>
    if !s.isActive nowMs || webPublicKey.1.head? != some 0x04 ||
        !boundedNonempty hkdfSalt maxHkdfContextBytes ||
        !boundedNonempty hkdfInfo maxHkdfContextBytes ||
        !boundedNonempty transcriptAad maxTranscriptBytes then (false, Bytes.zero 32, {})
    else
      match prims.openVmk s.devicePublicKey webPublicKey hkdfSalt hkdfInfo nonce ciphertext tag
          transcriptAad with
      | (true, vmk) => (true, vmk, {})
      | (false, _) => (false, Bytes.zero 32, {})
  | _, _, _ => (false, Bytes.zero 32, {})

/-- `expire`. -/
def expireSession (nowMs : UInt64) : Bool × DeviceSession :=
  if !s.active || nowMs < s.expiresAtMs then (false, s) else (true, {})

end DeviceSession

/-! ## The coordinator -/

/-- `AttemptCoordinator` over a presence binding with the state `π`. -/
structure BoundCoordinator (π : Type) where
  presence : π
  attempt : Attempt := {}
  draws : Nat := 0

namespace BoundCoordinator

variable {π : Type} (binding : PresenceBinding π) (prims : SessionPrimitives)
  (c : BoundCoordinator π)

def withPresence (presence : π) : BoundCoordinator π := { c with presence }

def withAttempt (attempt : Attempt) : BoundCoordinator π := { c with attempt }

/-- The coordinator with this key material. -/
def withCrypto (crypto : DeviceSession) : BoundCoordinator π :=
  c.withAttempt { c.attempt with crypto }

/-- `cancel`. -/
def cancel : BoundCoordinator π :=
  (c.withPresence (binding.cancelPresence c.presence)).withAttempt
    { c.attempt.wipeStaged with crypto := {} }

/-- `begin`; `wanted` is whether the caller passes a descriptor to fill. -/
def beginAttempt (context : BeginContext) (nowMs : UInt64) (wanted : Bool) :
    Option AttemptDescriptor × BoundCoordinator π :=
  let c := c.cancel binding
  if !wanted || !context.valid prims.importKey then (none, c)
  else
    match DeviceSession.beginSession (prims.material c.draws) nowMs with
    | (none, crypto) => (none, { c.withCrypto crypto with draws := c.draws + 1 })
    | (some descriptor, crypto) =>
      (some descriptor,
        { presence := c.presence, draws := c.draws + 1
          attempt :=
            { crypto, context, descriptor, active := true, state := .awaitingAuthorization } })

/-- The signature checks of `authorize`. -/
def checkSignature (transcript signature : List UInt8) (nowMs : UInt64) :
    Bool × BoundCoordinator π :=
  let a := c.attempt
  if a.context.operation.signatureRequired then
    if signature.length ≠ brkSignatureBytes then (false, c)
    else
      match a.crypto.checkSignature prims a.context.currentBrkPublicKey transcript signature
          nowMs with
      | (accepted, crypto) => (accepted, c.withCrypto crypto)
  else if signature.isEmpty then (true, c)
  else if a.context.currentBrkPublicKey.allZero || signature.length != brkSignatureBytes then
    (false, c)
  else
    match a.crypto.checkSignature prims a.context.currentBrkPublicKey transcript signature
        nowMs with
    | (accepted, crypto) => (accepted, c.withCrypto crypto)

def authorize (webPublicKey : P256PublicKey) (signature : List UInt8) (nowMs : UInt64) :
    Bool × BoundCoordinator π :=
  if !c.attempt.active || c.attempt.state != .awaitingAuthorization then (false, c.cancel binding)
  else
    match c.attempt.crypto.checkAttempt c.attempt.descriptor.attemptId nowMs with
    | (false, crypto) => (false, (c.withCrypto crypto).cancel binding)
    | (true, _) =>
      match encodeTranscript prims.importKey c.attempt.context c.attempt.descriptor
          webPublicKey with
      | none => (false, c.cancel binding)
      | some transcript =>
        match c.checkSignature prims transcript signature nowMs with
        | (false, c) => (false, c.cancel binding)
        | (true, c) =>
          match binding.beginPresence c.attempt.context.operation.presenceOperation
              c.attempt.descriptor.attemptId nowMs c.presence with
          | (false, presence) => (false, (c.withPresence presence).cancel binding)
          | (true, presence) =>
            (true, (c.withPresence presence).withAttempt
              { c.attempt with webPublicKey, transcript, state := .awaitingPresence })

/-- `complete`: whether a key is released, the output, and the coordinator. -/
def complete (nonce ciphertext tag : List UInt8) (nowMs : UInt64) :
    Bool × Vmk × BoundCoordinator π :=
  let a := c.attempt
  if !a.active || (a.state != .awaitingPresence && a.state != .confirmed) then
    (false, Bytes.zero 32, c.cancel binding)
  else
    match a.crypto.checkAttempt a.descriptor.attemptId nowMs with
    | (false, crypto) => (false, Bytes.zero 32, (c.withCrypto crypto).cancel binding)
    | (true, _) =>
      match binding.consumePresence a.descriptor.attemptId nowMs c.presence with
      | (false, presence) => (false, Bytes.zero 32, (c.withPresence presence).cancel binding)
      | (true, presence) =>
        match a.crypto.openSpans prims a.webPublicKey (hkdfSalt a.descriptor) a.transcript nonce
            ciphertext tag a.transcript nowMs with
        | (opened, vmk, crypto) =>
          (opened, if opened then vmk else Bytes.zero 32,
            (c.withPresence presence).withAttempt { a.wipeStaged with crypto })

/-- `expire`. -/
def expire (nowMs : UInt64) : Bool × BoundCoordinator π :=
  if !c.attempt.active then (false, c)
  else
    match c.attempt.crypto.expireSession nowMs with
    | (expired, crypto) =>
      if expired || c.attempt.descriptor.expiresAtMs ≤ nowMs then
        (true, (c.withCrypto crypto).cancel binding)
      else (false, c.withCrypto crypto)

end BoundCoordinator

/-! ## The Device's coordinator -/

/-- The library as the Device's coordinator sees it: a failed decryption has no output. -/
def SessionPrimitives.toPrimitives (prims : SessionPrimitives) (gcm : Vault.GcmOpen) :
    Primitives where
  importKey := prims.importKey
  verifyBrk := prims.verifyBrk
  openVmk devicePublicKey webPublicKey hkdfSalt hkdfInfo nonce ciphertext tag aad :=
    match prims.openVmk devicePublicKey webPublicKey hkdfSalt hkdfInfo nonce ciphertext tag aad with
    | (true, vmk) => some vmk
    | (false, _) => none
  gcm
  material := prims.material

namespace AttemptCoordinator

variable (prims : SessionPrimitives) (gcm : Vault.GcmOpen) (c : AttemptCoordinator)

def toBinding : BoundCoordinator CanonicalPresence where
  presence := c.presence
  attempt := c.attempt
  draws := c.draws

theorem toBinding_cancel : c.toBinding.cancel .canonical = c.cancel.toBinding := rfl

theorem toBinding_begin (context : BeginContext) (nowMs : UInt64) :
    c.toBinding.beginAttempt .canonical prims context nowMs true =
      ((c.beginAttempt (prims.toPrimitives gcm) context nowMs).1,
        (c.beginAttempt (prims.toPrimitives gcm) context nowMs).2.toBinding) := by
  unfold BoundCoordinator.beginAttempt beginAttempt
  have himport : (prims.toPrimitives gcm).importKey = prims.importKey := rfl
  have hmaterial : (prims.toPrimitives gcm).material = prims.material := rfl
  rw [himport, hmaterial, toBinding_cancel]
  cases hv : context.valid prims.importKey with
  | false => rfl
  | true =>
    have hdraws : c.cancel.toBinding.draws = c.draws := rfl
    simp only [hdraws]
    rcases DeviceSession.beginSession (prims.material c.draws) nowMs with ⟨_ | descriptor, crypto⟩
    · rfl
    · rfl

/-- The two checks agree, and every caller resets the session where they fail. -/
theorem checkAttempt_eq (s : DeviceSession) (attemptId : AttemptId) (nowMs : UInt64) :
    s.checkAttempt attemptId nowMs =
      (s.matchesAttempt attemptId nowMs, if s.matchesAttempt attemptId nowMs then s else {}) := by
  unfold DeviceSession.checkAttempt DeviceSession.matchesAttempt
  cases s.isActive nowMs <;> cases attemptId.sameBytes s.attemptId <;> rfl

theorem checkSignature_eq (s : DeviceSession) (brk : P256PublicKey)
    (transcript signature : List UInt8) (nowMs : UInt64) :
    s.checkSignature prims brk transcript signature nowMs =
      (s.verifyBrkSignature (prims.toPrimitives gcm) brk transcript signature nowMs,
        if s.verifyBrkSignature (prims.toPrimitives gcm) brk transcript signature nowMs then s
        else {}) := by
  have hverify : (prims.toPrimitives gcm).verifyBrk = prims.verifyBrk := rfl
  unfold DeviceSession.checkSignature DeviceSession.verifyBrkSignature
  rw [hverify]
  cases s.isActive nowMs <;> cases hb : brk.1.head? == some 0x04 <;>
    cases boundedNonempty transcript maxTranscriptBytes <;>
    cases hl : signature.length == brkSignatureBytes <;>
    cases prims.verifyBrk brk transcript signature <;> simp_all [bne]

/-- The signature is accepted by both or by neither; only the key material may differ. -/
theorem toBinding_checkSignature (transcript signature : List UInt8) (nowMs : UInt64) :
    ∃ crypto, c.toBinding.checkSignature prims transcript signature nowMs =
        (c.signatureAccepted (prims.toPrimitives gcm) transcript signature nowMs,
          c.toBinding.withCrypto crypto) ∧
      (c.signatureAccepted (prims.toPrimitives gcm) transcript signature nowMs = true →
        crypto = c.attempt.crypto) := by
  have hattempt : c.toBinding.attempt = c.attempt := rfl
  unfold BoundCoordinator.checkSignature signatureAccepted
  simp only [hattempt, checkSignature_eq prims gcm]
  cases hreq : c.attempt.context.operation.signatureRequired with
  | true =>
    by_cases hl : signature.length = brkSignatureBytes
    · cases hv : c.attempt.crypto.verifyBrkSignature (prims.toPrimitives gcm)
          c.attempt.context.currentBrkPublicKey transcript signature nowMs with
      | true => exact ⟨c.attempt.crypto, by simp [hl], fun _ => rfl⟩
      | false => exact ⟨{}, by simp [hl], by simp [hl]⟩
    · exact ⟨c.attempt.crypto, by simp [hl]; rfl, fun _ => rfl⟩
  | false =>
    cases he : signature.isEmpty with
    | true => exact ⟨c.attempt.crypto, by simp; rfl, fun _ => rfl⟩
    | false =>
      cases hz : c.attempt.context.currentBrkPublicKey.allZero with
      | true => exact ⟨c.attempt.crypto, by simp; rfl, fun _ => rfl⟩
      | false =>
        by_cases hl : signature.length = brkSignatureBytes
        · cases hv : c.attempt.crypto.verifyBrkSignature (prims.toPrimitives gcm)
              c.attempt.context.currentBrkPublicKey transcript signature nowMs with
          | true => exact ⟨c.attempt.crypto, by simp [hl], fun _ => rfl⟩
          | false => exact ⟨{}, by simp [hl], by simp [hl]⟩
        · exact ⟨c.attempt.crypto, by simp [hl]; rfl, fun _ => rfl⟩

theorem toBinding_authorize (webPublicKey : P256PublicKey) (signature : List UInt8)
    (nowMs : UInt64) :
    c.toBinding.authorize .canonical prims webPublicKey signature nowMs =
      ((c.authorize (prims.toPrimitives gcm) webPublicKey signature nowMs).1,
        (c.authorize (prims.toPrimitives gcm) webPublicKey signature nowMs).2.toBinding) := by
  have hattempt : c.toBinding.attempt = c.attempt := rfl
  have himport : (prims.toPrimitives gcm).importKey = prims.importKey := rfl
  unfold BoundCoordinator.authorize authorize
  simp only [hattempt, himport, checkAttempt_eq]
  by_cases hactive : (!c.attempt.active || c.attempt.state != .awaitingAuthorization) = true
  · rw [if_pos hactive, if_pos (by rw [hactive, Bool.true_or])]
    rfl
  · rw [if_neg hactive, Bool.eq_false_iff.2 hactive, Bool.false_or]
    cases hm : c.attempt.crypto.matchesAttempt c.attempt.descriptor.attemptId nowMs with
    | false => rfl
    | true =>
      simp only [Bool.not_true, Bool.false_eq_true, if_false]
      cases encodeTranscript prims.importKey c.attempt.context c.attempt.descriptor
          webPublicKey with
      | none => rfl
      | some transcript =>
        obtain ⟨crypto, he, hcrypto⟩ := toBinding_checkSignature prims gcm c transcript signature
          nowMs
        simp only [he]
        cases ha : c.signatureAccepted (prims.toPrimitives gcm) transcript signature nowMs with
        | false => rfl
        | true =>
          rw [hcrypto ha]
          rfl

theorem toBinding_complete (nonce : VaultNonce) (ciphertext : Vmk) (tag : VaultTag)
    (nowMs : UInt64) :
    c.toBinding.complete .canonical prims nonce.1 ciphertext.1 tag.1 nowMs =
      ((c.complete (prims.toPrimitives gcm) nonce ciphertext tag nowMs).1.isSome,
        (c.complete (prims.toPrimitives gcm) nonce ciphertext tag nowMs).1.getD (Bytes.zero 32),
        (c.complete (prims.toPrimitives gcm) nonce ciphertext tag nowMs).2.toBinding) := by
  have hattempt : c.toBinding.attempt = c.attempt := rfl
  have hpresence : c.toBinding.presence = c.presence := rfl
  unfold BoundCoordinator.complete complete
  simp only [hattempt, hpresence, checkAttempt_eq]
  by_cases hactive : (!c.attempt.active ||
      (c.attempt.state != .awaitingPresence && c.attempt.state != .confirmed)) = true
  · rw [if_pos hactive, if_pos (by rw [hactive, Bool.true_or])]
    rfl
  · rw [if_neg hactive, Bool.eq_false_iff.2 hactive, Bool.false_or]
    cases hm : c.attempt.crypto.matchesAttempt c.attempt.descriptor.attemptId nowMs with
    | false => rfl
    | true =>
      simp only [Bool.not_true, Bool.false_eq_true, if_false, PresenceBinding.canonical]
      rcases c.presence.consumePresence c.attempt.descriptor.attemptId nowMs with
        ⟨_ | _, presence⟩
      · rfl
      · simp only [DeviceSession.openSpans, DeviceSession.openVmk, Bytes.ofList?_self]
        split
        · rfl
        · simp only [SessionPrimitives.toPrimitives]
          rcases prims.openVmk c.attempt.crypto.devicePublicKey c.attempt.webPublicKey
            (hkdfSalt c.attempt.descriptor) c.attempt.transcript nonce ciphertext tag
            c.attempt.transcript with ⟨_ | _, vmk⟩ <;> rfl

theorem toBinding_expire (nowMs : UInt64) :
    c.toBinding.expire .canonical nowMs =
      ((c.expire nowMs).1, (c.expire nowMs).2.toBinding) := by
  have hattempt : c.toBinding.attempt = c.attempt := rfl
  unfold BoundCoordinator.expire expire
  simp only [hattempt, DeviceSession.expireSession]
  cases c.attempt.active with
  | false => rfl
  | true =>
    simp only [Bool.not_true, Bool.false_eq_true, if_false]
    by_cases hcrypto : c.attempt.crypto.active = true ∧ c.attempt.crypto.expiresAtMs ≤ nowMs
    · have hlate : (!c.attempt.crypto.active || decide (nowMs < c.attempt.crypto.expiresAtMs)) =
          false := by
        rw [hcrypto.1, decide_eq_false (UInt64.not_lt.2 hcrypto.2)]
        rfl
      simp only [hlate, Bool.false_eq_true, if_false, Bool.true_or, if_true, if_pos (Or.inl hcrypto)]
      rfl
    · have hlive : (!c.attempt.crypto.active || decide (nowMs < c.attempt.crypto.expiresAtMs)) =
          true := by
        rcases ha : c.attempt.crypto.active with _ | _
        · rfl
        · rw [Bool.not_true, Bool.false_or, decide_eq_true_eq]
          exact UInt64.not_le.1 fun hle => hcrypto ⟨ha, hle⟩
      simp only [hlive, if_true, Bool.false_or, decide_eq_true_eq, hcrypto, false_or]
      split <;> rfl

end AttemptCoordinator

end M5Auth.Session
