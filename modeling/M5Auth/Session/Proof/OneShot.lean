import M5Auth.Session.PresenceBinding

/-!
# One key for one attempt

`afterCalls calls` is the coordinator after any calls, the newest first; between them the user may
leave the presence in any state. The main result is `attempt_one_shot`: a `complete` that releases a
key belongs to the latest `begin` and to the one `authorize` that succeeded since (`Released`); every
other end of an attempt, and this one, leaves the coordinator wiped (`Attempt.Wiped`), so that
nothing succeeds before the next `begin`.

The invariant is `AttemptTracked`: the coordinator is wiped, or it holds what the latest `begin` drew and
what the one successful `authorize` since then bound to it.
-/

namespace M5Auth.Session

open Registration (P256PublicKey)
open Vault (Vmk)

/-! ## Calls -/

/-- The calls on a coordinator, and what the user does to the presence in between. -/
inductive AttemptCall (π : Type) where
  | beginAttempt (context : BeginContext) (nowMs : UInt64) (wanted : Bool)
  | authorize (webPublicKey : P256PublicKey) (signature : List UInt8) (nowMs : UInt64)
  | complete (nonce ciphertext tag : List UInt8) (nowMs : UInt64)
  | cancel
  | expire (nowMs : UInt64)
  | presence (state : π)

/-- Nothing is left of an attempt but its operation code, which `wipe_staged` does not reset. -/
def Attempt.Wiped (a : Attempt) : Prop :=
  a = { context := { operation := a.context.operation } }

section
variable {π : Type}

namespace AttemptCall

variable (binding : PresenceBinding π) (prims : SessionPrimitives) (c : BoundCoordinator π)

/-- The coordinator after a call. -/
def apply : AttemptCall π → BoundCoordinator π
  | .beginAttempt context nowMs wanted => (c.beginAttempt binding prims context nowMs wanted).2
  | .authorize webPublicKey signature nowMs =>
    (c.authorize binding prims webPublicKey signature nowMs).2
  | .complete nonce ciphertext tag nowMs =>
    (c.complete binding prims nonce ciphertext tag nowMs).2.2
  | .cancel => c.cancel binding
  | .expire nowMs => (c.expire binding nowMs).2
  | .presence state => c.withPresence state

/-- The call ends the attempt: a `complete` with any result, a failed `begin` or `authorize`, a
cancel, or an expiry that took place. -/
def ends : AttemptCall π → Bool
  | .beginAttempt context nowMs wanted =>
    (c.beginAttempt binding prims context nowMs wanted).1.isNone
  | .authorize webPublicKey signature nowMs =>
    !(c.authorize binding prims webPublicKey signature nowMs).1
  | .complete .. | .cancel => true
  | .expire nowMs => (c.expire binding nowMs).1
  | .presence _ => false

/-- A call that neither begins, authorizes, completes nor cancels. -/
def passive : AttemptCall π → Bool
  | .expire _ | .presence _ => true
  | _ => false

def begins : AttemptCall π → Bool
  | .beginAttempt .. => true
  | _ => false

end AttemptCall

open AttemptCall

variable (binding : PresenceBinding π) (prims : SessionPrimitives) (start : π)

/-- The coordinator after these calls, the newest first. -/
def afterCalls : List (AttemptCall π) → BoundCoordinator π
  | [] => { presence := start }
  | call :: before => call.apply binding prims (afterCalls before)

/-- The latest `begin` drew `descriptor`, and since then `webPublicKey` and `transcript` were bound
to it by the one `authorize` that was made. -/
def AuthorizedFor (calls : List (AttemptCall π)) (context : BeginContext) (startMs : UInt64)
    (descriptor : AttemptDescriptor) (webPublicKey : P256PublicKey) (transcript : List UInt8) :
    Prop :=
  ∃ later signature nowMs earlier before,
    calls = later ++ .authorize webPublicKey signature nowMs ::
      (earlier ++ .beginAttempt context startMs true :: before) ∧
    (∀ call ∈ later, call.passive = true) ∧ (∀ call ∈ earlier, call.passive = true) ∧
    ((afterCalls binding prims start before).beginAttempt binding prims context startMs true).1 =
      some descriptor ∧
    ((afterCalls binding prims start
        (earlier ++ .beginAttempt context startMs true :: before)).authorize binding prims
      webPublicKey signature nowMs).1 = true ∧
    encodeTranscript prims.importKey context descriptor webPublicKey = some transcript ∧
    (context.operation.signatureRequired = true →
      prims.verifyBrk context.currentBrkPublicKey transcript signature = true)

/-- What the release of a key at `nowMs` proves. -/
def Released (calls : List (AttemptCall π)) (nonce ciphertext tag : List UInt8) (nowMs : UInt64)
    (vmk : Vmk) : Prop :=
  ∃ context startMs descriptor webPublicKey transcript,
    AuthorizedFor binding prims start calls context startMs descriptor webPublicKey transcript ∧
    descriptor.expiresAtMs = deadlineFrom startMs ∧ nowMs < descriptor.expiresAtMs ∧
    (binding.consumePresence descriptor.attemptId nowMs
      (afterCalls binding prims start calls).presence).1 = true ∧
    ∃ nonce' ciphertext' tag', nonce = nonce'.1 ∧ ciphertext = ciphertext'.1 ∧ tag = tag'.1 ∧
      prims.openVmk descriptor.devicePublicKey webPublicKey (hkdfSalt descriptor) transcript nonce'
        ciphertext' tag' transcript = (true, vmk)

/-! ## Wiped coordinators -/

variable {binding prims start}

theorem Attempt.Wiped.inactive {a : Attempt} (h : a.Wiped) : a.active = false := by
  rw [h]

theorem Attempt.Wiped.state {a : Attempt} (h : a.Wiped) : a.state = .idle := by
  rw [h]

/-- A wiped coordinator authorizes nothing. -/
theorem authorize_wiped {c : BoundCoordinator π} (h : c.attempt.Wiped)
    (webPublicKey : P256PublicKey) (signature : List UInt8) (nowMs : UInt64) :
    c.authorize binding prims webPublicKey signature nowMs = (false, c.cancel binding) := by
  simp [BoundCoordinator.authorize, h.inactive]

/-- A wiped coordinator releases nothing. -/
theorem complete_wiped {c : BoundCoordinator π} (h : c.attempt.Wiped)
    (nonce ciphertext tag : List UInt8) (nowMs : UInt64) :
    c.complete binding prims nonce ciphertext tag nowMs =
      (false, Bytes.zero 32, c.cancel binding) := by
  simp [BoundCoordinator.complete, h.inactive]

theorem expire_wiped {c : BoundCoordinator π} (h : c.attempt.Wiped) (nowMs : UInt64) :
    c.expire binding nowMs = (false, c) := by
  simp [BoundCoordinator.expire, h.inactive]

theorem openSpans_session (s : DeviceSession) (webPublicKey : P256PublicKey)
    (salt info nonce ciphertext tag aad : List UInt8) (nowMs : UInt64) :
    (s.openSpans prims webPublicKey salt info nonce ciphertext tag aad nowMs).2.2 = {} := by
  unfold DeviceSession.openSpans
  split
  · split
    · rfl
    · split <;> rfl
  · rfl

/-- Every `complete` leaves the coordinator wiped. -/
theorem complete_wipes (c : BoundCoordinator π) (nonce ciphertext tag : List UInt8)
    (nowMs : UInt64) :
    (c.complete binding prims nonce ciphertext tag nowMs).2.2.attempt.Wiped := by
  unfold BoundCoordinator.complete
  dsimp only
  split
  · rfl
  · split
    · rfl
    · split
      · rfl
      · simp only [openSpans_session]
        rfl

/-- A `complete` that fails leaves the output zero. -/
theorem complete_failed {c c' : BoundCoordinator π} {nonce ciphertext tag : List UInt8}
    {nowMs : UInt64} {vmk : Vmk}
    (h : c.complete binding prims nonce ciphertext tag nowMs = (false, vmk, c')) :
    vmk = Bytes.zero 32 := by
  unfold BoundCoordinator.complete at h
  dsimp only at h
  split at h
  · exact ((Prod.mk.inj (Prod.mk.inj h).2).1).symm
  · split at h
    · exact ((Prod.mk.inj (Prod.mk.inj h).2).1).symm
    · split at h
      · exact ((Prod.mk.inj (Prod.mk.inj h).2).1).symm
      · obtain ⟨hopened, hrest⟩ := Prod.mk.inj h
        obtain ⟨hvmk, -⟩ := Prod.mk.inj hrest
        rw [hopened] at hvmk
        exact hvmk.symm

theorem authorize_failed {c : BoundCoordinator π} {webPublicKey : P256PublicKey}
    {signature : List UInt8} {nowMs : UInt64}
    (h : (c.authorize binding prims webPublicKey signature nowMs).1 = false) :
    (c.authorize binding prims webPublicKey signature nowMs).2.attempt.Wiped := by
  revert h
  unfold BoundCoordinator.authorize
  split
  · exact fun _ => rfl
  · split
    · exact fun _ => rfl
    · split
      · exact fun _ => rfl
      · split
        · exact fun _ => rfl
        · split
          · exact fun _ => rfl
          · intro h
            cases h

theorem begin_failed {c : BoundCoordinator π} {context : BeginContext} {nowMs : UInt64}
    {wanted : Bool} (h : (c.beginAttempt binding prims context nowMs wanted).1 = none) :
    (c.beginAttempt binding prims context nowMs wanted).2.attempt.Wiped := by
  revert h
  unfold BoundCoordinator.beginAttempt
  simp only
  split
  · exact fun _ => rfl
  · unfold DeviceSession.beginSession
    split
    · rename_i hs
      intro _
      split at hs
      · obtain ⟨-, rfl⟩ := Prod.mk.inj hs
        rfl
      · split at hs
        · obtain ⟨-, rfl⟩ := Prod.mk.inj hs
          rfl
        · cases (Prod.mk.inj hs).1
    · intro h
      cases h

theorem expire_ended {c : BoundCoordinator π} {nowMs : UInt64}
    (h : (c.expire binding nowMs).1 = true) : (c.expire binding nowMs).2.attempt.Wiped := by
  revert h
  unfold BoundCoordinator.expire
  split
  · intro h
    cases h
  · split
    split
    · exact fun _ => rfl
    · intro h
      cases h

/-- An expiry that does not take place leaves the attempt. -/
theorem expire_kept {c : BoundCoordinator π} {nowMs : UInt64}
    (h : (c.expire binding nowMs).1 = false) : (c.expire binding nowMs).2.attempt = c.attempt := by
  revert h
  unfold BoundCoordinator.expire DeviceSession.expireSession
  split
  · exact fun _ => rfl
  · by_cases hlive : (!c.attempt.crypto.active || decide (nowMs < c.attempt.crypto.expiresAtMs)) =
        true
    · rw [if_pos hlive]
      dsimp only
      split
      · intro h
        cases h
      · exact fun _ => rfl
    · rw [if_neg hlive]
      intro h
      cases h

/-- What ends an attempt leaves the coordinator wiped. -/
theorem ends_wiped {c : BoundCoordinator π} {call : AttemptCall π}
    (h : call.ends binding prims c = true) : (call.apply binding prims c).attempt.Wiped := by
  cases call with
  | beginAttempt context nowMs wanted => exact begin_failed (Option.isNone_iff_eq_none.1 h)
  | authorize webPublicKey signature nowMs => exact authorize_failed (by simpa [ends] using h)
  | complete nonce ciphertext tag nowMs => exact complete_wipes ..
  | cancel => rfl
  | expire nowMs => exact expire_ended h
  | presence state => cases h

/-- A wiped coordinator stays wiped until the next `begin`. -/
theorem wiped_stays {c : BoundCoordinator π} (hw : c.attempt.Wiped) {call : AttemptCall π}
    (h : call.begins = false) : (call.apply binding prims c).attempt.Wiped := by
  cases call with
  | beginAttempt => cases h
  | authorize webPublicKey signature nowMs =>
    rw [apply, authorize_wiped hw]
    rfl
  | complete nonce ciphertext tag nowMs => exact complete_wipes ..
  | cancel => rfl
  | expire nowMs =>
    rw [apply, expire_wiped hw]
    exact hw
  | presence state => exact hw

/-! ## The invariant -/

variable (binding prims start) in
/-- The coordinator holds what the latest `begin` drew, and once authorized also the peer key and
the transcript that the one `authorize` since then bound to it. -/
structure AttemptTracks (calls : List (AttemptCall π)) (a : Attempt) (context : BeginContext)
    (startMs : UInt64) (descriptor : AttemptDescriptor) : Prop where
  context_eq : a.context = context
  descriptor_eq : a.descriptor = descriptor
  session : a.crypto.attemptId = descriptor.attemptId ∧
    a.crypto.devicePublicKey = descriptor.devicePublicKey ∧
    a.crypto.expiresAtMs = descriptor.expiresAtMs ∧ a.crypto.active = true
  deadline : descriptor.expiresAtMs = deadlineFrom startMs
  unconfirmed : a.state ≠ .confirmed
  awaiting : a.state = .awaitingAuthorization → ∃ since before,
    calls = since ++ .beginAttempt context startMs true :: before ∧
      (∀ call ∈ since, call.passive = true) ∧
      ((afterCalls binding prims start before).beginAttempt binding prims context startMs true).1 =
        some descriptor
  authorized : a.state = .awaitingPresence →
    AuthorizedFor binding prims start calls context startMs descriptor a.webPublicKey a.transcript

variable (binding prims start) in
/-- The coordinator is wiped, or it tracks the latest `begin`. -/
def AttemptTracked (calls : List (AttemptCall π)) : Prop :=
  (afterCalls binding prims start calls).attempt.Wiped ∨
    ∃ context startMs descriptor,
      AttemptTracks binding prims start calls (afterCalls binding prims start calls).attempt context
        startMs descriptor

section
variable {calls : List (AttemptCall π)} {a : Attempt} {context : BeginContext} {startMs : UInt64}
  {descriptor : AttemptDescriptor}

/-- A passive call that leaves the attempt as it is. -/
theorem AttemptTracks.passive (h : AttemptTracks binding prims start calls a context startMs descriptor)
    {call : AttemptCall π} (hc : call.passive = true) :
    AttemptTracks binding prims start (call :: calls) a context startMs descriptor where
  context_eq := h.context_eq
  descriptor_eq := h.descriptor_eq
  session := h.session
  deadline := h.deadline
  unconfirmed := h.unconfirmed
  awaiting hs := by
    obtain ⟨since, before, rfl, hpassive, hbegin⟩ := h.awaiting hs
    refine ⟨call :: since, before, rfl, ?_, hbegin⟩
    intro d hd
    rcases List.mem_cons.1 hd with rfl | hd
    · exact hc
    · exact hpassive d hd
  authorized hs := by
    obtain ⟨later, signature, nowMs, earlier, before, rfl, hlater, hrest⟩ := h.authorized hs
    refine ⟨call :: later, signature, nowMs, earlier, before, rfl, ?_, hrest⟩
    intro d hd
    rcases List.mem_cons.1 hd with rfl | hd
    · exact hc
    · exact hlater d hd

end

/-- A `begin` that succeeds starts an attempt that is tracked. -/
theorem begin_tracks {c : BoundCoordinator π} {context : BeginContext} {nowMs : UInt64}
    {wanted : Bool} {descriptor : AttemptDescriptor} {c' : BoundCoordinator π}
    (h : c.beginAttempt binding prims context nowMs wanted = (some descriptor, c')) :
    wanted = true ∧ descriptor.expiresAtMs = deadlineFrom nowMs ∧ ∃ crypto : DeviceSession,
      (crypto.attemptId = descriptor.attemptId ∧
        crypto.devicePublicKey = descriptor.devicePublicKey ∧
        crypto.expiresAtMs = descriptor.expiresAtMs ∧ crypto.active = true) ∧
      c'.attempt =
        { crypto, context, descriptor, active := true, state := .awaitingAuthorization } := by
  unfold BoundCoordinator.beginAttempt at h
  dsimp only at h
  split at h
  · cases (Prod.mk.inj h).1
  · rename_i hguard
    have hwanted : wanted = true := by
      rcases wanted with _ | _
      · exact absurd rfl hguard
      · rfl
    unfold DeviceSession.beginSession at h
    split at h
    · cases (Prod.mk.inj h).1
    · rename_i crypto hs
      split at hs
      · cases (Prod.mk.inj hs).1
      · split at hs
        · cases (Prod.mk.inj hs).1
        · obtain ⟨hd, rfl⟩ := Prod.mk.inj hs
          obtain ⟨hd', rfl⟩ := Prod.mk.inj h
          obtain rfl := Option.some.inj hd
          obtain rfl := Option.some.inj hd'
          exact ⟨hwanted, rfl, _, ⟨rfl, rfl, rfl, rfl⟩, rfl⟩

/-- The signature check leaves the coordinator as it was if it accepts, and a required signature is
then verified under the context's current BRK. -/
theorem checkSignature_accepted {c c' : BoundCoordinator π} {transcript signature : List UInt8}
    {nowMs : UInt64} (h : c.checkSignature prims transcript signature nowMs = (true, c')) :
    c' = c ∧ (c.attempt.context.operation.signatureRequired = true →
      prims.verifyBrk c.attempt.context.currentBrkPublicKey transcript signature = true) := by
  have hsession : ∀ crypto, c.attempt.crypto.checkSignature prims
      c.attempt.context.currentBrkPublicKey transcript signature nowMs = (true, crypto) →
      crypto = c.attempt.crypto ∧
        prims.verifyBrk c.attempt.context.currentBrkPublicKey transcript signature = true := by
    intro crypto hs
    unfold DeviceSession.checkSignature at hs
    split at hs
    · cases (Prod.mk.inj hs).1
    · rename_i hguard
      simp only [Bool.or_eq_true, Bool.not_eq_true', not_or, Bool.not_eq_false] at hguard
      exact ⟨(Prod.mk.inj hs).2.symm, hguard.2⟩
  have hsame : ∀ crypto, crypto = c.attempt.crypto → c.withCrypto crypto = c := by
    rintro _ rfl
    rfl
  unfold BoundCoordinator.checkSignature at h
  dsimp only at h
  split at h
  · split at h
    · cases (Prod.mk.inj h).1
    · rcases hs : c.attempt.crypto.checkSignature prims c.attempt.context.currentBrkPublicKey
        transcript signature nowMs with ⟨accepted, crypto⟩
      rw [hs] at h
      obtain ⟨rfl, rfl⟩ := Prod.mk.inj h
      obtain ⟨hcrypto, hverify⟩ := hsession crypto hs
      exact ⟨hsame crypto hcrypto, fun _ => hverify⟩
  · rename_i hreq
    split at h
    · exact ⟨(Prod.mk.inj h).2.symm, fun hr => absurd hr hreq⟩
    · split at h
      · cases (Prod.mk.inj h).1
      · rcases hs : c.attempt.crypto.checkSignature prims c.attempt.context.currentBrkPublicKey
          transcript signature nowMs with ⟨accepted, crypto⟩
        rw [hs] at h
        obtain ⟨rfl, rfl⟩ := Prod.mk.inj h
        exact ⟨hsame crypto (hsession crypto hs).1, fun hr => absurd hr hreq⟩

/-- An `authorize` that succeeds binds the peer key and the transcript to the attempt. -/
theorem authorize_accepted {c c' : BoundCoordinator π} {webPublicKey : P256PublicKey}
    {signature : List UInt8} {nowMs : UInt64}
    (h : c.authorize binding prims webPublicKey signature nowMs = (true, c')) :
    c.attempt.state = .awaitingAuthorization ∧ ∃ transcript,
      encodeTranscript prims.importKey c.attempt.context c.attempt.descriptor webPublicKey =
        some transcript ∧
      (c.attempt.context.operation.signatureRequired = true →
        prims.verifyBrk c.attempt.context.currentBrkPublicKey transcript signature = true) ∧
      c'.attempt = { c.attempt with webPublicKey, transcript, state := .awaitingPresence } := by
  unfold BoundCoordinator.authorize at h
  split at h
  · cases (Prod.mk.inj h).1
  · rename_i hguard
    have hstate : c.attempt.state = .awaitingAuthorization := by
      simp only [Bool.or_eq_true, bne_iff_ne, ne_eq, not_or, Decidable.not_not] at hguard
      exact hguard.2
    split at h
    · cases (Prod.mk.inj h).1
    · split at h
      · cases (Prod.mk.inj h).1
      · rename_i transcript htranscript
        split at h
        · cases (Prod.mk.inj h).1
        · rename_i checked hchecked
          obtain ⟨rfl, hverify⟩ := checkSignature_accepted hchecked
          split at h
          · cases (Prod.mk.inj h).1
          · obtain ⟨-, rfl⟩ := Prod.mk.inj h
            exact ⟨hstate, transcript, htranscript, hverify, rfl⟩

/-- **The coordinator is wiped or tracks the latest `begin`.** -/
theorem tracked_calls (calls : List (AttemptCall π)) :
    AttemptTracked binding prims start calls := by
  induction calls with
  | nil => exact .inl rfl
  | cons call calls ih =>
    by_cases hends : call.ends binding prims (afterCalls binding prims start calls) = true
    · exact .inl (ends_wiped hends)
    cases call with
    | beginAttempt context nowMs wanted =>
      right
      rcases hb : (afterCalls binding prims start calls).beginAttempt binding prims context nowMs
        wanted with ⟨_ | descriptor, c'⟩
      · simp [ends, hb] at hends
      · obtain ⟨rfl, hdeadline, crypto, hcrypto, hattempt⟩ := begin_tracks hb
        refine ⟨context, nowMs, descriptor, ?_⟩
        have hafter : (afterCalls binding prims start
            (.beginAttempt context nowMs true :: calls)).attempt = c'.attempt := by
          rw [afterCalls, apply, hb]
        rw [hafter, hattempt]
        exact
          { context_eq := rfl, descriptor_eq := rfl, session := hcrypto, deadline := hdeadline
            unconfirmed := by simp
            awaiting := fun _ => ⟨[], calls, rfl, by simp, by rw [hb]⟩
            authorized := by simp }
    | authorize webPublicKey signature nowMs =>
      rcases ih with hwiped | ⟨context, startMs, descriptor, h⟩
      · exact .inl (wiped_stays hwiped rfl)
      · right
        rcases ha : (afterCalls binding prims start calls).authorize binding prims webPublicKey
          signature nowMs with ⟨_ | _, c'⟩
        · simp [ends, ha] at hends
        · obtain ⟨hstate, transcript, htranscript, hverify, hattempt⟩ := authorize_accepted ha
          have hafter : (afterCalls binding prims start
              (.authorize webPublicKey signature nowMs :: calls)).attempt = c'.attempt := by
            rw [afterCalls, apply, ha]
          rw [h.context_eq] at htranscript hverify
          rw [h.descriptor_eq] at htranscript
          refine ⟨context, startMs, descriptor, ?_⟩
          rw [hafter, hattempt]
          obtain ⟨since, before, hsplit, hpassive, hbegin⟩ := h.awaiting hstate
          refine
            { context_eq := h.context_eq, descriptor_eq := h.descriptor_eq, session := h.session
              deadline := h.deadline, unconfirmed := by simp, awaiting := by simp
              authorized := fun _ => ⟨[], signature, nowMs, since, before, ?_, by simp, hpassive,
                hbegin, ?_, htranscript, hverify⟩ }
          · rw [List.nil_append, hsplit]
          · rw [← hsplit, ha]
    | complete nonce ciphertext tag nowMs => exact absurd rfl hends
    | cancel => exact absurd rfl hends
    | expire nowMs =>
      rcases ih with hwiped | ⟨context, startMs, descriptor, h⟩
      · exact .inl (wiped_stays hwiped rfl)
      · right
        refine ⟨context, startMs, descriptor, ?_⟩
        have hattempt : (afterCalls binding prims start (.expire nowMs :: calls)).attempt =
            (afterCalls binding prims start calls).attempt := by
          rw [afterCalls, apply]
          exact expire_kept (by simpa [ends] using hends)
        rw [hattempt]
        exact h.passive rfl
    | presence state =>
      rcases ih with hwiped | ⟨context, startMs, descriptor, h⟩
      · exact .inl hwiped
      · exact .inr ⟨context, startMs, descriptor, h.passive rfl⟩

/-! ## What a release proves -/

theorem openSpans_opened {s session : DeviceSession} {webPublicKey : P256PublicKey}
    {salt info nonce ciphertext tag aad : List UInt8} {nowMs : UInt64} {vmk : Vmk}
    (h : s.openSpans prims webPublicKey salt info nonce ciphertext tag aad nowMs =
      (true, vmk, session)) :
    nowMs < s.expiresAtMs ∧ ∃ nonce' ciphertext' tag', nonce = nonce'.1 ∧
      ciphertext = ciphertext'.1 ∧ tag = tag'.1 ∧
      prims.openVmk s.devicePublicKey webPublicKey salt info nonce' ciphertext' tag' aad =
        (true, vmk) := by
  unfold DeviceSession.openSpans at h
  split at h
  · rename_i nonce' ciphertext' tag' hn hc ht
    split at h
    · cases (Prod.mk.inj h).1
    · rename_i hguard
      have hlive : s.isActive nowMs = true := by
        simp only [Bool.or_eq_true, Bool.not_eq_true', not_or, Bool.not_eq_false] at hguard
        exact hguard.1.1.1.1
      have htime : nowMs < s.expiresAtMs := by
        simp only [DeviceSession.isActive, Bool.and_eq_true, decide_eq_true_eq] at hlive
        exact hlive.2
      split at h
      · rename_i opened hopen
        obtain ⟨rfl, -⟩ := Prod.mk.inj (Prod.mk.inj h).2
        exact ⟨htime, nonce', ciphertext', tag', Bytes.ofList?_eq_some.1 hn,
          Bytes.ofList?_eq_some.1 hc, Bytes.ofList?_eq_some.1 ht, hopen⟩
      · cases (Prod.mk.inj h).1
  · cases (Prod.mk.inj h).1

theorem complete_released {calls : List (AttemptCall π)} {nonce ciphertext tag : List UInt8}
    {nowMs : UInt64} {vmk : Vmk} {c' : BoundCoordinator π}
    (h : (afterCalls binding prims start calls).complete binding prims nonce ciphertext tag nowMs =
      (true, vmk, c')) : Released binding prims start calls nonce ciphertext tag nowMs vmk := by
  have htracked : AttemptTracked binding prims start calls := tracked_calls calls
  rcases htracked with hwiped | ⟨context, startMs, descriptor, ht⟩
  · rw [complete_wiped hwiped] at h
    cases (Prod.mk.inj h).1
  · unfold BoundCoordinator.complete at h
    dsimp only at h
    split at h
    · cases (Prod.mk.inj h).1
    · rename_i hguard
      have hstate : (afterCalls binding prims start calls).attempt.state = .awaitingPresence := by
        simp only [Bool.or_eq_true, Bool.and_eq_true, bne_iff_ne, ne_eq, not_or, not_and,
          Decidable.not_not] at hguard
        by_contra hs
        exact ht.unconfirmed (hguard.2 hs)
      split at h
      · cases (Prod.mk.inj h).1
      · split at h
        · cases (Prod.mk.inj h).1
        · rename_i presence hpresence
          rcases hopen : (afterCalls binding prims start calls).attempt.crypto.openSpans prims
            (afterCalls binding prims start calls).attempt.webPublicKey
            (hkdfSalt (afterCalls binding prims start calls).attempt.descriptor)
            (afterCalls binding prims start calls).attempt.transcript nonce ciphertext tag
            (afterCalls binding prims start calls).attempt.transcript nowMs with
            ⟨opened, key, session⟩
          rw [hopen] at h
          obtain ⟨rfl, hrest⟩ := Prod.mk.inj h
          obtain ⟨rfl, -⟩ := Prod.mk.inj hrest
          obtain ⟨htime, nonce', ciphertext', tag', hn, hc, htag, hkey⟩ := openSpans_opened hopen
          obtain ⟨-, hdevice, hexpires, -⟩ := ht.session
          rw [ht.descriptor_eq] at hpresence hkey
          rw [hexpires] at htime
          rw [hdevice] at hkey
          exact ⟨context, startMs, descriptor, _, _, ht.authorized hstate, ht.deadline, htime,
            by rw [hpresence], nonce', ciphertext', tag', hn, hc, htag, hkey⟩

variable (binding prims start) in
/-- **An attempt releases at most one key and leaves nothing behind.** After any calls: a release is
`Released`; a `complete` that releases nothing leaves the output zero; whatever ends the attempt
leaves the coordinator wiped; and a wiped one authorizes nothing, releases nothing and stays wiped
until the next `begin`. -/
theorem attempt_one_shot (calls : List (AttemptCall π)) :
    (∀ nonce ciphertext tag nowMs vmk c',
      (afterCalls binding prims start calls).complete binding prims nonce ciphertext tag nowMs =
        (true, vmk, c') → Released binding prims start calls nonce ciphertext tag nowMs vmk) ∧
    (∀ nonce ciphertext tag nowMs vmk c',
      (afterCalls binding prims start calls).complete binding prims nonce ciphertext tag nowMs =
        (false, vmk, c') → vmk = Bytes.zero 32) ∧
    (∀ call : AttemptCall π, call.ends binding prims (afterCalls binding prims start calls) = true →
      (afterCalls binding prims start (call :: calls)).attempt.Wiped) ∧
    ((afterCalls binding prims start calls).attempt.Wiped →
      (∀ webPublicKey signature nowMs, ((afterCalls binding prims start calls).authorize binding
        prims webPublicKey signature nowMs).1 = false) ∧
      (∀ nonce ciphertext tag nowMs, ((afterCalls binding prims start calls).complete binding prims
        nonce ciphertext tag nowMs).1 = false) ∧
      ∀ call : AttemptCall π, call.begins = false →
        (afterCalls binding prims start (call :: calls)).attempt.Wiped) := by
  refine ⟨fun _ _ _ _ _ _ => complete_released, fun _ _ _ _ _ _ => complete_failed,
    fun _ => ends_wiped, fun hwiped => ⟨?_, ?_, fun _ => wiped_stays hwiped⟩⟩
  · intro webPublicKey signature nowMs
    rw [authorize_wiped hwiped]
  · intro nonce ciphertext tag nowMs
    rw [complete_wiped hwiped]

end

/-! ## A release -/

/-- A presence that is confirmed or not. -/
def plainBinding : PresenceBinding Bool where
  beginPresence _ _ _ _ := (true, false)
  consumePresence _ _ confirmed := (confirmed, false)
  cancelPresence _ := false
  presenceConfirmed confirmed := confirmed

/-- An uncompressed public key with zero coordinates. -/
def plainKey : P256PublicKey := ⟨0x04 :: List.replicate 64 0, by simp⟩

/-- A library that accepts every key and signature and opens every ciphertext to itself. -/
def plainPrimitives : SessionPrimitives where
  importKey _ := true
  verifyBrk _ _ _ := true
  openVmk _ _ _ _ _ ciphertext _ _ := (true, ciphertext)
  material _ := some { attemptId := Bytes.zero 16, challenge := Bytes.zero 32,
                       devicePublicKey := plainKey }

/-- Begin, authorize, confirm. -/
def plainCalls : List (AttemptCall Bool) :=
  [.presence true, .authorize plainKey [] 20,
    .beginAttempt
      { operation := .initialProvisioning, deviceId := ascii "A"
        registrationId := ⟨List.replicate 16 1, by simp⟩, proposedBrkPublicKey := plainKey } 10 true]

theorem released_eta {α β : Type} {x : Bool × α × β} (h : x.1 = true) :
    x = (true, x.2.1, x.2.2) :=
  Prod.ext h rfl

/-- A confirmed initial provisioning releases the delivered key. -/
theorem attempt_one_shot_release :
    Released plainBinding plainPrimitives false plainCalls (List.replicate 12 0)
      (List.replicate 32 7) (List.replicate 16 0) 30
      ((afterCalls plainBinding plainPrimitives false plainCalls).complete plainBinding
        plainPrimitives (List.replicate 12 0) (List.replicate 32 7) (List.replicate 16 0) 30).2.1 :=
  (attempt_one_shot plainBinding plainPrimitives false plainCalls).1 _ _ _ _ _ _
    (released_eta (by decide +kernel))

end M5Auth.Session
