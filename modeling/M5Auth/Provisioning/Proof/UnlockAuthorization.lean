import M5Auth.Provisioning.Proof.BindingCases
import M5Auth.Provisioning.Proof.Origins
import M5Auth.VaultRuntime.Proof.ResetPermission
import M5Auth.VaultRuntime.Proof.SessionSteps

/-!
# Only an authorized attempt unlocks

`AuthorizedKey` is the history of a Vault master key: an attempt was begun for a context that
matched the Device (`Bound`, the comparison of `session_v2_begin_matches_snapshot`), authorized by
the browser over the transcript of that attempt, confirmed by the user at the button, and completed
with the delivery of the key; at authorize and at complete the context matched the Device again.
`unlock_authorized`: in every run from power-on, a step that unlocks the Device or puts a key in
force is `session.complete`, `vault.install` or `vault.rekey`, and its key has such a history.
-/

namespace M5Auth.Provisioning.Device

open Registration (P256PublicKey)
open Session (AttemptDescriptor BeginContext authorizedAttempt startedAttempt)
open Vault (Vmk)
open VaultRuntime (Runtime)
open Run (StepAt Since stateAt since)

variable {σ : Type} {env : Env σ} {d d' : Device σ}

/-! ## The events of a history -/

/-- An attempt: its context, what the Device drew for it, and what the browser bound to it. -/
structure AttemptRecord where
  context : BeginContext
  descriptor : AttemptDescriptor
  webPublicKey : P256PublicKey
  transcript : List UInt8

namespace AttemptRecord

variable (env) (r : AttemptRecord)

/-- `session.begin` starts the attempt, for a context that matches the Device. -/
def Begins : Device σ → Input → Device σ → Prop :=
  Requests env fun h frame _ d' => frame.operation = .session .sessionBegin ∧
    parseBeginContext frame.params = some r.context ∧ h.Bound r.context ∧
    d'.coordinator.attempt = startedAttempt r.context r.descriptor

/-- `session.authorize` binds the browser's key to the transcript of the attempt, whose context still
matches the Device. An operation that requires a signature carries one that verifies under the
registered BRK. -/
def Authorizes : Device σ → Input → Device σ → Prop :=
  Requests env fun h frame _ d' => frame.operation = .session .authorize ∧
    h.Bound r.context ∧ h.coordinator.attempt = startedAttempt r.context r.descriptor ∧
    Session.encodeTranscript env.prims.importKey r.context r.descriptor r.webPublicKey =
      some r.transcript ∧
    (∃ signature,
      parseAuthorize frame.params = some ⟨r.descriptor.attemptId, r.webPublicKey, signature⟩ ∧
      (r.context.operation.signatureRequired = true → env.prims.verifyBrk
        h.registration.snapshot.brkPublicKey r.transcript signature = true)) ∧
    d'.coordinator.attempt =
      authorizedAttempt r.context r.descriptor r.webPublicKey r.transcript ∧
    d'.presence.gate.state = .awaiting ∧
    d'.presence.gate.attemptId = r.descriptor.attemptId ∧
    d'.presence.gate.operation = r.context.operation.presenceOperation

/-- The button confirms the request of the attempt. -/
def Confirms (d : Device σ) (i : Input) (d' : Device σ) : Prop :=
  (∃ nowMs, i = .buttonPressed nowMs) ∧ d.presence.gate.state = .awaiting ∧
    d.presence.gate.attemptId = r.descriptor.attemptId ∧
    d.presence.gate.operation = r.context.operation.presenceOperation ∧
    d'.presence.gate.state = .confirmed

/-- `session.complete` uses the confirmation up and opens the delivered key; the context of the
attempt still matches the Device. -/
def Completes (vmk : Vmk) : Device σ → Input → Device σ → Prop :=
  Requests env fun h frame m d' => frame.operation = .session .complete ∧ h.Bound r.context ∧
    h.coordinator.attempt =
      authorizedAttempt r.context r.descriptor r.webPublicKey r.transcript ∧
    (∃ request, parseComplete frame.params = some request ∧
      request.attemptId = r.descriptor.attemptId ∧
      env.prims.openVmk r.descriptor.devicePublicKey r.webPublicKey
        (Session.hkdfSalt r.descriptor) r.transcript request.nonce request.ciphertext request.tag
        r.transcript = some vmk) ∧
    h.presence.gate.state = .confirmed ∧ h.presence.gate.attemptId = r.descriptor.attemptId ∧
    m.nowMs < h.presence.gate.expiresAtMs ∧
    d'.presence.gate.state = .idle ∧ d'.coordinator.attempt.active = false

/-- The attempt is the one of the Device, and authorized. -/
def Authorized (d : Device σ) : Prop :=
  d.coordinator.attempt = authorizedAttempt r.context r.descriptor r.webPublicKey r.transcript

end AttemptRecord

/-- **The history of a key**: step `c` of the run delivers `vmk`, out of the attempt that step `b`
began and step `a` authorized, and that the user confirmed in step `p`. From `b` to `c` the attempt
was never replaced, and from `p` to `c` its confirmation was the one of the gate. -/
structure AuthorizedKey (env : Env σ) (d₀ : Device σ) (inp : Nat → Input) (r : AttemptRecord)
    (vmk : Vmk) (b a p c : Nat) : Prop where
  order : b < a ∧ a < p ∧ p < c
  begun : StepAt (step env) d₀ inp (r.Begins env) b
  authorized : StepAt (step env) d₀ inp (r.Authorizes env) a
  confirmed : StepAt (step env) d₀ inp r.Confirms p
  completed : StepAt (step env) d₀ inp (r.Completes env vmk) c
  started : ∀ k, b < k → k ≤ a →
    (stateAt (step env) d₀ inp k).coordinator.attempt = startedAttempt r.context r.descriptor
  same : ∀ k, a < k → k ≤ c → r.Authorized (stateAt (step env) d₀ inp k)
  fresh : ∀ k, p < k → k ≤ c →
    (stateAt (step env) d₀ inp k).presence.gate.state = .confirmed ∧
    (stateAt (step env) d₀ inp k).presence.gate.attemptId = r.descriptor.attemptId

/-! ## The steps of a history -/

theorem completes_of_completed {vmk : Vmk} {m : Moment} {frame : Frame} (hi : AuthInv d)
    (h : SessionCompleted env d frame m vmk d') : ∃ r : AttemptRecord,
    r.Authorized d ∧ d.context = r.context ∧ d.Bound r.context ∧
    ∃ request, parseComplete frame.params = some request ∧
      request.attemptId = r.descriptor.attemptId ∧
      env.prims.openVmk r.descriptor.devicePublicKey r.webPublicKey
        (Session.hkdfSalt r.descriptor) r.transcript request.nonce request.ciphertext request.tag
        r.transcript = some vmk := by
  obtain ⟨context, descriptor, webPublicKey, transcript, he⟩ := hi.authorizedOf h.active.1 h.active.2
  have hctx := hi.context h.active.1 h.bound.1
  obtain ⟨request, hparse, hid, hopen⟩ := h.opened
  rw [he] at hid hopen hctx
  refine ⟨⟨context, descriptor, webPublicKey, transcript⟩, he, hctx.symm, ?_, request, hparse,
    hid, hopen⟩
  rw [show context = d.context from hctx]
  exact h.bound.2

/-- An attempt is authorized by `session.authorize` only. -/
theorem authorized_origin {r : AttemptRecord} (hi : AuthInv d) (i : Input)
    (h : r.Authorized (d.step env i)) :
    r.Authorizes env d i (d.step env i) ∨ r.Authorized d := by
  have hact : (d.step env i).coordinator.attempt.active = true := by rw [h]; rfl
  rcases attempt_origin env d i hact with he | ⟨context, descriptor, _, _, _, _, _, hb⟩ |
    ⟨webPublicKey, transcript, signature, ha⟩
  · right
    rw [AttemptRecord.Authorized, ← he]
    exact h
  · have hne := hb.attempt
    rw [h] at hne
    cases congrArg Session.Attempt.state hne
  · left
    refine ha.mono fun m frame hq ha => ?_
    have hih := hi.quiet hq
    obtain ⟨context, descriptor, he⟩ := hih.started ha.active.1 ha.active.2
    have hctx := hih.context ha.active.1 ha.bound.1
    have hbound := ha.bound.2
    rw [← hctx] at hbound
    have hatt : authorizedAttempt context descriptor webPublicKey transcript =
        authorizedAttempt r.context r.descriptor r.webPublicKey r.transcript := by
      rw [← h, ha.attempt, he]
      rfl
    simp only [authorizedAttempt, startedAttempt, Session.Attempt.mk.injEq] at hatt
    obtain ⟨_, rfl, rfl, rfl, rfl, _⟩ := hatt
    obtain ⟨generation, hgate⟩ := ha.gate
    have hreq := ha.request
    have henc := ha.encoded
    have hsig := ha.signed
    rw [he] at hreq henc hsig hgate hbound
    refine ⟨ha.operation, hbound, he, henc, ⟨signature, hreq, fun hs => ?_⟩, h, ?_, ?_, ?_⟩
    · rw [← (hbound.describedBy.registered hs).2.2.2]
      exact hsig hs
    · rw [hgate]
      rfl
    · rw [hgate]
      rfl
    · rw [hgate]
      rfl

/-- An attempt is started by `session.begin` only. -/
theorem started_origin {r : AttemptRecord} (i : Input)
    (h : (d.step env i).coordinator.attempt = startedAttempt r.context r.descriptor) :
    r.Begins env d i (d.step env i) ∨
      d.coordinator.attempt = startedAttempt r.context r.descriptor := by
  have hact : (d.step env i).coordinator.attempt.active = true := by rw [h]; rfl
  rcases attempt_origin env d i hact with he | ⟨context, descriptor, hb⟩ |
    ⟨webPublicKey, transcript, signature, _, _, _, _, _, ha⟩
  · exact .inr (he ▸ h)
  · left
    refine hb.mono fun m frame hq hb => ?_
    have hatt := hb.attempt
    rw [h] at hatt
    simp only [startedAttempt, Session.Attempt.mk.injEq] at hatt
    obtain ⟨_, hctx, hdesc, _⟩ := hatt
    rw [← hctx] at hb
    exact ⟨hb.operation, hb.parsed, hb.bound, h⟩
  · have hne := ha.attempt
    rw [h] at hne
    cases congrArg Session.Attempt.state hne

/-- The gate holds the confirmation of the attempt. -/
def AttemptRecord.Fresh (r : AttemptRecord) (d : Device σ) : Prop :=
  d.presence.gate.state = .confirmed ∧ d.presence.gate.attemptId = r.descriptor.attemptId ∧
    d.presence.gate.operation = r.context.operation.presenceOperation

/-- The attempt is confirmed at the button only. -/
theorem fresh_origin {r : AttemptRecord} (i : Input) (h : r.Fresh (d.step env i)) :
    r.Confirms d i (d.step env i) ∨ r.Fresh d := by
  obtain ⟨hst, hid, hop⟩ := h
  have hkept := confirmed_origin env d i hst
  rw [hkept.attemptId] at hid
  rw [hkept.operation] at hop
  rcases hkept.state with he | ⟨ha, hc, hbutton⟩
  · exact .inr ⟨he ▸ hst, hid, hop⟩
  · exact .inl ⟨hbutton, ha, hid, hop, hc⟩

/-! ## The history of a key -/

section
variable (storage : σ) (nvs : Registration.Nvs) (candidate : Registration.DeviceIdCandidate)
  (inp : Nat → Input)

variable (env) in
theorem authInv_stateAt (n : Nat) :
    AuthInv (stateAt (step env) (boot env storage nvs candidate) inp n) :=
  Run.stateAt_inv (.of_idle (idle_boot env storage nvs candidate)) (fun _ i hi => hi.step i) n

/-- An attempt that holds an authorized record started before and was authorized since. -/
theorem authorized_history {r : AttemptRecord} {n : Nat}
    (h : r.Authorized (stateAt (step env) (boot env storage nvs candidate) inp n)) :
    ∃ b a, b < a ∧ a < n ∧
      StepAt (step env) (boot env storage nvs candidate) inp (r.Begins env) b ∧
      StepAt (step env) (boot env storage nvs candidate) inp (r.Authorizes env) a ∧
      (∀ k, b < k → k ≤ a → (stateAt (step env) (boot env storage nvs candidate) inp
        k).coordinator.attempt = startedAttempt r.context r.descriptor) ∧
      ∀ k, a < k → k ≤ n →
        r.Authorized (stateAt (step env) (boot env storage nvs candidate) inp k) := by
  have hinv := authInv_stateAt env storage nvs candidate inp
  obtain ⟨a, ha⟩ := since (A := r.Authorized) (C := fun _ _ => True) (B := r.Authorizes env)
    (Q := fun _ _ _ => True) (fun h0 => by
      have hact := congrArg Session.Attempt.active h0
      cases hact) hinv
    (fun s i hi _ hs => (authorized_origin hi i hs).imp_right fun h => ⟨h, trivial⟩)
    (fun _ _ => trivial) h
  -- the attempt that step `a` authorized was already there before its housekeeping
  have hstarted : (stateAt (step env) (boot env storage nvs candidate) inp
      a).coordinator.attempt = startedAttempt r.context r.descriptor := by
    obtain ⟨line, m, frame, hi, hacc, _, _, he, _⟩ := ha.begun
    have hq : Quiet env _ ((stateAt (step env) (boot env storage nvs candidate) inp
      a).housekeeping m.nowMs) := quiet_housekeeping env _ m.nowMs
    have hact := hq.attempt (by rw [he]; rfl)
    rw [← hact, he]
  obtain ⟨b, hb⟩ := since (A := fun d : Device σ =>
      d.coordinator.attempt = startedAttempt r.context r.descriptor) (C := fun _ _ => True)
    (B := r.Begins env) (Q := fun _ _ _ => True) (fun h0 => by
      have hact := congrArg Session.Attempt.active h0
      cases hact) hinv
    (fun s i _ _ hs => (started_origin i hs).imp_right fun h => ⟨h, trivial⟩)
    (fun _ _ => trivial) hstarted
  exact ⟨b, a, hb.before, ha.before, hb.begun, ha.begun, hb.held, ha.held⟩

/-- A confirmation that the gate holds for an attempt was given after the attempt's authorize. -/
theorem fresh_history {r : AttemptRecord} {a c : Nat} (hac : a < c)
    (ha : StepAt (step env) (boot env storage nvs candidate) inp (r.Authorizes env) a)
    (h : r.Fresh (stateAt (step env) (boot env storage nvs candidate) inp c)) :
    ∃ p, a < p ∧ p < c ∧
      StepAt (step env) (boot env storage nvs candidate) inp r.Confirms p ∧
      ∀ k, p < k → k ≤ c →
        r.Fresh (stateAt (step env) (boot env storage nvs candidate) inp k) := by
  have hinv := authInv_stateAt env storage nvs candidate inp
  obtain ⟨p, hp⟩ := since (A := r.Fresh) (C := fun _ _ => True) (B := r.Confirms)
    (Q := fun _ _ _ => True) (fun h0 => by cases h0.1) hinv
    (fun s i _ _ hs => (fresh_origin i hs).imp_right fun h => ⟨h, trivial⟩)
    (fun _ _ => trivial) h
  refine ⟨p, ?_, hp.before, hp.begun, hp.held⟩
  -- right after its authorize the gate still waits for the user
  obtain ⟨_, _, _, _, _, _, _, _, _, _, _, hawaiting, _⟩ := ha
  by_contra hle
  have hfresh := (hp.held (a + 1) (by omega) (by omega)).1
  rw [hfresh] at hawaiting
  cases hawaiting

/-- A completed attempt has the history of its key. -/
theorem completed_history {vmk : Vmk} {c : Nat}
    (h : StepAt (step env) (boot env storage nvs candidate) inp
      (Requests env fun h frame m d' => SessionCompleted env h frame m vmk d') c) :
    ∃ r b a p, AuthorizedKey env (boot env storage nvs candidate) inp r vmk b a p c ∧
      ∃ line m frame, inp c = .line line m ∧ Accepted env line frame ∧
        SessionCompleted env
          ((stateAt (step env) (boot env storage nvs candidate) inp c).housekeeping m.nowMs)
          frame m vmk (stateAt (step env) (boot env storage nvs candidate) inp (c + 1)) ∧
        ((stateAt (step env) (boot env storage nvs candidate) inp c).housekeeping
          m.nowMs).context = r.context := by
  obtain ⟨line, m, frame, hi, hacc, hc⟩ := h
  have hinv := authInv_stateAt env storage nvs candidate inp c
  have hq : Quiet env _ ((stateAt (step env) (boot env storage nvs candidate) inp
    c).housekeeping m.nowMs) := quiet_housekeeping env _ m.nowMs
  have hinv' := hinv.quiet hq
  obtain ⟨r, hatt, hctx, hbound, hopen⟩ := completes_of_completed hinv' hc
  -- the attempt and the confirmation were already there before the housekeeping
  have hatt₀ : r.Authorized (stateAt (step env) (boot env storage nvs candidate) inp c) := by
    have he := hq.attempt (by rw [hatt]; rfl)
    rw [AttemptRecord.Authorized, ← he]
    exact hatt
  have hgate := hq.gate (by rw [hc.confirmed.1]; decide)
  have hconf := hc.confirmed
  rw [hatt] at hconf
  have hfresh : r.Fresh (stateAt (step env) (boot env storage nvs candidate) inp c) := by
    refine ⟨hgate ▸ hconf.1, hgate ▸ hconf.2.1, ?_⟩
    rcases hinv.owner (by rw [← hgate, hconf.1]; decide) with
      ⟨_, _, _, hop⟩ | ⟨kind, hact, _⟩
    · rw [hop, hatt₀]
      rfl
    · have hno := (hinv.alone kind hact).1.1
      rw [hatt₀] at hno
      cases hno
  obtain ⟨b, a, hba, hac, hbegun, hauth, hstarted, hsame⟩ :=
    authorized_history storage nvs candidate inp hatt₀
  obtain ⟨p, hap, hpc, hpressed, hheld⟩ :=
    fresh_history storage nvs candidate inp hac hauth hfresh
  refine ⟨r, b, a, p, ⟨⟨hba, hap, hpc⟩, hbegun, hauth, hpressed, ?_, hstarted, hsame,
    fun k hk hk' => ⟨(hheld k hk hk').1, (hheld k hk hk').2.1⟩⟩, line, m, frame, hi, hacc, hc,
    hctx⟩
  exact ⟨line, m, frame, hi, hacc, hc.operation, hbound, hatt, hopen, hconf.1, hconf.2.1,
    hconf.2.2, hc.gate, hc.attempt⟩

/-- The key is held for the operation. -/
def Holds (context : BeginContext) (vmk : Vmk) (d : Device σ) : Prop :=
  d.sink.pending = true ∧ d.sink.context = context ∧ d.sink.vmk = vmk

/-- A pending key was delivered before, and has its history. -/
theorem pending_history {n : Nat} {context : BeginContext} {vmk : Vmk}
    (h : Holds context vmk (stateAt (step env) (boot env storage nvs candidate) inp n)) :
    ∃ r b a p c, AuthorizedKey env (boot env storage nvs candidate) inp r vmk b a p c ∧
      c < n ∧ r.context = context ∧
      ∀ k, c < k → k ≤ n →
        Holds context vmk (stateAt (step env) (boot env storage nvs candidate) inp k) := by
  have hinv := authInv_stateAt env storage nvs candidate inp
  obtain ⟨c, hc⟩ := since (A := Holds context vmk) (C := fun _ _ => True)
    (B := Requests env fun h frame m d' => SessionCompleted env h frame m vmk d' ∧
      h.context = context) (Q := fun _ _ _ => True) (fun h0 => by cases h0.1) hinv
    (fun s i _ _ hs => by
      obtain ⟨hp, hctx, hvmk⟩ := hs
      rcases pending_origin env s i hp with ⟨hp', hctx', hvmk'⟩ | hdel
      · exact .inr ⟨⟨hp', hctx' ▸ hctx, hvmk' ▸ hvmk⟩, trivial⟩
      · refine .inl (hdel.mono fun m frame _ hdel => ?_)
        obtain ⟨hcomp, hctx', _⟩ := hdel
        rw [hvmk] at hcomp
        exact ⟨hcomp, hctx' ▸ hctx⟩)
    (fun _ _ => trivial) h
  obtain ⟨line, m, frame, hi, hacc, hcomp, hctx⟩ := hc.begun
  obtain ⟨r, b, a, p, hkey, line', m', frame', hi', _, _, hctx'⟩ :=
    completed_history storage nvs candidate inp ⟨line, m, frame, hi, hacc, hcomp⟩
  rw [hi] at hi'
  cases hi'
  exact ⟨r, b, a, p, c, hkey, hc.before, hctx'.symm.trans hctx, hc.held⟩

/-- A key in the runtime is the one put in force last, and is there exactly while unlocked. -/
def KeyInForce (d : Device σ) : Prop := Runtime.Inv d.runtime ∧ Runtime.InForce d.runtime

variable (env) in
theorem keyInForce_stateAt (n : Nat) :
    KeyInForce (stateAt (step env) (boot env storage nvs candidate) inp n) := by
  refine Run.stateAt_inv ⟨.initializeRuntime, (Runtime.closed_initializeRuntime _ _).inForce⟩
    (fun d i h => ?_) n
  exact (step_timed env d i).keeps (I := fun rt => Runtime.Inv rt ∧ Runtime.InForce rt)
    (fun _ call _ h => ⟨h.1.step call, h.2.step call⟩) h

/-- The step puts the key `vmk` in force: it is the next one of the history, and where the step
leaves the Device with a key, which is exactly where it leaves it unlocked, that key is `vmk`. -/
structure Opens (vmk : Vmk) (d d' : Device σ) : Prop where
  next : d'.runtime.unlocks = vmk :: d.runtime.unlocks
  present : d'.runtime.vmkPresent = true ↔ d'.runtime.state = .unlocked
  resident : d'.runtime.vmkPresent = true → d'.runtime.vmk = vmk

theorem Unlocks.opens {vmk : Vmk} (h : Unlocks vmk d d') (hkey : KeyInForce d') :
    Opens vmk d d' := by
  refine ⟨h, hkey.1.resident, fun hp => ?_⟩
  obtain ⟨older, holder⟩ := hkey.2 hp
  rw [show d'.runtime.unlocks = vmk :: d.runtime.unlocks from h] at holder
  exact (List.cons.inj holder).1.symm

/-- How a key that was delivered in step `c` is put in force in step `n`. -/
inductive PutInForce (env : Env σ) (d₀ : Device σ) (inp : Nat → Input)
    (operation : Session.Operation) (c n : Nat) : Prop
  | completed (h : c = n) (operation : operation = .trustedBrowserUnlock ∨
      operation = .recovery ∨ operation = .browserReplacement)
  | installed (h : c < n) (request : StepAt (step env) d₀ inp
      (Requests env fun _ frame _ _ => frame.operation = .vaultInstall) n)
      (operation : operation = .initialProvisioning ∨ operation = .recovery)
  | rekeyed (h : c < n) (request : StepAt (step env) d₀ inp
      (Requests env fun _ frame _ _ => frame.operation = .vaultRekey) n)
      (operation : operation = .vmkRekey)

/-- **Every unlock is authorized.** A step of a run from power-on that enters `kUnlocked` or puts a
key in force puts exactly one key in force: it completes an attempt, installs a Vault or re-keys
it, and the key came out of an attempt that was begun, authorized, confirmed by the user and
completed earlier in the run. -/
theorem unlock_authorized (n : Nat)
    (h : (stateAt (step env) (boot env storage nvs candidate) inp (n + 1)).runtime.unlocks ≠
        (stateAt (step env) (boot env storage nvs candidate) inp n).runtime.unlocks ∨
      ((stateAt (step env) (boot env storage nvs candidate) inp n).runtime.state ≠ .unlocked ∧
        (stateAt (step env) (boot env storage nvs candidate) inp (n + 1)).runtime.state =
          .unlocked)) :
    ∃ vmk r b a p c,
      Opens vmk (stateAt (step env) (boot env storage nvs candidate) inp n)
        (stateAt (step env) (boot env storage nvs candidate) inp (n + 1)) ∧
      AuthorizedKey env (boot env storage nvs candidate) inp r vmk b a p c ∧
      PutInForce env (boot env storage nvs candidate) inp r.context.operation c n := by
  rcases opened_origin env (stateAt (step env) (boot env storage nvs candidate) inp n) (inp n)
    with hun | ⟨vmk, hunlocks, line, m, frame, hi, hacc, hreq⟩
  · rcases h with h | ⟨hne, hu⟩
    · exact absurd hun.unlocks h
    · exact absurd (hun.unlocked hu) hne
  have hopens := hunlocks.opens (keyInForce_stateAt env storage nvs candidate inp (n + 1))
  have hq : Quiet env _ ((stateAt (step env) (boot env storage nvs candidate) inp
    n).housekeeping m.nowMs) := quiet_housekeeping env _ m.nowMs
  have hheld (hp : ((stateAt (step env) (boot env storage nvs candidate) inp n).housekeeping
      m.nowMs).sink.pending = true) :
      Holds ((stateAt (step env) (boot env storage nvs candidate) inp n).housekeeping
        m.nowMs).sink.context ((stateAt (step env) (boot env storage nvs candidate) inp
        n).housekeeping m.nowMs).sink.vmk
        (stateAt (step env) (boot env storage nvs candidate) inp n) := by
    obtain ⟨hp', hctx, hvmk⟩ := hq.pending hp
    exact ⟨hp', hctx.symm, hvmk.symm⟩
  cases hreq with
  | completed hc hop =>
    obtain ⟨r, b, a, p, hkey, line', m', frame', hi', _, _, hctx⟩ :=
      completed_history storage nvs candidate inp ⟨line, m, frame, hi, hacc, hc⟩
    rw [hi] at hi'
    cases hi'
    refine ⟨vmk, r, b, a, p, n, hopens, hkey, .completed rfl ?_⟩
    rw [← hctx]
    exact hop
  | installed hv hkey =>
    obtain ⟨r, b, a, p, c, hchain, hcn, hctx, _⟩ :=
      pending_history storage nvs candidate inp (hheld hv.pending)
    rw [hkey] at hchain
    refine ⟨vmk, r, b, a, p, c, hopens, hchain,
      .installed hcn ⟨line, m, frame, hi, hacc, hv.operation⟩ ?_⟩
    rw [hctx]
    exact hv.context
  | rekeyed hv hkey =>
    obtain ⟨r, b, a, p, c, hchain, hcn, hctx, _⟩ :=
      pending_history storage nvs candidate inp (hheld hv.pending)
    rw [hkey] at hchain
    refine ⟨vmk, r, b, a, p, c, hopens, hchain,
      .rekeyed hcn ⟨line, m, frame, hi, hacc, hv.operation⟩ ?_⟩
    rw [hctx]
    exact hv.context

end

/-! ## A trusted unlock -/

open VaultRuntime (Persistence PersistedSnapshot)

/-- A persistence in RAM that never fails. -/
def ramPersistence : Persistence PersistedSnapshot where
  load s := ((.ok, s), s)
  formatSchema2 _ := (.ok, { schemaReady := true })
  replaceEnvelope _ envelope s := (.ok, { s with hasVault := true, envelope })
  setLastUsed lastUsed s := (.ok, { s with lastUsed })
  eraseAll _ := (.ok, {})

/-- The bytes `1 … 1`. -/
def ones (n : Nat) : Bytes n := ⟨List.replicate n 1, List.length_replicate⟩

theorem ones_nonzero : (ones 16).allZero = false := rfl

def sampleKey : Registration.P256PublicKey := ⟨4 :: List.replicate 64 1, by simp⟩

def binary {n : Nat} (bytes : Bytes n) : Json := .string (base64urlEncode bytes.1)

/-- A request with the id 1. -/
def sampleRequest (operation : String) (fields : List (String × Json)) : Json :=
  .object [(ascii "v", .number (some 2)), (ascii "id", .number (some 1)),
    (ascii "op", .string (ascii operation)),
    (ascii "params", .object (fields.map fun f => (ascii f.1, f.2)))]

/-- A parser of three lines: begin a trusted unlock, authorize it, complete it. -/
def sampleParse : List UInt8 → Option Json
  | [0] => some <| sampleRequest "session.begin"
    [("operation", .string (ascii "trusted_browser_unlock")),
      ("device_id", .string (Registration.deviceIdText (ones 16))), ("vault_id", binary (ones 16)),
      ("registration_id", binary (ones 16)), ("registration_epoch", .number (some 1)),
      ("current_brk_public_key", binary sampleKey),
      ("proposed_brk_public_key", binary (Bytes.zero 65)),
      ("expected_generation", .string (ascii "1"))]
  | [1] => some <| sampleRequest "session.authorize"
    [("attempt_id", binary (ones 16)), ("web_public_key", binary sampleKey),
      ("brk_signature", binary (Bytes.zero 64))]
  | [2] => some <| sampleRequest "session.complete"
    [("attempt_id", binary (ones 16)), ("nonce", binary (Bytes.zero 12)),
      ("ciphertext", binary (Bytes.zero 32)), ("tag", binary (Bytes.zero 16))]
  | _ => none

def sampleEnv : Env PersistedSnapshot where
  persistence := ramPersistence
  prims :=
    { importKey := fun _ => true
      verifyBrk := fun _ _ _ => true
      openVmk := fun _ _ _ _ _ _ _ _ => some (ones 32)
      gcm := Runtime.openAll
      material := fun _ => some ⟨ones 16, Bytes.zero 32, sampleKey⟩ }
  parse := sampleParse
  resetAttemptId := fun _ => ⟨ones 16, rfl⟩
  metadata := ⟨"", "", ""⟩

def sampleVault : PersistedSnapshot :=
  { schemaReady := true, hasVault := true
    envelope := { vaultId := ones 16, generation := 1, ciphertext := [0] } }

def sampleNvs : Registration.Nvs := .reliable
  { reg2 := some
      { deviceId := some (ones 16).1
        active := some (Registration.encodeRegistration
          { vaultId := ones 16, registrationId := ones 16, epoch := 1, brkPublicKey := sampleKey }) } }

/-- Begin, authorize, release the button twice, press it, complete. -/
def sampleInputs : Nat → Input
  | 0 => .line [0] { nowMs := 0 }
  | 1 => .line [1] { nowMs := 1 }
  | 2 => .observeButton false
  | 3 => .observeButton false
  | 4 => .observeButton true
  | 5 => .buttonPressed 2
  | _ => .line [2] { nowMs := 3 }

/-- Power-on with the Vault and its registration. -/
abbrev sampleBoot : Device PersistedSnapshot :=
  boot sampleEnv sampleVault sampleNvs ⟨ones 16, rfl⟩

/-- The seventh step unlocks the Device with the delivered key. -/
theorem unlock_authorized_sample :
    ∃ vmk r b a p c, Opens vmk (stateAt (step sampleEnv) sampleBoot sampleInputs 6)
        (stateAt (step sampleEnv) sampleBoot sampleInputs (6 + 1)) ∧
      AuthorizedKey sampleEnv sampleBoot sampleInputs r vmk b a p c ∧
      PutInForce sampleEnv sampleBoot sampleInputs r.context.operation c 6 :=
  unlock_authorized sampleVault sampleNvs ⟨ones 16, rfl⟩ sampleInputs 6
    (.inl (by decide +kernel))

end M5Auth.Provisioning.Device
