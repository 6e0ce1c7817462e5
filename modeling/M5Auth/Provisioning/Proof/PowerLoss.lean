import M5Auth.Provisioning.Proof.AutomaticLock
import M5Auth.Provisioning.Proof.BootRecovery
import M5Auth.Provisioning.Proof.RecoveryProgress

/-!
# A loss of power

Every write of the Vault partition, from the staging of an envelope to the erase of the partition,
leaves a content that a load classifies (`Restartable`): the active-slot pointer never names a slot
without a readable envelope. So the power may be lost between any two writes of any step, and the
Device that starts again is clean, or owned by the browser of its registration, or it requires a
reset: `power_loss_closed`.
-/

namespace M5Auth.Provisioning

open FaultyStore FaultyStore.Prog VaultRuntime Vault

/-! ## The Vault partition -/

/-- The contents that a boot classifies. -/
def Restartable (p : Partition) : Prop := ¬ DanglingActive p ∧ ¬ UnsupportedActive p

namespace Restartable

variable {p q : Partition}

theorem of_inactive (h : p.active = none) : Restartable p := by
  constructor
  · rintro ⟨_, _, slot, ha, _⟩
    rw [h] at ha
    cases ha
  · rintro ⟨slot, _, ha, _⟩
    rw [h] at ha
    cases ha

theorem empty : Restartable {} := of_inactive rfl

/-- The pointer, the slot it names and the two schema numbers decide. -/
theorem congr (h : Restartable p) (hactive : q.active = p.active)
    (hslot : ∀ slot, p.active = some slot → slot ≤ 1 → q.slot slot = p.slot slot)
    (hschema : q.vault2.bind (·.schema) = p.vault2.bind (·.schema))
    (hsecure : q.secureStateSchema = p.secureStateSchema) : Restartable q := by
  constructor
  · rintro ⟨hs, hlegacy, slot, ha, hle, hnone⟩
    rw [hactive] at ha
    rw [hslot slot ha hle] at hnone
    exact h.1 ⟨hschema ▸ hs, hsecure ▸ hlegacy, slot, ha, hle, hnone⟩
  · rintro ⟨slot, bytes, ha, hle, hs, hd⟩
    rw [hactive] at ha
    rw [hslot slot ha hle] at hs
    exact h.2 ⟨slot, bytes, ha, hle, hs, hd⟩

theorem opened (h : Restartable p) : Restartable p.opened := by
  rcases p with ⟨_ | ns, state, secure⟩
  · exact of_inactive rfl
  · exact h

theorem setLastUsed (h : Restartable p) (bytes : Option (List UInt8)) :
    Restartable (p.setVault2 fun ns => { ns with lastUsed := bytes }) := by
  rcases p with ⟨_ | ns, state, secure⟩ <;> exact h.congr rfl (fun _ _ _ => rfl) rfl rfl

/-- Staging leaves the active slot alone. -/
theorem setSlot {active : Option (UInt8 × VaultEnvelope)} (h : Restartable p)
    (ha : NvsPersistence.readActive.value p = .ok active) (encoded : List UInt8) :
    Restartable (p.setSlot (NvsPersistence.inactiveSlot active) encoded) := by
  rcases p with ⟨_ | ns, state, secure⟩
  · exact h
  rcases active with _ | ⟨slot, envelope⟩
  · have hnone : ns.active = none := active_of_readActive_none ha
    exact of_inactive hnone
  obtain ⟨hslot, hle⟩ := active_of_readActive ha
  have hcases : slot = 0 ∨ slot = 1 := UInt8_le_one hle
  refine h.congr ?_ ?_ ?_ rfl
  · rcases hcases with rfl | rfl <;> rfl
  · intro slot' hactive _
    obtain rfl : slot = slot' := Option.some.inj (hslot.symm.trans hactive)
    rcases hcases with rfl | rfl <;> rfl
  · rcases hcases with rfl | rfl <;> rfl

/-- The pointer moves to a slot whose envelope was read back. -/
theorem setActive {slot : UInt8} {encoded : List UInt8} {envelope : VaultEnvelope}
    (hb : (NvsPersistence.readBlob fun p => p.slot slot).value p = .ok encoded)
    (hd : decodeEnvelope encoded = .ok envelope) : Restartable (p.setActive slot) := by
  have hstored : (p.setActive slot).slot slot = some encoded := by
    rcases p with ⟨_ | ns, state, secure⟩
    · simp [NvsPersistence.value_readBlob, Partition.slot] at hb
    · rw [NvsPersistence.value_readBlob] at hb
      show Partition.slot ⟨some ns, state, secure⟩ slot = _
      cases hs : Partition.slot ⟨some ns, state, secure⟩ slot with
      | none => simp [hs] at hb
      | some bytes =>
        simp only [hs] at hb
        split at hb
        · cases hb
        · rw [Except.ok.inj hb]
  have hactive : ∀ slot', (p.setActive slot).active = some slot' → slot' = slot := by
    intro slot' ha
    rcases p with ⟨_ | ns, state, secure⟩
    · cases ha
    · exact (Option.some.inj ha).symm
  constructor
  · rintro ⟨_, _, slot', ha, _, hnone⟩
    rw [hactive slot' ha, hstored] at hnone
    cases hnone
  · rintro ⟨slot', bytes, ha, _, hs, herror⟩
    rw [hactive slot' ha, hstored] at hs
    rw [← Option.some.inj hs, hd] at herror
    cases herror

end Restartable

/-! ## What the persistence leaves behind -/

section
open VaultRuntime.NvsPersistence

theorem restartable_openForWrite : Keeps Restartable openForWrite := by
  refine .bind (reads_get _).keeps fun _ => .bind (.change fun _ h => h.opened) fun _ =>
    .bind (reads_get _).keeps fun schema => ?_
  cases schema with
  | none => exact (Reads.throw _).keeps
  | some schema => exact .ite (Reads.throw _).keeps (Reads.pure _).keeps

/-- The slot holds an envelope that decodes. -/
def Readable (slot : UInt8) (p : Partition) : Prop :=
  ∃ encoded envelope, (readBlob fun p => p.slot slot).value p = .ok encoded ∧
    decodeEnvelope encoded = .ok envelope

theorem restartable_stageEnvelope (expected : UInt64) (candidate : VaultEnvelope) :
    Triple Restartable (stageEnvelope expected candidate)
      (fun slot p => Restartable p ∧ Readable slot p) fun _ => Restartable := by
  apply Triple.ite
  · exact fun _ => .throw fun _ h => h
  intro _
  refine .bind restartable_openForWrite.triple fun _ => .bind (.reads reads_readActive)
    fun active => ?_
  apply Triple.ite
  · exact fun _ => .throw fun _ h => h.1
  intro _
  rcases encodeEnvelope candidate with status | encoded
  · exact .throw fun _ h => h.1
  refine .bind (Q := fun _ => Restartable) (.write (fun p h => h.1.setSlot h.2 encoded)
    fun _ p h => ⟨h.1, h.1.setSlot h.2 encoded⟩) fun _ => .bind (.reads (reads_readBlob _))
    fun bytes => ?_
  rcases hd : decodeEnvelope bytes with status | staged
  · exact .throw fun _ h => h.1
  apply Triple.ite
  · exact fun _ => .throw fun _ h => h.1
  · exact fun _ => .pure fun p h => ⟨h.1, bytes, staged, h.2, hd⟩

theorem restartable_replaceEnvelope (expected : UInt64) (candidate : VaultEnvelope) :
    Keeps Restartable (replaceEnvelope expected candidate) := by
  have hflip {slot : UInt8} {p : Partition} (h : Readable slot p) :
      Restartable (p.setActive slot) := by
    obtain ⟨_, _, hb, hd⟩ := h
    exact .setActive hb hd
  exact Triple.keeps <| .bind (restartable_stageEnvelope expected candidate) fun slot =>
    .write (fun _ h => hflip h.2) fun _ _ h => ⟨h.1, hflip h.2⟩

theorem restartable_setLastUsed (credentialId : Option CredentialId) :
    Keeps Restartable (setLastUsed credentialId) :=
  .bind restartable_openForWrite fun _ => .write fun _ h => h.setLastUsed _

theorem restartable_eraseAll : Keeps Restartable eraseAll :=
  .bind Reads.ignore.keeps fun _ => .change fun _ _ => .empty

/-- The schema number is written into a namespace that was just created. -/
theorem restartable_formatSchema2 : Keeps Restartable formatSchema2 := by
  have hformatted (f : VaultNamespace → VaultNamespace) (hf : (f {}).active = none) :
      Restartable ((Partition.opened {}).setVault2 f) := .of_inactive hf
  have hensure : Keeps (fun p => p = {}) ensurePartitionInitialized := (reads_get _).keeps
  refine Triple.keeps <| .bind (Keeps.triple Reads.ignore.keeps) fun _ =>
    .bind (Q := fun _ p => p = {}) (.change (fun _ _ => rfl) fun _ p h => ⟨h, .empty⟩) fun _ =>
    .bind (Q := fun _ p => p = {}) (hensure.triple.weaken fun _ _ h => h ▸ .empty) fun _ =>
    .bind (Q := fun _ p => p = Partition.opened {}) (.change (fun _ h => h ▸ rfl)
      fun _ p h => h ▸ ⟨.empty, .opened .empty⟩) fun _ => .write ?_ ?_
  · rintro p rfl
    exact hformatted _ rfl
  · rintro _ p rfl
    exact ⟨.opened .empty, hformatted _ rfl⟩

theorem statusOf_content {β : Type} (r : Except Status β × AuthNvs) :
    (statusOf r).2.content = r.2.content := by
  rcases r with ⟨_ | _, nvs⟩ <;> rfl

end

namespace Device

open Run (stateAt)

variable {σ : Type} {env : Env σ} {d : Device AuthNvs}

theorem preserving_restartable :
    Runtime.Preserving compatibleNvsPersistence fun w => Restartable w.content where
  load w h := by
    have hkeeps : Keeps Restartable CompatibleNvsPersistence.load :=
      CompatibleNvsPersistence.reads_load.keeps
    have hw := hkeeps w h
    show Restartable (compatibleNvsPersistence.load w).2.content
    rcases he : CompatibleNvsPersistence.load w with ⟨_ | _, w'⟩ <;> rw [he] at hw <;>
      simp only [compatibleNvsPersistence, he] <;> exact hw
  formatSchema2 w h := by
    show Restartable (statusOf _).2.content
    rw [statusOf_content]
    exact restartable_formatSchema2 w h
  replaceEnvelope expected envelope w h := by
    show Restartable (statusOf _).2.content
    rw [statusOf_content]
    exact restartable_replaceEnvelope expected envelope w h
  setLastUsed credentialId w h := by
    show Restartable (statusOf _).2.content
    rw [statusOf_content]
    exact restartable_setLastUsed credentialId w h
  eraseAll w h := by
    show Restartable (statusOf _).2.content
    rw [statusOf_content]
    exact restartable_eraseAll w h

/-! ## Every event -/

theorem restartable_boot {storage : AuthNvs} (h : Restartable storage.content)
    (nvs : Registration.Nvs) (candidate : Registration.DeviceIdCandidate) :
    Restartable (boot env.onNvs storage nvs candidate).runtime.persistence.content := by
  show Restartable
    ((Runtime.new storage).initializeRuntime compatibleNvsPersistence).2.persistence.content
  rw [Runtime.initialize_persistence]
  exact preserving_restartable.load storage h

theorem restartable_next (h : Restartable d.runtime.persistence.content) (e : Event) :
    Restartable (d.next env.onNvs e).runtime.persistence.content := by
  cases e with
  | input i =>
    exact (step_timed env.onNvs d i).keeps
      (I := fun rt => Restartable rt.persistence.content)
      (fun _ call _ hr => preserving_restartable.step hr call) h
  | reboot candidate => exact restartable_boot h d.registration.nvs candidate

/-! ## The cut -/

/-- The Device whose NVS calls do nothing any more, from these numbers of calls on. -/
def cutAt (d : Device AuthNvs) (vault registration : Nat) : Device AuthNvs :=
  (d.withRuntime (d.runtime.withPersistence (d.runtime.persistence.cut .other vault)))
    |>.withRegistration (d.registration.withNvs (d.registration.nvs.cut .other registration))

variable (env) in
/-- The Device that starts again from what is stored, on storage that works. -/
def restart (d : Device AuthNvs) (candidate : Registration.DeviceIdCandidate) : Device AuthNvs :=
  boot env.onNvs (.reliable d.runtime.persistence.content) (.reliable d.registration.nvs.content)
    candidate

/-! ## The three situations -/

/-- A request for the initial provisioning of this Device. -/
structure Initial (importKey : Registration.P256PublicKey → Bool) (d : Device AuthNvs)
    (context : Session.BeginContext) : Prop where
  operation : context.operation = .initialProvisioning
  valid : context.valid importKey = true
  deviceId : context.deviceId = Registration.deviceIdText d.registration.snapshot.deviceId
  generation : context.expectedGeneration = 0

variable (env) in
/-- The Device begins an initial provisioning, if its random source works. -/
def AcceptsProvisioning (d : Device AuthNvs) : Prop :=
  ∀ line m frame context, Accepted env.onNvs line frame →
    frame.operation = .session .sessionBegin → line.length ≤ maxSessionMessageBytes →
    parseBeginContext frame.params = some context → Initial env.prims.importKey d context →
    (∀ n, (Session.DeviceSession.beginSession (env.prims.material n) m.nowMs).1 ≠ none) →
    (d.handleLine env.onNvs line m).1.ok = true

inductive Situation where
  | clean | owned | resetRequired
  deriving DecidableEq

variable (env) in
/-- What the situations mean. -/
def In (d : Device AuthNvs) : Situation → Prop
  | .clean => d.decision = .notRequired ∧ d.runtime.hasVault = false ∧
      d.registration.snapshot.registrationPresent = false ∧ d.AcceptsProvisioning env
  | .owned => d.decision = .notRequired ∧ d.runtime.state = .locked ∧
      d.runtime.hasVault = true ∧ validEnvelopeFraming d.runtime.envelope = true ∧
      d.registration.snapshot.registrationPresent = true ∧
      d.registration.snapshot.vaultId = d.runtime.envelope.vaultId
  | .resetRequired => d.decision = .required

theorem deviceIdText_ne_nil (deviceId : Registration.DeviceId) :
    (Registration.deviceIdText deviceId).isEmpty = false := by
  obtain ⟨bytes, hlen⟩ := deviceId
  cases bytes with
  | nil => simp at hlen
  | cons byte rest => simp [Registration.deviceIdText]

/-- The binding of a Device without a Vault and without a registration. -/
theorem binding_clean (hi : d.runtime.initialized = true) (hv : d.runtime.hasVault = false)
    (hready : d.registration.ready = true)
    (hp : d.registration.snapshot.registrationPresent = false) :
    d.binding = some
      { deviceId := Registration.deviceIdText d.registration.snapshot.deviceId } := by
  have hm : d.runtime.metadata = .ok d.runtime.report := by
    rw [Runtime.metadata, if_neg (by simp [hi])]
  have hs : d.registration.readSnapshot = (.ok, d.registration.snapshot) := by
    rw [Registration.Store.readSnapshot, if_neg (by simp [hready])]
  unfold binding bindingSnapshot
  rw [hm, hs]
  simp [Runtime.report, hv, hp, deviceIdText_ne_nil]

theorem initial_matches {context : Session.BeginContext} {importKey : Registration.P256PublicKey → Bool}
    (h : Initial importKey d context) : beginMatchesSnapshot context
      { deviceId := Registration.deviceIdText d.registration.snapshot.deviceId } = true := by
  have hvalid := h.valid
  simp only [Session.BeginContext.valid, h.operation, Bool.and_eq_true, bne_iff_ne, ne_eq,
    Bool.not_eq_true', beq_iff_eq] at hvalid
  obtain ⟨⟨⟨⟨_, hid⟩, _⟩, _⟩, ⟨hepoch, hcurrent⟩, hproposed⟩ := hvalid
  simp [beginMatchesSnapshot, h.operation, h.deviceId, deviceIdText_ne_nil,
    cleanUnprovisionedSnapshot, h.generation, hid, hepoch, hcurrent, hproposed]

/-- The session handler begins the attempt. -/
theorem sessionBegin_initial {context : Session.BeginContext} {params : Json} {m : Moment}
    (id : Nat) (hcontext : parseBeginContext params = some context)
    (hinitial : Initial env.prims.importKey d context)
    (hbinding : d.disconnectSession.binding = some
      { deviceId := Registration.deviceIdText d.registration.snapshot.deviceId })
    (hdraw : ∀ n, (Session.DeviceSession.beginSession (env.prims.material n) m.nowMs).1 ≠ none) :
    ∃ descriptor d', d.sessionBegin env.onNvs id params m.nowMs =
      (beginSuccess id descriptor m.nowMs, d') ∧ d'.runtime = d.runtime := by
  obtain ⟨descriptor, c', hbegin⟩ : ∃ descriptor c',
      d.disconnectSession.coordinator.beginAttempt env.onNvs.prims context m.nowMs =
        (some descriptor, c') := by
    have hdraw' := hdraw d.disconnectSession.coordinator.draws
    unfold Session.AttemptCoordinator.beginAttempt
    rw [if_neg (by simp [Env.onNvs, hinitial.valid])]
    rcases hb : Session.DeviceSession.beginSession
      (env.prims.material d.disconnectSession.coordinator.draws) m.nowMs with ⟨_ | descriptor, s⟩
    · rw [hb] at hdraw'
      exact absurd rfl hdraw'
    · simp only [Env.onNvs, hb]
      exact ⟨descriptor, _, rfl⟩
  refine ⟨descriptor, { d.disconnectSession.withCoordinator c' with
    context, contextActive := true }, ?_, rfl⟩
  simp only [sessionBegin, hcontext, hbinding, initial_matches hinitial, Bool.not_true,
    Bool.false_eq_true, if_false, hbegin]

/-- The canonical handler lets a Device without a Vault proceed. -/
theorem prepare_initial (hi : d.runtime.initialized = true)
    (hst : d.runtime.state = .unprovisioned) (hv : d.runtime.hasVault = false) :
    ∃ d', d.prepareAttempt { operation := .initialProvisioning } = (true, d') := by
  refine ⟨d.cancelPending, ?_⟩
  have hm : d.cancelPending.runtime.metadata = .ok d.runtime.report := by
    rw [cancelPending_runtime, Runtime.metadata, if_neg (by simp [hi])]
  unfold prepareAttempt
  dsimp only
  rw [hm]
  simp [Runtime.report, hst, hv]

/-- **A clean Device is accepted for initial provisioning.** -/
theorem accepts_clean (hi : d.runtime.initialized = true)
    (hst : d.runtime.state = .unprovisioned) (hv : d.runtime.hasVault = false)
    (hready : d.registration.ready = true)
    (hp : d.registration.snapshot.registrationPresent = false) :
    d.AcceptsProvisioning env := by
  intro line m frame context hacc hop hlen hcontext hinitial hdraw
  have hq := quiet_housekeeping env.onNvs d m.nowMs
  have hrt : (d.housekeeping m.nowMs).runtime = d.runtime :=
    housekeeping_locked (by rw [hst]; decide)
  -- the Device that reaches the session handler
  obtain ⟨d₁, hd₁⟩ : ∃ d₁, (d.housekeeping m.nowMs).cancelHealthyReset.cancelRecoveryReset = d₁ :=
    ⟨_, rfl⟩
  have hrt₁ : d₁.runtime = d.runtime := by
    rw [← hd₁, cancelRecoveryReset_runtime, cancelHealthyReset_runtime, hrt]
  have hreg₁ : d₁.registration = d.registration := by
    rw [← hd₁, cancelRecoveryReset_registration, cancelHealthyReset_registration, hq.registration]
  have hbinding : d₁.disconnectSession.binding = some
      { deviceId := Registration.deviceIdText d₁.registration.snapshot.deviceId } :=
    binding_clean (by simp [hrt₁, hi]) (by simp [hrt₁, hv]) (by simp [hreg₁, hready])
      (by simp [hreg₁, hp])
  have hinitial₁ : Initial env.prims.importKey d₁ context :=
    ⟨hinitial.operation, hinitial.valid, by rw [hreg₁]; exact hinitial.deviceId,
      hinitial.generation⟩
  obtain ⟨descriptor, d₂, hsession, hrt₂⟩ :=
    sessionBegin_initial frame.id hcontext hinitial₁ hbinding hdraw
  obtain ⟨d₃, hprepare⟩ := prepare_initial (d := d₂) (by rw [hrt₂, hrt₁, hi])
    (by rw [hrt₂, hrt₁, hst]) (by rw [hrt₂, hrt₁, hv])
  rw [handleLine, dispatch_accepted _ m hacc, handleRequest, hop]
  unfold handleSessionRequest
  dsimp only
  rw [if_neg (Nat.not_lt.2 hlen), operation_of_context hcontext, hinitial.operation, hd₁,
    handleSessionLine_of_frame d₁ m hop hacc.nonempty (Nat.not_lt.2 hlen) hacc.read]
  dsimp only
  rw [hsession, if_neg (by simp)]
  dsimp only
  rw [if_pos ⟨rfl, rfl⟩, Option.getD_some, hprepare]
  rfl

/-! ## Every cut -/

theorem In.unique {s s' : Situation} (h : d.In env s) (h' : d.In env s') : s = s' := by
  cases s <;> cases s' <;> simp_all [In]

/-- A restart on a content that a boot classifies. -/
theorem restart_in (h : Restartable d.runtime.persistence.content)
    (candidate : Registration.DeviceIdCandidate) :
    ∃ s, (d.restart env candidate).In env s := by
  have hboot := (recoverable_iff env.prims.importKey candidate d.runtime.persistence.content
    d.registration.nvs.content h.2).2 h.1
  have hinit := (boot_runtime env.prims.importKey candidate d.runtime.persistence.content
    d.registration.nvs.content).1
  rcases hboot with ⟨hdecision, hready, ⟨hst, hv, hp⟩ | ⟨hst, hv, hvalid, hp, hid⟩⟩ | hdecision
  · exact ⟨.clean, hdecision, hv, hp, accepts_clean hinit hst hv hready hp⟩
  · exact ⟨.owned, hdecision, hst, hv, hvalid, hp, hid⟩
  · exact ⟨.resetRequired, hdecision⟩

variable (env) in
/-- The event happens, its NVS calls do nothing any more from these numbers of calls on, and the
Device starts again. -/
def afterLoss (d : Device AuthNvs) (e : Event) (vault registration : Nat)
    (candidate : Registration.DeviceIdCandidate) : Device AuthNvs :=
  ((d.cutAt vault registration).next env.onNvs e).restart env candidate

variable (env) in
/-- The Device is in exactly one situation, it is never unavailable, and a Vault that it reports as
healthy has the registration of that Vault. -/
structure Closed (d : Device AuthNvs) : Prop where
  situation : ∃! s, d.In env s
  available : d.decision ≠ .unavailable
  healthy : d.decision = .notRequired → d.runtime.hasVault = true →
    d.registration.snapshot.registrationPresent = true ∧
      d.registration.snapshot.vaultId = d.runtime.envelope.vaultId

theorem In.closed {s : Situation} (h : d.In env s) : Closed env d := by
  have hsituation : ∃! s, d.In env s := ⟨s, h, fun s' h' => In.unique h' h⟩
  cases s with
  | clean =>
    refine ⟨hsituation, by rw [h.1]; decide, fun _ hv => ?_⟩
    rw [h.2.1] at hv
    cases hv
  | owned => exact ⟨hsituation, by rw [h.1]; decide, fun _ _ => ⟨h.2.2.2.2.1, h.2.2.2.2.2⟩⟩
  | resetRequired =>
    have hrequired : d.decision = .required := h
    refine ⟨hsituation, by rw [hrequired]; decide, fun hnot => ?_⟩
    rw [hrequired] at hnot
    cases hnot

/-- **A loss of power is closed**: in every life of a Device, whatever storage calls fail, whatever
it is doing, and wherever the power is cut. -/
theorem power_loss_closed (env : Env σ) {storage : AuthNvs} (h : Restartable storage.content)
    (nvs : Registration.Nvs) (candidate : Registration.DeviceIdCandidate) (events : Nat → Event)
    (n : Nat) (e : Event) (vault registration : Nat)
    (candidate' : Registration.DeviceIdCandidate) :
    Closed env (afterLoss env (stateAt (Device.next env.onNvs)
      (boot env.onNvs storage nvs candidate) events n) e vault registration candidate') := by
  have hreached : Restartable (stateAt (Device.next env.onNvs)
      (boot env.onNvs storage nvs candidate) events n).runtime.persistence.content :=
    Run.stateAt_inv (P := fun d : Device AuthNvs => Restartable d.runtime.persistence.content)
      (restartable_boot h nvs candidate) (fun _ e h => restartable_next h e) n
  generalize stateAt (Device.next env.onNvs) (boot env.onNvs storage nvs candidate) events n = d
    at hreached ⊢
  have hcut : Restartable (d.cutAt vault registration).runtime.persistence.content := hreached
  obtain ⟨s, hs⟩ := restart_in (restartable_next hcut e) candidate'
  exact hs.closed

/-- The recovery reset of a registration whose Vault is gone, cut between the clearing of the
registration and the erase of the Vault partition. -/
theorem power_loss_closed_sample :
    Closed resetEnv (afterLoss resetEnv (recoveryRun {} sampleNvs 5)
      (.input (.line [1] { nowMs := 2 })) 0 100 ⟨ones 16, rfl⟩) :=
  power_loss_closed resetEnv Restartable.empty sampleNvs ⟨ones 16, rfl⟩
    (fun n => .input (resetInputs n)) 5 (.input (.line [1] { nowMs := 2 })) 0 100 ⟨ones 16, rfl⟩

end Device

end M5Auth.Provisioning
