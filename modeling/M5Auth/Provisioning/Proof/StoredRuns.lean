import M5Auth.Provisioning.Proof.StoredData

/-!
# Runs of a Device that keeps its data

On NVS whose calls work while the Device has power every step keeps `Intact` (`Intact.step`), and so
does a loss of power at any NVS call of any step (`Intact.afterLoss`): the Device that starts again
keeps what the calls before the loss had left (`restart_intact`).

`slot_step` and `context_step` say which steps deliver a key and which begin an attempt. The last
section is the summary for one line: what each request may make of the stored data.
-/

namespace M5Auth.Provisioning.Device

open FaultyStore VaultRuntime Vault
open Registration (DeviceIdCandidate HasDeviceId Record storedRecord)
open Registration.Store (Truthful)
open Session (BeginContext)

/-! ## The key and the attempt in a step -/

section
variable {σ : Type} {env : Env σ} {d d' : Device σ} {frame : Frame} {m : Moment}
  {response : Response}

/-- The key of the attempt of `d` is held for a Vault. -/
structure Held (d d' : Device σ) : Prop where
  contextActive : d.contextActive = true
  bound : d.Bound d.context
  context : d'.sink.context = d.context
  runtime : d'.runtime = d.runtime
  registration : d'.registration = d.registration

/-- The key is pending as it was before. -/
structure StillPending (d d' : Device σ) : Prop where
  pending : d.sink.pending = true
  context : d'.sink.context = d.sink.context
  registration : d'.registration = d.registration

theorem StillPending.of_quiet (h : Quiet env d d') (hp : d'.sink.pending = true) :
    StillPending d d' := by
  obtain ⟨hp', hctx, _⟩ := h.pending hp
  exact ⟨hp', hctx, h.registration⟩

/-- A key is pending after a request if it was before, or if the request delivered it. -/
theorem slot_request (ha : AuthInv d) (he : RequestEffect env d frame m response d')
    (hp : d'.sink.pending = true) :
    StillPending d d' ∨ (frame.operation = .session .complete ∧ Held d d') := by
  have hnone {P : Prop} (h : d'.sink.pending = false) : P := by
    rw [hp] at h
    cases h
  cases he with
  | session he =>
    cases he with
    | quiet hq => exact .inl (.of_quiet hq hp)
    | begun context descriptor hb => exact hnone hb.pending
    | authorized webPublicKey transcript signature h =>
      exact .inl ⟨h.sink ▸ hp, by rw [h.sink], h.registration⟩
    | completed vmk hc =>
      cases hc.delivered with
      | dropped hp' _ _ => exact hnone hp'
      | tried hp' _ _ _ => exact hnone hp'
      | held _ hctx _ _ hrt hreg =>
        exact .inr ⟨hc.operation, hc.bound.1, hc.bound.2, hctx, hrt, hreg⟩
  | resetBegun kind attemptId hb => exact hnone hb.pending
  | resetDone kind hd =>
    have hno := (ha.alone kind hd.active.1).1.2.2
    rw [(hd.withdraws.pending hp).1] at hno
    cases hno
  | installed hi => exact hnone hi.closed
  | rekeyed hr => exact hnone hr.closed

theorem StillPending.housekeeping {nowMs : UInt64} (hq : Quiet env d (d.housekeeping nowMs))
    (h : StillPending (d.housekeeping nowMs) d') : StillPending d d' := by
  obtain ⟨hp, hctx, _⟩ := hq.pending h.pending
  exact ⟨hp, h.context.trans hctx, h.registration.trans hq.registration⟩

theorem slot_step (ha : AuthInv d) (i : Input) (hp : (d.step env i).sink.pending = true) :
    StillPending d (d.step env i) ∨ ∃ line m frame, i = .line line m ∧ Accepted env line frame ∧
      frame.operation = .session .complete ∧ Held (d.housekeeping m.nowMs) (d.step env i) := by
  cases step_cases env d i with
  | quiet hq => exact .inl (.of_quiet hq hp)
  | pressed hpr _ => exact .inl ⟨hpr.sink ▸ hp, by rw [hpr.sink], hpr.registration⟩
  | request line m frame response hi hacc he =>
    have hq := quiet_housekeeping env d m.nowMs
    rcases slot_request (ha.quiet hq) he hp with h | ⟨hop, h⟩
    · exact .inl (.housekeeping hq h)
    · exact .inr ⟨line, m, frame, hi, hacc, hop, h⟩

/-- The context is that of before, or of the attempt that the request began. -/
theorem context_request (he : RequestEffect env d frame m response d')
    (hc : d'.contextActive = true) :
    (d.contextActive = true ∧ d'.context = d.context) ∨
      (frame.operation = .session .sessionBegin ∧
        parseBeginContext frame.params = some d'.context) := by
  have hnone {P : Prop} (h : d'.contextActive = false) : P := by
    rw [hc] at h
    cases h
  cases he with
  | session he =>
    cases he with
    | quiet hq => exact .inl (hq.context hc)
    | begun context descriptor hb =>
      exact .inr ⟨hb.operation, by rw [hb.context.2]; exact hb.parsed⟩
    | authorized webPublicKey transcript signature h => exact .inl ⟨h.bound.1, h.context.2⟩
    | completed vmk h => exact hnone h.context
  | resetBegun kind attemptId h => exact hnone h.context
  | resetDone kind h => exact .inl (h.withdraws.context hc)
  | installed h => exact .inl (h.withdraws.context hc)
  | rekeyed h => exact .inl (h.withdraws.context hc)

variable (env d) in
theorem context_step (i : Input) (hc : (d.step env i).contextActive = true) :
    (d.contextActive = true ∧ (d.step env i).context = d.context) ∨
      ∃ line m frame, i = .line line m ∧ Accepted env line frame ∧
        frame.operation = .session .sessionBegin ∧
        parseBeginContext frame.params = some (d.step env i).context := by
  cases step_cases env d i with
  | quiet hq => exact .inl (hq.context hc)
  | pressed hpr _ => exact .inl ⟨hpr.context.1 ▸ hc, hpr.context.2⟩
  | request line m frame response hi hacc he =>
    rcases context_request he hc with ⟨hc', hctx⟩ | ⟨hop, hparse⟩
    · obtain ⟨hc, hctx'⟩ := (quiet_housekeeping env d m.nowMs).context hc'
      exact .inl ⟨hc, hctx.trans hctx'⟩
    · exact .inr ⟨line, m, frame, hi, hacc, hop, hparse⟩

/-- An attempt that is begun has the context of its request, and no key is pending. -/
theorem begin_fresh (d : Device σ) {line : List UInt8} (hacc : Accepted env line frame)
    (hop : frame.operation = .session .sessionBegin)
    (hok : (d.handleLine env line m).1.ok = true) :
    (d.step env (.line line m)).sink.pending = false ∧
      parseBeginContext frame.params = some (d.step env (.line line m)).context := by
  have hline : d.handleLine env line m =
      (d.housekeeping m.nowMs).handleSessionRequest env frame .sessionBegin line m := by
    rw [handleLine, dispatch_accepted (d.housekeeping m.nowMs) m hacc]
    simp only [handleRequest, hop]
  rw [step, hline]
  rw [hline] at hok
  unfold handleSessionRequest at hok ⊢
  dsimp only at hok ⊢
  split at hok
  · cases hok
  rename_i hlen
  split at hok
  · cases hok
  rename_i hparsed
  rw [if_neg hlen, if_neg hparsed]
  rw [handleSessionLine_of_frame _ m hop hacc.nonempty hlen hacc.read] at hok ⊢
  obtain ⟨r, d', he, _, ⟨hno, _⟩ | ⟨hyes, context, _, hparse, _, _, _, hctx, _⟩⟩ :=
    sessionBegin_cases env (d.housekeeping m.nowMs).cancelHealthyReset.cancelRecoveryReset frame.id
      frame.params m.nowMs
  · simp [he, hno] at hok
  obtain ⟨ok, rt, hprep, _⟩ := prepareAttempt_cases env d'
    { operation := (parseSessionOperation frame.params).getD .trustedBrowserUnlock }
  simp only [he, hyes, and_self, if_true, hprep] at hok ⊢
  cases ok with
  | false => cases hok
  | true => exact ⟨rfl, by rw [hparse, ← hctx]; rfl⟩

theorem step_of_accepted {line : List UInt8} (hacc : Accepted env line frame) :
    d.step env (.line line m) = ((d.housekeeping m.nowMs).handleRequest env frame line m).2 := by
  rw [step, handleLine, dispatch_accepted (d.housekeeping m.nowMs) m hacc]

end

variable {σ : Type} {env : Env σ} {deviceId : DeviceIdCandidate} {d d' : Device AuthNvs}

/-! ## Steps -/

/-- On NVS whose calls work, the Device shows what it keeps. -/
structure Intact (env : Env σ) (deviceId : DeviceIdCandidate) (d : Device AuthNvs) : Prop where
  mirrored : Mirrored env deviceId d
  steady : d.Steady

theorem Mirrored.registration_step (h : Mirrored env deviceId d) (i : Input) :
    RegistrationStep env.onNvs d i (d.step env.onNvs i) := Device.registration_step h.truthful i

/-- The Device ID stays. -/
theorem Mirrored.deviceId_step (h : Mirrored env deviceId d) (i : Input) :
    HasDeviceId deviceId (d.step env.onNvs i).stored := by
  rcases (h.registration_step i).deviceId with hsame | ⟨hnone, _⟩
  · exact hsame.trans h.deviceId
  · exact absurd h.deviceId (hnone deviceId)

theorem Intact.sound (h : Intact env deviceId d) : Registration.Store.Sound env.prims.importKey d.registration :=
  ⟨h.steady.registration, h.mirrored.registration⟩

theorem Intact.sound_step (h : Intact env deviceId d) (i : Input) :
    Registration.Store.Sound env.prims.importKey (d.step env.onNvs i).registration := by
  rcases registration_cases env.onNvs d i with hreg | ⟨line, m, frame, rfl, hacc, heffect⟩
  · rw [hreg]
    exact h.sound
  have hk := (quiet_housekeeping env.onNvs d m.nowMs).registration
  cases heffect with
  | kept hreg =>
    rw [hreg, hk]
    exact h.sound
  | installed record _ hreg =>
    rw [hreg, hk]
    exact h.sound.installInitial record
  | replaced _ _ _ status hreg =>
    rw [show (d.step env.onNvs (.line line m)).registration = _ from (congrArg Prod.snd hreg).symm,
      hk]
    exact h.sound.replace _ _
  | cleared kind _ hreg =>
    rw [hk] at hreg
    rcases hreg with hreg | hreg <;> rw [hreg]
    · exact h.sound.clearRegistration
    · exact h.sound.clearCorrupt h.mirrored.truthful h.mirrored.deviceId

/-- A waiting key meets no registration. -/
theorem Intact.unregistered_step (h : Intact env deviceId d) (i : Input)
    (ha : (d.step env.onNvs i).AwaitsVault) :
    (d.step env.onNvs i).registration.snapshot.registrationPresent = false := by
  rcases slot_step h.mirrored.auth i ha.1 with hold | ⟨_, m, _, _, _, _, hheld⟩
  · rw [hold.registration]
    exact h.mirrored.unregistered ⟨hold.pending, hold.context ▸ ha.2⟩
  · -- the attempt was bound to a Device whose Vault and registration belong together
    have hauth : AuthInv (d.step env.onNvs i) := h.mirrored.auth.step i
    have hno := hauth.noVault ha.1 ha.2
    rw [hheld.runtime] at hno
    rw [hheld.registration, ← hheld.bound.describedBy.paired.1, hno]

/-- **A step keeps the invariant.** -/
theorem Intact.step (h : Intact env deviceId d) (i : Input) :
    Intact env deviceId (d.step env.onNvs i) := by
  obtain ⟨hinv, hsteady, hvault⟩ := (step_timed env.onNvs d i).keeps
    (I := fun rt => Runtime.Inv rt ∧ rt.persistence.Steady ∧ Runtime.Mirrors rt)
    (fun _ call _ hr => ⟨hr.1.step call, preserving_steady.step hr.2.1 call,
      hr.2.2.step hr.1 hr.2.1 call⟩)
    ⟨h.mirrored.runtime, h.steady.vault, h.mirrored.vault⟩
  exact
    { mirrored :=
        { runtime := hinv
          vault := hvault
          auth := h.mirrored.auth.step i
          truthful := (h.mirrored.registration_step i).truthful
          registration := (h.sound_step i).mirrors
          deviceId := h.mirrored.deviceId_step i
          unregistered := h.unregistered_step i }
      steady := ⟨hsteady, (h.sound_step i).steady⟩ }

/-! ## A loss of power -/

/-- The start of a Device that has its Device ID. -/
theorem boot_intact {storage : AuthNvs} (hstorage : storage.Steady) {nvs : Registration.Nvs}
    (hnvs : nvs.Steady) (hid : HasDeviceId deviceId nvs.content) (candidate : DeviceIdCandidate) :
    Intact env deviceId (boot env.onNvs storage nvs candidate) where
  mirrored :=
    { runtime := .initializeRuntime
      vault := .initializeRuntime hstorage
      auth := .of_idle (idle_boot env.onNvs storage nvs candidate)
      truthful := (Registration.Store.initialize_atomic _ hnvs.untorn candidate).1
      registration := (Registration.Store.Sound.start hnvs hid candidate).mirrors
      deviceId := by
        rcases (Registration.Store.initialize_atomic env.prims.importKey hnvs.untorn candidate).2.2
          with hnone | hsame
        · rw [HasDeviceId, hnone] at hid
          cases hid
        · exact hsame.trans hid
      unregistered := fun ha => nomatch ha.1 }
  steady :=
    { vault := by
        show ((Runtime.new storage).initializeRuntime compatibleNvsPersistence).2.persistence.Steady
        rw [Runtime.initialize_persistence]
        exact preserving_steady.load storage hstorage
      registration := (Registration.Store.Sound.start hnvs hid candidate).steady }

theorem keptVault_boot (env : Env σ) (storage : AuthNvs) (nvs : Registration.Nvs)
    (candidate : DeviceIdCandidate) :
    (boot env.onNvs storage nvs candidate).keptVault = storedVault storage.content := by
  show storedVault
    ((Runtime.new storage).initializeRuntime compatibleNvsPersistence).2.persistence.content = _
  rw [Runtime.initialize_persistence]
  show storedVault (compatibleNvsPersistence.load storage).2.content = _
  have hc := CompatibleNvsPersistence.reads_load.content storage
  rcases he : CompatibleNvsPersistence.load storage with ⟨_ | _, w⟩ <;> rw [he] at hc <;>
    simp only [compatibleNvsPersistence, he] <;> rw [show w.content = storage.content from hc]

theorem keptRecord_boot (env : Env σ) (storage : AuthNvs) {nvs : Registration.Nvs}
    (hnvs : nvs.Untorn) (candidate : DeviceIdCandidate) :
    (boot env.onNvs storage nvs candidate).keptRecord env.prims.importKey =
      storedRecord env.prims.importKey nvs.content :=
  Registration.storedRecord_congr
    (Registration.Store.initialize_atomic env.prims.importKey hnvs candidate).2.1

/-- **A start on what is stored keeps it.** -/
theorem restart_intact (hid : HasDeviceId deviceId d.stored) (candidate : DeviceIdCandidate) :
    Intact env deviceId (d.restart env candidate) :=
  boot_intact (World.steady_reliable _) (World.steady_reliable _) hid candidate

theorem keptVault_restart (env : Env σ) (d : Device AuthNvs) (candidate : DeviceIdCandidate) :
    (d.restart env candidate).keptVault = d.keptVault := keptVault_boot env _ _ candidate

theorem keptRecord_restart (env : Env σ) (d : Device AuthNvs) (candidate : DeviceIdCandidate) :
    (d.restart env candidate).keptRecord env.prims.importKey = d.keptRecord env.prims.importKey :=
  keptRecord_boot env _ (World.steady_reliable _).untorn candidate

/-- **A loss of power keeps the invariant.** -/
theorem Intact.afterLoss (h : Intact env deviceId d) (i : Input) (vault registration : Nat)
    (candidate : DeviceIdCandidate) :
    Intact env deviceId (d.afterLoss env (.input i) vault registration candidate) :=
  restart_intact ((h.mirrored.cutAt h.steady vault registration).deviceId_step i) candidate

/-! ## What an input leaves

An input is handled, or the power is lost while it is. -/

/-- The input is handled, or the power is lost at some NVS call of it and the Device starts
again. -/
inductive Takes (env : Env σ) (d : Device AuthNvs) (i : Input) : Device AuthNvs → Prop
  | handled : Takes env d i (d.step env.onNvs i)
  | lost (vault registration : Nat) (candidate : DeviceIdCandidate) :
      Takes env d i (d.afterLoss env (.input i) vault registration candidate)

theorem Takes.intact {i : Input} (ht : Takes env d i d') (h : Intact env deviceId d) :
    Intact env deviceId d' := by
  cases ht with
  | handled => exact h.step i
  | lost vault registration candidate => exact h.afterLoss i vault registration candidate

/-- The same data, slot and attempt. -/
structure Alike (env : Env σ) (d d' : Device AuthNvs) : Prop where
  vault : d'.keptVault = d.keptVault
  record : d'.keptRecord env.prims.importKey = d.keptRecord env.prims.importKey
  awaits : d'.AwaitsVault ↔ d.AwaitsVault
  slot : d'.sink.context = d.sink.context
  contextActive : d'.contextActive = d.contextActive
  context : d'.context = d.context

/-- What is left of a step whose power may be lost. -/
structure Left (env : Env σ) (d d' : Device AuthNvs) : Prop where
  vault : d'.keptVault = d.keptVault
  record : d'.keptRecord env.prims.importKey = d.keptRecord env.prims.importKey
  awaits : d'.AwaitsVault → d.AwaitsVault ∧ d'.sink.context = d.sink.context
  context : d'.contextActive = true → d.contextActive = true ∧ d'.context = d.context

/-- Each input is a step of a Device with the same data, as far as it is left. -/
theorem Takes.left {i : Input} (ht : Takes env d i d') (h : Intact env deviceId d) :
    ∃ e, Mirrored env deviceId e ∧ Alike env d e ∧ Left env (e.step env.onNvs i) d' := by
  cases ht with
  | handled =>
    exact ⟨d, h.mirrored, ⟨rfl, rfl, .rfl, rfl, rfl, rfl⟩,
      ⟨rfl, rfl, fun ha => ⟨ha, rfl⟩, fun hc => ⟨hc, rfl⟩⟩⟩
  | lost vault registration candidate =>
    exact ⟨d.cutAt vault registration, h.mirrored.cutAt h.steady vault registration,
      ⟨rfl, rfl, .rfl, rfl, rfl, rfl⟩, ⟨keptVault_restart env _ candidate,
        keptRecord_restart env _ candidate, fun ha => (nomatch ha.1), nofun⟩⟩

theorem Left.refl (env : Env σ) (d : Device AuthNvs) : Left env d d :=
  ⟨rfl, rfl, fun ha => ⟨ha, rfl⟩, fun hc => ⟨hc, rfl⟩⟩

theorem Left.trans {d'' : Device AuthNvs} (h : Left env d d') (h' : Left env d' d'') :
    Left env d d'' where
  vault := h'.vault.trans h.vault
  record := h'.record.trans h.record
  awaits ha := by
    obtain ⟨ha', hslot⟩ := h'.awaits ha
    exact (h.awaits ha').imp_right hslot.trans
  context hc := by
    obtain ⟨hc', hctx⟩ := h'.context hc
    exact (h.context hc').imp_right hctx.trans

/-! ## The requests -/

section
variable {line : List UInt8} {m : Moment} {frame : Frame}

/-- The input is no request of this kind. -/
def Input.Avoids (env : Env σ) (operation : RequestOperation) (i : Input) : Prop :=
  ∀ line m frame, i = .line line m → Accepted env.onNvs line frame → frame.operation ≠ operation

theorem Input.avoids_of_accepted (hacc : Accepted env.onNvs line frame)
    {operation : RequestOperation} (h : frame.operation ≠ operation) :
    (Input.line line m).Avoids env operation := by
  intro line' m' frame' hi hacc'
  cases hi
  have hread := hacc.read.symm.trans hacc'.read
  cases hread
  exact h

theorem Input.harmless_of_accepted (hacc : Accepted env.onNvs line frame)
    (h : frame.operation.stores = false) : (Input.line line m).Harmless env := by
  intro line' m' frame' hi hacc'
  cases hi
  have hread := hacc.read.symm.trans hacc'.read
  cases hread
  exact h

/-- Only a completion makes a key wait. -/
theorem Takes.awaits {i : Input} (ht : Takes env d i d') (h : Intact env deviceId d)
    (hi : i.Avoids env (.session .complete)) (ha : d'.AwaitsVault) :
    d.AwaitsVault ∧ d'.sink.context = d.sink.context := by
  obtain ⟨e, he, halike, hleft⟩ := ht.left h
  obtain ⟨hae, hslot⟩ := hleft.awaits ha
  rcases slot_step he.auth i hae.1 with hold | ⟨line, m, frame, hline, hacc, hop, _⟩
  · refine ⟨halike.awaits.1 ⟨hold.pending, hold.context ▸ hae.2⟩, ?_⟩
    rw [hslot, hold.context, halike.slot]
  · exact absurd hop (hi line m frame hline hacc)

/-- Only a begin starts an attempt. -/
theorem Takes.context {i : Input} (ht : Takes env d i d') (h : Intact env deviceId d)
    (hi : i.Avoids env (.session .sessionBegin)) (hc : d'.contextActive = true) :
    d.contextActive = true ∧ d'.context = d.context := by
  obtain ⟨e, _, halike, hleft⟩ := ht.left h
  obtain ⟨hce, hctx⟩ := hleft.context hc
  rcases context_step env.onNvs e i hce with ⟨hold, hctx'⟩ | ⟨line, m, frame, hline, hacc, hop, _⟩
  · exact ⟨halike.contextActive ▸ hold, by rw [hctx, hctx', halike.context]⟩
  · exact absurd hop (hi line m frame hline hacc)

/-- A key that waits after a completion waited before, or is the attempt's. -/
theorem Takes.delivered (ht : Takes env d (.line line m) d') (h : Intact env deviceId d)
    (ha : d'.AwaitsVault) : (d.AwaitsVault ∧ d'.sink.context = d.sink.context) ∨
      (d.contextActive = true ∧ d'.sink.context = d.context) := by
  obtain ⟨e, he, halike, hleft⟩ := ht.left h
  obtain ⟨hae, hslot⟩ := hleft.awaits ha
  rcases slot_step he.auth _ hae.1 with hold | ⟨_, m', _, _, _, _, hheld⟩
  · refine .inl ⟨halike.awaits.1 ⟨hold.pending, hold.context ▸ hae.2⟩, ?_⟩
    rw [hslot, hold.context, halike.slot]
  · obtain ⟨hc, hctx⟩ := (quiet_housekeeping env.onNvs e m'.nowMs).context hheld.contextActive
    exact .inr ⟨halike.contextActive ▸ hc, by rw [hslot, hheld.context, hctx, halike.context]⟩

/-- The input neither stores nor begins nor completes a session. -/
structure Input.Neutral (env : Env σ) (i : Input) : Prop where
  harmless : i.Harmless env
  begins : i.Avoids env (.session .sessionBegin)
  completes : i.Avoids env (.session .complete)

theorem Input.Neutral.of_not_line {i : Input} (h : ∀ line m, i ≠ .line line m) : i.Neutral env :=
  ⟨fun _ _ _ hi => absurd hi (h _ _), fun _ _ _ hi => absurd hi (h _ _),
    fun _ _ _ hi => absurd hi (h _ _)⟩

/-- The frames of most requests are of neutral inputs. -/
theorem Input.Neutral.of_accepted (hacc : Accepted env.onNvs line frame)
    (hstores : frame.operation.stores = false) (hbegin : frame.operation ≠ .session .sessionBegin)
    (hcomplete : frame.operation ≠ .session .complete) : (Input.line line m).Neutral env :=
  ⟨Input.harmless_of_accepted hacc hstores, Input.avoids_of_accepted hacc hbegin,
    Input.avoids_of_accepted hacc hcomplete⟩

theorem record_of_harmless {i : Input} (hi : i.Harmless env)
    (hc : i.Avoids env (.session .complete)) :
    (d.step env.onNvs i).keptRecord env.prims.importKey = d.keptRecord env.prims.importKey := by
  have hreg := record_of_step env d (i := i) fun line m frame hline hacc => by
    have hstores := hi line m frame hline hacc
    refine ⟨hc line m frame hline hacc, fun hop => ?_, fun kind hop => ?_⟩
    · rw [hop] at hstores
      cases hstores
    · rw [hop] at hstores
      cases kind <;> cases hstores
  rw [keptRecord, stored, hreg]
  rfl

/-- An input that neither stores nor completes a session leaves the data. -/
theorem Takes.harmless {i : Input} (ht : Takes env d i d') (h : Intact env deviceId d)
    (hi : i.Harmless env) (hc : i.Avoids env (.session .complete)) :
    d'.keptVault = d.keptVault ∧
      d'.keptRecord env.prims.importKey = d.keptRecord env.prims.importKey := by
  obtain ⟨e, he, halike, hleft⟩ := ht.left h
  constructor
  · rw [hleft.vault, copy_of_step he hi, halike.vault]
  · rw [hleft.record, record_of_harmless hi hc, halike.record]

/-- **A neutral input leaves what is kept.** -/
theorem Takes.neutral {i : Input} (ht : Takes env d i d') (h : Intact env deviceId d)
    (hi : i.Neutral env) : Left env d d' := by
  obtain ⟨hvault, hrecord⟩ := ht.harmless h hi.harmless hi.completes
  exact ⟨hvault, hrecord, ht.awaits h hi.completes, ht.context h hi.begins⟩

theorem record_of_line (hacc : Accepted env.onNvs line frame)
    (hcomplete : frame.operation ≠ .session .complete) (hinstall : frame.operation ≠ .vaultInstall)
    (hreset : ∀ kind : ResetKind, frame.operation ≠ kind.doneOperation) :
    (d.step env.onNvs (.line line m)).keptRecord env.prims.importKey =
      d.keptRecord env.prims.importKey := by
  have hreg := record_of_step env d (i := .line line m) fun line' m' frame' hi hacc' => by
    cases hi
    have hread := hacc.read.symm.trans hacc'.read
    cases hread
    exact ⟨hcomplete, hinstall, hreset⟩
  rw [keptRecord, stored, hreg]
  rfl

/-- `vault.update` and `vault.rekey` leave the Vault, or its next generation. -/
theorem Takes.succeeded (ht : Takes env d (.line line m) d') (h : Intact env deviceId d)
    (hacc : Accepted env.onNvs line frame)
    (hop : frame.operation = .vaultUpdate ∨ frame.operation = .vaultRekey) :
    d'.keptRecord env.prims.importKey = d.keptRecord env.prims.importKey ∧
      (d'.keptVault = d.keptVault ∨ ∃ envelope expected,
        parseReplacement frame.params = some (envelope, expected) ∧ d.Advances expected envelope ∧
          d'.keptVault = some envelope) := by
  obtain ⟨e, he, halike, hleft⟩ := ht.left h
  have hm := (he.housekeeping m.nowMs).vault
  have hvault : (e.step env.onNvs (.line line m)).keptVault = (e.housekeeping m.nowMs).keptVault ∨
      ∃ envelope expected, parseReplacement frame.params = some (envelope, expected) ∧
        (e.housekeeping m.nowMs).Advances expected envelope ∧
        (e.step env.onNvs (.line line m)).keptVault = some envelope := by
    rw [step_of_accepted hacc]
    rcases hop with hop | hop
    · simp only [handleRequest, hop]
      exact vaultUpdate_kept env hm frame.id frame.params m.nowMs
    · simp only [handleRequest, hop]
      rcases vaultRekey_kept env hm frame.id frame.params m.nowMs with hsame | ⟨_, _, hp, ha, _, hn⟩
      · exact .inl hsame
      · exact .inr ⟨_, _, hp, ha, hn⟩
  have hkept : (e.housekeeping m.nowMs).keptVault = d.keptVault :=
    (keptVault_housekeeping e m.nowMs).trans halike.vault
  refine ⟨?_, ?_⟩
  · rw [hleft.record, record_of_line hacc, halike.record]
    · rcases hop with hop | hop <;> simp [hop]
    · rcases hop with hop | hop <;> simp [hop]
    · rcases hop with hop | hop <;> rintro (_ | _) <;> simp [hop, ResetKind.doneOperation]
  · rw [hleft.vault, ← hkept]
    rcases hvault with hsame | ⟨envelope, expected, hp, ⟨old, hold, hadv⟩, hn⟩
    · exact .inl hsame
    · exact .inr ⟨envelope, expected, hp, ⟨old, hkept ▸ hold, hadv⟩, hn⟩

/-- `vault.install` leaves what was kept, or a new Vault where none was kept. -/
theorem Takes.installed (ht : Takes env d (.line line m) d') (h : Intact env deviceId d)
    (hacc : Accepted env.onNvs line frame) (hop : frame.operation = .vaultInstall) :
    AfterInstall env d frame.params d' := by
  obtain ⟨e, he, halike, hleft⟩ := ht.left h
  have hinstall := vaultInstall_kept (he.housekeeping m.nowMs) frame.id frame.params m.nowMs
  have hstep : (e.step env.onNvs (.line line m)) =
      ((e.housekeeping m.nowMs).vaultInstall env.onNvs frame.id frame.params m.nowMs).2 := by
    rw [step_of_accepted hacc]
    simp only [handleRequest, hop]
  rw [AfterInstall, ← hstep, ← hleft.vault, ← hleft.record, keptVault_housekeeping,
    keptRecord_housekeeping, halike.vault, halike.record] at hinstall
  rcases hinstall with hsame | ⟨envelope, hinstalls⟩
  · exact .inl hsame
  · obtain ⟨hp, hctx, _⟩ := (quiet_housekeeping env.onNvs e m.nowMs).pending hinstalls.awaits.1
    refine .inr ⟨envelope, hinstalls.request,
      halike.awaits.1 ⟨hp, hctx ▸ hinstalls.awaits.2⟩, ?_, ?_, ?_⟩
    · rw [hinstalls.vaultId, hctx, halike.slot]
    · rw [hleft.vault, hinstalls.vault]
    · rw [hleft.record, ← halike.slot, ← hctx]
      exact hinstalls.registration

/-- `factory_reset.commit` leaves all, or the registration only, or nothing. -/
theorem Takes.committed (ht : Takes env d (.line line m) d') (h : Intact env deviceId d)
    (hacc : Accepted env.onNvs line frame) (hop : frame.operation = .factoryResetCommit) :
    AfterCommit env d d' := by
  obtain ⟨e, he, halike, hleft⟩ := ht.left h
  have hcommit := factoryResetCommit_kept (he.housekeeping m.nowMs) frame.id frame.params m.nowMs
  have hstep : (e.step env.onNvs (.line line m)) =
      ((e.housekeeping m.nowMs).factoryResetCommit env.onNvs frame.id frame.params m.nowMs).2 := by
    rw [step_of_accepted hacc]
    simp only [handleRequest, hop]
  rwa [AfterCommit, ← hstep, ← hleft.vault, ← hleft.record, keptVault_housekeeping,
    keptRecord_housekeeping, halike.vault, halike.record] at hcommit

/-- `factory_reset.recovery_complete` leaves all, or the Vault only, or nothing. -/
theorem Takes.recovered (ht : Takes env d (.line line m) d') (h : Intact env deviceId d)
    (hacc : Accepted env.onNvs line frame) (hop : frame.operation = .recoveryComplete) :
    AfterComplete env d d' := by
  obtain ⟨e, he, halike, hleft⟩ := ht.left h
  have hcomplete := recoveryComplete_kept (he.housekeeping m.nowMs) frame.id frame.params m.nowMs
  have hstep : (e.step env.onNvs (.line line m)) =
      ((e.housekeeping m.nowMs).recoveryComplete env.onNvs frame.id frame.params m.nowMs).2 := by
    rw [step_of_accepted hacc]
    simp only [handleRequest, hop]
  rwa [AfterComplete, ← hstep, ← hleft.vault, ← hleft.record, keptVault_housekeeping,
    keptRecord_housekeeping, halike.vault, halike.record] at hcomplete

/-- The attempt replaced the registration of the stored Vault by the one it proposes. -/
structure ReplacesRecord (env : Env σ) (d d' : Device AuthNvs) : Prop where
  contextActive : d.contextActive = true
  operation : d.context.operation = .browserReplacement ∨ d.context.operation = .recovery
  vault : d.keptVault.isSome = true
  record : d'.keptRecord env.prims.importKey = some (proposedRecord d.context)

theorem complete_kept {e : Device AuthNvs} (he : Mirrored env deviceId e)
    (hacc : Accepted env.onNvs line frame) (hop : frame.operation = .session .complete) :
    (e.step env.onNvs (.line line m)).keptRecord env.prims.importKey =
        e.keptRecord env.prims.importKey ∨
      ReplacesRecord env e (e.step env.onNvs (.line line m)) := by
  have hq := quiet_housekeeping env.onNvs e m.nowMs
  have hsame {d' : Device AuthNvs} (hreg : d'.registration = e.registration) :
      d'.keptRecord env.prims.importKey = e.keptRecord env.prims.importKey := by
    rw [keptRecord, stored, hreg]
    rfl
  rcases registration_cases env.onNvs e (.line line m) with hreg | ⟨_, _, _, hi, hacc', heffect⟩
  · exact .inl (hsame hreg)
  cases hi
  have hread := hacc.read.symm.trans hacc'.read
  cases hread
  cases heffect with
  | kept hreg => exact .inl (hsame (hreg.trans hq.registration))
  | installed _ hop' _ =>
    rw [hop] at hop'
    cases hop'
  | cleared kind hdone _ =>
    have hop' := hop.symm.trans hdone.operation
    cases kind <;> cases hop'
  | replaced _ hcomp hrep status hreg =>
    rw [hq.registration] at hreg
    obtain ⟨status', nvs, snapshot, he', _, _, hcase⟩ :=
      Registration.Store.replace_atomic he.truthful
        ((e.housekeeping m.nowMs).context.registrationEpoch - 1)
        (proposedRecord (e.housekeeping m.nowMs).context)
    have hnvs : (e.step env.onNvs (.line line m)).stored = nvs.content :=
      (congrArg (fun r => r.2.nvs.content) (he'.symm.trans hreg)).symm
    obtain ⟨hactive, hctx⟩ := hq.context hcomp.bound.1
    rcases hcase with ⟨_, hstored, _⟩ | ⟨_, hactive'⟩
    · right
      have hvault : (e.housekeeping m.nowMs).runtime.hasVault = true := by
        rcases hrep with hop | ⟨_, hv⟩
        · exact hcomp.bound.2.describedBy.replacement hop
        · exact hv
      refine ⟨hactive, ?_, ?_, ?_⟩
      · rw [← hctx]
        exact hrep.imp_right And.left
      · rw [← keptVault_housekeeping e m.nowMs, (he.housekeeping m.nowMs).keptVault_eq, hvault]
        rfl
      · rw [keptRecord, hnvs, ← hctx]
        exact hstored
    · left
      rw [keptRecord, hnvs]
      exact Registration.storedRecord_congr hactive'

/-- A completed session leaves the Vault, and the registration or the one it proposes. -/
theorem Takes.completed (ht : Takes env d (.line line m) d') (h : Intact env deviceId d)
    (hacc : Accepted env.onNvs line frame) (hop : frame.operation = .session .complete) :
    d'.keptVault = d.keptVault ∧
      (d'.keptRecord env.prims.importKey = d.keptRecord env.prims.importKey ∨
        ReplacesRecord env d d') := by
  obtain ⟨e, he, halike, hleft⟩ := ht.left h
  have hharmless : (Input.line line m).Harmless env := by
    intro line' m' frame' hi hacc'
    cases hi
    have hread := hacc.read.symm.trans hacc'.read
    cases hread
    rw [hop]
    rfl
  refine ⟨by rw [hleft.vault, copy_of_step he hharmless, halike.vault], ?_⟩
  rcases complete_kept (m := m) he hacc hop with hsame | hreplaces
  · exact .inl (by rw [hleft.record, hsame, halike.record])
  · refine .inr ⟨halike.contextActive ▸ hreplaces.contextActive,
      halike.context ▸ hreplaces.operation, halike.vault ▸ hreplaces.vault, ?_⟩
    rw [hleft.record, hreplaces.record, halike.context]

end

end M5Auth.Provisioning.Device
