import M5Auth.Web.Proof.Keeping

/-!
# Reconciliation keeps the invariant

After a `hello` the Device is known (`Knows`). From there reconciliation drops an entry of the
journal, or a record, only where the Device is bare or the stored record covers it; where it returns,
neither a reset intent of the Device nor an entry for its Vault is left (`Settled`).
-/

namespace M5Auth.Web

open CrashProgram

variable {platform : Platform} {deviceId : JsString} {s s' : System} {hello : CanonicalHelloData}

/-! ## What is known -/

/-- The Device answered last, and said `hello` of what it keeps. -/
structure Knows (deviceId : JsString) (hello : CanonicalHelloData) (s : System) : Prop where
  late : s.late = none
  reports : DeviceData.Reports deviceId hello s.device

theorem Knows.mayBe (h : Knows deviceId hello s) {d : DeviceData} (hd : s.MayBe d) :
    d = s.device := by
  rcases hd with hd | hd
  · exact hd
  · rw [h.late] at hd
    cases hd

/-- A `hello` was answered: the Device keeps what it may have kept before. -/
structure Answered (deviceId : JsString) (hello : CanonicalHelloData) (s s' : System) : Prop where
  knows : Knows deviceId hello s'
  stores : s'.stores = s.stores
  origin : s'.origin = s.origin
  after : ∃ d, s.MayBe d ∧ s'.device.vault = d.vault ∧ s'.device.registration = d.registration

/-- A Vault of which the browser has nothing. -/
def BrowserStores.Absent (stores : BrowserStores) (vaultId : List UInt8) : Prop :=
  stores.vault vaultId = none ∧ stores.pending vaultId = none

/-- What reconciliation may do to the records of each Vault: drop them, or promote its candidate. -/
structure Reconciles (stores stores' : BrowserStores) : Prop where
  vault : ∀ vaultId, stores'.vault vaultId = stores.vault vaultId ∨
    stores'.vault vaultId = none ∨ ∃ p next, stores.pending vaultId = some p ∧
      stores'.vault vaultId = some next ∧ SameContent next p.candidate
  pending : ∀ vaultId, stores'.pending vaultId = stores.pending vaultId ∨
    stores'.pending vaultId = none

theorem Reconciles.refl (stores : BrowserStores) : Reconciles stores stores :=
  ⟨fun _ => .inl rfl, fun _ => .inl rfl⟩

theorem Reconciles.pendingBefore {stores stores' : BrowserStores} (h : Reconciles stores stores')
    {vaultId : List UInt8} {p : BrowserPendingTransaction}
    (hp : stores'.pending vaultId = some p) : stores.pending vaultId = some p := by
  rcases h.pending vaultId with hsame | hnone
  · rw [← hsame, hp]
  · rw [hnone] at hp
    cases hp

theorem Reconciles.trans {stores stores' stores'' : BrowserStores}
    (h : Reconciles stores stores') (h' : Reconciles stores' stores'') :
    Reconciles stores stores'' := by
  constructor
  · intro vaultId
    rcases h'.vault vaultId with hsame | hnone | ⟨p, next, hp, hnext, hcontent⟩
    · rw [hsame]
      exact h.vault vaultId
    · exact .inr (.inl hnone)
    · exact .inr (.inr ⟨p, next, h.pendingBefore hp, hnext, hcontent⟩)
  · intro vaultId
    rcases h'.pending vaultId with hsame | hnone
    · rw [hsame]
      exact h.pending vaultId
    · exact .inr hnone

theorem Reconciles.absent {stores stores' : BrowserStores} (h : Reconciles stores stores')
    {vaultId : List UInt8} (habsent : stores.Absent vaultId) : stores'.Absent vaultId := by
  refine ⟨?_, ?_⟩
  · rcases h.vault vaultId with hsame | hnone | ⟨p, _, hp, -⟩
    · rw [hsame, habsent.1]
    · exact hnone
    · rw [habsent.2] at hp
      cases hp
  · rcases h.pending vaultId with hsame | hnone
    · rw [hsame, habsent.2]
    · exact hnone

/-- The record that a section works on: the one before, or what reconciliation promoted. -/
def Current (stores : BrowserStores) (state : BrowserCanonicalState) : Prop :=
  stores.vault state.vault.vaultId = some state ∨
    ∃ p, stores.pending state.vault.vaultId = some p ∧ SameContent state p.candidate

theorem Reconciles.current {stores' : BrowserStores} (h : Reconciles stores stores')
    {state : BrowserCanonicalState} (hstate : stores'.vault state.vault.vaultId = some state) :
    Current stores state := by
  rcases h.vault state.vault.vaultId with hsame | hnone | ⟨p, next, hp, hnext, hcontent⟩
  · exact .inl (hsame ▸ hstate)
  · rw [hnone] at hstate
    cases hstate
  · rw [hstate, Option.some.injEq] at hnext
    exact .inr ⟨p, hp, hnext ▸ hcontent⟩

theorem reconciles_deletePending (stores : BrowserStores) (vaultId : List UInt8) :
    Reconciles stores (stores.withJournal (stores.journal.delete (vaultKey vaultId))) := by
  refine ⟨fun _ => .inl rfl, fun vaultId' => ?_⟩
  rw [BrowserStores.pending_delete]
  split
  · exact .inr rfl
  · exact .inl rfl

theorem reconciles_deleteVault (stores : BrowserStores) (vaultId : List UInt8) :
    Reconciles stores (stores.withVaults (stores.vaults.delete (vaultKey vaultId))) := by
  refine ⟨fun vaultId' => ?_, fun _ => .inl rfl⟩
  rw [BrowserStores.vault_delete]
  split
  · exact .inr (.inl rfl)
  · exact .inl rfl

theorem reconciles_withResets (stores : BrowserStores) (resets : ResetRecords) :
    Reconciles stores (stores.withResets resets) := ⟨fun _ => .inl rfl, fun _ => .inl rfl⟩

theorem reconciles_promote {stores : BrowserStores} {p : BrowserPendingTransaction}
    {next : BrowserCanonicalState} (hp : stores.pending p.candidate.vault.vaultId = some p)
    (hsame : SameContent next p.candidate) :
    Reconciles stores (stores.withVaults (stores.vaults.put next)) := by
  refine ⟨fun vaultId => ?_, fun _ => .inl rfl⟩
  rw [BrowserStores.vault_put]
  split
  · rename_i hid
    rw [hsame.vault] at hid
    exact .inr (.inr ⟨p, next, hid ▸ hp, rfl, hsame⟩)
  · exact .inl rfl

/-- Only the records changed, as reconciliation changes them. -/
structure Calm (s s' : System) : Prop where
  device : s'.device = s.device
  late : s'.late = s.late
  origin : s'.origin = s.origin
  memory : s'.memory = s.memory
  records : Reconciles s.stores s'.stores

theorem Calm.refl (s : System) : Calm s s := ⟨rfl, rfl, rfl, rfl, .refl _⟩

theorem Calm.trans {s'' : System} (h : Calm s s') (h' : Calm s' s'') : Calm s s'' :=
  ⟨h'.device.trans h.device, h'.late.trans h.late, h'.origin.trans h.origin,
    h'.memory.trans h.memory, h.records.trans h'.records⟩

theorem Calm.knows (h : Calm s s') (hknows : Knows deviceId hello s) : Knows deviceId hello s' :=
  ⟨h.late.trans hknows.late, h.device ▸ hknows.reports⟩

theorem calm_withStores {stores : BrowserStores} (h : Reconciles s.stores stores) :
    Calm s (s.withStores stores) := ⟨rfl, rfl, rfl, rfl, h⟩

/-- The Device has no Vault or no registration, whatever became of a request. -/
def System.Bare (s : System) : Prop := ∀ d, s.MayBe d → d.vault = none ∨ d.registration = none

theorem Knows.bare (h : Knows deviceId hello s) (hclean : hello.clean = true) : s.Bare := by
  intro d hd
  rw [h.mayBe hd]
  exact .inl (h.reports.clean hclean).1

theorem Calm.bare (h : Calm s s') (hbare : s.Bare) : s'.Bare := by
  intro d hd
  rw [Pair.MayBe, h.device, h.late] at hd
  exact hbare d hd

theorem Good.withBare (h : Good platform deviceId s) (hbare : s.Bare) {stores : BrowserStores}
    (hcoherent : Coherent platform stores) : Good platform deviceId (s.withStores stores) :=
  h.withStores hcoherent fun d hd => kept_of_none (hbare d hd)

theorem Good.withResets (h : Good platform deviceId s) (resets : ResetRecords) :
    Good platform deviceId (s.withStores (s.stores.withResets resets)) :=
  h.withStores (h.coherent.shrink (fun _ _ hstate => hstate) fun _ _ hp => hp) h.kept

/-- What a dropped reset intent leaves. -/
structure IntentDropped (deviceId : JsString) (s s' : System) : Prop extends Calm s s' where
  intent : s'.stores.intent deviceId = none

/-! ## Records that match -/

/-- What `assertActiveDeviceBinding` checks. -/
structure Bound (hello : CanonicalHelloData) (state : BrowserCanonicalState) : Prop where
  vaultPresent : hello.vaultPresent = true
  registrationPresent : hello.registrationPresent = true
  device : state.belongsTo hello.deviceId = true
  vaultId : hello.vaultId = some state.vault.vaultId
  generation : hello.generation = state.vault.generation
  format : hello.vaultFormat = state.vault.vaultFormatVersion
  registrationId : hello.registrationId = some state.trustedBrowser.registrationId
  epoch : hello.registrationEpoch = state.trustedBrowser.epoch
  brkPublicKey : hello.brkPublicKey = some state.trustedBrowser.brkPublicKeyRaw

theorem registrationMatches_iff {registration : TrustedBrowserRegistration}
    {registrationId brkPublicKey : List UInt8} {epoch : Nat} :
    registrationMatches registration registrationId epoch brkPublicKey = true ↔
      registration.onDevice = ⟨registrationId, epoch, brkPublicKey⟩ := by
  simp only [registrationMatches, Bool.and_eq_true, beq_iff_eq, sameBytes_iff,
    TrustedBrowserRegistration.onDevice, DeviceRegistration.mk.injEq]
  tauto

theorem assertCanonicalGeneration_ok {state : BrowserCanonicalState} {vaultId : List UInt8}
    {generation : Nat} {version : VaultFormatVersion} :
    assertCanonicalGeneration state vaultId generation version = .ok () ↔
      state.vault.vaultId = vaultId ∧ state.vault.generation = generation ∧
        state.vault.vaultFormatVersion = version := by
  simp only [assertCanonicalGeneration, require_ok, Bool.and_eq_true, beq_iff_eq, sameBytes_iff,
    and_assoc]

theorem bound_of_ok {state : BrowserCanonicalState}
    (h : assertActiveDeviceBinding state hello = .ok ()) : Bound hello state := by
  unfold assertActiveDeviceBinding at h
  split at h
  · rename_i vaultId registrationId brkPublicKey hvault hregistration hbrk
    obtain ⟨hpresent, h⟩ := require_bind.1 h
    obtain ⟨hdevice, h⟩ := require_bind.1 h
    obtain ⟨⟨⟩, hgeneration, h⟩ := bind_ok.1 h
    obtain ⟨hid, hgeneration, hformat⟩ := assertCanonicalGeneration_ok.1 hgeneration
    have honDevice := registrationMatches_iff.1 (require_ok.1 h)
    rw [TrustedBrowserRegistration.onDevice, DeviceRegistration.mk.injEq] at honDevice
    obtain ⟨hregistrationId, hepoch, hbrkPublicKey⟩ := honDevice
    rw [Bool.and_eq_true] at hpresent
    exact
      { vaultPresent := hpresent.1
        registrationPresent := hpresent.2
        device := hdevice
        vaultId := hid ▸ hvault
        generation := hgeneration.symm
        format := hformat.symm
        registrationId := hregistrationId ▸ hregistration
        epoch := hepoch.symm
        brkPublicKey := hbrkPublicKey ▸ hbrk }
  · cases h

theorem bound_of_matches {state : BrowserCanonicalState}
    (h : exactBindingMatches state hello = true) : Bound hello state := by
  obtain ⟨⟨⟩, h⟩ := ok_of_isOk h
  exact bound_of_ok h

theorem Bound.fits {state : BrowserCanonicalState} (h : Bound hello state) {d : DeviceData}
    (hreports : DeviceData.Reports deviceId hello d) : Matches deviceId d state := by
  obtain ⟨vault, hvault, hid, hgeneration, hformat⟩ := hreports.vault h.vaultPresent
  obtain ⟨registration, hregistration, hregistrationId, hepoch, hbrk⟩ :=
    hreports.registration h.registrationPresent
  rw [h.vaultId, Option.some.injEq] at hid
  rw [h.registrationId, Option.some.injEq] at hregistrationId
  rw [h.brkPublicKey, Option.some.injEq] at hbrk
  refine ⟨vault, registration, hvault, hregistration, hreports.deviceId ▸ h.device, ?_, hid,
    h.generation.symm.trans hgeneration, h.format.symm.trans hformat⟩
  rw [TrustedBrowserRegistration.onDevice, hregistrationId, ← h.epoch, hepoch, hbrk]

/-- Where the stored record matches the Device, the journal's entry is no longer needed. -/
theorem Good.dropPending (h : Good platform deviceId s) (hknows : Knows deviceId hello s)
    {current : BrowserCanonicalState}
    (hcurrent : s.stores.vault current.vault.vaultId = some current)
    (hfits : Matches deviceId s.device current) :
    Good platform deviceId (s.withStores (s.stores.withJournal
      (s.stores.journal.delete (vaultKey current.vault.vaultId)))) := by
  refine h.withStores (h.coherent.deletePending _) fun d hd => ?_
  have hkept := h.kept d hd
  rw [hknows.mayBe hd] at hkept ⊢
  exact (h.coherent.covers hkept hcurrent hfits).kept (.inl hcurrent)

namespace Manage

theorem ensures_conflict {α : Type} {message : String} {P : α → System → Prop}
    (h : Good platform deviceId s) :
    Section deviceId (Good platform deviceId) (conflict message : Manage α) P s :=
  (ensures_assign h (h.withMemory _)).bind fun _ _ h' _ => ensures_throw h'

theorem ensures_hello (h : Good platform deviceId s) :
    Section deviceId (Good platform deviceId) (request .hello)
      (fun (hello : CanonicalHelloData) s' => Answered deviceId hello s s') s := by
  refine ensures_request (r := .hello) h (h.handles_plain trivial) fun d d' hello hd heffect hr => ?_
  obtain ⟨hvault, hregistration⟩ := (show DeviceRequest.hello.Plain from trivial).quiet d d' heffect
  exact ⟨⟨rfl, hr⟩, rfl, rfl, d, hd, hvault, hregistration⟩

theorem ensures_helloAgain (h : Good platform deviceId s) :
    Section deviceId (Good platform deviceId) helloAgain (fun hello s' =>
      Answered deviceId hello s s' ∧ s'.memory.hello = hello) s := by
  refine (ensures_hello h).bind ?_
  rintro hello s₁ h₁ hanswered
  refine (ensures_assign h₁ (h₁.withMemory _)).bind ?_
  rintro _ _ h₂ rfl
  exact ensures_pure h₂ ⟨⟨⟨hanswered.knows.late, hanswered.knows.reports⟩, hanswered.stores,
    hanswered.origin, hanswered.after⟩, rfl⟩

/-! ## A clean Device -/

theorem ensures_deleteReset {vaultId : List UInt8} {generation : Nat} {message : String}
    (h : Good platform deviceId s) (hbare : s.Bare) :
    Section deviceId (Good platform deviceId) (deleteReset vaultId generation message)
      (fun _ s' => Calm s s' ∧ s'.stores.vault vaultId = none ∧
        s'.stores.intent = s.stores.intent) s := by
  refine (ensures_vaultGet h).bind ?_
  rintro _ _ - ⟨rfl, rfl⟩
  split
  · rename_i hnone
    exact ensures_pure h ⟨.refl s, hnone, rfl⟩
  · split
    · exact ensures_conflict h
    · refine (ensures_vaultDelete h (h.withBare hbare (h.coherent.deleteVault _))).mono ?_
      rintro _ _ - rfl
      refine ⟨calm_withStores (reconciles_deleteVault s.stores vaultId), ?_, rfl⟩
      simp only [Pair.withStores, BrowserStores.vault_delete, if_pos]

theorem ensures_cleanAffected {affected : BrowserResetAffectedVault}
    (h : Good platform deviceId s) (hbare : s.Bare) :
    Section deviceId (Good platform deviceId) (cleanAffected affected) (fun _ s' =>
      Calm s s' ∧ s'.stores.Absent affected.vaultId ∧ s'.stores.intent = s.stores.intent) s := by
  refine (ensures_deleteReset h hbare).bind ?_
  rintro _ s₁ h₁ ⟨hcalm, hvault, hintent⟩
  refine (ensures_journalDelete h₁ (h₁.withBare (hcalm.bare hbare)
    (h₁.coherent.deletePending _))).mono ?_
  rintro _ _ - rfl
  refine ⟨hcalm.trans (calm_withStores (reconciles_deletePending s₁.stores _)), ⟨hvault, ?_⟩, hintent⟩
  simp only [Pair.withStores, BrowserStores.pending_delete, if_pos]

theorem ensures_resetUnprovable {P : Unit → System → Prop} (h : Good platform deviceId s) :
    Section deviceId (Good platform deviceId) resetUnprovable P s := ensures_conflict h

theorem ensures_dropIntent {intent : BrowserResetIntent} {s₁ : System}
    (h : Good platform deviceId s₁) (hcalm : Calm s s₁) :
    Section deviceId (Good platform deviceId) (resetDelete intent.deviceId)
      (fun _ s' => IntentDropped intent.deviceId s s' ∧ s'.stores.Absent = s₁.stores.Absent)
      s₁ := by
  refine (ensures_resetDelete h (h.withResets _)).mono ?_
  rintro _ _ - rfl
  refine ⟨⟨hcalm.trans (calm_withStores (reconciles_withResets s₁.stores _)), ?_⟩, rfl⟩
  simp only [Pair.withStores, BrowserStores.intent_delete, if_pos]

/-- A reset intent is dropped with what it names, or kept. -/
theorem ensures_reconcileResetIntent (h : Good platform deviceId s)
    (hknows : Knows deviceId hello s) :
    Section deviceId (Good platform deviceId) (reconcileResetIntentForHello hello) (fun _ s' =>
      IntentDropped hello.deviceId s s' ∧ (hello.clean = true → ∀ intent,
        s.stores.intent hello.deviceId = some intent → ∀ affected ∈ intent.affectedVaults,
          s'.stores.Absent affected.vaultId)) s := by
  refine (ensures_resetGet h).bind ?_
  rintro _ _ - ⟨rfl, rfl⟩
  cases hintent : s.stores.intent hello.deviceId with
  | none => exact ensures_pure h ⟨⟨.refl s, hintent⟩, fun _ _ hsome => nomatch hsome⟩
  | some intent =>
    obtain ⟨-, hdevice⟩ := BrowserStores.intent_iff.1 hintent
    rw [← hdevice]
    by_cases hclean : hello.clean = true
    · have hbare := hknows.bare hclean
      dsimp only
      rw [if_pos hclean]
      refine (ensures_each (fun items s' => Calm s s' ∧ ∀ affected ∈ intent.affectedVaults,
        affected ∈ items ∨ s'.stores.Absent affected.vaultId) ?_ h
        ⟨.refl s, fun _ haffected => .inl haffected⟩).bind ?_
      · rintro item items s₁ h₁ ⟨hcalm, hleft⟩
        refine (ensures_cleanAffected h₁ (hcalm.bare hbare)).mono ?_
        rintro _ s₂ - ⟨hcalm', habsent, -⟩
        refine ⟨hcalm.trans hcalm', fun affected haffected => ?_⟩
        rcases hleft affected haffected with hmem | hgone
        · rcases List.mem_cons.1 hmem with rfl | hmem
          · exact .inr habsent
          · exact .inl hmem
        · exact .inr (hcalm'.records.absent hgone)
      · rintro _ s₁ h₁ ⟨hcalm, hgone⟩
        refine (ensures_dropIntent h₁ hcalm).mono ?_
        rintro _ s₂ - ⟨hdropped, habsent⟩
        refine ⟨hdropped, fun _ intent' hsome affected haffected => ?_⟩
        cases hsome
        rw [habsent]
        exact (hgone affected haffected).resolve_left (List.not_mem_nil)
    · dsimp only
      rw [if_neg hclean]
      split
      · refine (ensures_vaultGet h).bind ?_
        rintro _ _ - ⟨rfl, rfl⟩
        split
        · refine (ensures_dropIntent h (.refl s)).mono ?_
          rintro _ s₁ - ⟨hdropped, -⟩
          exact ⟨hdropped, fun hc => absurd hc hclean⟩
        · exact ensures_resetUnprovable h
      · exact ensures_resetUnprovable h

/-- An entry of the journal on a bare Device. -/
theorem ensures_reconcileClean {p : BrowserPendingTransaction} (h : Good platform deviceId s)
    (hbare : s.Bare) :
    Section deviceId (Good platform deviceId) (reconcileClean p)
      (fun _ s' => Calm s s' ∧ s'.stores.intent = s.stores.intent) s := by
  have hdrop : ∀ s₁, Good platform deviceId s₁ → Calm s s₁ →
      s₁.stores.intent = s.stores.intent → Section deviceId (Good platform deviceId)
        (journalDelete p.candidate.vault.vaultId)
        (fun _ s' => Calm s s' ∧ s'.stores.intent = s.stores.intent) s₁ := by
    intro s₁ h₁ hcalm hintent
    refine (ensures_journalDelete h₁ (h₁.withBare (hcalm.bare hbare)
      (h₁.coherent.deletePending _))).mono ?_
    rintro _ _ - rfl
    exact ⟨hcalm.trans (calm_withStores (reconciles_deletePending s₁.stores _)), hintent⟩
  unfold reconcileClean
  split
  · refine (ensures_deleteReset h hbare).bind ?_
    rintro _ s₁ h₁ ⟨hcalm, -, hintent⟩
    exact hdrop s₁ h₁ hcalm hintent
  · split
    · exact hdrop s h (.refl s) rfl
    · exact ensures_pure h ⟨.refl s, rfl⟩
  · exact hdrop s h (.refl s) rfl
  · exact ensures_pure h ⟨.refl s, rfl⟩

/-! ## A Device with a Vault -/

/-- After reconciliation of a Vault the stored record matches the Device. -/
structure Promoted (deviceId : JsString) (vaultId : List UInt8) (s s' : System) : Prop
    extends Calm s s' where
  intent : s'.stores.intent = s.stores.intent
  current : ∃ current, s'.stores.vault vaultId = some current ∧ Matches deviceId s'.device current

theorem ensures_promote {p : BrowserPendingTransaction} (h : Good platform deviceId s)
    (hknows : Knows deviceId hello s)
    (hp : s.stores.pending p.candidate.vault.vaultId = some p)
    (hbound : Bound hello p.candidate) :
    Section deviceId (Good platform deviceId)
      (promote p (s.stores.vault p.candidate.vault.vaultId) hello)
      (fun _ s' => Promoted deviceId p.candidate.vault.vaultId s s') s := by
  obtain ⟨passphrase, hopens⟩ := h.coherent.opens p.candidate.vault.vaultId
  have hcandidate := hopens p.candidate (.inr ⟨p, hp, rfl⟩)
  have hfits := hbound.fits hknows.reports
  -- what stands in the store after a state of the candidate's content was put
  have hput : ∀ next, SameContent next p.candidate → Promoted deviceId p.candidate.vault.vaultId s
      (s.withStores (s.stores.withVaults (s.stores.vaults.put next))) := by
    intro next hsame
    refine ⟨calm_withStores (reconciles_promote hp hsame), rfl, next, ?_, hfits.congr hsame⟩
    simp only [Pair.withStores, BrowserStores.vault_put, hsame.vault, if_pos]
  cases hcurrent : s.stores.vault p.candidate.vault.vaultId with
  | none =>
    unfold promote
    dsimp only
    split
    · exact ensures_throw h
    · refine ensures_vaultPut h fun vaults hvaults => ?_
      obtain ⟨next, rfl, -, hnext⟩ := putVault_ok hvaults
      rcases hnext with ⟨-, -, rfl⟩ | ⟨_, _, hexpected, -⟩
      · refine ⟨h.put hcandidate (fun p' hp' => ?_) fun d current _ hsome => ?_,
          hput _ ⟨rfl, rfl, rfl⟩⟩
        · rw [hp] at hp'
          cases hp'
          exact ⟨hcandidate, .inl rfl⟩
        · rw [hcurrent] at hsome
          cases hsome
      · cases hexpected
  | some current =>
    have hadvances := h.coherent.advances _ p current hp hcurrent
    have hid := (BrowserStores.vault_iff.1 hcurrent).2
    unfold promote
    dsimp only
    split
    · rename_i hgeneration
      refine ensures_vaultPut h fun vaults hvaults => ?_
      obtain ⟨next, rfl, -, hnext⟩ := putVault_ok hvaults
      rcases hnext with ⟨hnone, -⟩ | ⟨expected, current', hexpected, hcurrent', -, hmerge⟩
      · cases hnone
      · cases hexpected
        obtain rfl : current = current' := Option.some.inj (hcurrent.symm.trans hcurrent')
        obtain ⟨hsame, hopens'⟩ := hadvances.promoted platform hgeneration hmerge
        have hnext := hopens' passphrase (hopens current (.inl hcurrent)) hcandidate
        refine ⟨h.put hnext (fun p' hp' => ?_) fun d current' hd hsome hcovers => ?_, hput _ hsame⟩
        · rw [hsame.vault, hp] at hp'
          cases hp'
          exact ⟨hcandidate, .inl hsame.vault⟩
        · rw [hsame.vault, hcurrent] at hsome
          cases hsome
          rw [hknows.mayBe hd] at hcovers ⊢
          refine ⟨hfits.congr hsame, ?_⟩
          rcases hcovers.vault with hvault | horigin
          · obtain ⟨vault, _, hd', -, -, -, hversion⟩ := hfits
            rw [hd'] at hvault ⊢
            cases hvault
            rcases hadvances with hsameVault | ⟨-, hnextGeneration, -⟩
            · rw [hsame.vault, hsameVault]
              exact .inl rfl
            · have := hversion.generation
              omega
          · exact .inr horigin
    · split
      · split
        · rename_i hmatches
          exact ensures_pure h ⟨.refl s, rfl, current, hcurrent,
            (bound_of_matches hmatches).fits hknows.reports⟩
        · exact ensures_throw h
      · exact ensures_throw h

/-- What reconciliation leaves of a Vault where it returns. -/
structure VaultSettled (vaultId : List UInt8) (s s' : System) : Prop extends Calm s s' where
  intent : s'.stores.intent = s.stores.intent
  pending : s'.stores.pending vaultId = none

/-- The entry of a Vault whose record matches the Device is dropped. -/
theorem ensures_dropPending {s₁ : System} {vaultId : List UInt8}
    (h : Good platform deviceId s₁) (hknows : Knows deviceId hello s₁)
    (hpromoted : Promoted deviceId vaultId s s₁) :
    Section deviceId (Good platform deviceId) (journalDelete vaultId)
      (fun _ s' => VaultSettled vaultId s s') s₁ := by
  obtain ⟨current, hcurrent, hfits⟩ := hpromoted.current
  obtain ⟨-, rfl⟩ := BrowserStores.vault_iff.1 hcurrent
  refine (ensures_journalDelete h (h.dropPending hknows hcurrent hfits)).mono ?_
  rintro _ _ - rfl
  refine ⟨hpromoted.toCalm.trans (calm_withStores (reconciles_deletePending s₁.stores _)), hpromoted.intent, ?_⟩
  simp only [Pair.withStores, BrowserStores.pending_delete, if_pos]

theorem ensures_reconcileVault {vaultId : List UInt8} (h : Good platform deviceId s)
    (hknows : Knows deviceId hello s) :
    Section deviceId (Good platform deviceId) (reconcileVault hello vaultId)
      (fun _ s' => VaultSettled vaultId s s') s := by
  -- a stored record that the checks found to match
  have hmatched : ∀ {check : BrowserCanonicalState → Bool},
      (∀ current, check current = true → exactBindingMatches current hello = true) →
      (s.stores.vault vaultId).any check = true → Promoted deviceId vaultId s s := by
    intro check hcheck hany
    obtain ⟨current, hcurrent, hok⟩ := (Option.any_eq_true _ _).1 hany
    exact ⟨.refl s, rfl, current, hcurrent,
      (bound_of_matches (hcheck current hok)).fits hknows.reports⟩
  refine (ensures_journalGet h).bind ?_
  rintro _ _ - ⟨rfl, rfl⟩
  split
  · rename_i hnone
    exact ensures_pure h ⟨.refl s, rfl, hnone⟩
  · rename_i p hp
    obtain ⟨-, rfl⟩ := BrowserStores.pending_iff.1 hp
    dsimp only
    split
    · exact ensures_conflict h
    · refine (ensures_vaultGet h).bind ?_
      rintro _ _ - ⟨rfl, rfl⟩
      split
      · -- a Factory Reset that did not take place
        split
        · rename_i hany
          exact ensures_dropPending h hknows
            (hmatched (fun _ hok => ((Bool.and_eq_true _ _).mp hok).2) hany)
        · exact ensures_conflict h
      · split
        · -- the Device committed the candidate
          rename_i hmatches
          refine (ensures_promote h hknows hp (bound_of_matches hmatches)).bind ?_
          rintro _ s₁ h₁ hpromoted
          exact ensures_dropPending h₁ (hpromoted.toCalm.knows hknows) hpromoted
        · split
          · -- the Device did not commit it
            rename_i hkept
            exact ensures_dropPending h hknows (hmatched (fun _ hok => hok) hkept.2.2.2)
          · exact ensures_conflict h

/-! ## The whole reconciliation -/

/-- What reconciliation leaves where it returns. -/
structure Settled (deviceId : JsString) (hello : CanonicalHelloData) (s s' : System) : Prop
    extends Calm s s' where
  knows : Knows deviceId hello s'
  intent : s'.stores.intent deviceId = none
  pending : ∀ vaultId, hello.vaultPresent = true → hello.vaultId = some vaultId →
    s'.stores.pending vaultId = none
  reset : hello.clean = true → ∀ intent, s.stores.intent deviceId = some intent →
    ∀ affected ∈ intent.affectedVaults, s'.stores.Absent affected.vaultId

theorem ensures_reconcile (h : Good platform deviceId s) (hknows : Knows deviceId hello s) :
    Section deviceId (Good platform deviceId) (reconcilePendingForHello hello)
      (fun _ s' => Settled deviceId hello s s') s := by
  refine (ensures_reconcileResetIntent h hknows).bind ?_
  rintro _ s₁ h₁ ⟨hdropped, hreset⟩
  rw [hknows.reports.deviceId] at hdropped hreset
  have hknows₁ := hdropped.toCalm.knows hknows
  -- the rest keeps what the first part left
  have hsettled : ∀ s', Calm s₁ s' → s'.stores.intent = s₁.stores.intent →
      (∀ vaultId, hello.vaultPresent = true → hello.vaultId = some vaultId →
        s'.stores.pending vaultId = none) → Settled deviceId hello s s' :=
    fun s' hcalm hintent hpending =>
      ⟨hdropped.toCalm.trans hcalm, hcalm.knows hknows₁, hintent ▸ hdropped.intent, hpending,
        fun hclean intent hsome affected haffected =>
          hcalm.records.absent (hreset hclean intent hsome affected haffected)⟩
  cases hpresent : hello.vaultPresent with
  | true =>
    obtain ⟨vault, -, hid, -⟩ := hknows₁.reports.vault hpresent
    rw [if_pos rfl, hid]
    refine (ensures_reconcileVault h₁ hknows₁).mono ?_
    rintro _ s₂ - hvault
    refine hsettled s₂ hvault.toCalm hvault.intent fun vaultId _ hsome => ?_
    rw [hid] at hsome
    cases hsome
    exact hvault.pending
  | false =>
    have hnone : ∀ vaultId, hello.vaultPresent = true → hello.vaultId = some vaultId →
        s₁.stores.pending vaultId = none := fun _ htrue _ => by
      rw [hpresent] at htrue
      cases htrue
    rw [if_neg Bool.false_ne_true]
    dsimp only
    split
    · rename_i hstate
      have hclean : hello.clean = true := by
        rw [Bool.and_eq_true] at hstate
        rw [CanonicalHelloData.clean, hpresent, hstate.1, hstate.2]
        rfl
      have hbare := hknows₁.bare hclean
      refine (ensures_journalListForDevice h₁).bind ?_
      rintro _ _ - ⟨rfl, rfl⟩
      refine (ensures_each
        (fun _ s' => Calm s₁ s' ∧ s'.stores.intent = s₁.stores.intent) ?_ h₁
        ⟨.refl s₁, rfl⟩).mono ?_
      · rintro p _ s₂ h₂ ⟨hcalm, hintent⟩
        refine (ensures_reconcileClean h₂ (hcalm.bare hbare)).mono ?_
        rintro _ s₃ - ⟨hcalm', hintent'⟩
        exact ⟨hcalm.trans hcalm', hintent'.trans hintent⟩
      · rintro _ s₂ - ⟨hcalm, hintent⟩
        refine hsettled s₂ hcalm hintent fun _ htrue _ => ?_
        rw [hpresent] at htrue
        cases htrue
    · exact ensures_pure h₁ (hsettled s₁ (.refl s₁) rfl hnone)

end Manage

end M5Auth.Web
