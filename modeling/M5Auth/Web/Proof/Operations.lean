import M5Auth.Web.Proof.Candidates
import M5Auth.Web.Proof.Reconciliation

/-!
# The sections keep the invariant

Each section of the management starts with a `hello` and reconciliation, so that what it works on is
what the Device has (`Refreshed`). It stages a candidate before it sends it, and ends with another
reconciliation.
-/

namespace M5Auth.Web

open CrashProgram CanonicalDeviceManagement

variable {platform : Platform} {deviceId : JsString} {s s' : System} {hello : CanonicalHelloData}

/-! ## Refreshed -/

/-- The management's state is the record of the Device's Vault. -/
structure Loaded (deviceId : JsString) (memory : Management) (stores : BrowserStores) : Prop where
  state : ∀ state, memory.state = some state ↔ memory.hello.vaultPresent = true ∧
    memory.hello.vaultId = some state.vault.vaultId ∧
    stores.vault state.vault.vaultId = some state ∧ state.belongsTo deviceId = true
  ownership : ∀ state, memory.state = some state →
    memory.ownership = state.trustedBrowser.status.ownership

/-- The management after a refresh. -/
structure Refreshed (deviceId : JsString) (s : System) : Prop where
  loaded : Loaded deviceId s.memory s.stores
  knows : Knows deviceId s.memory.hello s
  intent : s.stores.intent deviceId = none
  pending : ∀ vaultId, s.memory.hello.vaultPresent = true →
    s.memory.hello.vaultId = some vaultId → s.stores.pending vaultId = none

/-- What a refresh from `s` leaves. -/
structure RefreshedFrom (deviceId : JsString) (s s' : System) : Prop
    extends Refreshed deviceId s' where
  origin : s'.origin = s.origin
  after : ∃ d, s.MayBe d ∧ s'.device.vault = d.vault ∧ s'.device.registration = d.registration
  records : Reconciles s.stores s'.stores
  reset : s'.memory.hello.clean = true → ∀ intent, s.stores.intent deviceId = some intent →
    ∀ affected ∈ intent.affectedVaults, s'.stores.Absent affected.vaultId

namespace Manage

/-- Without a record of the Device there is no state. -/
theorem loaded_none {memory : Management} {stores : BrowserStores} (hstate : memory.state = none)
    (h : ∀ vaultId state, memory.hello.vaultPresent = true → memory.hello.vaultId = some vaultId →
      stores.vault vaultId = some state → state.belongsTo deviceId = true → False) :
    Loaded deviceId memory stores := by
  refine ⟨fun state => ⟨fun hsome => ?_, ?_⟩, fun state hsome => ?_⟩
  · rw [hstate] at hsome
    cases hsome
  · rintro ⟨hpresent, hid, hvault, hbelongs⟩
    exact (h _ state hpresent hid hvault hbelongs).elim
  · rw [hstate] at hsome
    cases hsome

theorem ensures_reload (h : Good platform deviceId s) (hknows : Knows deviceId s.memory.hello s) :
    Section deviceId (Good platform deviceId) (reloadBrowserState s.memory.hello) (fun _ s' =>
      Loaded deviceId s'.memory s.stores ∧ s'.memory.hello = s.memory.hello ∧
        s' = s.withMemory s'.memory) s := by
  have hdevice := hknows.reports.deviceId
  have hassign : ∀ change : Management → Management,
      Loaded deviceId (change s.memory) s.stores → (change s.memory).hello = s.memory.hello →
      Section deviceId (Good platform deviceId) (assign change) (fun _ s' =>
        Loaded deviceId s'.memory s.stores ∧ s'.memory.hello = s.memory.hello ∧
          s' = s.withMemory s'.memory) s := by
    intro change hloaded hhello
    refine (ensures_assign h (h.withMemory _)).mono ?_
    rintro _ _ - rfl
    exact ⟨hloaded, hhello, rfl⟩
  unfold reloadBrowserState
  cases hpresent : s.memory.hello.vaultPresent with
  | false =>
    rw [if_neg Bool.false_ne_true]
    refine hassign _ (loaded_none rfl fun _ _ htrue _ _ _ => ?_) rfl
    exact absurd htrue (Bool.eq_false_iff.1 hpresent)
  | true =>
    obtain ⟨vault, -, hid, -⟩ := hknows.reports.vault hpresent
    rw [if_pos rfl, hid]
    refine (ensures_vaultGet h).bind ?_
    rintro _ _ - ⟨rfl, rfl⟩
    split
    · rename_i hnone
      refine hassign _ (loaded_none rfl fun vaultId _ _ hsome hstate _ => ?_) rfl
      obtain rfl := Option.some.inj (hid.symm.trans hsome)
      exact absurd (hnone.symm.trans hstate) nofun
    · rename_i current hcurrent
      obtain ⟨-, hcurrentId⟩ := BrowserStores.vault_iff.1 hcurrent
      split
      · rename_i hother
        refine hassign _ (loaded_none rfl fun vaultId _ _ hsome hstate hbelongs => ?_) rfl
        obtain rfl := Option.some.inj (hid.symm.trans hsome)
        obtain rfl := Option.some.inj (hcurrent.symm.trans hstate)
        rw [hdevice, hbelongs] at hother
        cases hother
      · rename_i hbelongs
        rw [Bool.not_eq_true', Bool.not_eq_false, hdevice] at hbelongs
        refine hassign _ ⟨fun state => ⟨?_, ?_⟩, ?_⟩ rfl
        · rintro ⟨⟩
          exact ⟨hpresent, hid.trans (congrArg some hcurrentId.symm), hcurrentId ▸ hcurrent,
            hbelongs⟩
        · rintro ⟨-, hsome, hstate, -⟩
          rw [← Option.some.inj (hid.symm.trans hsome)] at hstate
          exact hcurrent.symm.trans hstate
        · rintro state ⟨⟩
          rfl

/-- After a refresh that returns, nothing of an earlier section is left for the Device. -/
theorem ensures_refresh (h : Good platform deviceId s) :
    Section deviceId (Good platform deviceId) refreshHelloAndBrowserState
      (fun _ s' => RefreshedFrom deviceId s s') s := by
  refine (ensures_helloAgain h).bind ?_
  rintro hello s₁ h₁ ⟨hanswered, rfl⟩
  refine (ensures_reconcile h₁ hanswered.knows).bind ?_
  rintro _ s₂ h₂ hsettled
  have hknows₂ := hsettled.knows
  have hpending := hsettled.pending
  have hreset := hsettled.reset
  rw [← hsettled.memory] at hknows₂ hpending hreset ⊢
  refine (ensures_reload h₂ hknows₂).mono ?_
  rintro _ s₃ - ⟨hloaded, hhello, hs₃⟩
  rw [← hhello] at hknows₂ hpending hreset
  have hstores₃ : s₃.stores = s₂.stores := by
    rw [hs₃]
    rfl
  refine ⟨⟨hstores₃ ▸ hloaded, ?_, hstores₃ ▸ hsettled.intent, hstores₃ ▸ hpending⟩, ?_, ?_, ?_, ?_⟩
  · rw [hs₃]
    exact ⟨hknows₂.late, hknows₂.reports⟩
  · rw [hs₃]
    exact hsettled.origin.trans hanswered.origin
  · rw [hs₃]
    change ∃ d, s.MayBe d ∧ s₂.device.vault = d.vault ∧ s₂.device.registration = d.registration
    rw [hsettled.device]
    exact hanswered.after
  · rw [hstores₃, ← hanswered.stores]
    exact hsettled.records
  · rw [hstores₃, ← hanswered.stores]
    exact hreset

end Manage

/-! ## Transactions -/

/-- What a transaction leaves where it returns: the stored record has the candidate's generation and
matches the Device. -/
structure Resolved (deviceId : JsString) (p : BrowserPendingTransaction) (s s' : System) : Prop where
  knows : Knows deviceId s'.memory.hello s'
  origin : s'.origin = s.origin
  after : ∃ d, s.MayBe d ∧ s'.device.vault = d.vault ∧ s'.device.registration = d.registration
  records : Reconciles s.stores s'.stores
  pending : s'.stores.pending p.candidate.vault.vaultId = none
  current : ∃ state, s'.memory.state = some state ∧ s'.memory.ownership = .active ∧
    s'.stores.vault state.vault.vaultId = some state ∧
    state.vault.generation = p.candidate.vault.generation ∧ Bound s'.memory.hello state

/-- The records stand still while the requests of a transaction are made. -/
structure Sending (platform : Platform) (deviceId : JsString) (stores : BrowserStores)
    (origin : DeviceData) (Fate : DeviceData → Prop) (s : System) : Prop where
  good : Good platform deviceId s
  stores : s.stores = stores
  origin : s.origin = origin
  fate : ∀ d, s.MayBe d → Fate d

variable {stores : BrowserStores} {origin : DeviceData} {Fate : DeviceData → Prop}

theorem Sending.handles (h : Sending platform deviceId stores origin Fate s) {r : DeviceRequest}
    (hstaged : Staged deviceId stores r)
    (hfate : ∀ d d', s.MayBe d → Fate d → Kept origin deviceId stores d → d.Effect r d' →
      Fate d' ∧ Kept origin deviceId stores d') :
    s.Handles (Sending platform deviceId stores origin Fate) r := by
  obtain ⟨hgood, rfl, rfl, hall⟩ := h
  have hnext : ∀ d d', s.MayBe d → d.Effect r d' →
      Fate d' ∧ Kept s.origin deviceId s.stores d' := fun d d' hd heffect =>
    hfate d d' hd (hall d hd) (hgood.kept d hd) heffect
  have hhandles := hgood.handles hstaged fun d d' hd heffect => (hnext d d' hd heffect).2
  constructor
  · intro d d' hd heffect
    refine ⟨hhandles.done hd heffect, rfl, rfl, fun e he => ?_⟩
    rcases he with rfl | he
    · exact (hnext _ _ hd heffect).1
    · cases he
  · intro d d' hd heffect
    refine ⟨hhandles.late hd heffect, rfl, rfl, fun e he => ?_⟩
    rcases he with rfl | he
    · exact hall _ hd
    · cases he
      exact (hnext _ _ hd heffect).1

theorem Sending.handles_quiet (h : Sending platform deviceId stores origin Fate s)
    {r : DeviceRequest} (hquiet : r.Quiet) (hstaged : Staged deviceId stores r)
    (hfate : ∀ d d' : DeviceData, d'.vault = d.vault → d'.registration = d.registration →
      Fate d → Fate d') : s.Handles (Sending platform deviceId stores origin Fate) r :=
  h.handles hstaged fun d d' _ hd hkept heffect => by
    obtain ⟨hvault, hregistration⟩ := hquiet d d' heffect
    exact ⟨hfate d d' hvault hregistration hd, kept_congr hkept hvault hregistration⟩

namespace Manage

theorem ensures_resolve {p : BrowserPendingTransaction} {operation : Except Thrown Unit}
    (h : Good platform deviceId s) :
    Section deviceId (Good platform deviceId) (resolvePendingOperation p operation)
      (fun _ s' => Resolved deviceId p s s') s := by
  refine ((ensures_refresh h).orElse fun e s₁ h₁ => ?_).bind ?_
  · refine (ensures_journalGet h₁).bind ?_
    rintro _ _ - ⟨rfl, rfl⟩
    split
    · exact ensures_throw h₁
    · exact (ensures_assign h₁ (h₁.withMemory _)).bind fun _ _ h₂ _ => ensures_conflict h₂
  · rintro _ s₁ h₁ hrefreshed
    refine (ensures_journalGet h₁).bind ?_
    rintro _ _ - ⟨rfl, rfl⟩
    split
    · exact (ensures_assign h₁ (h₁.withMemory _)).bind fun _ _ h₂ _ => ensures_throw h₂
    · rename_i hnone
      refine (ensures_self h₁).bind ?_
      rintro _ _ - ⟨rfl, rfl⟩
      split
      · rename_i hany
        obtain ⟨state, hstate, hok⟩ := (Option.any_eq_true _ _).1 hany
        rw [Bool.and_eq_true, beq_iff_eq] at hok
        obtain ⟨-, -, hvault, -⟩ := (hrefreshed.loaded.state state).1 hstate
        refine (ensures_assign h₁ (h₁.withMemory _)).mono ?_
        rintro _ _ - rfl
        exact ⟨⟨hrefreshed.knows.late, hrefreshed.knows.reports⟩, hrefreshed.origin,
          hrefreshed.after, hrefreshed.records, hnone, state, hstate, rfl, hvault, hok.1,
          bound_of_matches hok.2⟩
      · split
        · exact ensures_throw h₁
        · exact ensures_throw h₁

/-- The rule of a transaction: `K` holds while its requests are made. -/
theorem ensures_transact {p : BrowserPendingTransaction} {requests : Manage Unit}
    {K : System → Prop} (h : Good platform deviceId s) (hK : ∀ s, K s → Good platform deviceId s)
    (hrequests : s.stores.pending p.candidate.vault.vaultId = none →
      K (s.withStores (s.stores.withJournal (s.stores.journal.put p))) ∧
        Section deviceId K requests (fun _ _ => True)
          (s.withStores (s.stores.withJournal (s.stores.journal.put p)))) :
    Section deviceId (Good platform deviceId) (transact p requests)
      (fun _ s' => s.stores.pending p.candidate.vault.vaultId = none ∧
        ∃ s₁, K s₁ ∧ Resolved deviceId p s₁ s') s := by
  refine (ensures_journalStage h fun _ hnone => hK _ (hrequests hnone).1).bind ?_
  rintro _ _ - ⟨hnone, rfl⟩
  refine ((hrequests hnone).2.outcome hK).bind ?_
  rintro operation s₁ h₁ ⟨hK₁, -⟩
  exact (ensures_resolve h₁).mono fun _ s' _ hresolved => ⟨hnone, s₁, hK₁, hresolved⟩

/-! ## Writes of an active browser -/

theorem requireActiveWriter_bound {state : BrowserCanonicalState}
    (h : requireActiveWriter state hello = .ok ()) : Bound hello state :=
  bound_of_ok (require_bind.1 (require_bind.1 h).2).2

/-- The state that an active browser writes from. -/
structure Writer (deviceId : JsString) (s : System) (state : BrowserCanonicalState) : Prop where
  record : s.stores.vault state.vault.vaultId = some state
  pending : s.stores.pending state.vault.vaultId = none
  device : state.belongsTo deviceId = true
  bound : Bound s.memory.hello state

theorem ensures_activeWriter (h : Good platform deviceId s) (hr : Refreshed deviceId s) :
    Section deviceId (Good platform deviceId) activeWriter
      (fun state s' => s = s' ∧ Writer deviceId s state) s := by
  refine (ensures_self h).bind ?_
  rintro _ _ - ⟨rfl, rfl⟩
  split
  · exact ensures_throw h
  · rename_i state hstate
    split
    · exact ensures_throw h
    · refine (ensures_lift h).bind ?_
      rintro ⟨⟩ _ - ⟨hwriter, rfl⟩
      have hbound := requireActiveWriter_bound hwriter
      obtain ⟨-, hid, hvault, hbelongs⟩ := (hr.loaded.state state).1 hstate
      exact ensures_pure h ⟨rfl, hvault, hr.pending _ hbound.vaultPresent hid, hbelongs, hbound⟩

/-- What is known while the requests of a write are made: the Device has the Vault of before, or the
candidate's. -/
abbrev Writing (platform : Platform) (deviceId : JsString) (stores : BrowserStores)
    (origin : DeviceData) (state candidate : BrowserCanonicalState) : System → Prop :=
  Sending platform deviceId stores origin fun d =>
    d.registration = some state.trustedBrowser.onDevice ∧
      ∃ vault, d.vault = some vault ∧ vault.vaultId = state.vault.vaultId ∧
        (vault.generation = state.vault.generation ∨ vault = candidate.vault)

/-- A Vault that succeeds the Device's, and that was staged for its registration. -/
theorem Writing.succeeded (origin : DeviceData) {state : BrowserCanonicalState} {p : BrowserPendingTransaction}
    {d : DeviceData}
    (hp : stores.pending p.candidate.vault.vaultId = some p)
    (hbinding : SameBinding state p.candidate) (hdevice : state.belongsTo deviceId = true)
    (hfate : d.registration = some state.trustedBrowser.onDevice) :
    Kept origin deviceId stores
      { d with vault := some p.candidate.vault, grant := none } := by
  have hbelongs : p.candidate.belongsTo deviceId = true := by
    rw [BrowserCanonicalState.belongsTo, hbinding.device]
    exact hdevice
  have hcovers : Covers origin deviceId { d with vault := some p.candidate.vault, grant := none }
      p.candidate :=
    ⟨⟨_, _, rfl, hfate, hbelongs, hbinding.onDevice, rfl, rfl, rfl⟩, .inl rfl⟩
  exact hcovers.kept (.inr ⟨p, hp, rfl⟩)

/-- A write took place on both sides: the Device has the candidate's Vault, and the stored record has
the candidate's content, covers the Device, and is what the management works on. -/
structure Committed (deviceId : JsString) (candidate : BrowserCanonicalState) (s : System) :
    Prop where
  device : s.device.vault = some candidate.vault
  state : ∃ state, s.memory.state = some state ∧
    s.stores.vault candidate.vault.vaultId = some state ∧ SameContent state candidate ∧
    Covers s.origin deviceId s.device state
  pending : s.stores.pending candidate.vault.vaultId = none

/-- The rule of a write: it returns with the candidate committed. -/
theorem ensures_write {state candidate : BrowserCanonicalState} {kind : BrowserTransactionKind}
    {requests : Manage Unit} (h : Good platform deviceId s) (hknows : Knows deviceId hello s)
    (hhello : s.memory.hello = hello) (hw : Writer deviceId s state)
    (hsuccessor : Successor platform state candidate)
    (hrequests : ∀ stores s₁,
      stores.pending candidate.vault.vaultId = some ⟨kind, state.vault.generation, candidate⟩ →
      stores.intent = s.stores.intent →
      Writing platform deviceId stores s.origin state candidate s₁ →
      Section deviceId (Writing platform deviceId stores s.origin state candidate) requests
        (fun _ _ => True) s₁) :
    Section deviceId (Good platform deviceId)
      (transact ⟨kind, state.vault.generation, candidate⟩ requests)
      (fun _ s' => Committed deviceId candidate s') s := by
  have hid := hsuccessor.vaultId
  have hfits := (hhello ▸ hw.bound).fits hknows.reports
  obtain ⟨vault, registration, hvault, hregistration, -, hon, hversion⟩ := id hfits
  obtain ⟨passphrase, hopens⟩ := h.coherent.opens state.vault.vaultId
  obtain ⟨passphrase', hstate, hcandidate⟩ :=
    hsuccessor.opens passphrase (hopens state (.inl hw.record))
  have hstaged : s.stores.pending candidate.vault.vaultId = none →
      Writing platform deviceId (s.stores.withJournal (s.stores.journal.put
        ⟨kind, state.vault.generation, candidate⟩)) s.origin state candidate
        (s.withStores (s.stores.withJournal (s.stores.journal.put
          ⟨kind, state.vault.generation, candidate⟩))) := by
    intro hnone
    refine ⟨h.stage (p := ⟨kind, state.vault.generation, candidate⟩) hnone hcandidate ?_, rfl, rfl,
      fun d hd => ?_⟩
    · intro current hcurrent
      rw [hid, hw.record, Option.some.injEq] at hcurrent
      subst hcurrent
      exact ⟨hstate, .inr ⟨rfl, hsuccessor.generation, hsuccessor.binding⟩⟩
    · rw [hknows.mayBe (s := s) hd, hregistration, hon]
      exact ⟨rfl, vault, hvault, hversion.vaultId.symm, .inl hversion.generation.symm⟩
  refine (ensures_transact h (fun _ hs => hs.good) fun hnone => ⟨hstaged hnone,
    hrequests _ _ ?_ rfl (hstaged hnone)⟩).mono ?_
  · rw [BrowserStores.pending_put, if_pos rfl]
  · rintro _ s' h' ⟨-, s₁, hwriting, hresolved⟩
    obtain ⟨current, hmemory, -, hrecord, hgeneration, hbound⟩ := hresolved.current
    have hfits' := hbound.fits hresolved.knows.reports
    -- the generation of the `hello` tells that the Device has the candidate's Vault
    have hdevice : s'.device.vault = some candidate.vault := by
      obtain ⟨d, hd, hsame, -⟩ := hresolved.after
      obtain ⟨-, vault', hvault', -, hcase⟩ := hwriting.fate d hd
      obtain ⟨vault'', _, hvault'', -, -, -, hversion'⟩ := hfits'
      rw [hsame, hvault'] at hvault'' ⊢
      cases hvault''
      rcases hcase with hold | hnew
      · have hnext := hversion'.generation.symm.trans (hgeneration.trans hsuccessor.generation)
        omega
      · rw [hnew]
    have hcurrentId : current.vault.vaultId = candidate.vault.vaultId := by
      obtain ⟨vault'', _, hvault'', -, -, -, hversion'⟩ := hfits'
      rw [hdevice] at hvault''
      cases hvault''
      exact hversion'.vaultId
    have hrecord' := hrecord
    rw [hcurrentId] at hrecord'
    refine ⟨hdevice, ⟨current, hmemory, hrecord', ?_, h'.coherent.covers (h'.kept _ (.inl rfl)) hrecord
      hfits'⟩, hresolved.pending⟩
    have hrecords := hresolved.records
    rw [hwriting.stores] at hrecords
    rcases hrecords.vault candidate.vault.vaultId with hsame | hnone | ⟨p, next, hp, hnext, hsame⟩
    · rw [hrecord', BrowserStores.vault_withJournal, hid, hw.record, Option.some.injEq] at hsame
      have hnext : current.vault.generation = state.vault.generation + 1 :=
        hgeneration.trans hsuccessor.generation
      rw [hsame] at hnext
      omega
    · rw [hrecord'] at hnone
      cases hnone
    · rw [BrowserStores.pending_put, if_pos rfl, Option.some.injEq] at hp
      rw [hrecord', Option.some.injEq] at hnext
      subst hp hnext
      exact hsame

/-- What the Device may do for the request of a write. -/
theorem writing_handles {state : BrowserCanonicalState} {p : BrowserPendingTransaction}
    {r : DeviceRequest} (h : Writing platform deviceId stores origin state p.candidate s)
    (hdevice : state.belongsTo deviceId = true)
    (hsuccessor : Successor platform state p.candidate)
    (hp : stores.pending p.candidate.vault.vaultId = some p)
    (hr : r = .update state.vault.generation p.candidate.vault ∨
      r = .rekey state.vault.generation p.candidate.vault)
    (hstaged : Staged deviceId stores r) :
    s.Handles (Writing platform deviceId stores origin state p.candidate) r := by
  refine h.handles hstaged fun d d' _ hfate hkept heffect => ?_
  have hsucceeded := Writing.succeeded origin hp hsuccessor.binding hdevice hfate.1
  have hvault : ∃ vault, some p.candidate.vault = some vault ∧
      vault.vaultId = state.vault.vaultId ∧
      (vault.generation = state.vault.generation ∨ vault = p.candidate.vault) :=
    ⟨_, rfl, hsuccessor.vaultId, .inr rfl⟩
  rcases hr with rfl | rfl
  · cases heffect with
    | nothing => exact ⟨hfate, hkept⟩
    | dropped => exact ⟨hfate, kept_congr hkept rfl rfl⟩
    | updated => exact ⟨⟨hfate.1, hvault⟩, hsucceeded⟩
  · cases heffect with
    | nothing => exact ⟨hfate, hkept⟩
    | dropped => exact ⟨hfate, kept_congr hkept rfl rfl⟩
    | rekeyed => exact ⟨⟨hfate.1, hvault⟩, hsucceeded⟩

theorem ensures_mutateVault (hp : platform.Correct) {nonce : List UInt8}
    {mutator : VaultPlaintext → Except Thrown VaultPlaintext} {requireFormat2 : Bool}
    (h : Good platform deviceId s) :
    Section deviceId (Good platform deviceId) (mutateVault platform nonce mutator requireFormat2)
      (fun _ s' => ∃ hello base candidate, Current s.stores base ∧
        CanonicalDeviceManagement.mutateVault platform nonce hello mutator requireFormat2 base =
          .ok candidate ∧ Committed deviceId candidate s') s := by
  refine (ensures_refresh h).bind ?_
  rintro _ s₁ h₁ hrefreshed
  refine (ensures_activeWriter h₁ hrefreshed.toRefreshed).bind ?_
  rintro state _ - ⟨rfl, hw⟩
  refine (ensures_self h₁).bind ?_
  rintro _ _ - ⟨rfl, rfl⟩
  refine (ensures_lift h₁).bind ?_
  rintro candidate _ - ⟨hcandidate, rfl⟩
  have hsuccessor := mutateVault_successor hp hcandidate
  refine (ensures_write h₁ hrefreshed.knows rfl hw hsuccessor ?_).mono ?_
  · intro stores s₂ hpending hintent h₂
    refine (ensures_lift h₂).bind ?_
    rintro _ _ - ⟨-, rfl⟩
    refine ensures_request h₂ (writing_handles (p := ⟨_, _, candidate⟩) h₂ hw.device
      hsuccessor hpending (.inl rfl) ?_)
      fun _ _ _ _ _ _ => trivial
    exact ⟨hintent ▸ hrefreshed.intent, _, hpending, rfl, rfl, rfl⟩
  · rintro _ s' - hcommitted
    exact ⟨_, state, candidate, hrefreshed.records.current hw.record, hcandidate, hcommitted⟩

theorem ensures_rotateVmk (hp : platform.Correct) {draw : RekeyDraw} {passphrase : JsString}
    (h : Good platform deviceId s) :
    Section deviceId (Good platform deviceId) (rotateVmk platform draw passphrase)
      (fun _ s' => ∃ hello base candidate, Current s.stores base ∧
        CanonicalDeviceManagement.rotateVmk platform draw hello passphrase base = .ok candidate ∧
        Committed deviceId candidate s') s := by
  refine (ensures_lift h).bind ?_
  rintro _ _ - ⟨-, rfl⟩
  refine (ensures_refresh h).bind ?_
  rintro _ s₁ h₁ hrefreshed
  refine (ensures_activeWriter h₁ hrefreshed.toRefreshed).bind ?_
  rintro state _ - ⟨rfl, hw⟩
  refine (ensures_self h₁).bind ?_
  rintro _ _ - ⟨rfl, rfl⟩
  refine (ensures_lift h₁).bind ?_
  rintro candidate _ - ⟨hcandidate, rfl⟩
  have hsuccessor := rotateVmk_successor hp hcandidate
  refine (ensures_write h₁ hrefreshed.knows rfl hw hsuccessor ?_).mono ?_
  · intro stores s₂ hpending hintent h₂
    have hquiet := quiet_deliver (unlockDelivery .vmkRekey s₁.memory.hello.deviceId
      state draw.vmk.1) ⟨nofun, nofun⟩
    refine (ensures_request (r := .deliver _) (P := fun _ _ => True) h₂
      (h₂.handles_quiet hquiet trivial ?_) fun _ _ _ _ _ _ => trivial).bind ?_
    · intro d d' hvault hregistration hfate
      rwa [hvault, hregistration]
    rintro _ s₃ h₃ -
    refine (ensures_lift h₃).bind ?_
    rintro _ _ - ⟨-, rfl⟩
    refine ensures_request h₃ (writing_handles (p := ⟨_, _, candidate⟩) h₃ hw.device
      hsuccessor hpending (.inr rfl) ?_)
      fun _ _ _ _ _ _ => trivial
    exact ⟨hintent ▸ hrefreshed.intent, _, hpending, rfl, rfl, rfl⟩
  · rintro _ s' - hcommitted
    exact ⟨_, state, candidate, hrefreshed.records.current hw.record, hcandidate, hcommitted⟩

/-! ## Provisioning -/

/-- What the Device may do for an installation whose key it holds. -/
theorem installing_handles {p : BrowserPendingTransaction} {delivery : SessionDelivery}
    {passphrase : JsString} {vault : EncryptedVaultEnvelope}
    (h : Sending platform deviceId stores origin (fun _ => True) s) (hlate : s.late = none)
    (hgrant : s.device.grant = none ∨ s.device.grant = some delivery)
    (hdelivery : DeviceData.proposed delivery 1 = p.candidate.trustedBrowser.onDevice)
    (hcandidate : FirstRegistration platform passphrase deviceId vault p.candidate)
    (hp : stores.pending p.candidate.vault.vaultId = some p)
    (hkind : p.kind = .initialProvisioning ∨ p.kind = .recoveryProvisioning)
    (hintent : stores.intent deviceId = none) :
    s.Handles (Sending platform deviceId stores origin (fun _ => True)) (.install vault) := by
  have hstaged : Staged deviceId stores (.install vault) :=
    ⟨hintent, p, hcandidate.vault ▸ hp, hcandidate.vault, hkind⟩
  refine h.handles hstaged fun d d' hd _ hkept heffect => ⟨trivial, ?_⟩
  cases heffect with
  | nothing => exact hkept
  | dropped => exact kept_congr hkept rfl rfl
  | installed _ _ hgranted _ =>
    rcases hd with rfl | hd
    · rcases hgrant with hnone | hsome
      · rw [hnone] at hgranted
        cases hgranted
      · rw [hsome] at hgranted
        cases hgranted
        have hvault := hcandidate.vault
        subst hvault
        have hcovers : Covers origin deviceId
            ⟨some p.candidate.vault, some (DeviceData.proposed delivery 1), none⟩ p.candidate :=
          ⟨⟨_, _, rfl, rfl, hcandidate.device, hdelivery.symm, rfl, rfl, rfl⟩, .inl rfl⟩
        exact hcovers.kept (.inr ⟨p, hp, rfl⟩)
    · rw [hlate] at hd
      cases hd
  | interrupted => exact kept_of_none (.inr rfl)

/-- The requests that register a candidate: a session, and the installation of its Vault. -/
theorem ensures_register {p : BrowserPendingTransaction} {delivery : SessionDelivery}
    {passphrase : JsString} {vault : EncryptedVaultEnvelope}
    (h : Sending platform deviceId stores origin (fun _ => True) s)
    (hquiet : ∀ d d' : DeviceData, s.MayBe d → d.Effect (.deliver delivery) d' →
      d'.vault = d.vault ∧ d'.registration = d.registration)
    (hdelivery : DeviceData.proposed delivery 1 = p.candidate.trustedBrowser.onDevice)
    (hcandidate : FirstRegistration platform passphrase deviceId vault p.candidate)
    (hp : stores.pending p.candidate.vault.vaultId = some p)
    (hkind : p.kind = .initialProvisioning ∨ p.kind = .recoveryProvisioning)
    (hintent : stores.intent deviceId = none) :
    Section deviceId (Sending platform deviceId stores origin (fun _ => True))
      (do
        request (.deliver delivery)
        let _ ← encryptedVaultParams vault
        request (.install vault)) (fun _ _ => True) s := by
  refine (ensures_request (r := .deliver delivery) (P := fun _ s' => s'.late = none ∧
    (s'.device.grant = none ∨ s'.device.grant = some delivery)) h
    (h.handles trivial fun d d' hd _ hkept heffect => ?_)
    fun _ _ _ _ _ hanswer => ⟨rfl, hanswer⟩).bind ?_
  · obtain ⟨hvault, hregistration⟩ := hquiet d d' hd heffect
    exact ⟨trivial, kept_congr hkept hvault hregistration⟩
  · rintro _ s₁ h₁ ⟨hlate, hgrant⟩
    refine (ensures_lift h₁).bind ?_
    rintro _ _ - ⟨-, rfl⟩
    exact ensures_request h₁
      (installing_handles h₁ hlate hgrant hdelivery hcandidate hp hkind hintent)
      fun _ _ _ _ _ _ => trivial

/-- The rule of a registration: a candidate that is staged and registered keeps the invariant. -/
theorem ensures_registration {p : BrowserPendingTransaction} {delivery : SessionDelivery}
    {passphrase : JsString} {vault : EncryptedVaultEnvelope} (h : Good platform deviceId s)
    (hquiet : ∀ d d' : DeviceData, s.MayBe d → d.Effect (.deliver delivery) d' →
      d'.vault = d.vault ∧ d'.registration = d.registration)
    (hdelivery : DeviceData.proposed delivery 1 = p.candidate.trustedBrowser.onDevice)
    (hcandidate : FirstRegistration platform passphrase deviceId vault p.candidate)
    (hkind : p.kind = .initialProvisioning ∨ p.kind = .recoveryProvisioning)
    (hintent : s.stores.intent deviceId = none)
    (hcurrent : ∀ current, s.stores.vault p.candidate.vault.vaultId = some current →
      Opens platform passphrase current ∧ Advances p current) :
    Section deviceId (Good platform deviceId)
      (transact p do
        request (.deliver delivery)
        let _ ← encryptedVaultParams vault
        request (.install vault))
      (fun _ s' => ∃ s₁, Resolved deviceId p s₁ s') s := by
  refine (ensures_transact (K := Sending platform deviceId
    (s.stores.withJournal (s.stores.journal.put p)) s.origin (fun _ => True)) h
    (fun _ hs => hs.good) fun hnone => ?_).mono fun _ _ _ ⟨_, s₁, _, hresolved⟩ => ⟨s₁, hresolved⟩
  have hsending : Sending platform deviceId (s.stores.withJournal (s.stores.journal.put p)) s.origin
      (fun _ => True) (s.withStores (s.stores.withJournal (s.stores.journal.put p))) :=
    ⟨h.stage hnone hcandidate.opens hcurrent, rfl, rfl, fun _ _ => trivial⟩
  refine ⟨hsending, ensures_register hsending hquiet hdelivery hcandidate ?_ hkind hintent⟩
  rw [BrowserStores.pending_put, if_pos rfl]

theorem ensures_initialProvision (hp : platform.Correct) {draw : ProvisionDraw}
    {imported : List ImportedCredential} {passphrase : JsString}
    (h : Good platform deviceId s) (habsent : s.stores.Absent draw.vaultId.1) :
    Section deviceId (Good platform deviceId) (initialProvision platform draw imported passphrase)
      (fun _ _ => True) s := by
  refine (ensures_helloAgain h).bind ?_
  rintro hello s₁ h₁ ⟨hanswered, -⟩
  refine (ensures_reconcile h₁ hanswered.knows).bind ?_
  rintro _ s₂ h₂ hsettled
  refine (ensures_lift h₂).bind ?_
  rintro candidate _ - ⟨hcandidate, rfl⟩
  obtain ⟨-, -, hid, hfirst⟩ := initialProvision_registers hp hcandidate
  rw [hsettled.knows.reports.deviceId] at hfirst
  have hnone := hsettled.records.absent (hanswered.stores ▸ habsent)
  refine (ensures_registration (p := ⟨.initialProvisioning, 0, candidate⟩) h₂
    (fun d d' _ => ?_) ?_ hfirst (.inl rfl) hsettled.intent
    fun current hcurrent => ?_).mono fun _ _ _ _ => trivial
  · exact quiet_deliver (provisionDelivery .initialProvisioning hello.deviceId 0 0 candidate
      draw.vmk.1) ⟨nofun, nofun⟩ d d'
  · rw [TrustedBrowserRegistration.onDevice, hfirst.epoch]
    rfl
  · rw [hid, hnone.1] at hcurrent
    cases hcurrent

theorem ensures_candidates (h : Good platform deviceId s) :
    Section deviceId (Good platform deviceId) cleanRecoveryCandidates (fun states s' => s = s' ∧
      ∀ state ∈ states, s.stores.vault state.vault.vaultId = some state) s := by
  refine (ensures_vaultList h).bind ?_
  rintro _ _ - ⟨rfl, rfl⟩
  refine ensures_pure h ⟨rfl, fun state hstate => ?_⟩
  exact BrowserStores.vault_iff.2 ⟨List.mem_of_mem_filter hstate, rfl⟩

theorem ensures_recover (hp : platform.Correct) {draw : RegistrationDraw}
    (h : Good platform deviceId s) :
    Section deviceId (Good platform deviceId) (recoverImportedVaultToCleanDevice platform draw)
      (fun _ _ => True) s := by
  refine (ensures_refresh h).bind ?_
  rintro _ s₁ h₁ hrefreshed
  refine (ensures_self h₁).bind ?_
  rintro _ _ - ⟨rfl, rfl⟩
  refine (ensures_lift h₁).bind ?_
  rintro ⟨⟩ _ - ⟨hclean, rfl⟩
  obtain ⟨hvault, -⟩ := hrefreshed.knows.reports.clean (require_ok.1 hclean)
  refine (ensures_candidates h₁).bind ?_
  rintro states _ - ⟨rfl, hstates⟩
  split
  · exact ensures_throw h₁
  · rename_i state
    have hrecord := hstates state (List.mem_singleton_self state)
    refine (ensures_lift h₁).bind ?_
    rintro ⟨⟩ _ - ⟨-, rfl⟩
    refine (ensures_journalGet h₁).bind ?_
    rintro _ _ - ⟨rfl, rfl⟩
    split
    · exact ensures_throw h₁
    · refine (ensures_lift h₁).bind ?_
      rintro vmk _ - ⟨hvmk, rfl⟩
      refine (ensures_lift h₁).bind ?_
      rintro candidate _ - ⟨hcandidate, rfl⟩
      obtain ⟨passphrase, hopens⟩ := h₁.coherent.opens state.vault.vaultId
      have hstate := hopens state (.inl hrecord)
      have hfirst := recover_registers hp hstate hvmk hcandidate
      rw [hrefreshed.knows.reports.deviceId] at hfirst
      refine (ensures_registration
        (p := ⟨.recoveryProvisioning, state.vault.generation, candidate⟩) h₁ (fun d d' hd => ?_) ?_
        hfirst (.inr rfl) hrefreshed.intent fun current hcurrent => ?_).mono fun _ _ _ _ => trivial
      · -- a Device without a Vault cannot have its registration replaced
        intro heffect
        rw [hrefreshed.knows.mayBe hd] at heffect ⊢
        cases heffect with
        | nothing => exact ⟨rfl, rfl⟩
        | dropped => exact ⟨rfl, rfl⟩
        | granted => exact ⟨rfl, rfl⟩
        | replaced hsome =>
          rw [hvault] at hsome
          cases hsome
      · rw [TrustedBrowserRegistration.onDevice, hfirst.epoch]
        rfl
      · change s₁.stores.vault candidate.vault.vaultId = some current at hcurrent
        rw [hfirst.vault, hrecord, Option.some.injEq] at hcurrent
        subst hcurrent
        exact ⟨hstate, .inl hfirst.vault.symm⟩
  · exact ensures_throw h₁

/-! ## Unlock -/

theorem ensures_quickUnlock {state : BrowserCanonicalState} (h : Good platform deviceId s) :
    Section deviceId (Good platform deviceId) (quickUnlock platform hello state)
      (fun _ _ => True) s := by
  refine (ensures_lift h).bind ?_
  rintro _ _ - ⟨-, rfl⟩
  refine (ensures_lift h).bind ?_
  rintro vmk _ - ⟨-, rfl⟩
  have hquiet := quiet_deliver (unlockDelivery .trustedBrowserUnlock hello.deviceId state vmk)
    ⟨nofun, nofun⟩
  refine (ensures_request (r := .deliver _) (P := fun _ _ => True) h
    (h.handles_quiet hquiet trivial) fun _ _ _ _ _ _ => trivial).bind ?_
  rintro _ s₁ h₁ -
  refine (ensures_helloAgain h₁).bind ?_
  rintro _ s₂ h₂ -
  refine (ensures_lift h₂).bind ?_
  rintro _ _ - ⟨-, rfl⟩
  refine (ensures_lift h₂).bind ?_
  rintro _ _ - ⟨-, rfl⟩
  exact ensures_pure h₂ trivial

theorem ensures_assign_any {change : Management → Management} (h : Good platform deviceId s) :
    Section deviceId (Good platform deviceId) (assign change) (fun _ _ => True) s :=
  (ensures_assign h (h.withMemory _)).mono fun _ _ _ _ => trivial

theorem ensures_requestUnlock (h : Good platform deviceId s) :
    Section deviceId (Good platform deviceId) (requestUnlock platform) (fun _ _ => True) s := by
  refine (ensures_refresh h).bind ?_
  rintro _ s₁ h₁ -
  refine (ensures_self h₁).bind ?_
  rintro _ _ - ⟨rfl, rfl⟩
  split
  · exact ensures_throw h₁
  · split
    · exact ensures_throw h₁
    · refine (ensures_lift h₁).bind ?_
      rintro _ _ - ⟨-, rfl⟩
      split
      · exact ensures_assign_any h₁
      · refine (ensures_lift h₁).bind ?_
        rintro _ _ - ⟨-, rfl⟩
        refine ((ensures_quickUnlock h₁).bind fun _ _ h₂ _ => ensures_assign_any h₂).orElse ?_
        intro _ _ h₂
        exact (ensures_assign_any h₂).bind fun _ _ h₃ _ => ensures_throw h₃

/-! ## Replacement -/

/-- A record that stands in the place of another may only be more active. -/
theorem ensures_storeActivated (state : BrowserCanonicalState)
    {activated : BrowserCanonicalState} {unlockRequired : Bool}
    (h : Good platform deviceId s)
    (hrecord : s.stores.vault state.vault.vaultId = some state)
    (hpending : s.stores.pending state.vault.vaultId = none)
    (hvault : activated.vault = state.vault)
    (hopens : ∀ passphrase, Opens platform passphrase state → Opens platform passphrase activated)
    (hon : activated.trustedBrowser.onDevice = state.trustedBrowser.onDevice)
    (hdevice : activated.belongsTo deviceId = true) :
    Section deviceId (Good platform deviceId) (storeActivated activated unlockRequired)
      (fun _ _ => True) s := by
  obtain ⟨passphrase, hall⟩ := h.coherent.opens state.vault.vaultId
  refine (ensures_vaultPut (P := fun _ => True) h fun vaults hvaults => ⟨?_, trivial⟩).bind
    fun _ _ h₁ _ => ensures_assign_any h₁
  obtain ⟨next, rfl, -, hnext⟩ := putVault_ok hvaults
  rcases hnext with ⟨hnone, -⟩ | ⟨expected, current, hexpected, -, -, hmerge⟩
  · cases hnone
  cases hexpected
  obtain ⟨-, rfl | ⟨hgeneration, -⟩⟩ := merge_cases hmerge
  · refine h.put (hopens passphrase (hall state (.inl hrecord))) (fun p hp => ?_)
      fun d current _ hcurrent hcovers => ?_
    · rw [hvault, hpending] at hp
      cases hp
    · rw [hvault, hrecord, Option.some.injEq] at hcurrent
      subst hcurrent
      obtain ⟨⟨vault, registration, hd, hregistration, -, hregistered, hversion⟩, hcovered⟩ :=
        hcovers
      refine ⟨⟨vault, registration, hd, hregistration, hdevice, hon.trans hregistered, ?_⟩, ?_⟩
      · rw [hvault]
        exact hversion
      · rw [hvault]
        exact hcovered
  · omega

/-- A replacement starts from the only record of the Device's Vault. -/
theorem ensures_replacement {state : BrowserCanonicalState} (h : Good platform deviceId s)
    (hknows : Knows deviceId hello s)
    (hrecord : s.stores.vault state.vault.vaultId = some state)
    (hpending : s.stores.pending state.vault.vaultId = none)
    (hbelongs : state.belongsTo deviceId = true) :
    Section deviceId (Good platform deviceId) (completePendingReplacement platform hello state)
      (fun _ _ => True) s := by
  unfold completePendingReplacement
  split
  · rename_i vaultId registrationId brkPublicKey hvaultId hregistrationId hbrk
    split
    · exact ensures_conflict h
    · rename_i hpresent
      simp only [Bool.not_eq_true', Bool.not_eq_false, Bool.and_eq_true] at hpresent
      obtain ⟨vault, hvault, hid, hgeneration, hformat⟩ := hknows.reports.vault hpresent.1
      obtain ⟨registration, hregistration, -⟩ := hknows.reports.registration hpresent.2
      refine (ensures_lift h).bind ?_
      rintro ⟨⟩ _ - ⟨hsame, rfl⟩
      obtain ⟨hsameId, hsameGeneration, hsameFormat⟩ := assertCanonicalGeneration_ok.1 hsame
      rw [hvaultId, Option.some.injEq] at hid
      have hversion : SameVersion state.vault vault :=
        ⟨hsameId.trans hid, hsameGeneration.trans hgeneration, hsameFormat.trans hformat⟩
      split
      · -- the Device has the registration already
        refine (ensures_lift h).bind ?_
        rintro activated _ - ⟨hactivated, rfl⟩
        obtain ⟨hframed, rfl⟩ := sanitize_ok.1 hactivated
        exact ensures_storeActivated state h hrecord hpending rfl
          (fun _ hopens => hopens.activated hframed) rfl hbelongs
      · split
        · exact ensures_conflict h
        · refine (ensures_lift h).bind ?_
          rintro vmk _ - ⟨-, rfl⟩
          refine (ensures_request (r := .deliver _)
            (P := fun _ s' => s'.stores = s.stores) h (h.handles trivial ?_)
            fun _ _ _ _ _ _ => rfl).bind ?_
          · intro d d' hd heffect
            have hkept := h.kept d hd
            rw [hknows.mayBe hd] at heffect hkept
            cases heffect with
            | nothing => exact hkept
            | dropped => exact kept_congr hkept rfl rfl
            | granted => exact kept_congr hkept rfl rfl
            | replaced =>
              have hcovered : s.device.vault = some state.vault ∨ s.device.vault = s.origin.vault := by
                have hsome : s.device.registration ≠ none := by
                  rw [hregistration]
                  exact Option.some_ne_none _
                rcases hkept vault hvault hsome with ⟨horigin, -⟩ | ⟨other, hheld, hother⟩
                · exact .inr horigin
                · rw [← hversion.vaultId] at hheld
                  rcases hheld with hstored | ⟨p, hp, -⟩
                  · rw [hrecord, Option.some.injEq] at hstored
                    rw [hstored]
                    exact hother.vault
                  · rw [hpending] at hp
                    cases hp
              have hcovers : Covers s.origin deviceId
                  { s.device with
                    registration := some (DeviceData.proposed
                      (replacementDelivery hello brkPublicKey state vmk) state.trustedBrowser.epoch)
                    grant := none } state :=
                ⟨⟨vault, _, hvault, rfl, hbelongs, rfl, hversion⟩, hcovered⟩
              exact hcovers.kept (.inl hrecord)
          · rintro _ s₁ h₁ hstores
            refine (ensures_helloAgain h₁).bind ?_
            rintro confirmed s₂ h₂ ⟨hanswered, -⟩
            refine (ensures_lift h₂).bind ?_
            rintro activated _ - ⟨hactivated, rfl⟩
            obtain ⟨hframed, rfl⟩ := sanitize_ok.1 hactivated
            refine (ensures_lift h₂).bind ?_
            rintro _ _ - ⟨-, rfl⟩
            refine (ensures_lift h₂).bind ?_
            rintro _ _ - ⟨-, rfl⟩
            have hsameStores := hanswered.stores.trans hstores
            refine ensures_storeActivated state h₂ (hsameStores ▸ hrecord) (hsameStores ▸ hpending) rfl
              (fun _ hopens => hopens.activated hframed) rfl (belongsTo_some ?_)
            rw [hanswered.knows.reports.deviceId]
  · exact ensures_conflict h

theorem ensures_initialize (h : Good platform deviceId s)
    (hknows : Knows deviceId s.memory.hello s) :
    Section deviceId (Good platform deviceId) (initializeManagement platform s.memory.hello)
      (fun _ _ => True) s := by
  refine (ensures_reconcile h hknows).bind ?_
  rintro _ s₁ h₁ hsettled
  have hknows₁ := hsettled.knows
  have hpending := hsettled.pending
  rw [← hsettled.memory] at hknows₁ hpending ⊢
  refine (ensures_reload h₁ hknows₁).bind ?_
  rintro _ s₂ h₂ ⟨hloaded, hhello, hs₂⟩
  refine (ensures_self h₂).bind ?_
  rintro _ _ - ⟨rfl, rfl⟩
  split
  · exact ensures_assign_any h₂
  · split
    · exact ensures_assign_any h₂
    · rename_i state hstate
      obtain ⟨hpresent, hid, hrecord, hbelongs⟩ := (hloaded.state state).1 hstate
      rw [hhello] at hpresent hid
      split
      · rw [hs₂]
        exact ensures_replacement (h₁.withMemory _) ⟨hknows₁.late, hknows₁.reports⟩ hrecord
          (hpending _ hpresent hid) hbelongs
      · split
        · exact (ensures_assign_any h₂).bind fun _ _ h₃ _ => ensures_conflict h₃
        · split
          · exact ensures_assign_any h₂
          · split
            · exact ensures_assign_any h₂
            · exact (ensures_assign_any h₂).bind fun _ _ h₃ _ => ensures_conflict h₃

theorem ensures_connect (h : Good platform deviceId s) :
    Section deviceId (Good platform deviceId) (connect platform) (fun _ _ => True) s := by
  refine (ensures_hello h).bind ?_
  rintro hello s₁ h₁ hanswered
  refine (ensures_assign h₁ (h₁.withMemory _)).bind ?_
  rintro _ _ h₂ rfl
  exact ensures_initialize h₂ ⟨hanswered.knows.late, hanswered.knows.reports⟩

end Manage

end M5Auth.Web
