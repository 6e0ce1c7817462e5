import M5Auth.Web.FaultFree
import M5Auth.Web.Proof.Resets

/-!
# The browser and the Device agree

Every reachable state is `Good` (`Reachable.good`). What that means for the browser's records: one
Passphrase opens what is held of a Vault (`records_open`), and nothing is sent that was not staged
(`staged_before_sent`). What it means for the Device is said for its data here (`Reachable.covered`,
`Reachable.behind`, `Reachable.settled`, `Reachable.committed`), and for the firmware in
`BrowserAndFirmware`.
-/

namespace M5Auth.Web

open CrashProgram CanonicalDeviceManagement

variable {platform : Platform} {deviceId : JsString} {s s' : System}

/-! ## Reachable states -/

theorem ensures_action (hp : platform.Correct) {a : Action} (h : Good platform deviceId s)
    (hassumes : a.Assumes platform s.stores) :
    Section deviceId (Good platform deviceId) (a.program platform) (fun _ _ => True) s := by
  cases a with
  | connect => exact Manage.ensures_connect h
  | requestUnlock => exact Manage.ensures_requestUnlock h
  | refresh => exact (Manage.ensures_refresh h).mono fun _ _ _ _ => trivial
  | lock =>
    exact (Manage.ensures_plain (r := .lock) h trivial).mono fun _ _ _ _ => trivial
  | mutateVault => exact (Manage.ensures_mutateVault hp h).mono fun _ _ _ _ => trivial
  | rotateVmk => exact (Manage.ensures_rotateVmk hp h).mono fun _ _ _ _ => trivial
  | initialProvision => exact Manage.ensures_initialProvision hp h hassumes
  | recoverImportedVaultToCleanDevice => exact Manage.ensures_recover hp h
  | factoryReset => exact Manage.ensures_factoryReset h
  | connectRecovery => exact Manage.ensures_connectRecovery h
  | performRecoveryReset => exact Manage.ensures_performRecovery h
  | importPackage => exact Manage.ensures_importPackage hp h
  | changePassphrase => exact Manage.ensures_changePassphrase hp h hassumes

/-- Without records there is nothing to open, and the Device keeps what it came with. -/
theorem good_start (memory : Management) (d : DeviceData) :
    Good platform deviceId ⟨memory, .empty, d, none, d, []⟩ where
  coherent :=
    { opens := fun _ => ⟨[], fun _ h => by
        rcases h with h | ⟨_, h, _⟩
        · cases h
        · cases h⟩
      advances := fun _ _ _ h => nomatch h }
  kept e he := by
    rcases he with rfl | he
    · exact fun _ _ _ => .inl ⟨rfl, rfl⟩
    · cases he
  staged := nofun

/-- **The invariant of the system.** -/
theorem Reachable.good (hp : platform.Correct) (h : Reachable platform deviceId s) :
    Good platform deviceId s := by
  induction h with
  | start memory _ => exact good_start memory _
  | action _ hassumes hrun ih => exact ((ensures_action hp ih hassumes).stops hrun).1
  | tab memory _ ih => exact ih.withMemory memory
  | restarted _ hd hrestart ih =>
    obtain rfl := hrestart
    refine ⟨ih.coherent, fun e he => ?_, ih.staged⟩
    rcases he with rfl | he
    · exact kept_congr (ih.kept _ hd) rfl rfl
    · cases he
  | away _ _ ih =>
    refine ⟨ih.coherent, fun e he => ?_, ih.staged⟩
    rcases he with rfl | he
    · exact fun _ _ _ => .inl ⟨rfl, rfl⟩
    · cases he

/-! ## An interrupted re-key -/

def someDevice : JsString := literal "device"

def serveSome (r : DeviceRequest) (d : DeviceData) : Except Thrown r.Result × DeviceData :=
  d.serve someDevice r

theorem serveSome_handles (r : DeviceRequest) (d : DeviceData) :
    (DeviceData.model someDevice).Handles d r (serveSome r d).1.toOption (serveSome r d).2 :=
  d.serve_handles someDevice r

/-- A browser and a Device that are both new. -/
def newPair : System := ⟨{ hello := cleanHello }, .empty, {}, none, {}, []⟩

def provisionTwo : Action :=
  .initialProvision someProvision twoAccounts (literal "correct horse battery staple")

/-- The pair after the Device was provisioned. -/
def provisionedPair : System := provisionTwo.after serveSome plainPlatform newPair

theorem provisionedPair_reachable : Reachable plainPlatform someDevice provisionedPair :=
  Pair.Reachable.after serveSome_handles (.start _ trivial) ⟨rfl, rfl⟩

def DeviceRequest.isInstall : DeviceRequest → Bool
  | .install _ => true
  | _ => false

def DeviceRequest.isRekey : DeviceRequest → Bool
  | .rekey _ _ => true
  | _ => false

def rekeyTwo : Action := .rotateVmk someRekey (literal "correct horse battery staple")

/-- The pair after the page was closed during a re-key, when the Device had the Vault. -/
def rekeyedPair : System :=
  rekeyTwo.cutAfter serveSome plainPlatform DeviceRequest.isRekey provisionedPair

theorem rekeyedPair_reachable : Reachable plainPlatform someDevice rekeyedPair :=
  Pair.Reachable.cutAfter (a := rekeyTwo) serveSome_handles provisionedPair_reachable trivial _

/-- What the runs evaluate to, in one evaluation. -/
theorem pairs_evaluated :
    (provisionedPair.sent.any fun sent => sent.request.isInstall) = true ∧
    (rekeyedPair.stores.vault someProvision.vaultId.1).map (·.vault.generation) = some 1 ∧
    (rekeyedPair.stores.pending someProvision.vaultId.1).map (·.candidate.vault.generation) =
      some 2 := by
  decide +kernel

/-! ## What is held -/

/-- The Device has what it came with. -/
def Untouched (s : System) (d : DeviceData) : Prop :=
  d.vault = s.origin.vault ∧ d.registration = s.origin.registration

/-- A Device that this browser registered or wrote has a Vault and a registration for which the
browser holds a state that opens. -/
theorem Reachable.covered (hp : platform.Correct) (h : Reachable platform deviceId s)
    {d : DeviceData} (hd : s.MayBe d) {vault : EncryptedVaultEnvelope}
    (hvault : d.vault = some vault) (hregistration : d.registration ≠ none)
    (htouched : ¬Untouched s d) :
    ∃ state passphrase, s.stores.Holds vault.vaultId state ∧ Covers s.origin deviceId d state ∧
      Opens platform passphrase state := by
  have hgood := h.good hp
  rcases hgood.kept d hd vault hvault hregistration with horigin | ⟨state, hheld, hcovers⟩
  · exact absurd horigin htouched
  · obtain ⟨passphrase, hopens⟩ := hgood.coherent.opens vault.vaultId
    exact ⟨state, passphrase, hheld, hcovers, hopens state hheld⟩

/-- **One Passphrase for a Vault.** The stored record of a Vault and its candidate in the journal
both open, with one and the same Passphrase and each with the browser's own key. -/
theorem records_open (hp : platform.Correct) (h : Reachable platform deviceId s)
    (vaultId : List UInt8) : ∃ passphrase, ∀ state, s.stores.Holds vaultId state →
      Opens platform passphrase state :=
  (h.good hp).coherent.opens vaultId

/-- The record and the candidate of an interrupted re-key. -/
theorem records_open_rekeyed : ∃ state candidate passphrase,
    rekeyedPair.stores.vault someProvision.vaultId.1 = some state ∧ state.vault.generation = 1 ∧
      candidate.vault.generation = 2 ∧ Opens plainPlatform passphrase state ∧
      Opens plainPlatform passphrase candidate := by
  obtain ⟨passphrase, hopens⟩ := records_open plainPlatform_correct rekeyedPair_reachable
    someProvision.vaultId.1
  obtain ⟨state, hstate, hgeneration⟩ := Option.map_eq_some_iff.1 pairs_evaluated.2.1
  obtain ⟨p, hpending, hnext⟩ := Option.map_eq_some_iff.1 pairs_evaluated.2.2
  exact ⟨state, p.candidate, passphrase, hstate, hgeneration, hnext, hopens _ (.inl hstate),
    hopens _ (.inr ⟨p, hpending, rfl⟩)⟩

/-- The stored record has the Device's generation, or the journal has the Device's Vault. -/
theorem Reachable.behind (hp : platform.Correct) (h : Reachable platform deviceId s)
    {d : DeviceData} (hd : s.MayBe d) {vault : EncryptedVaultEnvelope}
    (hvault : d.vault = some vault) (hregistration : d.registration ≠ none)
    (htouched : ¬Untouched s d)
    {current : BrowserCanonicalState} (hcurrent : s.stores.vault vault.vaultId = some current) :
    vault.generation = current.vault.generation ∨
      vault.generation = current.vault.generation + 1 ∧ ∃ p,
        s.stores.pending vault.vaultId = some p ∧
        p.expectedGeneration = current.vault.generation ∧
        Covers s.origin deviceId d p.candidate := by
  have hgood := h.good hp
  rcases hgood.kept d hd vault hvault hregistration with horigin | ⟨state, hheld, hcovers⟩
  · exact absurd horigin htouched
  · obtain ⟨vault', _, hvault', -, -, -, hversion⟩ := id hcovers.fits
    rw [hvault, Option.some.injEq] at hvault'
    subst hvault'
    rcases hheld with hstored | ⟨p, hpending, rfl⟩
    · rw [hcurrent, Option.some.injEq] at hstored
      rw [hstored]
      exact .inl hversion.generation.symm
    · rcases hgood.coherent.advances _ p current hpending hcurrent with hsame | ⟨hlast, hnext, -⟩
      · rw [hsame]
        exact .inl hversion.generation.symm
      · refine .inr ⟨?_, p, hpending, hlast.symm, hcovers⟩
        rw [← hversion.generation, hnext, hlast]

/-- **Nothing is sent that was not staged.** -/
theorem staged_before_sent (hp : platform.Correct) (h : Reachable platform deviceId s)
    {sent : Sent} (hsent : sent ∈ s.sent) : Staged deviceId sent.stores sent.request :=
  (h.good hp).staged sent hsent

theorem staged_before_sent_provisioned : ∃ sent ∈ provisionedPair.sent,
    sent.request.isInstall = true ∧ Staged someDevice sent.stores sent.request := by
  obtain ⟨sent, hsent, hinstall⟩ := List.any_eq_true.1 pairs_evaluated.1
  exact ⟨sent, hsent, hinstall,
    staged_before_sent plainPlatform_correct provisionedPair_reachable hsent⟩

/-! ## Sections that return -/

/-- What a refresh leaves where it returns. -/
theorem Reachable.settled (hp : platform.Correct) (h : Reachable platform deviceId s)
    (hrun : Stops (systemStep deviceId) Manage.refreshHelloAndBrowserState s (some (.ok ())) s') :
    s'.stores.intent deviceId = none ∧
      (s'.memory.hello.clean = true → ∀ intent, s.stores.intent deviceId = some intent →
        ∀ affected ∈ intent.affectedVaults, s'.stores.Absent affected.vaultId) ∧
      ∀ vault, s'.memory.hello.vaultPresent = true → s'.device.vault = some vault →
        s'.stores.pending vault.vaultId = none ∧ (s'.device.registration ≠ none →
          ¬Untouched s' s'.device → ∃ state, s'.memory.state = some state ∧
            s'.stores.vault vault.vaultId = some state ∧
            Covers s'.origin deviceId s'.device state) := by
  obtain ⟨hgood, hpost⟩ := (Manage.ensures_refresh (h.good hp)).stops hrun
  have hrefreshed := hpost () rfl
  refine ⟨hrefreshed.intent, hrefreshed.reset, fun vault hpresent hvault => ?_⟩
  obtain ⟨vault', hvault', hid, -⟩ := hrefreshed.knows.reports.vault hpresent
  rw [hvault, Option.some.injEq] at hvault'
  subst hvault'
  have hnone := hrefreshed.pending _ hpresent hid
  refine ⟨hnone, fun hregistration htouched => ?_⟩
  rcases hgood.kept _ (.inl rfl) vault hvault hregistration with horigin | ⟨state, hheld, hcovers⟩
  · exact absurd horigin htouched
  · rcases hheld with hstored | ⟨p, hpending, -⟩
    · obtain ⟨-, _, -, -, hbelongs, -, -⟩ := id hcovers.fits
      have hstateId := (BrowserStores.vault_iff.1 hstored).2
      refine ⟨state, (hrefreshed.loaded.state state).2 ⟨hpresent, hstateId ▸ hid,
        hstateId ▸ hstored, hbelongs⟩, hstored, hcovers⟩
    · rw [hnone] at hpending
      cases hpending

/-- The candidate that a write makes of a state. -/
inductive Writes (platform : Platform) :
    Action → BrowserCanonicalState → BrowserCanonicalState → Prop
  | mutated {nonce : List UInt8} {mutator : VaultPlaintext → Except Thrown VaultPlaintext}
      {requireFormat2 : Bool} {hello : CanonicalHelloData}
      {base candidate : BrowserCanonicalState}
      (h : CanonicalDeviceManagement.mutateVault platform nonce hello mutator requireFormat2 base =
        .ok candidate) : Writes platform (.mutateVault nonce mutator requireFormat2) base candidate
  | rekeyed {draw : RekeyDraw} {passphrase : JsString} {hello : CanonicalHelloData}
      {base candidate : BrowserCanonicalState}
      (h : CanonicalDeviceManagement.rotateVmk platform draw hello passphrase base =
        .ok candidate) : Writes platform (.rotateVmk draw passphrase) base candidate

/-- An action that writes the Vault of an active browser. -/
def Action.IsWrite : Action → Prop
  | mutateVault _ _ _ | rotateVmk _ _ => True
  | _ => False

/-- What a write leaves where it returns. -/
theorem Reachable.committed (hp : platform.Correct) (h : Reachable platform deviceId s)
    {a : Action} (ha : a.IsWrite)
    (hrun : Stops (systemStep deviceId) (a.program platform) s (some (.ok ())) s') :
    ∃ base candidate, Current s.stores base ∧ Writes platform a base candidate ∧
      Manage.Committed deviceId candidate s' := by
  cases a with
  | mutateVault =>
    obtain ⟨hello, base, candidate, hbase, hcandidate, hcommitted⟩ :=
      ((Manage.ensures_mutateVault hp (h.good hp)).stops hrun).2 () rfl
    exact ⟨base, candidate, hbase, .mutated hcandidate, hcommitted⟩
  | rotateVmk =>
    obtain ⟨hello, base, candidate, hbase, hcandidate, hcommitted⟩ :=
      ((Manage.ensures_rotateVmk hp (h.good hp)).stops hrun).2 () rfl
    exact ⟨base, candidate, hbase, .rekeyed hcandidate, hcommitted⟩
  | _ => exact ha.elim

end M5Auth.Web
