import M5Auth.Web.Proof.AccountRuns
import M5Auth.Web.Proof.Sections

/-!
# What the browser keeps

The invariant `Good` of the browser and the Device, over every step of every section: the browser
can open what it holds, the journal's candidates advance the stored records, a registration that the
browser gave the Device is covered by a state that it holds, and what a request commits was staged
before.
-/

namespace M5Auth.Web

open CrashProgram

variable {platform : Platform} {deviceId : JsString}

/-! ## States that are held -/

/-- The store or the journal has the state for the Vault. -/
def BrowserStores.Holds (stores : BrowserStores) (vaultId : List UInt8)
    (state : BrowserCanonicalState) : Prop :=
  stores.vault vaultId = some state ∨ ∃ p, stores.pending vaultId = some p ∧ p.candidate = state

/-- The browser's key and the Passphrase both give the key that opens the Vault. -/
structure Opens (platform : Platform) (passphrase : JsString) (state : BrowserCanonicalState) :
    Prop where
  framed : Framed state
  opens : ∃ vmk decrypted v,
    WrapsVmk platform state.trustedBrowser.buk state.trustedBrowser.wrappedVmk state.vault.vaultId
      state.trustedBrowser.registrationId state.trustedBrowser.epoch vmk ∧
    unwrapVmkWithPassphrase platform state.recoveryWrappedVmk passphrase = .ok vmk ∧
    decryptVault platform state.vault vmk = .ok decrypted ∧
    decodeVaultPlaintext decrypted (some state.vault.vaultFormatVersion) = .ok v

/-- A wrapper holds one key. -/
theorem WrapsVmk.unique {buk : CryptoKey} {wrapped : BrowserWrappedVmk}
    {vaultId registrationId vmk vmk' : List UInt8} {epoch : Nat}
    (h : WrapsVmk platform buk wrapped vaultId registrationId epoch vmk)
    (h' : WrapsVmk platform buk wrapped vaultId registrationId epoch vmk') : vmk = vmk' := by
  obtain ⟨-, aad, haad, hvmk⟩ := h
  obtain ⟨-, aad', haad', hvmk'⟩ := h'
  rw [haad] at haad'
  cases haad'
  rw [hvmk] at hvmk'
  exact Option.some.inj hvmk'

/-- What was encoded is decoded. -/
theorem decodes_encoded {value : VaultPlaintext} {version : VaultFormatVersion}
    {bytes : List UInt8} (h : encodeVaultPlaintext value version = .ok bytes) :
    ∃ v, decodeVaultPlaintext bytes (some version) = .ok v := by
  obtain ⟨p, -, hencode⟩ := encodeVaultPlaintext_ok h
  exact accepted_iff.1 ⟨p, Vault.decodePlaintext_iff.2 hencode⟩

/-! ## Candidates -/

/-- The registration of a state, as the Device keeps it. -/
def TrustedBrowserRegistration.onDevice (registration : TrustedBrowserRegistration) :
    DeviceRegistration :=
  ⟨registration.registrationId, registration.epoch, registration.brkPublicKeyRaw⟩

/-- A candidate of the same registration and Device; its wrapper may be new. -/
structure SameBinding (current candidate : BrowserCanonicalState) : Prop where
  registration : { candidate.trustedBrowser with
    wrappedVmk := current.trustedBrowser.wrappedVmk } = current.trustedBrowser
  device : candidate.deviceMetadata = current.deviceMetadata

theorem SameBinding.onDevice {current candidate : BrowserCanonicalState}
    (h : SameBinding current candidate) :
    candidate.trustedBrowser.onDevice = current.trustedBrowser.onDevice := by
  have hon := congrArg TrustedBrowserRegistration.onDevice h.registration
  exact hon

/-- The stored record has the candidate's Vault, or the one before it. -/
def Advances (p : BrowserPendingTransaction) (current : BrowserCanonicalState) : Prop :=
  current.vault = p.candidate.vault ∨
    current.vault.generation = p.expectedGeneration ∧
      p.candidate.vault.generation = p.expectedGeneration + 1 ∧ SameBinding current p.candidate

/-- What a merge stores: the candidate, or its Vault in the current state. -/
theorem merge_cases {current candidate state : BrowserCanonicalState} {expected : Nat}
    (h : mergeVaultAdvanceWithCurrentBrowserState current candidate expected = .ok state) :
    Framed state ∧ (state = candidate ∨
      candidate.vault.generation = expected + 1 ∧
        current.vault.vaultId = candidate.vault.vaultId ∧
        current.trustedBrowser.wrappedVmk = candidate.trustedBrowser.wrappedVmk ∧
        state = { current with
          vault := candidate.vault
          recoveryWrappedVmk :=
            { current.recoveryWrappedVmk with
              vaultFormatVersion := candidate.vault.vaultFormatVersion } }) := by
  obtain ⟨_, hcurrent, hmerge⟩ := bind_ok.1 h
  obtain ⟨_, hcandidate, hmerged⟩ := bind_ok.1 hmerge
  obtain ⟨-, rfl⟩ := sanitize_ok.1 hcurrent
  obtain ⟨hframed, rfl⟩ := sanitize_ok.1 hcandidate
  dsimp only at hmerged
  split at hmerged
  · cases hmerged
    exact ⟨hframed, .inl rfl⟩
  · rename_i hsame
    obtain ⟨hstate, rfl⟩ := sanitize_ok.1 hmerged
    simp only [Bool.or_eq_true, Bool.not_eq_true', not_or, Bool.not_eq_false,
      sameBrowserWrappedVmk_iff, sameBytes_iff, beq_iff_eq] at hsame
    exact ⟨hstate, .inr ⟨hsame.1.1, hsame.1.2, hsame.2, rfl⟩⟩

/-- A state that agrees with another, but for the recovery wrapper. -/
structure SameContent (state candidate : BrowserCanonicalState) : Prop where
  vault : state.vault = candidate.vault
  registration : state.trustedBrowser = candidate.trustedBrowser
  device : state.deviceMetadata = candidate.deviceMetadata

/-- A state of the same content whose wrapper holds the same key opens as well. -/
theorem Opens.congr {passphrase : JsString} {state candidate : BrowserCanonicalState}
    (h : Opens platform passphrase candidate) (hsame : SameContent state candidate)
    (hframed : Framed state)
    (hwrapper : ∀ vmk, WrapsVmk platform candidate.trustedBrowser.buk
      candidate.trustedBrowser.wrappedVmk candidate.vault.vaultId
      candidate.trustedBrowser.registrationId candidate.trustedBrowser.epoch vmk →
      unwrapVmkWithPassphrase platform state.recoveryWrappedVmk passphrase = .ok vmk) :
    Opens platform passphrase state := by
  obtain ⟨-, vmk, decrypted, v, hwraps, -, hdecrypted, hv⟩ := h
  refine ⟨hframed, vmk, decrypted, v, ?_, hwrapper vmk hwraps, ?_, ?_⟩
  · rw [hsame.registration, hsame.vault]
    exact hwraps
  · rw [hsame.vault]
    exact hdecrypted
  · rw [hsame.vault]
    exact hv

/-- **What is promoted.** The stored state is the candidate, perhaps with the recovery wrapper of
the record before. -/
theorem Advances.promoted (platform : Platform) {p : BrowserPendingTransaction}
    {current state : BrowserCanonicalState}
    (h : Advances p current) (hgeneration : current.vault.generation = p.expectedGeneration)
    (hmerge : mergeVaultAdvanceWithCurrentBrowserState current p.candidate p.expectedGeneration =
      .ok state) :
    SameContent state p.candidate ∧ ∀ passphrase, Opens platform passphrase current →
      Opens platform passphrase p.candidate → Opens platform passphrase state := by
  obtain ⟨hframed, rfl | ⟨hnext, hid, hwrapped, rfl⟩⟩ := merge_cases hmerge
  · exact ⟨⟨rfl, rfl, rfl⟩, fun _ _ h => h⟩
  · have hbinding : SameBinding current p.candidate := by
      rcases h with hvault | ⟨-, -, hbinding⟩
      · rw [hvault] at hgeneration
        omega
      · exact hbinding
    have hregistration : current.trustedBrowser = p.candidate.trustedBrowser := by
      rw [← hbinding.registration, hwrapped]
    have hsame : SameContent { current with
        vault := p.candidate.vault
        recoveryWrappedVmk :=
          { current.recoveryWrappedVmk with
            vaultFormatVersion := p.candidate.vault.vaultFormatVersion } } p.candidate :=
      ⟨rfl, hregistration, hbinding.device.symm⟩
    refine ⟨hsame, fun passphrase hcurrent hcandidate => hcandidate.congr hsame hframed ?_⟩
    intro vmk hvmk
    obtain ⟨-, vmk', -, -, hwraps, hunwrap, -⟩ := hcurrent
    rw [hid, hregistration] at hwraps
    rw [hvmk.unique hwraps]
    exact hunwrap

/-! ## The Device's Vault and registration -/

/-- The identifier, the generation and the format of a Vault. -/
structure SameVersion (vault vault' : EncryptedVaultEnvelope) : Prop where
  vaultId : vault.vaultId = vault'.vaultId
  generation : vault.generation = vault'.generation
  format : vault.vaultFormatVersion = vault'.vaultFormatVersion

/-- The state has the Device's registration and its version of the Vault. -/
def Matches (deviceId : JsString) (d : DeviceData) (state : BrowserCanonicalState) : Prop :=
  ∃ vault registration, d.vault = some vault ∧ d.registration = some registration ∧
    state.belongsTo deviceId = true ∧ state.trustedBrowser.onDevice = registration ∧
    SameVersion state.vault vault

/-- The state matches the Device, and has its Vault. Only of a Vault that came with the Device the
browser may know no more than the version. -/
structure Covers (origin : DeviceData) (deviceId : JsString) (d : DeviceData)
    (state : BrowserCanonicalState) : Prop where
  fits : Matches deviceId d state
  vault : d.vault = some state.vault ∨ d.vault = origin.vault

/-- The Device keeps what it came with, or the browser holds a state that covers it. -/
def Kept (origin : DeviceData) (deviceId : JsString) (stores : BrowserStores) (d : DeviceData) :
    Prop :=
  ∀ vault, d.vault = some vault → d.registration ≠ none →
    (d.vault = origin.vault ∧ d.registration = origin.registration) ∨
      ∃ state, stores.Holds vault.vaultId state ∧ Covers origin deviceId d state

theorem Matches.congr {d : DeviceData} {state state' : BrowserCanonicalState}
    (h : Matches deviceId d state') (hsame : SameContent state state') :
    Matches deviceId d state := by
  obtain ⟨vault, registration, hvault, hregistration, hdevice, hon, hversion⟩ := h
  refine ⟨vault, registration, hvault, hregistration, ?_, ?_, ?_⟩
  · rw [BrowserCanonicalState.belongsTo, hsame.device]
    exact hdevice
  · rw [hsame.registration]
    exact hon
  · rw [hsame.vault]
    exact hversion

theorem Covers.congr {origin d : DeviceData} {state state' : BrowserCanonicalState}
    (h : Covers origin deviceId d state') (hsame : SameContent state state') :
    Covers origin deviceId d state := by
  refine ⟨h.fits.congr hsame, ?_⟩
  rw [hsame.vault]
  exact h.vault

/-- A state that matches covers, if it has the Vault of each covering state. -/
theorem Kept.covers {origin d : DeviceData} {stores : BrowserStores}
    {state : BrowserCanonicalState} (h : Kept origin deviceId stores d)
    (hstate : Matches deviceId d state)
    (hvault : ∀ other, stores.Holds state.vault.vaultId other → d.vault = some other.vault →
      d.vault = some state.vault) : Covers origin deviceId d state := by
  obtain ⟨vault, registration, hd, hregistration, -, -, hversion⟩ := id hstate
  have hsome : d.registration ≠ none := by
    rw [hregistration]
    exact Option.some_ne_none _
  rcases h vault hd hsome with ⟨horigin, -⟩ | ⟨other, hheld, -, hother | horigin⟩
  · exact ⟨hstate, .inr horigin⟩
  · rw [← hversion.vaultId] at hheld
    exact ⟨hstate, .inl (hvault other hheld hother)⟩
  · exact ⟨hstate, .inr horigin⟩

/-- A state that covers, and is held, is enough. -/
theorem Covers.kept {origin d : DeviceData} {stores : BrowserStores}
    {state : BrowserCanonicalState} (h : Covers origin deviceId d state)
    (hheld : stores.Holds state.vault.vaultId state) : Kept origin deviceId stores d := by
  intro vault hvault _
  obtain ⟨vault', registration, hd, -, -, -, hversion⟩ := id h.fits
  rw [hd] at hvault
  cases hvault
  rw [hversion.vaultId] at hheld
  exact .inr ⟨state, hheld, h⟩

theorem Kept.mono {origin d : DeviceData} {stores stores' : BrowserStores}
    (h : Kept origin deviceId stores d)
    (hstores : ∀ vaultId state, stores.Holds vaultId state → Covers origin deviceId d state →
      ∃ state', stores'.Holds vaultId state' ∧ Covers origin deviceId d state') :
    Kept origin deviceId stores' d := by
  intro vault hvault hregistration
  rcases h vault hvault hregistration with horigin | ⟨state, hheld, hcovers⟩
  · exact .inl horigin
  · exact .inr (hstores _ _ hheld hcovers)

theorem kept_congr {origin d d' : DeviceData} {stores : BrowserStores}
    (h : Kept origin deviceId stores d) (hvault : d'.vault = d.vault)
    (hregistration : d'.registration = d.registration) : Kept origin deviceId stores d' := by
  intro vault
  rw [hvault, hregistration]
  intro hd hsome
  rcases h vault hd hsome with horigin | ⟨state, hheld, hfits, hcovered⟩
  · exact .inl horigin
  · refine .inr ⟨state, hheld, ?_, ?_⟩
    · rw [Matches, hvault, hregistration]
      exact hfits
    · rw [hvault]
      exact hcovered

/-- A Device without Vault or without registration is kept. -/
theorem kept_of_none {origin d : DeviceData} {stores : BrowserStores}
    (h : d.vault = none ∨ d.registration = none) : Kept origin deviceId stores d := by
  intro vault hvault hregistration
  rcases h with h | h
  · rw [h] at hvault
    cases hvault
  · exact absurd h hregistration

/-! ## The invariant -/

/-- What was staged before a request was sent. -/
def Staged (deviceId : JsString) (stores : BrowserStores) : DeviceRequest → Prop
  | .install vault => stores.intent deviceId = none ∧ ∃ p,
    stores.pending vault.vaultId = some p ∧ p.candidate.vault = vault ∧
      (p.kind = .initialProvisioning ∨ p.kind = .recoveryProvisioning)
  | .update expectedGeneration vault => stores.intent deviceId = none ∧ ∃ p,
    stores.pending vault.vaultId = some p ∧ p.candidate.vault = vault ∧
      p.kind = .vaultUpdate ∧ p.expectedGeneration = expectedGeneration
  | .rekey expectedGeneration vault => stores.intent deviceId = none ∧ ∃ p,
    stores.pending vault.vaultId = some p ∧ p.candidate.vault = vault ∧
      p.kind = .vmkRekey ∧ p.expectedGeneration = expectedGeneration
  | .resetCommit _ => ∃ vaultId p,
    stores.intent deviceId = some ⟨deviceId, [⟨vaultId, p.expectedGeneration⟩]⟩ ∧
      stores.pending vaultId = some p ∧ p.kind = .factoryReset
  | .recoveryComplete _ => ∃ intent, stores.intent deviceId = some intent
  | _ => True

/-- The records of a browser that can open what it holds. One Passphrase is good for the record of a
Vault and for its candidate. -/
structure Coherent (platform : Platform) (stores : BrowserStores) : Prop where
  opens : ∀ vaultId, ∃ passphrase, ∀ state, stores.Holds vaultId state →
    Opens platform passphrase state
  advances : ∀ vaultId p current, stores.pending vaultId = some p →
    stores.vault vaultId = some current → Advances p current

/-- The invariant. -/
structure Good (platform : Platform) (deviceId : JsString) (s : System) : Prop where
  coherent : Coherent platform s.stores
  kept : ∀ d, s.MayBe d → Kept s.origin deviceId s.stores d
  staged : ∀ sent ∈ s.sent, Staged deviceId sent.stores sent.request

variable {s : System}

/-- A change of the records. -/
theorem Good.withStores (h : Good platform deviceId s) {stores : BrowserStores}
    (hcoherent : Coherent platform stores)
    (hkept : ∀ d, s.MayBe d → Kept s.origin deviceId stores d) :
    Good platform deviceId (s.withStores stores) :=
  ⟨hcoherent, hkept, h.staged⟩

theorem Good.withMemory (h : Good platform deviceId s) (memory : Management) :
    Good platform deviceId (s.withMemory memory) :=
  ⟨h.coherent, h.kept, h.staged⟩

/-! ### Records -/

namespace Coherent

variable {stores : BrowserStores}

/-- Fewer records. -/
theorem shrink (h : Coherent platform stores) {stores' : BrowserStores}
    (hvault : ∀ vaultId state, stores'.vault vaultId = some state →
      stores.vault vaultId = some state)
    (hpending : ∀ vaultId p, stores'.pending vaultId = some p →
      stores.pending vaultId = some p) : Coherent platform stores' where
  opens vaultId := by
    obtain ⟨passphrase, hopens⟩ := h.opens vaultId
    refine ⟨passphrase, fun state hstate => hopens state ?_⟩
    rcases hstate with hstate | ⟨p, hp, rfl⟩
    · exact .inl (hvault _ _ hstate)
    · exact .inr ⟨p, hpending _ _ hp, rfl⟩
  advances vaultId p current hp hcurrent :=
    h.advances vaultId p current (hpending _ _ hp) (hvault _ _ hcurrent)

theorem deleteVault (h : Coherent platform stores) (vaultId : List UInt8) :
    Coherent platform (stores.withVaults (stores.vaults.delete (vaultKey vaultId))) := by
  refine h.shrink (fun vaultId' state hstate => ?_) fun _ _ hp => hp
  rw [BrowserStores.vault_delete] at hstate
  split at hstate
  · cases hstate
  · exact hstate

theorem deletePending (h : Coherent platform stores) (vaultId : List UInt8) :
    Coherent platform (stores.withJournal (stores.journal.delete (vaultKey vaultId))) := by
  refine h.shrink (fun _ _ hstate => hstate) fun vaultId' p hp => ?_
  rw [BrowserStores.pending_delete] at hp
  split at hp
  · cases hp
  · exact hp

/-- A new record of a Vault. -/
theorem put (h : Coherent platform stores) {next : BrowserCanonicalState} {passphrase : JsString}
    (hopens : Opens platform passphrase next)
    (hpending : ∀ p, stores.pending next.vault.vaultId = some p →
      Opens platform passphrase p.candidate ∧ Advances p next) :
    Coherent platform (stores.withVaults (stores.vaults.put next)) where
  opens vaultId := by
    by_cases hid : vaultId = next.vault.vaultId
    · subst hid
      refine ⟨passphrase, fun state hstate => ?_⟩
      rcases hstate with hstate | ⟨p, hp, rfl⟩
      · rw [BrowserStores.vault_put, if_pos rfl] at hstate
        exact Option.some.inj hstate ▸ hopens
      · exact (hpending p hp).1
    · obtain ⟨passphrase', hopens'⟩ := h.opens vaultId
      refine ⟨passphrase', fun state hstate => hopens' state ?_⟩
      rwa [BrowserStores.Holds, BrowserStores.vault_put, if_neg hid] at hstate
  advances vaultId p current hp hcurrent := by
    rw [BrowserStores.vault_put] at hcurrent
    split at hcurrent
    · rename_i hid
      cases hcurrent
      exact (hpending p (hid ▸ hp)).2
    · exact h.advances vaultId p current hp hcurrent

/-- A new entry of the journal. -/
theorem stage (h : Coherent platform stores) {p : BrowserPendingTransaction}
    {passphrase : JsString} (hopens : Opens platform passphrase p.candidate)
    (hcurrent : ∀ current, stores.vault p.candidate.vault.vaultId = some current →
      Opens platform passphrase current ∧ Advances p current) :
    Coherent platform (stores.withJournal (stores.journal.put p)) where
  opens vaultId := by
    by_cases hid : vaultId = p.candidate.vault.vaultId
    · subst hid
      refine ⟨passphrase, fun state hstate => ?_⟩
      rcases hstate with hstate | ⟨p', hp', rfl⟩
      · exact (hcurrent state hstate).1
      · rw [BrowserStores.pending_put, if_pos rfl] at hp'
        exact Option.some.inj hp' ▸ hopens
    · obtain ⟨passphrase', hopens'⟩ := h.opens vaultId
      refine ⟨passphrase', fun state hstate => hopens' state ?_⟩
      rwa [BrowserStores.Holds, BrowserStores.pending_put, if_neg hid] at hstate
  advances vaultId p' current hp' hstate := by
    rw [BrowserStores.pending_put] at hp'
    split at hp'
    · rename_i hid
      cases hp'
      exact (hcurrent current (hid ▸ hstate)).2
    · exact h.advances vaultId p' current hp' hstate

end Coherent

/-- A new record of a Vault, which covers whatever the record before covered. -/
theorem Good.put (h : Good platform deviceId s) {next : BrowserCanonicalState}
    {passphrase : JsString} (hopens : Opens platform passphrase next)
    (hpending : ∀ p, s.stores.pending next.vault.vaultId = some p →
      Opens platform passphrase p.candidate ∧ Advances p next)
    (hcovers : ∀ d current, s.MayBe d → s.stores.vault next.vault.vaultId = some current →
      Covers s.origin deviceId d current → Covers s.origin deviceId d next) :
    Good platform deviceId (s.withStores (s.stores.withVaults (s.stores.vaults.put next))) := by
  refine h.withStores (h.coherent.put hopens hpending) fun d hd => (h.kept d hd).mono ?_
  intro vaultId state hheld hstate
  rcases hheld with hvault | hp
  · by_cases hid : vaultId = next.vault.vaultId
    · subst hid
      exact ⟨next, .inl (by rw [BrowserStores.vault_put, if_pos rfl]), hcovers d state hd hvault
        hstate⟩
    · exact ⟨state, .inl (by rw [BrowserStores.vault_put, if_neg hid, hvault]), hstate⟩
  · exact ⟨state, .inr hp, hstate⟩

/-- A new entry of the journal. -/
theorem Good.stage (h : Good platform deviceId s) {p : BrowserPendingTransaction}
    {passphrase : JsString} (hnone : s.stores.pending p.candidate.vault.vaultId = none)
    (hopens : Opens platform passphrase p.candidate)
    (hcurrent : ∀ current, s.stores.vault p.candidate.vault.vaultId = some current →
      Opens platform passphrase current ∧ Advances p current) :
    Good platform deviceId (s.withStores (s.stores.withJournal (s.stores.journal.put p))) := by
  refine h.withStores (h.coherent.stage hopens hcurrent) fun d hd => (h.kept d hd).mono ?_
  intro vaultId state hheld hstate
  refine ⟨state, ?_, hstate⟩
  rcases hheld with hvault | ⟨p', hp', hcandidate⟩
  · exact .inl hvault
  · refine .inr ⟨p', ?_, hcandidate⟩
    rw [BrowserStores.pending_put, if_neg, hp']
    rintro rfl
    rw [hnone] at hp'
    cases hp'

/-- A stored record that matches the Device covers it. -/
theorem Coherent.covers {stores : BrowserStores} (h : Coherent platform stores)
    {origin d : DeviceData} (hkept : Kept origin deviceId stores d)
    {current : BrowserCanonicalState} (hcurrent : stores.vault current.vault.vaultId = some current)
    (hfits : Matches deviceId d current) : Covers origin deviceId d current := by
  refine hkept.covers hfits fun other hheld hother => ?_
  rcases hheld with hvault | ⟨p, hp, rfl⟩
  · rw [hcurrent] at hvault
    rwa [Option.some.inj hvault]
  · obtain ⟨vault, _, hd, -, -, -, hversion⟩ := hfits
    rw [hd] at hother
    cases hother
    rcases h.advances _ p current hp hcurrent with hvault | ⟨hgeneration, hnext, -⟩
    · rwa [hvault]
    · -- the candidate is one generation ahead of the record
      have := hversion.generation
      omega

/-! ### Requests -/

/-- A request keeps the invariant, if each Device that it may leave is kept. -/
theorem Good.handles (h : Good platform deviceId s) {r : DeviceRequest}
    (hstaged : Staged deviceId s.stores r)
    (hkept : ∀ d d', s.MayBe d → d.Effect r d' → Kept s.origin deviceId s.stores d') :
    s.Handles (Good platform deviceId) r := by
  have hlog : ∀ sent ∈ ⟨r, s.stores⟩ :: s.sent, Staged deviceId sent.stores sent.request := by
    intro sent hsent
    rcases List.mem_cons.1 hsent with rfl | hsent
    · exact hstaged
    · exact h.staged sent hsent
  constructor
  · intro d d' hd heffect
    refine ⟨h.coherent, fun e he => ?_, hlog⟩
    rcases he with rfl | he
    · exact hkept _ _ hd heffect
    · cases he
  · intro d d' hd heffect
    refine ⟨h.coherent, fun e he => ?_, hlog⟩
    rcases he with rfl | he
    · exact h.kept _ hd
    · cases he
      exact hkept _ _ hd heffect

/-- A request that changes neither the Vault nor the registration. -/
def DeviceRequest.Quiet (r : DeviceRequest) : Prop :=
  ∀ d d' : DeviceData, d.Effect r d' → d'.vault = d.vault ∧ d'.registration = d.registration

theorem quiet_deliver (delivery : SessionDelivery)
    (h : delivery.operation ≠ .browserReplacement ∧ delivery.operation ≠ .recovery) :
    (DeviceRequest.deliver delivery).Quiet := by
  intro d d' heffect
  cases heffect with
  | nothing => exact ⟨rfl, rfl⟩
  | dropped => exact ⟨rfl, rfl⟩
  | granted => exact ⟨rfl, rfl⟩
  | replaced _ hoperation =>
    rcases hoperation with hoperation | hoperation
    · exact absurd hoperation h.1
    · exact absurd hoperation h.2

/-- A request that carries nothing and commits nothing. -/
def DeviceRequest.Plain : DeviceRequest → Prop
  | .hello | .lock | .resetBegin | .resetStatus _ | .resetCancel _ | .recoveryBegin
  | .recoveryStatus _ => True
  | _ => False

theorem DeviceRequest.Plain.quiet {r : DeviceRequest} (h : r.Plain) : r.Quiet := by
  intro d d' heffect
  cases heffect with
  | nothing => exact ⟨rfl, rfl⟩
  | dropped => exact ⟨rfl, rfl⟩
  | _ => exact h.elim

theorem Good.handles_quiet (h : Good platform deviceId s) {r : DeviceRequest} (hquiet : r.Quiet)
    (hstaged : Staged deviceId s.stores r) : s.Handles (Good platform deviceId) r :=
  h.handles hstaged fun d d' hd heffect => by
    obtain ⟨hvault, hregistration⟩ := hquiet d d' heffect
    exact kept_congr (h.kept d hd) hvault hregistration

theorem DeviceRequest.Plain.staged {r : DeviceRequest} (h : r.Plain) (stores : BrowserStores) :
    Staged deviceId stores r := by
  cases r <;> trivial

theorem Good.handles_plain (h : Good platform deviceId s) {r : DeviceRequest} (hplain : r.Plain) :
    s.Handles (Good platform deviceId) r :=
  h.handles_quiet hplain.quiet (hplain.staged s.stores)

end M5Auth.Web
