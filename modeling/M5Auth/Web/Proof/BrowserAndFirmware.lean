import M5Auth.Web.FirmwareRuns
import M5Auth.Web.Proof.BrowserAndDevice
import M5Auth.Web.Proof.FirmwareDevice

/-!
# The browser and the firmware agree

The Device is the modelled firmware. Its NVS calls work while it has power, and the power may be
lost at any of them. A Vault that the browser registered is never without a state that opens it
(`key_kept`), the store is at most one generation behind (`one_behind`), a refresh that returns
settles what earlier sections left (`refresh_settles`), and a write that returns took place on both
sides (`write_committed`). All four speak of what the Device keeps in flash.
-/

namespace M5Auth.Web

open CrashProgram Provisioning Vault VaultRuntime Firmware
open Registration (DeviceIdCandidate)

/-- A browser and a Device with the modelled firmware. -/
abbrev FirmwarePair := Pair (Device AuthNvs)

variable {σ : Type} {env : Env σ} {platform : Platform} {deviceId : DeviceIdCandidate}
  {s s' : FirmwarePair}

/-! ## What both keep -/

theorem Firmware.Shows.data_eq {x : Device AuthNvs} {d : DeviceData}
    (h : Firmware.Shows env deviceId x d) : data env x = { d with grant := none } := by
  rw [data, ← h.vault, ← h.registration]

/-- What covers the data covers what the firmware keeps. -/
theorem covers_data {o x : Device AuthNvs} {origin d : DeviceData}
    (ho : Firmware.Shows env deviceId o origin) (hx : Firmware.Shows env deviceId x d)
    {state : BrowserCanonicalState} (h : Covers origin (deviceIdString deviceId) d state) :
    Covers (data env o) (deviceIdString deviceId) (data env x) state := by
  rw [ho.data_eq, hx.data_eq]
  exact ⟨h.fits, h.vault⟩

/-- The Device has other data than it came with: this browser registered or wrote it. -/
def Touched (env : Env σ) (s : FirmwarePair) (x : Device AuthNvs) : Prop :=
  data env x ≠ data env s.origin

theorem not_untouched {t : System} {x : Device AuthNvs} {d : DeviceData}
    (ho : Firmware.Shows env deviceId s.origin t.origin) (hx : Firmware.Shows env deviceId x d)
    (h : Touched env s x) : ¬Untouched t d := by
  rintro ⟨hvault, hregistration⟩
  refine h ?_
  rw [ho.data_eq, hx.data_eq, hvault, hregistration]

theorem registration_ne_none {x : Device AuthNvs} {d : DeviceData}
    (hx : Firmware.Shows env deviceId x d) (h : x.keptRecord env.prims.importKey ≠ none) :
    d.registration ≠ none := by
  rw [hx.registration]
  simpa using h

/-! ## An interrupted re-key -/

namespace Firmware

/-- A Device that was never used, with its Device ID. -/
def newDevice : Device AuthNvs :=
  .boot lifeEnv.onNvs (.reliable {})
    (.reliable { reg2 := some { deviceId := some someDeviceId.1.1 } }) someDeviceId

theorem newDevice_comes : Comes lifeEnv someDeviceId newDevice :=
  .boot {} (by exact rfl) someDeviceId

def newPair : FirmwarePair :=
  ⟨{ hello := cleanHello }, .empty, newDevice, none, newDevice, []⟩

def provision : Action :=
  .initialProvision nonzeroProvision twoAccounts (literal "correct horse battery staple")

def rekey : Action := .rotateVmk nonzeroRekey (literal "correct horse battery staple")

/-- The pair after the Device was provisioned. -/
def provisioned : FirmwarePair := provision.after serveLife plainPlatform newPair

/-- The pair after the page was closed during a re-key, when the Device had the Vault. -/
def interrupted : FirmwarePair :=
  rekey.cutAfter serveLife plainPlatform DeviceRequest.isRekey provisioned

theorem provisioned_reachable :
    Pair.Reachable plainPlatform (model lifeEnv someDeviceId) provisioned :=
  Pair.Reachable.after (a := provision) serveLife_handles
    (.start _ newDevice_comes) ⟨rfl, rfl⟩

theorem interrupted_reachable :
    Pair.Reachable plainPlatform (model lifeEnv someDeviceId) interrupted :=
  Pair.Reachable.cutAfter (a := rekey) serveLife_handles provisioned_reachable trivial _

/-- The Device and the store have the Vault, in these generations. -/
def carries (s : FirmwarePair) (generation stored : Nat) : Bool :=
  (s.device.keptVault.any fun vault =>
      vault.vaultId == nonzeroProvision.vaultId && vault.generation.toNat == generation) &&
    ((s.stores.vault nonzeroProvision.vaultId.1).any fun state =>
      state.vault.generation == stored) &&
    (s.device.keptRecord lifeEnv.prims.importKey).isSome && s.origin.keptVault.isNone

theorem runs_evaluated :
    carries interrupted 2 1 = true ∧
    (interrupted.stores.pending nonzeroProvision.vaultId.1).isSome = true ∧
    ((Action.refresh.program plainPlatform).run (faultFree serveLife) interrupted).1.isOk = true ∧
    carries (Action.refresh.after serveLife plainPlatform interrupted) 2 2 = true ∧
    (Action.refresh.after serveLife plainPlatform interrupted).memory.hello.vaultPresent = true ∧
    carries provisioned 1 1 = true ∧
    ((rekey.program plainPlatform).run (faultFree serveLife) provisioned).1.isOk = true ∧
    carries (rekey.after serveLife plainPlatform provisioned) 2 2 = true := by
  decide +kernel

/-- What a pair shows that carries a Vault. -/
theorem of_carries {generation stored : Nat} (h : carries s generation stored = true) :
    ∃ vault state, s.device.keptVault = some vault ∧ vault.vaultId = nonzeroProvision.vaultId ∧
      vault.generation.toNat = generation ∧ s.stores.vault vault.vaultId.1 = some state ∧
      state.vault.generation = stored ∧ s.device.keptRecord lifeEnv.prims.importKey ≠ none ∧
      Touched lifeEnv s s.device := by
  simp only [carries, Bool.and_eq_true, Option.isNone_iff_eq_none] at h
  obtain ⟨⟨⟨hkept, hstored⟩, hrecord⟩, horigin⟩ := h
  obtain ⟨vault, hvault, hvaultIs⟩ := (Option.any_eq_true _ _).1 hkept
  obtain ⟨hid, hgeneration⟩ := Bool.and_eq_true_iff.1 hvaultIs
  obtain ⟨state, hstate, hstoredIs⟩ := (Option.any_eq_true _ _).1 hstored
  refine ⟨vault, state, hvault, beq_iff_eq.1 hid, beq_iff_eq.1 hgeneration,
    beq_iff_eq.1 hid ▸ hstate, beq_iff_eq.1 hstoredIs, Option.isSome_iff_ne_none.1 hrecord,
    fun hdata => ?_⟩
  have hsame := congrArg DeviceData.vault hdata
  simp only [data, hvault, horigin] at hsame
  cases hsame

end Firmware

/-! ## The agreement -/

section
variable {buildCommit : String}

theorem metadata_device (h : env.metadata = metadataFor buildCommit) :
    env.metadata.device ≠ "" := by
  rw [h]
  simp [metadataFor]

/-- **The key is kept.** Whatever became of a request, a Device that this browser registered or
wrote keeps a Vault and a registration for which the browser holds a state, in its store or in its
journal; the state opens with the browser's key and with a Passphrase. -/
theorem key_kept (hp : platform.Correct) (hmetadata : env.metadata = metadataFor buildCommit)
    (h : Pair.Reachable platform (model env deviceId) s)
    {x : Device AuthNvs} (hx : s.MayBe x) {vault : VaultEnvelope}
    (hvault : x.keptVault = some vault) (hregistration : x.keptRecord env.prims.importKey ≠ none)
    (htouched : Touched env s x) :
    ∃ state passphrase, s.stores.Holds vault.vaultId.1 state ∧
      Covers (data env s.origin) (deviceIdString deviceId) (data env x) state ∧
      Opens platform passphrase state := by
  obtain ⟨t, ht, hR⟩ := h.simulate (simulated (metadata_device hmetadata))
  obtain ⟨d, hd, hshows⟩ := hR.mayBe hx
  have hdvault : d.vault = some (encrypted vault) := by rw [hshows.vault, hvault]; rfl
  obtain ⟨state, passphrase, hheld, hcovers, hopens⟩ := Reachable.covered hp ht hd hdvault
    (registration_ne_none hshows hregistration) (not_untouched hR.origin hshows htouched)
  rw [hR.stores] at hheld
  exact ⟨state, passphrase, hheld, covers_data hR.origin hshows hcovers, hopens⟩

/-- After an interrupted re-key. -/
theorem key_kept_interrupted : ∃ vault state passphrase,
    interrupted.device.keptVault = some vault ∧ vault.generation.toNat = 2 ∧
      interrupted.stores.Holds vault.vaultId.1 state ∧
      Covers (data lifeEnv interrupted.origin) (deviceIdString someDeviceId)
        (data lifeEnv interrupted.device) state ∧ Opens plainPlatform passphrase state := by
  obtain ⟨vault, -, hvault, -, hgeneration, -, -, hregistration, htouched⟩ :=
    of_carries runs_evaluated.1
  obtain ⟨state, passphrase, hheld, hcovers, hopens⟩ := key_kept plainPlatform_correct rfl
    interrupted_reachable (.inl rfl) hvault hregistration htouched
  exact ⟨vault, state, passphrase, hvault, hgeneration, hheld, hcovers, hopens⟩

/-- **The store is at most one generation behind.** Where it is behind, the journal has the Device's
Vault. -/
theorem one_behind (hp : platform.Correct) (hmetadata : env.metadata = metadataFor buildCommit)
    (h : Pair.Reachable platform (model env deviceId) s)
    {x : Device AuthNvs} (hx : s.MayBe x) {vault : VaultEnvelope}
    (hvault : x.keptVault = some vault) (hregistration : x.keptRecord env.prims.importKey ≠ none)
    (htouched : Touched env s x) {current : BrowserCanonicalState}
    (hcurrent : s.stores.vault vault.vaultId.1 = some current) :
    vault.generation.toNat = current.vault.generation ∨
      vault.generation.toNat = current.vault.generation + 1 ∧ ∃ p,
        s.stores.pending vault.vaultId.1 = some p ∧
        p.expectedGeneration = current.vault.generation ∧
        Covers (data env s.origin) (deviceIdString deviceId) (data env x) p.candidate := by
  obtain ⟨t, ht, hR⟩ := h.simulate (simulated (metadata_device hmetadata))
  obtain ⟨d, hd, hshows⟩ := hR.mayBe hx
  have hdvault : d.vault = some (encrypted vault) := by rw [hshows.vault, hvault]; rfl
  rw [← hR.stores] at hcurrent
  rcases Reachable.behind hp ht hd hdvault (registration_ne_none hshows hregistration)
    (not_untouched hR.origin hshows htouched) hcurrent with
    hsame | ⟨hnext, p, hpending, hexpected, hcovers⟩
  · exact .inl hsame
  · rw [hR.stores] at hpending
    exact .inr ⟨hnext, p, hpending, hexpected, covers_data hR.origin hshows hcovers⟩

/-- The store is behind after an interrupted re-key. -/
theorem one_behind_interrupted : ∃ vault p, interrupted.device.keptVault = some vault ∧
    vault.generation.toNat = 2 ∧ interrupted.stores.pending vault.vaultId.1 = some p ∧
    p.expectedGeneration = 1 ∧ Covers (data lifeEnv interrupted.origin)
      (deviceIdString someDeviceId) (data lifeEnv interrupted.device) p.candidate := by
  obtain ⟨vault, current, hvault, -, hgeneration, hcurrent, hstored, hregistration, htouched⟩ :=
    of_carries runs_evaluated.1
  rcases one_behind plainPlatform_correct rfl interrupted_reachable (.inl rfl) hvault hregistration
    htouched hcurrent with hsame | ⟨-, p, hpending, hexpected, hcovers⟩
  · omega
  · exact ⟨vault, p, hvault, hgeneration, hpending, hexpected.trans hstored, hcovers⟩

/-- **A refresh settles.** Where it returns, no intent of the Device and no entry for its Vault is
left, nothing of a Vault that a reset destroyed is left, and the management works on a record that
covers the Device. -/
theorem refresh_settles (hp : platform.Correct) (hmetadata : env.metadata = metadataFor buildCommit)
    (h : Pair.Reachable platform (model env deviceId) s)
    (hrun : Stops (Pair.step (model env deviceId))
      Manage.refreshHelloAndBrowserState s (some (.ok ())) s') :
    s'.stores.intent (deviceIdString deviceId) = none ∧
      (s'.memory.hello.clean = true → ∀ intent,
        s.stores.intent (deviceIdString deviceId) = some intent →
        ∀ affected ∈ intent.affectedVaults, s'.stores.Absent affected.vaultId) ∧
      ∀ vault, s'.memory.hello.vaultPresent = true → s'.device.keptVault = some vault →
        s'.stores.pending vault.vaultId.1 = none ∧
        (s'.device.keptRecord env.prims.importKey ≠ none → Touched env s' s'.device →
          ∃ state, s'.memory.state = some state ∧
            s'.stores.vault vault.vaultId.1 = some state ∧
            Covers (data env s'.origin) (deviceIdString deviceId) (data env s'.device) state) := by
  have hsim : Simulates (model env deviceId) (DeviceData.model (deviceIdString deviceId)) _ :=
    simulated (metadata_device hmetadata)
  obtain ⟨t, ht, hR⟩ := h.simulate hsim
  obtain ⟨t', hrun', hR'⟩ := hR.stops hsim hrun
  obtain ⟨hintent, hclean, hvault⟩ := Reachable.settled hp ht hrun'
  rw [hR'.stores, hR'.memory] at hclean hvault
  rw [hR'.stores] at hintent
  rw [hR.stores] at hclean
  refine ⟨hintent, hclean, fun vault hpresent hkept => ?_⟩
  have hdvault : t'.device.vault = some (encrypted vault) := by
    rw [hR'.device.vault, hkept]
    rfl
  obtain ⟨hnone, hstate⟩ := hvault _ hpresent hdvault
  refine ⟨hnone, fun hregistration htouched => ?_⟩
  obtain ⟨state, hmemory, hstored, hcovers⟩ :=
    hstate (registration_ne_none hR'.device hregistration)
      (not_untouched hR'.origin hR'.device htouched)
  exact ⟨state, hmemory, hstored, covers_data hR'.origin hR'.device hcovers⟩

/-- A refresh after an interrupted re-key. -/
theorem refresh_settles_interrupted :
    interrupted.stores.pending nonzeroProvision.vaultId.1 ≠ none ∧
    (Action.refresh.after serveLife plainPlatform interrupted).stores.pending
      nonzeroProvision.vaultId.1 = none ∧
    ∃ state, state.vault.generation = 2 ∧
      (Action.refresh.after serveLife plainPlatform interrupted).memory.state = some state ∧
      Covers (data lifeEnv (Action.refresh.after serveLife plainPlatform interrupted).origin)
        (deviceIdString someDeviceId)
        (data lifeEnv (Action.refresh.after serveLife plainPlatform interrupted).device) state := by
  obtain ⟨-, hpending, hreturns, hcarries, hpresent, -⟩ := runs_evaluated
  obtain ⟨vault, current, hvault, hid, -, hcurrent, hstored, hregistration, htouched⟩ :=
    of_carries hcarries
  obtain ⟨-, -, hsettled⟩ := refresh_settles plainPlatform_correct rfl interrupted_reachable
    (Action.returned (a := .refresh) serveLife_handles hreturns)
  obtain ⟨hnone, hstate⟩ := hsettled vault hpresent hvault
  obtain ⟨state, hmemory, hstate, hcovers⟩ := hstate hregistration htouched
  rw [hcurrent, Option.some.injEq] at hstate
  rw [hid] at hnone
  exact ⟨Option.isSome_iff_ne_none.1 hpending, hnone, state, hstate ▸ hstored, hmemory, hcovers⟩

/-- A write took place on both sides: the Device keeps the candidate's Vault, the stored record has
the candidate's content and covers the Device, and no entry is left. -/
structure TookPlace (env : Env σ) (deviceId : DeviceIdCandidate) (candidate : BrowserCanonicalState)
    (s : FirmwarePair) : Prop where
  device : s.device.keptVault.map encrypted = some candidate.vault
  state : ∃ state, s.memory.state = some state ∧
    s.stores.vault candidate.vault.vaultId = some state ∧ SameContent state candidate ∧
    Covers (data env s.origin) (deviceIdString deviceId) (data env s.device) state
  pending : s.stores.pending candidate.vault.vaultId = none

/-- **A write that returns took place.** Its candidate was made of the record that the browser
held. -/
theorem write_committed (hp : platform.Correct) (hmetadata : env.metadata = metadataFor buildCommit)
    (h : Pair.Reachable platform (model env deviceId) s)
    {a : Action} (ha : a.IsWrite)
    (hrun : Stops (Pair.step (model env deviceId)) (a.program platform) s (some (.ok ())) s') :
    ∃ base candidate, Current s.stores base ∧ Writes platform a base candidate ∧
      TookPlace env deviceId candidate s' := by
  have hsim : Simulates (model env deviceId) (DeviceData.model (deviceIdString deviceId)) _ :=
    simulated (metadata_device hmetadata)
  obtain ⟨t, ht, hR⟩ := h.simulate hsim
  obtain ⟨t', hrun', hR'⟩ := hR.stops hsim hrun
  obtain ⟨base, candidate, hbase, hwrites, hcommitted⟩ := Reachable.committed hp ht ha hrun'
  rw [hR.stores] at hbase
  obtain ⟨state, hmemory, hstored, hsame, hcovers⟩ := hcommitted.state
  have hpending := hcommitted.pending
  rw [hR'.memory] at hmemory
  rw [hR'.stores] at hstored hpending
  exact ⟨base, candidate, hbase, hwrites, hR'.device.vault ▸ hcommitted.device,
    ⟨state, hmemory, hstored, hsame, covers_data hR'.origin hR'.device hcovers⟩, hpending⟩

/-- A re-key that returns. -/
theorem write_committed_rekey :
    provisioned.device.keptVault ≠
      (rekey.after serveLife plainPlatform provisioned).device.keptVault ∧
    ∃ candidate, TookPlace lifeEnv someDeviceId candidate
      (rekey.after serveLife plainPlatform provisioned) := by
  obtain ⟨-, -, -, -, -, hfirst, hreturns, hsecond⟩ := runs_evaluated
  obtain ⟨-, candidate, -, -, htookPlace⟩ := write_committed plainPlatform_correct rfl
    provisioned_reachable (a := rekey) trivial (Action.returned serveLife_handles hreturns)
  refine ⟨fun hsame => ?_, candidate, htookPlace⟩
  obtain ⟨vault, -, hvault, -, hgeneration, -⟩ := of_carries hfirst
  obtain ⟨vault', -, hvault', -, hgeneration', -⟩ := of_carries hsecond
  rw [hvault, hvault', Option.some.injEq] at hsame
  rw [hsame, hgeneration'] at hgeneration
  cases hgeneration

end

end M5Auth.Web
