import M5Auth.Web.FirmwareDevice
import M5Auth.Web.Proof.Hello
import M5Auth.Web.Proof.Simulation

/-!
# The firmware is a Device of the browser

`Firmware.simulated`: whatever the modelled firmware does for a request of the browser, a Device that
keeps `DeviceData` may do, and it keeps then what the firmware keeps (`Shows`). The NVS calls of the
firmware work while it has power; the power may be lost at any of them.
-/

namespace M5Auth.Web.Firmware

open Provisioning Vault VaultRuntime
open Provisioning.Device (Accepted Takes Intact Left Mirrored)
open Registration (DeviceIdCandidate HasDeviceId)

variable {σ : Type} {env : Env σ} {deviceId : DeviceIdCandidate} {x y z : Device AuthNvs}
  {d : DeviceData}

/-- The data is what the firmware keeps, and the grant is the key that waits. -/
structure Shows (env : Env σ) (deviceId : DeviceIdCandidate) (x : Device AuthNvs)
    (d : DeviceData) : Prop where
  intact : Intact env deviceId x
  presentable : Presentable env.onNvs x
  vault : d.vault = x.keptVault.map encrypted
  registration : d.registration = (x.keptRecord env.prims.importKey).map registered
  grant : x.AwaitsVault → ∃ delivery, d.grant = some delivery ∧ Describes x.sink.context delivery

/-! ## The data -/

/-- The Vault that the Device reads is the one that was sent. -/
theorem encrypted_same {vault : EncryptedVaultEnvelope} {received : VaultEnvelope}
    (h : SameVault vault received) : encrypted received = vault := by
  have hformat : (if received.vaultFormatVersion = 1 then VaultFormatVersion.legacy else .current) =
      vault.vaultFormatVersion := by
    rw [h.format]
    cases vault.vaultFormatVersion <;> decide
  rw [encrypted, hformat, ← h.browserSchema, h.vaultId, h.generation, h.nonce, h.ciphertext, h.tag,
    ← h.ciphertextLength]

/-- What the Device reads as the generation to replace. -/
theorem expected_sent {operation : VaultOperation} (hop : operation ≠ .install)
    {expected : UInt64} {vault : EncryptedVaultEnvelope} {members : List (String × RequestParam)}
    (hmembers : operation.params expected.toNat vault = .ok members) {envelope : VaultEnvelope}
    {read : UInt64} (h : parseReplacement (sentParams members) = some (envelope, read)) :
    read = expected := by
  obtain ⟨rest, rfl⟩ : ∃ rest, members =
      ("expected_generation", .string (literal (toString expected.toNat))) :: rest := by
    cases operation with
    | install => exact absurd rfl hop
    | update | rekey =>
      obtain ⟨rest, -, he⟩ := bind_ok.1 hmembers
      exact ⟨rest, (Except.ok.inj he).symm⟩
  obtain ⟨_, -, h⟩ := Option.bind_eq_some_iff.1 h
  obtain ⟨read', hread, h⟩ := Option.bind_eq_some_iff.1 h
  cases h
  have hitem : (sentParams (("expected_generation",
      .string (literal (toString expected.toNat))) :: rest)).getItem "expected_generation" =
        some (.string (textEncode (literal (toString expected.toNat)))) := by
    rw [sentParams, List.map_cons]
    simp [Json.getItem, RequestParam.sent]
  rw [hitem, readU64Decimal_toString] at hread
  exact (Option.some.inj hread).symm

/-- The Vault of a request, as the Device reads it. -/
theorem carried_vault {operation : VaultOperation} {expectedGeneration : Nat}
    {vault : EncryptedVaultEnvelope} {params : Json}
    (h : CarriesVault operation expectedGeneration vault params) {envelope : VaultEnvelope}
    (hread : operation.read params = some envelope) : SameVault vault envelope := by
  obtain ⟨expected, members, rfl, hmembers, rfl⟩ := h
  exact carried_same ⟨operation, expected, members, hmembers, hread⟩

namespace Shows

/-- The same data stays right where the same is left. -/
theorem of_left (h : Shows env deviceId x d) (hz : Intact env deviceId z)
    (hp : Presentable env.onNvs z) (hleft : Left env x z) : Shows env deviceId z d where
  intact := hz
  presentable := hp
  vault := by rw [hleft.vault, h.vault]
  registration := by rw [hleft.record, h.registration]
  grant ha := by
    obtain ⟨ha', hslot⟩ := hleft.awaits ha
    rw [hslot]
    exact h.grant ha'

/-- Where a Vault is kept no key waits. -/
theorem of_vault {vault : EncryptedVaultEnvelope} (hz : Intact env deviceId z)
    (hp : Presentable env.onNvs z) (hvault : z.keptVault.map encrypted = some vault)
    {registration : Option DeviceRegistration}
    (hregistration : (z.keptRecord env.prims.importKey).map registered = registration) :
    Shows env deviceId z ⟨some vault, registration, none⟩ where
  intact := hz
  presentable := hp
  vault := hvault.symm
  registration := hregistration.symm
  grant ha := by
    rw [(hz.mirrored.awaits_none ha).1] at hvault
    cases hvault

end Shows

theorem presentable_takes {i : Device.Input} (h : Presentable env.onNvs x) (ht : Takes env x i z) :
    Presentable env.onNvs z := by
  cases ht with
  | handled => exact h.next loadsFramed_nvs (.input i)
  | lost vault registration candidate => exact presentable_boot env.onNvs _ _ candidate

theorem Idles.shows (h : Idles env x y) (hR : Shows env deviceId x d) : Shows env deviceId y d := by
  induction h with
  | refl => exact hR
  | tail _ hi ht ih =>
    exact ih.of_left (ht.intact ih.intact) (presentable_takes ih.presentable ht)
      (ht.neutral ih.intact hi)

theorem Idles.left (h : Idles env x y) (hR : Shows env deviceId x d) : Left env x y := by
  induction h with
  | refl => exact .refl env x
  | tail hold hi ht ih => exact ih.trans (ht.neutral (hold.shows hR).intact hi)

/-! ## What a `hello` says -/

/-- A Device with its Device ID that answers a `hello` shows that ID. -/
theorem shown_identity (h : Mirrored env deviceId x) (hdecision : x.decision ≠ .unavailable) :
    x.registration.readSnapshot.2 = x.registration.snapshot ∧
      x.registration.snapshot.deviceId = deviceId.1 := by
  have hidentity (hid : x.registration.ready = true ∨
      (x.registration.recoveryResetAvailable = true ∧
        x.registration.deviceIdRecoveryRequired = false)) :
      x.registration.snapshot.deviceId = deviceId.1 := by
    have hstored := (h.truthful.identity hid).symm.trans h.deviceId
    exact Subtype.ext (Option.some.inj hstored)
  cases hready : x.registration.ready with
  | true =>
    refine ⟨?_, hidentity (.inl hready)⟩
    rw [Registration.Store.readSnapshot, if_neg (by simp [hready])]
  | false =>
    cases havailable : x.registration.recoveryResetAvailable with
    | true =>
      refine ⟨?_, hidentity (.inr ⟨havailable, ?_⟩)⟩
      · rw [Registration.Store.readSnapshot, if_pos (by simp [hready]), if_pos havailable]
      · cases hrequired : x.registration.deviceIdRecoveryRequired with
        | false => rfl
        | true => exact absurd h.deviceId ((h.truthful.corruptId hready hrequired).2 deviceId)
    | false =>
      have hio : x.registration.readSnapshot.1 = .io := by
        rw [Registration.Store.readSnapshot, if_pos (by simp [hready]), if_neg (by simp [havailable])]
      exfalso
      refine hdecision ?_
      unfold Device.decision recoveryResetDecision
      cases x.runtime.metadata with
      | error status => rfl
      | ok metadata =>
        simp only [classifyRecoveryReset, hio, reduceCtorEq, if_true, false_and, if_false, ne_eq,
          not_false_eq_true]
        split
        · split <;> rfl
        · rfl

/-- **A `hello` says what the Device keeps.** -/
theorem shown_reports (h : Shows env deviceId x d) (metadata : DeviceMetadata)
    (hdecision : x.decision ≠ .unavailable) :
    DeviceData.Reports (deviceIdString deviceId) (shownBy metadata x) d := by
  obtain ⟨hsnapshot, hid⟩ := shown_identity h.intact.mirrored hdecision
  have hvault := h.vault
  have hregistration := h.registration
  rw [h.intact.mirrored.keptVault_eq] at hvault
  rw [h.intact.mirrored.keptRecord_eq] at hregistration
  unfold shownBy shown
  rw [hsnapshot]
  constructor
  · rw [hid]
    rfl
  · intro hpresent
    have hpresent : x.runtime.hasVault = true := hpresent
    rw [if_pos hpresent] at hvault
    exact ⟨_, hvault, by simp [hpresent, encrypted], by simp [hpresent, encrypted],
      by simp [hpresent, encrypted]⟩
  · intro hpresent
    have hpresent : x.registration.snapshot.registrationPresent = true := hpresent
    rw [if_pos hpresent] at hregistration
    exact ⟨_, hregistration, by simp [hpresent, registered],
      by simp [hpresent, registered],
      by simp [hpresent, registered]⟩
  · intro hclean
    simp only [CanonicalHelloData.clean, Bool.and_eq_true, Bool.not_eq_true'] at hclean
    rw [if_neg (by simp [hclean.1.1])] at hvault
    rw [if_neg (by simp [hclean.1.2])] at hregistration
    exact ⟨hvault, hregistration⟩

/-! ## Requests -/

section
variable {line : List UInt8} {m : Moment} {frame : Frame}

/-- A line that makes no key wait leaves the grant right, if what is kept is as before. -/
theorem Shows.unchanged (hR : Shows env deviceId x d) (ht : Takes env x (.line line m) z)
    (hcomplete : (Device.Input.line line m).Avoids env (.session .complete))
    (hvault : z.keptVault = x.keptVault)
    (hrecord : z.keptRecord env.prims.importKey = x.keptRecord env.prims.importKey) :
    Shows env deviceId z d where
  intact := ht.intact hR.intact
  presentable := presentable_takes hR.presentable ht
  vault := by rw [hvault, hR.vault]
  registration := by rw [hrecord, hR.registration]
  grant ha := by
    obtain ⟨ha', hslot⟩ := ht.awaits hR.intact hcomplete ha
    rw [hslot]
    exact hR.grant ha'

theorem install_simulated (hR : Shows env deviceId x d) {vault : EncryptedVaultEnvelope}
    (hacc : Accepted env.onNvs line frame) (hcarried : Carried (.install vault) frame)
    (ht : Takes env x (.line line m) z) :
    ∃ d', d.Effect (.install vault) d' ∧ Shows env deviceId z d' := by
  obtain ⟨hop, hcarries⟩ := hcarried
  have hz := ht.intact hR.intact
  have hp := presentable_takes hR.presentable ht
  rcases ht.installed hR.intact hacc hop with ⟨hvault, hrecord⟩ | ⟨envelope, hinstalls⟩
  · exact ⟨d, .nothing, hR.unchanged ht
      (Device.Input.avoids_of_accepted hacc (by simp [hop])) hvault hrecord⟩
  · obtain ⟨hnovault, hnorecord⟩ := hR.intact.mirrored.awaits_none hinstalls.awaits
    have hvault : d.vault = none := by rw [hR.vault, hnovault]; rfl
    have hregistration : d.registration = none := by rw [hR.registration, hnorecord]; rfl
    have hsame := carried_vault hcarries hinstalls.request
    have hkept : z.keptVault.map encrypted = some vault := by
      rw [hinstalls.vault, Option.map_some, encrypted_same hsame]
    rcases hinstalls.registration with hnone | hsome
    · exact ⟨_, .interrupted hvault hregistration, .of_vault hz hp hkept (by rw [hnone]; rfl)⟩
    · obtain ⟨delivery, hgrant, hdescribes⟩ := hR.grant hinstalls.awaits
      have hid : delivery.vaultId = vault.vaultId := by
        rw [← hdescribes.vaultId, ← hinstalls.vaultId, hsame.vaultId]
      refine ⟨_, .installed hvault hregistration hgrant hid, .of_vault hz hp hkept ?_⟩
      rw [hsome, Option.map_some, registered, DeviceData.proposed, ← hdescribes.registrationId,
        ← hdescribes.proposedBrkPublicKey]
      rfl

/-- The two operations that replace the Vault by its next generation. -/
theorem succeed_simulated (hR : Shows env deviceId x d) {operation : VaultOperation}
    (hne : operation ≠ .install) {expectedGeneration : Nat} {vault : EncryptedVaultEnvelope}
    (hcarries : CarriesVault operation expectedGeneration vault frame.params)
    (hacc : Accepted env.onNvs line frame)
    (hop : frame.operation = .vaultUpdate ∨ frame.operation = .vaultRekey)
    (ht : Takes env x (.line line m) z) :
    Shows env deviceId z d ∨ d.Succeeds expectedGeneration vault ∧
      Shows env deviceId z { d with vault := some vault, grant := none } := by
  have hz := ht.intact hR.intact
  have hp := presentable_takes hR.presentable ht
  obtain ⟨hrecord, hvault | ⟨envelope, expected, hparse, ⟨old, hold, hid, hgeneration, hnext⟩,
    hnew⟩⟩ := ht.succeeded hR.intact hacc hop
  · refine .inl (hR.unchanged ht (Device.Input.avoids_of_accepted hacc ?_) hvault hrecord)
    rcases hop with hop | hop <;> simp [hop]
  · right
    have hread : operation.read frame.params = some envelope := by
      cases operation with
      | install => exact absurd rfl hne
      | update | rekey => simp [VaultOperation.read, hparse]
    have hsame := carried_vault hcarries hread
    obtain ⟨sent, members, hsent, hmembers, hparams⟩ := hcarries
    subst hsent
    rw [hparams] at hparse
    obtain rfl := expected_sent hne hmembers hparse
    refine ⟨⟨encrypted old, by rw [hR.vault, hold]; rfl, ?_, ?_, ?_⟩, .of_vault hz hp ?_ ?_⟩
    · rw [encrypted, ← hid, hsame.vaultId]
    · rw [encrypted, hgeneration]
    · rw [← hsame.generation, hnext]
    · rw [hnew, Option.map_some, encrypted_same hsame]
    · rw [hrecord, hR.registration]

/-- Where a key still waits after a reset there was nothing to reset. -/
theorem reset_shows (hR : Shows env deviceId x d) (ht : Takes env x (.line line m) z)
    (hcomplete : (Device.Input.line line m).Avoids env (.session .complete))
    (hvault : z.keptVault = x.keptVault ∨ z.keptVault = none)
    (hrecord : z.keptRecord env.prims.importKey = x.keptRecord env.prims.importKey ∨
      z.keptRecord env.prims.importKey = none) :
    Shows env deviceId z d ∨
      Shows env deviceId z (data env z) := by
  by_cases ha : z.AwaitsVault
  · obtain ⟨hxa, -⟩ := ht.awaits hR.intact hcomplete ha
    obtain ⟨hnovault, hnorecord⟩ := hR.intact.mirrored.awaits_none hxa
    rw [hnovault, or_self] at hvault
    rw [hnorecord, or_self] at hrecord
    exact .inl (hR.unchanged ht hcomplete (hvault.trans hnovault.symm)
      (hrecord.trans hnorecord.symm))
  · exact .inr ⟨ht.intact hR.intact, presentable_takes hR.presentable ht, rfl, rfl,
      fun h => absurd h ha⟩

theorem commit_simulated (hR : Shows env deviceId x d) {attemptId : List UInt8}
    (hacc : Accepted env.onNvs line frame) (hcarried : Carried (.resetCommit attemptId) frame)
    (ht : Takes env x (.line line m) z) :
    ∃ d', d.Effect (.resetCommit attemptId) d' ∧ Shows env deviceId z d' := by
  have hcomplete : (Device.Input.line line m).Avoids env (.session .complete) :=
    Device.Input.avoids_of_accepted hacc (by simp [hcarried.1])
  obtain ⟨hvault, hrecord⟩ := ht.committed hR.intact hacc hcarried.1
  rcases reset_shows hR ht hcomplete hvault (hrecord.imp_right And.left) with hsame | hz
  · exact ⟨d, .nothing, hsame⟩
  rcases hrecord with hrecord | ⟨hnorecord, hnovault⟩
  · rcases hvault with hvault | hnovault
    · exact ⟨d, .nothing, hR.unchanged ht hcomplete hvault hrecord⟩
    · have hdata : data env z = { d with vault := none, grant := none } := by
        rw [data, hnovault, hrecord, ← hR.registration]
        rfl
      exact ⟨_, .erased, hdata ▸ hz⟩
  · have hdata : data env z = {} := by
      rw [data, hnovault, hnorecord]
      rfl
    exact ⟨_, .reset, hdata ▸ hz⟩

theorem recover_simulated (hR : Shows env deviceId x d) {attemptId : List UInt8}
    (hacc : Accepted env.onNvs line frame) (hcarried : Carried (.recoveryComplete attemptId) frame)
    (ht : Takes env x (.line line m) z) :
    ∃ d', d.Effect (.recoveryComplete attemptId) d' ∧ Shows env deviceId z d' := by
  have hcomplete : (Device.Input.line line m).Avoids env (.session .complete) :=
    Device.Input.avoids_of_accepted hacc (by simp [hcarried.1])
  obtain ⟨hrecord, hvault⟩ := ht.recovered hR.intact hacc hcarried.1
  rcases reset_shows hR ht hcomplete (hvault.imp_right And.left) hrecord with hsame | hz
  · exact ⟨d, .nothing, hsame⟩
  rcases hvault with hvault | ⟨hnovault, hnorecord⟩
  · rcases hrecord with hrecord | hnorecord
    · exact ⟨d, .nothing, hR.unchanged ht hcomplete hvault hrecord⟩
    · have hdata : data env z = { d with registration := none, grant := none } := by
        rw [data, hvault, hnorecord, ← hR.vault]
        rfl
      exact ⟨_, .unregistered, hdata ▸ hz⟩
  · have hdata : data env z = {} := by
      rw [data, hnovault, hnorecord]
      rfl
    exact ⟨_, .recovered, hdata ▸ hz⟩

/-- A begin keeps the data. -/
theorem begin_shows (hR : Shows env deviceId x d) {delivery : SessionDelivery}
    (hbegins : Begins delivery frame) (hacc : Accepted env.onNvs line frame)
    (ht : Takes env x (.line line m) z) : Shows env deviceId z d := by
  have hcomplete : (Device.Input.line line m).Avoids env (.session .complete) :=
    Device.Input.avoids_of_accepted hacc (by simp [hbegins.operation])
  have hharmless : (Device.Input.line line m).Harmless env :=
    Device.Input.harmless_of_accepted hacc (by rw [hbegins.operation]; rfl)
  obtain ⟨hvault, hrecord⟩ := ht.harmless hR.intact hharmless hcomplete
  exact hR.unchanged ht hcomplete hvault hrecord

/-- A session leaves a key that waits, or the registration that it proposes. -/
theorem deliver_simulated {delivery : SessionDelivery} (hR : Shows env deviceId x d)
    (hbegins : Begins delivery frame) (hacc : Accepted env.onNvs line frame)
    (hok : (x.handleLine env.onNvs line m).1.ok = true)
    (hidles : Idles env (x.step env.onNvs (.line line m)) y) {line' : List UInt8} {m' : Moment}
    {frame' : Frame} (hcomplete : frame'.operation = .session .complete)
    (hacc' : Accepted env.onNvs line' frame') (ht : Takes env y (.line line' m') z) :
    ∃ d', d.Effect (.deliver delivery) d' ∧ (d'.grant = none ∨ d'.grant = some delivery) ∧
      Shows env deviceId z d' := by
  have hbegun : Shows env deviceId (x.step env.onNvs (.line line m)) d :=
    begin_shows hR hbegins hacc .handled
  obtain ⟨hpending, hparse⟩ := Device.begin_fresh x hacc hbegins.operation hok
  have hy := hidles.shows hbegun
  have hleft := hidles.left hbegun
  have hz := ht.intact hy.intact
  have hp := presentable_takes hy.presentable ht
  -- the context of the attempt that is completed
  have hdescribes (hc : y.contextActive = true) : Describes y.context delivery := by
    obtain ⟨context, hcontext, -, -, -, hdescribes⟩ := hbegins.context
    rw [hcontext] at hparse
    rw [(hleft.context hc).2, ← Option.some.inj hparse]
    exact hdescribes
  have hgrant (ha : z.AwaitsVault) : Describes z.sink.context delivery := by
    rcases ht.delivered hy.intact ha with ⟨hya, -⟩ | ⟨hc, hslot⟩
    · have hxa := (hleft.awaits hya).1.1
      rw [hpending] at hxa
      cases hxa
    · rw [hslot]
      exact hdescribes hc
  obtain ⟨hvault, hrecord | hreplaces⟩ := ht.completed hy.intact hacc' hcomplete
  · exact ⟨{ d with grant := some delivery }, .granted, .inr rfl, hz, hp,
      by rw [hvault]; exact hy.vault, by rw [hrecord]; exact hy.registration,
      fun ha => ⟨delivery, rfl, hgrant ha⟩⟩
  · obtain ⟨envelope, henvelope⟩ := Option.isSome_iff_exists.1 hreplaces.vault
    have hd := hdescribes hreplaces.contextActive
    have hdvault : d.vault = some (encrypted envelope) := by rw [hy.vault, henvelope]; rfl
    refine ⟨_, .replaced (by rw [hdvault]; rfl) ?_, .inl rfl, ?_⟩
    · rw [← hd.operation]
      exact hreplaces.operation
    · rw [hdvault]
      refine .of_vault hz hp (by rw [hvault, henvelope]; rfl) ?_
      rw [hreplaces.record, Option.map_some, registered, DeviceData.proposed, ← hd.registrationId,
        ← hd.registrationEpoch, ← hd.proposedBrkPublicKey]
      rfl

/-- A handled `hello` is answered with what the Device keeps. -/
theorem hello_reports (hmetadata : env.metadata.device ≠ "") (hR : Shows env deviceId x d)
    (hacc : Accepted env.onNvs line frame) (hop : frame.operation = .hello)
    {result : CanonicalHelloData}
    (hreads : ReadsAs (x.handleLine env.onNvs line m).1 .hello result) :
    DeviceData.Reports (deviceIdString deviceId) result d := by
  have hquiet : Presentable env.onNvs (x.housekeeping m.nowMs) :=
    hR.presentable.next loadsFramed_nvs (.input (.housekeeping m.nowMs))
  have hline : x.handleLine env.onNvs line m =
      (x.housekeeping m.nowMs).handleHello env.onNvs frame.id := by
    rw [Device.handleLine, Device.dispatch_accepted (x.housekeeping m.nowMs) m hacc]
    simp only [Device.handleRequest, hop]
  rw [hline] at hreads
  obtain ⟨id, hello, hresponse, hparse⟩ := hreads
  have hok : ((x.housekeeping m.nowMs).handleHello env.onNvs frame.id).1.ok = true := by
    rw [hresponse]
    rfl
  obtain ⟨hello', he, hparse'⟩ := parse_handleHello hquiet hmetadata hok
  rw [he] at hresponse
  cases hresponse
  rw [hparse', Except.ok.injEq] at hparse
  rw [← hparse]
  have hdecision : (x.housekeeping m.nowMs).decision ≠ .unavailable := by
    intro hunavailable
    rw [Device.handleHello] at hok
    split at hok
    · cases hok
    · rw [if_pos hunavailable] at hok
      cases hok
  have hleft : Left env x (x.housekeeping m.nowMs) :=
    Takes.neutral (i := .housekeeping m.nowMs) .handled hR.intact
      (.of_not_line fun _ _ h => by cases h)
  exact shown_reports (hR.of_left (hR.intact.step (.housekeeping m.nowMs)) hquiet hleft) _ hdecision

end

/-- **What the firmware does for a request a Device of this data may do.** -/
theorem serves_simulated (hmetadata : env.metadata.device ≠ "") {r : DeviceRequest}
    {answer : Option r.Result} (hR : Shows env deviceId x d) (h : Serves env x r answer z) :
    ∃ d', d.Effect r d' ∧ (∀ result, answer = some result →
      d'.Answers (deviceIdString deviceId) r result) ∧ Shows env deviceId z d' := by
  have hneutral {line : List UInt8} {m : Moment} {frame : Frame} {w : Device AuthNvs}
      (hacc : Accepted env.onNvs line frame) (hstores : frame.operation.stores = false)
      (hbegin : frame.operation ≠ .session .sessionBegin)
      (hcomplete : frame.operation ≠ .session .complete) (ht : Takes env x (.line line m) w) :
      Shows env deviceId w d :=
    hR.of_left (ht.intact hR.intact) (presentable_takes hR.presentable ht)
      (ht.neutral hR.intact (.of_accepted hacc hstores hbegin hcomplete))
  have heffect {line : List UInt8} {m : Moment} {frame : Frame} {w : Device AuthNvs}
      (hcarried : Carried r frame) (hacc : Accepted env.onNvs line frame)
      (ht : Takes env x (.line line m) w) :
      ∃ d', d.Effect r d' ∧ Shows env deviceId w d' ∧ (r = .hello → d' = d) := by
    cases r with
    | deliver => exact hcarried.elim
    | install vault =>
      obtain ⟨d', he, hz⟩ := install_simulated hR hacc hcarried ht
      exact ⟨d', he, hz, nofun⟩
    | update expectedGeneration vault =>
      rcases succeed_simulated hR (by decide) hcarried.2 hacc (.inl hcarried.1) ht with
        hz | ⟨hsucceeds, hz⟩
      · exact ⟨d, .nothing, hz, nofun⟩
      · exact ⟨_, .updated hsucceeds, hz, nofun⟩
    | rekey expectedGeneration vault =>
      rcases succeed_simulated hR (by decide) hcarried.2 hacc (.inr hcarried.1) ht with
        hz | ⟨hsucceeds, hz⟩
      · exact ⟨d, .nothing, hz, nofun⟩
      · exact ⟨_, .rekeyed hsucceeds, hz, nofun⟩
    | resetCommit attemptId =>
      obtain ⟨d', he, hz⟩ := commit_simulated hR hacc hcarried ht
      exact ⟨d', he, hz, nofun⟩
    | recoveryComplete attemptId =>
      obtain ⟨d', he, hz⟩ := recover_simulated hR hacc hcarried ht
      exact ⟨d', he, hz, nofun⟩
    | hello | lock | resetBegin | recoveryBegin =>
      have hop : frame.operation = _ := hcarried
      exact ⟨d, .nothing, hneutral hacc (by rw [hop]; rfl) (by simp [hop]) (by simp [hop]) ht,
        fun _ => rfl⟩
    | resetStatus | resetCancel | recoveryStatus =>
      have hop := hcarried.1
      exact ⟨d, .nothing, hneutral hacc (by rw [hop]; rfl) (by simp [hop]) (by simp [hop]) ht,
        fun _ => rfl⟩
  cases h with
  | lost => exact ⟨d, .nothing, nofun, hR⟩
  | handled hcarried hacc hanswer =>
    obtain ⟨d', he, hz, hhello⟩ := heffect hcarried hacc .handled
    refine ⟨d', he, fun result hresult => ?_, hz⟩
    cases r with
    | hello =>
      rw [hhello rfl]
      exact hello_reports hmetadata hR hacc hcarried (hanswer result hresult)
    | deliver => exact hcarried.elim
    | _ => trivial
  | cut hcarried hacc ht =>
    obtain ⟨d', he, hz, -⟩ := heffect hcarried hacc ht
    exact ⟨d', he, nofun, hz⟩
  | begun hbegins hacc ht => exact ⟨d, .nothing, nofun, begin_shows hR hbegins hacc ht⟩
  | delivered hbegins hacc hok hidles hcomplete hacc' ht hanswer =>
    obtain ⟨d', he, hgrant, hz⟩ :=
      deliver_simulated hR hbegins hacc hok hidles hcomplete hacc' ht
    exact ⟨d', he, fun _ _ => hgrant, hz⟩

/-! ## The simulation -/

/-- A delivery with this context. -/
def deliveryOf (context : Session.BeginContext) : SessionDelivery where
  operation := context.operation
  deviceId := []
  vaultId := context.vaultId.1
  expectedGeneration := context.expectedGeneration.toNat
  registrationId := context.registrationId.1
  registrationEpoch := context.registrationEpoch.toNat
  currentBrkPublicKey := context.currentBrkPublicKey.1
  proposedBrkPublicKey := context.proposedBrkPublicKey.1
  vmk := []

theorem Comes.kept (h : Comes env deviceId x) :
    Intact env deviceId x ∧ Presentable env.onNvs x := by
  induction h with
  | boot vault hid candidate =>
    exact ⟨Device.boot_intact (FaultyStore.World.steady_reliable _)
      (FaultyStore.World.steady_reliable _) hid candidate, presentable_boot env.onNvs _ _ candidate⟩
  | takes _ ht ih => exact ⟨ht.intact ih.1, presentable_takes ih.2 ht⟩

/-- **The firmware is a Device of the browser.** -/
theorem simulated (hmetadata : env.metadata.device ≠ "") :
    Simulates (model env deviceId) (DeviceData.model (deviceIdString deviceId))
      (Shows env deviceId) where
  comes {x} h := by
    obtain ⟨hintact, hpresentable⟩ := h.kept
    exact ⟨{ data env x with grant := some (deliveryOf x.sink.context) }, trivial, hintact,
      hpresentable, rfl, rfl, fun _ => ⟨_, rfl, rfl, rfl, rfl, rfl, rfl⟩⟩
  handles hR h := by
    obtain ⟨y, z, hidles, hserves, hidles'⟩ := h
    obtain ⟨d', heffect, hanswers, hz⟩ := serves_simulated hmetadata (hidles.shows hR) hserves
    exact ⟨d', ⟨heffect, hanswers⟩, hidles'.shows hz⟩
  restarts {x x' d} hR h := by
    obtain ⟨candidate, rfl⟩ := h
    refine ⟨{ d with grant := none }, rfl, Device.restart_intact hR.intact.mirrored.deviceId
      candidate, presentable_boot env.onNvs _ _ candidate, ?_, ?_, fun ha => (nomatch ha.1)⟩
    · rw [Device.keptVault_restart]
      exact hR.vault
    · rw [Device.keptRecord_restart]
      exact hR.registration

end M5Auth.Web.Firmware
