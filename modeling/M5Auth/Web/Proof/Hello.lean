import M5Auth.Provisioning.HelloData
import M5Auth.Provisioning.Proof.RecoveryProgress
import M5Auth.Registration.Proof.Genuine
import M5Auth.VaultRuntime.Proof.Framing
import M5Auth.Web.Proof.Decimals

/-!
# The Web application understands every `hello`

`hello_understood`: whatever state a Device has come to, `parseCanonicalHelloData` accepts the data
of a `hello` that the Device answers with success, and returns what the Device is (`shownBy`). The
rules of the parser across several fields follow from `Presentable`, which every event keeps.
-/

namespace M5Auth.Web

open JsonValue Provisioning Unicode
open Run (stateAt)
open VaultRuntime (AuthNvs Runtime compatibleNvsPersistence validEnvelopeFraming)

/-! ## Texts -/

/-- An ASCII text has the same units as bytes. -/
theorem textOf_ascii {bytes : Text} (h : ∀ byte ∈ bytes, byte < 128) :
    textOf bytes = bytes.map (·.toUInt16) := by
  obtain ⟨h8, h16⟩ := spell_ascii h
  rw [← h16, ← textOf_encodeUtf8, h8]

theorem hexDigit_ascii {n : UInt8} (h : n < 16) : Registration.deviceIdText.hexDigit n < 128 := by
  rw [UInt8.lt_iff_toNat_lt] at h
  unfold Registration.deviceIdText.hexDigit
  split <;> rw [UInt8.lt_iff_toNat_lt, UInt8.toNat_add]
  · exact Nat.lt_of_le_of_lt (Nat.mod_le _ _) (Nat.lt_of_lt_of_le (Nat.add_lt_add_left h _)
      (by decide))
  · exact Nat.lt_of_le_of_lt (Nat.mod_le _ _) (Nat.lt_of_lt_of_le (Nat.add_lt_add_left h _)
      (by decide))

theorem deviceIdText_ascii (deviceId : Registration.DeviceId) :
    ∀ byte ∈ Registration.deviceIdText deviceId, byte < 128 := by
  have hdigit (byte : UInt8) : Registration.deviceIdText.hexDigit (byte / 16) < 128 ∧
      Registration.deviceIdText.hexDigit (byte % 16) < 128 := by
    have hlt := byte.toNat_lt
    constructor
    · refine hexDigit_ascii (UInt8.lt_iff_toNat_lt.2 ?_)
      rw [UInt8.toNat_div]
      exact Nat.div_lt_of_lt_mul hlt
    · refine hexDigit_ascii (UInt8.lt_iff_toNat_lt.2 ?_)
      rw [UInt8.toNat_mod]
      exact Nat.mod_lt _ (by decide)
  intro byte h
  obtain ⟨b, _, hb⟩ := List.mem_flatMap.1 h
  simp only [List.mem_cons, List.not_mem_nil, or_false] at hb
  rcases hb with rfl | rfl
  · exact (hdigit b).1
  · exact (hdigit b).2

theorem deviceIdText_length (deviceId : Registration.DeviceId) :
    (Registration.deviceIdText deviceId).length = 32 := by
  simp [Registration.deviceIdText, deviceId.2]

/-! ## Members -/

theorem get_member (name key : String) (value : Json) (fields : List (Text × Json)) :
    (received (.object (jsonMember key value :: fields))).get name =
      if name = key then some (received value) else (received (.object fields)).get name := by
  have hkey : textOf (encodeUtf8 key.toList) = literal key := textOf_encodeUtf8 _
  have hreceived : received (.object (jsonMember key value :: fields)) =
      .object ((textOf (encodeUtf8 key.toList), received value) :: receivedFields fields) := rfl
  have hrest : received (.object fields) = .object (receivedFields fields) := rfl
  rw [hreceived, hrest, hkey]
  simp only [JsonValue.get, List.lookup_cons, literal_beq]
  by_cases h : name = key
  · simp [h]
  · rw [beq_eq_false_iff_ne.2 h, if_neg h]

theorem string_jsonString (s : String) : received (jsonString s) = .string (literal s) := by
  have hreceived : received (jsonString s) = .string (textOf (encodeUtf8 s.toList)) := rfl
  rw [hreceived, textOf_encodeUtf8]
  rfl

theorem number_jsonNumber (n : Nat) : received (jsonNumber n) = .number (.integer n) := by
  have hreceived : received (jsonNumber n) = .number (numberOf (some (n : Rat))) := rfl
  rw [hreceived, numberOf_natCast]

/-! ## The members of `hello` -/

section
variable (hello : Hello)

theorem received_bool (value : Bool) : received (.bool value) = .bool value := rfl

theorem received_string (value : Text) : received (.string value) = .string (textOf value) := rfl

theorem received_null : received .null = .null := rfl

/-- The members of `hello`, one by one. -/
structure HelloMembers (data : JsonValue) : Prop where
  device : data.get "device" = some (.string (literal hello.metadata.device))
  deviceId : data.get "device_id" = some (.string (textOf hello.deviceId))
  firmware : data.get "firmware" = some (.string (literal hello.metadata.firmware))
  protocol : data.get "protocol" = some (.number (.integer 2))
  storageSchema : data.get "storage_schema" = some (.number (.integer 2))
  vaultFormat : data.get "vault_format" = some (.number (.integer hello.vaultFormat.toNat))
  supportedVaultFormats : data.get "supported_vault_formats" =
    some (.array [.number (.integer 1), .number (.integer 2)])
  buildCommit : data.get "build_commit" = some (.string (literal hello.metadata.buildCommit))
  state : data.get "state" = some (.string (literal (runtimeStateName hello.state)))
  storageReady : data.get "storage_ready" = some (.bool hello.storageReady)
  recoveryResetRequired : data.get "recovery_reset_required" =
    some (.bool hello.recoveryResetRequired)
  factoryResetPresenceRequired : data.get "factory_reset_presence_required" = some (.bool true)
  vaultPresent : data.get "vault_present" = some (.bool hello.vault.isSome)
  vaultId : data.get "vault_id" = some (hello.vault.elim .null fun v => .string (textOf v.1))
  generation : data.get "generation" =
    some (.string (literal (toString (hello.vault.elim 0 fun v => v.2.toNat))))
  registrationPresent : data.get "registration_present" = some (.bool hello.registration.isSome)
  registrationId : data.get "registration_id" =
    some (hello.registration.elim .null fun r => .string (textOf r.1))
  registrationEpoch : data.get "registration_epoch" =
    some (.number (.integer (hello.registration.elim 0 fun r => r.2.1.toNat)))
  brkPublicKey : data.get "brk_public_key" =
    some (hello.registration.elim .null fun r => .string (textOf r.2.2))

theorem helloMembers : HelloMembers hello (received hello.data) := by
  cases hv : hello.vault <;> cases hr : hello.registration <;> constructor <;>
    simp only [Hello.data, Hello.vaultMembers, Hello.registrationMembers, hv, hr,
      List.cons_append, List.nil_append, get_member, String.reduceEq, if_false, if_true,
      string_jsonString, number_jsonNumber, received_bool, received_string, received_null,
      Option.isSome, Option.elim] <;> rfl

end

/-! ## Parsing -/

theorem textOf_base64url (bytes : List UInt8) :
    textOf (base64urlEncode bytes) = encodeBase64UrlCanonical bytes := by
  rw [textOf_ascii (base64urlEncode_ascii bytes), encodeBase64Url_eq]

/-- The fixed-width fields are read back. -/
theorem decodeFixed_encode {n : Nat} (bytes : Bytes n) (field : String) :
    decodeFixed (some (.string (textOf (base64urlEncode bytes.1)))) n field = .ok bytes.1 := by
  have hdecode : decodeBase64UrlCanonical (encodeBase64UrlCanonical bytes.1) (some n) =
      .ok bytes.1 := decode_encodeBase64Url bytes.1 fun length h => by
    rw [bytes.2]
    exact Option.some.inj h
  simp only [decodeFixed, string?, textOf_base64url, hdecode, bytes.2, if_true]

theorem runtimeState_name (state : VaultRuntime.State) :
    runtimeState? (some (.string (literal (runtimeStateName state)))) =
      some (literal (runtimeStateName state)) := by
  cases state <;> simp [runtimeState?, string?, runtimeStateName, Option.filter, literal_beq]

theorem literal_isEmpty {s : String} (h : s ≠ "") : (literal s).isEmpty = false := by
  cases hs : literal s with
  | nil => exact absurd (literal_injective hs) h
  | cons unit rest => rfl

/-- The metadata of a consistent `hello` pass the first check. -/
theorem readHelloMetadata_hello {hello : Hello} (hdevice : hello.metadata.device ≠ "")
    (hid : (textOf hello.deviceId).length = 32) {format : VaultFormatVersion}
    (hformat : hello.vaultFormat.toNat = format.number) :
    readHelloMetadata (received hello.data) = some
      { device := literal hello.metadata.device, deviceId := textOf hello.deviceId
        firmware := literal hello.metadata.firmware, vaultFormat := format
        buildCommit := literal hello.metadata.buildCommit
        state := literal (runtimeStateName hello.state), storageReady := hello.storageReady
        recoveryResetRequired := some hello.recoveryResetRequired
        factoryResetPresenceRequired := some true, vaultPresent := hello.vault.isSome
        registrationPresent := hello.registration.isSome
        registrationEpoch := .integer (hello.registration.elim 0 fun r => r.2.1.toNat) } := by
  have hm := helloMembers hello
  have hsupported : supportedVaultFormat? (some (.number (.integer hello.vaultFormat.toNat))) =
      some format := by
    rw [hformat]
    cases format <;> rfl
  have hempty : (textOf hello.deviceId).isEmpty = false := by
    cases ht : textOf hello.deviceId with
    | nil => rw [ht] at hid; cases hid
    | cons _ _ => rfl
  have hepoch : ∀ r : Option (Text × UInt32 × Text),
      (Number.integer (r.elim 0 fun r => r.2.1.toNat)).inRange 0 9007199254740991 = true := by
    intro r
    cases r with
    | none => rfl
    | some r =>
      have hlt := r.2.1.toNat_lt
      exact Number.inRange_iff.2 ⟨_, rfl, by simp only [Option.elim]; omega,
        by simp only [Option.elim]; omega⟩
  simp only [readHelloMetadata, hm.device, hm.deviceId, hm.firmware, hm.protocol, hm.storageSchema,
    hm.vaultFormat, hm.buildCommit, hm.state, hm.storageReady, hm.recoveryResetRequired,
    hm.factoryResetPresenceRequired, hm.vaultPresent, hm.registrationPresent,
    hm.registrationEpoch, string?, number?, bool?, optionalBool?, hsupported, runtimeState_name,
    Option.filter, literal_isEmpty hdevice, hid, hempty, hepoch, guard]
  rfl

theorem parseSupportedVaultFormats_both :
    parseSupportedVaultFormats (some (.array [.number (.integer 1), .number (.integer 2)])) =
      .ok [.integer 1, .integer 2] := rfl

theorem parseHelloVault_some {data : JsonValue} (vaultId : Bytes 16) {generation : UInt64}
    (hg : generation ≠ 0)
    (hdata : data.get "vault_id" = some (.string (textOf (base64urlEncode vaultId.1)))) :
    parseHelloVault data true generation.toNat = .ok (some vaultId.1) := by
  have hpositive : (generation.toNat != 0) = true :=
    bne_iff_ne.2 fun hz => hg (UInt64.toNat.inj hz)
  rw [parseHelloVault, if_pos rfl, hdata]
  exact bind_ok.2 ⟨_, decodeFixed_encode vaultId _, require_bind.2 ⟨hpositive, rfl⟩⟩

theorem parseHelloVault_none {data : JsonValue} (hdata : data.get "vault_id" = some .null) :
    parseHelloVault data false 0 = .ok none := by
  rw [parseHelloVault, if_neg (by decide), hdata]
  rfl

theorem parseHelloRegistration_some {data : JsonValue} (registrationId : Bytes 16)
    (brkPublicKey : Bytes 65) {epoch : UInt32} (he : epoch ≠ 0)
    (hid : data.get "registration_id" = some (.string (textOf (base64urlEncode registrationId.1))))
    (hbrk : data.get "brk_public_key" = some (.string (textOf (base64urlEncode brkPublicKey.1)))) :
    parseHelloRegistration data true (.integer epoch.toNat) =
      .ok (some registrationId.1, some brkPublicKey.1) := by
  have hlt := epoch.toNat_lt
  have hne : epoch.toNat ≠ 0 := fun hz => he (UInt32.toNat.inj hz)
  have hrange : (Number.integer epoch.toNat).inRange 1 9007199254740991 = true :=
    Number.inRange_iff.2 ⟨_, rfl, by omega, by omega⟩
  rw [parseHelloRegistration, if_pos rfl, hid, hbrk]
  exact bind_ok.2 ⟨_, decodeFixed_encode registrationId _,
    bind_ok.2 ⟨_, decodeFixed_encode brkPublicKey _, require_bind.2 ⟨hrange, rfl⟩⟩⟩

theorem parseHelloRegistration_none {data : JsonValue}
    (hid : data.get "registration_id" = some .null)
    (hbrk : data.get "brk_public_key" = some .null) :
    parseHelloRegistration data false (.integer 0) = .ok (none, none) := by
  rw [parseHelloRegistration, if_neg (by decide), hid, hbrk]
  rfl

/-- A `hello` is accepted if it shows a positive generation, a positive epoch, and both or none of
Vault and registration unless a reset is required. -/
theorem parse_hello {hello : Hello} (hdevice : hello.metadata.device ≠ "")
    {deviceId : Registration.DeviceId}
    (hid : hello.deviceId = Registration.deviceIdText deviceId) {format : VaultFormatVersion}
    (hformat : hello.vaultFormat.toNat = format.number)
    {vault : Option (Registration.VaultId × UInt64)}
    (hvault : hello.vault = vault.map fun v => (base64urlEncode v.1.1, v.2))
    (hgeneration : ∀ v, vault = some v → v.2 ≠ 0)
    {registration : Option (Registration.RegistrationId × UInt32 × Registration.P256PublicKey)}
    (hregistration : hello.registration =
      registration.map fun r => (base64urlEncode r.1.1, r.2.1, base64urlEncode r.2.2.1))
    (hepoch : ∀ r, registration = some r → r.2.1 ≠ 0)
    (hpaired : vault.isSome = registration.isSome ∨ hello.recoveryResetRequired = true) :
    parseCanonicalHelloData (received hello.data) = .ok
      { device := literal hello.metadata.device
        deviceId := (Registration.deviceIdText deviceId).map (·.toUInt16)
        firmware := literal hello.metadata.firmware, vaultFormat := format
        supportedVaultFormats := [.integer 1, .integer 2]
        buildCommit := literal hello.metadata.buildCommit
        state := literal (runtimeStateName hello.state), storageReady := hello.storageReady
        recoveryResetRequired := hello.recoveryResetRequired, factoryResetPresenceRequired := true
        vaultPresent := vault.isSome, vaultId := vault.map (·.1.1)
        generation := vault.elim 0 (·.2.toNat), registrationPresent := registration.isSome
        registrationId := registration.map (·.1.1)
        registrationEpoch := registration.elim 0 (·.2.1.toNat)
        brkPublicKey := registration.map (·.2.2.1) } := by
  have hm := helloMembers hello
  have htext : textOf hello.deviceId =
      (Registration.deviceIdText deviceId).map (·.toUInt16) := by
    rw [hid, textOf_ascii (deviceIdText_ascii deviceId)]
  have hlength : (textOf hello.deviceId).length = 32 := by
    rw [htext, List.length_map, deviceIdText_length]
  have hrequire : ((vault.isSome == registration.isSome) ||
      (some hello.recoveryResetRequired == some true)) = true := by
    rcases hpaired with h | h <;> simp [h]
  have hgen : parseU64Decimal ((received hello.data).get "generation") "generation" =
      .ok (vault.elim 0 (·.2.toNat)) := by
    rw [hm.generation, hvault]
    cases vault with
    | none => exact parseU64Decimal_toString (by decide) _
    | some v => exact parseU64Decimal_toString v.2.toNat_lt _
  have hparsedVault : parseHelloVault (received hello.data) hello.vault.isSome
      (vault.elim 0 (·.2.toNat)) = .ok (vault.map (·.1.1)) := by
    have hget := hm.vaultId
    rw [hvault] at hget ⊢
    cases vault with
    | none => exact parseHelloVault_none hget
    | some v => exact parseHelloVault_some v.1 (hgeneration v rfl) hget
  have hparsedRegistration : parseHelloRegistration (received hello.data)
      hello.registration.isSome (.integer (hello.registration.elim 0 fun r => r.2.1.toNat)) =
      .ok (registration.map (·.1.1), registration.map (·.2.2.1)) := by
    have hget := hm.registrationId
    have hbrk := hm.brkPublicKey
    rw [hregistration] at hget hbrk ⊢
    cases registration with
    | none => exact parseHelloRegistration_none hget hbrk
    | some r => exact parseHelloRegistration_some r.1 r.2.2 (hepoch r rfl) hget hbrk
  rw [parseCanonicalHelloData, readHelloMetadata_hello hdevice hlength hformat]
  dsimp only
  rw [hm.supportedVaultFormats, parseSupportedVaultFormats_both, hgen]
  refine bind_ok.2 ⟨_, rfl, bind_ok.2 ⟨_, rfl, bind_ok.2 ⟨_, hparsedVault,
    bind_ok.2 ⟨_, hparsedRegistration, ?_⟩⟩⟩⟩
  have hsomeVault : hello.vault.isSome = vault.isSome := by rw [hvault, Option.isSome_map]
  have hsomeRegistration : hello.registration.isSome = registration.isSome := by
    rw [hregistration, Option.isSome_map]
  refine require_bind.2 ⟨by rw [hsomeVault, hsomeRegistration]; exact hrequire, ?_⟩
  rw [htext, hsomeVault, hsomeRegistration, hregistration]
  cases registration <;> cases hello.recoveryResetRequired <;> rfl

/-! ## What the Device shows -/

variable {σ : Type}

/-- A Device, in the terms of the Web application: its metadata, its runtime, the registration it
shows, and whether it requires a recovery reset. -/
def shown (metadata : DeviceMetadata) (rt : Runtime σ) (registration : Registration.Snapshot)
    (required : Bool) : CanonicalHelloData :=
  { device := literal metadata.device
    deviceId := (Registration.deviceIdText registration.deviceId).map (·.toUInt16)
    firmware := literal metadata.firmware
    vaultFormat :=
      if rt.hasVault ∧ rt.envelope.vaultFormatVersion = 1 then .legacy else .current
    supportedVaultFormats := [.integer 1, .integer 2]
    buildCommit := literal metadata.buildCommit
    state := literal (runtimeStateName rt.state)
    storageReady := rt.schemaReady
    recoveryResetRequired := required
    factoryResetPresenceRequired := true
    vaultPresent := rt.hasVault
    vaultId := if rt.hasVault then some rt.envelope.vaultId.1 else none
    generation := if rt.hasVault then rt.envelope.generation.toNat else 0
    registrationPresent := registration.registrationPresent
    registrationId :=
      if registration.registrationPresent then some registration.registrationId.1 else none
    registrationEpoch := if registration.registrationPresent then registration.epoch.toNat else 0
    brkPublicKey :=
      if registration.registrationPresent then some registration.brkPublicKey.1 else none }

/-- What the Device is. -/
def shownBy (metadata : DeviceMetadata) (d : Device σ) : CanonicalHelloData :=
  shown metadata d.runtime d.registration.readSnapshot.2 (d.decision == .required)

/-- What the rules of the parser rest on. -/
structure Presentable (env : Env σ) (d : Device σ) : Prop where
  framed : Runtime.Framed d.runtime
  genuine : d.registration.Genuine env.prims.importKey

/-- A Device that is neither unavailable nor in need of a reset has both or none of Vault and
registration. -/
theorem paired_of_decision {d : Device σ} (h : d.decision ≠ .unavailable) :
    d.runtime.hasVault = d.registration.readSnapshot.2.registrationPresent ∨
      (d.decision == .required) = true := by
  by_cases hreq : d.decision = .required
  · exact .inr (by rw [hreq]; rfl)
  left
  have hno : d.decision = .notRequired := by
    cases hd : d.decision with
    | notRequired => rfl
    | required => exact absurd hd hreq
    | unavailable => exact absurd hd h
  unfold Device.decision recoveryResetDecision at hno
  split at hno
  · cases hno
  · rename_i metadata hm
    have hvault : metadata.hasVault = d.runtime.hasVault := Device.hasVault_of_metadata hm
    simp only [classifyRecoveryReset] at hno
    split at hno
    · split at hno
      · cases hno
      · split at hno
        · cases hno
        · split at hno <;> cases hno
    · split at hno
      · split at hno <;> cases hno
      · split at hno
        · cases hno
        · split at hno
          · cases hno
          · rename_i hpair
            rw [← hvault]
            exact not_not.1 hpair

theorem report_of_metadata {rt : Runtime σ} {metadata : VaultRuntime.Metadata}
    (h : rt.metadata = .ok metadata) : metadata = rt.report := by
  unfold Runtime.metadata at h
  split at h
  · cases h
  · exact (Except.ok.inj h).symm

theorem Presentable.epoch_ne_zero {env : Env σ} {d : Device σ} (h : Presentable env d)
    (hp : d.registration.readSnapshot.2.registrationPresent = true) :
    d.registration.readSnapshot.2.epoch ≠ 0 := by
  have hsnapshot : d.registration.readSnapshot.2 = d.registration.snapshot := by
    unfold Registration.Store.readSnapshot at hp ⊢
    split at hp
    · rename_i hready
      rw [if_pos hready]
      split at hp
      · rename_i havailable
        rw [if_pos havailable]
      · cases hp
    · rename_i hready
      rw [if_neg hready]
  rw [hsnapshot] at hp ⊢
  have hvalid := h.genuine hp
  simp only [Registration.Record.valid, Bool.and_eq_true, bne_iff_ne] at hvalid
  exact hvalid.1.2

/-- The Vault that is shown has a positive generation and a supported format. -/
theorem Presentable.vault {env : Env σ} {d : Device σ} (h : Presentable env d)
    (hv : d.runtime.hasVault = true) : d.runtime.envelope.generation ≠ 0 ∧
      (d.runtime.envelope.vaultFormatVersion = 1 ∨ d.runtime.envelope.vaultFormatVersion = 2) := by
  have hframing := h.framed hv
  simp only [validEnvelopeFraming, Bool.and_eq_true, bne_iff_ne] at hframing
  obtain ⟨⟨⟨⟨hformat, _⟩, hgeneration⟩, _⟩, _⟩ := hframing
  refine ⟨hgeneration, ?_⟩
  simp only [Vault.isSupportedVaultFormat, Bool.or_eq_true, decide_eq_true_eq] at hformat
  exact hformat

/-- The data that `hello_success` makes of what the runtime and the registration store report. -/
theorem parse_report {metadata : DeviceMetadata} (hdevice : metadata.device ≠ "")
    {rt : Runtime σ} {registration : Registration.Snapshot} {required : Bool} (id : Nat)
    {hello : Hello}
    (hhello : helloSuccess id metadata rt.report registration required = .success id (.hello hello))
    (hvault : rt.hasVault = true → rt.envelope.generation ≠ 0 ∧
      (rt.envelope.vaultFormatVersion = 1 ∨ rt.envelope.vaultFormatVersion = 2))
    (hepoch : registration.registrationPresent = true → registration.epoch ≠ 0)
    (hpaired : rt.hasVault = registration.registrationPresent ∨ required = true) :
    parseCanonicalHelloData (received hello.data) =
      .ok (shown metadata rt registration required) := by
  obtain rfl : _ = hello := by
    injection hhello with _ hdata
    exact ResponseData.hello.inj hdata
  have hformat : (if rt.hasVault = true then rt.report.vaultFormatVersion
      else Vault.vaultFormatVersion2).toNat =
      (if rt.hasVault = true ∧ rt.envelope.vaultFormatVersion = 1 then VaultFormatVersion.legacy
        else .current).number := by
    cases hv : rt.hasVault with
    | false => rfl
    | true =>
      obtain ⟨_, hf | hf⟩ := hvault hv <;> simp [Runtime.report, hv, hf, VaultFormatVersion.number]
  have hv : (if rt.report.hasVault = true then
        some (base64urlEncode rt.report.vaultId.1, rt.report.generation) else none) =
      (if rt.hasVault = true then some (rt.envelope.vaultId, rt.envelope.generation)
        else none).map fun v => (base64urlEncode v.1.1, v.2) := by
    cases hv : rt.hasVault <;> simp [Runtime.report, hv]
  have hr : (if registration.registrationPresent = true then
        some (base64urlEncode registration.registrationId.1, registration.epoch,
          base64urlEncode registration.brkPublicKey.1) else none) =
      (if registration.registrationPresent = true then
          some (registration.registrationId, registration.epoch, registration.brkPublicKey)
        else none).map fun r => (base64urlEncode r.1.1, r.2.1, base64urlEncode r.2.2.1) := by
    cases registration.registrationPresent <;> rfl
  refine (parse_hello hdevice rfl hformat hv (fun v h => ?_) hr (fun r h => ?_) ?_).trans ?_
  · obtain ⟨hp, he⟩ := Option.ite_none_right_eq_some.1 h
    cases he
    exact (hvault hp).1
  · obtain ⟨hp, he⟩ := Option.ite_none_right_eq_some.1 h
    cases he
    exact hepoch hp
  · rcases hpaired with hp | hp
    · left
      rw [hp]
      cases registration.registrationPresent <;> rfl
    · exact .inr hp
  · rw [shown]
    cases rt.hasVault <;> cases registration.registrationPresent <;> rfl

/-- **The Web application understands the Device.** -/
theorem parse_handleHello {env : Env σ} {d : Device σ} (hp : Presentable env d)
    (hdevice : env.metadata.device ≠ "") {id : Nat} (hok : (d.handleHello env id).1.ok = true) :
    ∃ hello, d.handleHello env id = (.success id (.hello hello), d) ∧
      parseCanonicalHelloData (received hello.data) = .ok (shownBy env.metadata d) := by
  unfold Device.handleHello at hok ⊢
  cases hm : d.runtime.metadata with
  | error status =>
    rw [hm] at hok
    cases hok
  | ok metadata =>
    simp only [hm] at hok ⊢
    split at hok
    · cases hok
    · rename_i havailable
      rw [if_neg havailable]
      obtain rfl : metadata = d.runtime.report := report_of_metadata hm
      refine ⟨_, rfl, parse_report hdevice id rfl hp.vault hp.epoch_ne_zero
        (paired_of_decision havailable)⟩

/-! ## Every reachable Device -/

theorem presentable_boot (env : Env σ) (storage : σ) (nvs : Registration.Nvs)
    (candidate : Registration.DeviceIdCandidate) :
    Presentable env (Device.boot env storage nvs candidate) where
  framed := .initializeRuntime
  genuine := Registration.Store.genuine_initialize _ candidate

theorem genuine_step {env : Env σ} {d : Device σ} (h : d.registration.Genuine env.prims.importKey)
    (i : Device.Input) : (d.step env i).registration.Genuine env.prims.importKey := by
  rcases Device.registration_cases env d i with hreg | ⟨line, m, frame, _, _, heffect⟩
  · rw [hreg]
    exact h
  rw [← (Device.quiet_housekeeping env d m.nowMs).registration] at h
  cases heffect with
  | kept hreg =>
    rw [hreg]
    exact h
  | installed record _ hreg =>
    rw [hreg]
    exact h.installInitial record
  | replaced _ _ _ status hreg =>
    rw [show (d.step env i).registration = _ from (congrArg Prod.snd hreg).symm]
    exact h.replace _ _
  | cleared kind _ hreg =>
    rcases hreg with hreg | hreg <;> rw [hreg]
    · exact h.clearRegistration
    · exact h.clearCorrupt

theorem Presentable.next {env : Env σ} {d : Device σ} (h : Presentable env d)
    (hP : VaultRuntime.LoadsFramed env.persistence) (e : Device.Event) :
    Presentable env (d.next env e) := by
  cases e with
  | input i =>
    exact ⟨(Device.step_timed env d i).keeps (fun rt call _ hr => hr.step hP call) h.framed,
      genuine_step h.genuine i⟩
  | reboot candidate =>
    exact presentable_boot env d.runtime.persistence d.registration.nvs candidate

/-- **Every `hello` is understood.** After any life of the Device, whatever storage calls failed in
it, a `hello` request that is answered with success is answered with data that the Web application
accepts and takes for what the Device is. -/
theorem hello_understood (env : Env σ) (buildCommit : String)
    (hmetadata : env.metadata = metadataFor buildCommit) (storage : AuthNvs)
    (nvs : Registration.Nvs) (candidate : Registration.DeviceIdCandidate)
    (events : Nat → Device.Event) (n : Nat) {line : List UInt8} {m : Moment} {frame : Frame}
    (hline : Device.Accepted env.onNvs line frame) (hhello : frame.operation = .hello)
    (hok : ((stateAt (Device.next env.onNvs) (Device.boot env.onNvs storage nvs candidate) events
      n).handleLine env.onNvs line m).1.ok = true) :
    ∃ hello d, (stateAt (Device.next env.onNvs) (Device.boot env.onNvs storage nvs candidate)
        events n).handleLine env.onNvs line m = (.success frame.id (.hello hello), d) ∧
      parseCanonicalHelloData (received hello.data) = .ok (shownBy env.metadata d) := by
  have hpresentable : Presentable env.onNvs (stateAt (Device.next env.onNvs)
      (Device.boot env.onNvs storage nvs candidate) events n) :=
    Run.stateAt_inv (presentable_boot env.onNvs storage nvs candidate)
      (fun _ e h => h.next VaultRuntime.loadsFramed_nvs e) n
  generalize stateAt (Device.next env.onNvs) (Device.boot env.onNvs storage nvs candidate)
    events n = d at hok hpresentable ⊢
  have hhouse := hpresentable.next VaultRuntime.loadsFramed_nvs (.input (.housekeeping m.nowMs))
  have he : d.handleLine env.onNvs line m =
      (d.housekeeping m.nowMs).handleHello env.onNvs frame.id := by
    rw [Device.handleLine, Device.dispatch_accepted _ m hline, Device.handleRequest, hhello]
  rw [he] at hok ⊢
  have hdevice : env.onNvs.metadata.device ≠ "" := by
    show env.metadata.device ≠ ""
    rw [hmetadata]
    simp [metadataFor]
  obtain ⟨hello, hanswer, hparse⟩ := parse_handleHello hhouse hdevice hok
  exact ⟨hello, d.housekeeping m.nowMs, hanswer, hparse⟩

/-- The request `hello` with the id 1. -/
def helloLine : List UInt8 :=
  ascii "\x7b\"v\":2,\"id\":1,\"op\":\"hello\",\"params\":\x7b\x7d\x7d"

/-- A firmware whose parser reads that request. -/
def helloEnv : Env VaultRuntime.PersistedSnapshot :=
  { Device.sampleEnv with
    parse := fun line => if line = helloLine then some (Device.sampleRequest "hello" []) else none
    metadata := metadataFor "unknown" }

theorem helloLine_evaluated : helloLine.isEmpty = false ∧
    helloLine.length ≤ maxCanonicalMessageBytes ∧
    ((stateAt (Device.next helloEnv.onNvs) (Device.boot helloEnv.onNvs (.reliable {})
        Device.sampleNvs ⟨Device.ones 16, rfl⟩) (fun _ => .input .disconnect) 0).handleLine
          helloEnv.onNvs helloLine { nowMs := 0 }).1.ok = true := by
  decide +kernel

theorem accepted_hello : Device.Accepted helloEnv.onNvs helloLine ⟨1, .hello, .object []⟩ where
  nonempty := helloLine_evaluated.1
  short := helloLine_evaluated.2.1
  read := by
    have hparse : helloEnv.onNvs.parse helloLine = some (Device.sampleRequest "hello" []) := by
      show (if helloLine = helloLine then some (Device.sampleRequest "hello" []) else none) = _
      exact if_pos rfl
    rw [readFrame, hparse]
    rfl

/-- A registered Device without its Vault: it requires a recovery reset, and says so. -/
theorem hello_understood_partial :
    ∃ hello d, (stateAt (Device.next helloEnv.onNvs) (Device.boot helloEnv.onNvs (.reliable {})
        Device.sampleNvs ⟨Device.ones 16, rfl⟩) (fun _ => .input .disconnect) 0).handleLine
          helloEnv.onNvs helloLine { nowMs := 0 } = (.success 1 (.hello hello), d) ∧
      parseCanonicalHelloData (received hello.data) = .ok (shownBy helloEnv.metadata d) :=
  hello_understood helloEnv "unknown" rfl (.reliable {}) Device.sampleNvs ⟨Device.ones 16, rfl⟩
    (fun _ => .input .disconnect) 0 accepted_hello rfl helloLine_evaluated.2.2

end M5Auth.Web
