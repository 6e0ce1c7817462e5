import M5Auth.Lib.Agreement
import M5Auth.Vault.Proof.RoundTrip
import M5Auth.Vault.Proof.Utf8
import M5Auth.Web.VaultFormat
import Mathlib.Data.List.Forall2

/-!
# The two plaintext decoders

The firmware's `decodePlaintext` and the Web application's `decodeVaultPlaintext` are compared
reader by reader. They accept the same bytes, and what they read is related by `Reads`: every field
is the same but the texts, from which the Web application drops a leading byte order mark.
The main result is `decoders_agree_iff`.
-/

namespace M5Auth.Web

open Agreement Unicode
open Vault (CredentialRecord WifiRecord decodePlaintext encodePlaintext)

/-! ## Related values -/

/-- A string that was decoded from the bytes of a text. -/
def TextReads (t : Text) (s : JsString) : Prop :=
  ∃ text, t = encodeUtf8 text ∧ s = encodeUtf16 (dropBom text)

/-- The same record up to its texts. -/
structure SameFields (r : CredentialRecord) (w : VaultCredentialRecord) : Prop where
  credentialId : w.credentialId = r.credentialId.1
  secret : w.secret = r.secret
  digits : w.digits = .integer r.digits.toNat
  periodSeconds : w.periodSeconds = .integer r.periodSeconds.toNat
  manualOrder : w.manualOrder = .integer r.manualOrder.toNat

/-- A record read by the firmware and by the Web application. -/
structure RecordReads (r : CredentialRecord) (w : VaultCredentialRecord) : Prop where
  fields : SameFields r w
  issuer : TextReads r.issuer w.issuer
  account : TextReads r.account w.account
  displayName : TextReads r.displayName w.displayName

def WifiReads : Option WifiRecord → Option VaultWifiRecord → Prop
  | none, none => True
  | some r, some w => TextReads r.ssid w.ssid ∧ TextReads r.password w.password
  | _, _ => False

/-- The plaintext that the firmware reads and the one that the Web application reads. -/
structure Reads (p : Vault.VaultPlaintext) (v : VaultPlaintext) : Prop where
  credentials : List.Forall₂ RecordReads p.credentials v.credentials
  wifi : WifiReads p.wifi v.wifi
  autoLockDays : v.autoLockDays = p.autoLockDays.map fun days => .integer days.toNat

/-! ## Readers of fields -/

theorem take_agrees (length : Nat) (field : String) (input : List UInt8) :
    Agree (Left (· = ·)) (Vault.readBytes length input) (ByteReader.take length field input) := by
  unfold Vault.readBytes ByteReader.take
  by_cases h : length ≤ input.length
  · rw [if_neg (by omega), if_pos h]
    exact .values ⟨rfl, rfl⟩
  · rw [if_pos (by omega), if_neg h]
    exact .failed _

theorem u8_agrees (field : String) (input : List UInt8) :
    Agree (Left fun (v : UInt8) n => n = v.toNat) (Vault.readU8 input)
      (ByteReader.u8 field input) := by
  cases input with
  | nil => exact .failed _
  | cons byte input =>
    refine .values ⟨?_, rfl⟩
    simp [valueBE, valueLE]

theorem u16_agrees (field : String) (input : List UInt8) :
    Agree (Left fun (v : UInt16) n => n = v.toNat) (Vault.readU16 input)
      (ByteReader.u16 field input) := by
  match input with
  | [] => exact .failed _
  | [byte] => exact .failed _
  | high :: low :: input =>
    refine .values ⟨?_, rfl⟩
    show valueBE [high, low] = _
    rw [Vault.toNat_pair]
    simp [valueBE, valueLE]
    omega

theorem sizedBytes_agrees (maximum : Nat) (field : String) (input : List UInt8) :
    Agree (Left (· = ·)) (Vault.readSizedBytes maximum input)
      (ByteReader.sizedBytes maximum field input) := by
  unfold Vault.readSizedBytes ByteReader.sizedBytes
  refine (u16_agrees _ input).bind ?_
  rintro ⟨length, rest⟩ ⟨n, rest'⟩ ⟨rfl, rfl⟩
  dsimp only
  refine Agree.guard ?_ fun _ => take_agrees _ _ _
  rw [decide_eq_true_eq]
  omega

theorem sizedText_agrees (field : String) (input : List UInt8) :
    Agree (Left TextReads) (Vault.readSizedText input) (ByteReader.sizedText field input) := by
  unfold Vault.readSizedText ByteReader.sizedText
  refine (sizedBytes_agrees Vault.maxFieldBytes field input).bind ?_
  rintro ⟨value, rest⟩ ⟨value', rest'⟩ ⟨rfl, rfl⟩
  dsimp only
  by_cases hvalid : Vault.isValidUtf8 value = true
  · obtain ⟨text, rfl⟩ := Vault.isValidUtf8_iff.1 hvalid
    rw [if_pos hvalid, textDecode_encodeUtf8]
    exact .values ⟨⟨text, rfl, rfl⟩, rfl⟩
  · rw [if_neg hvalid]
    have hfail : textDecode value = .error .typeError := by
      unfold textDecode
      split
      · rename_i text htext
        exact absurd (Vault.isValidUtf8_iff.2 ⟨text, (encodeUtf8_of_decode htext).symm⟩) hvalid
      · rfl
    rw [hfail]
    exact .failed _

/-! ## A credential -/

theorem take_exact (field : String) (input : List UInt8) :
    Agree (Left fun (b : Bytes 16) l => l = b.1) (readExact 16 input)
      (ByteReader.take credentialIdBytes field input) := by
  unfold readExact ByteReader.take
  by_cases h : 16 ≤ input.length
  · have h' : credentialIdBytes ≤ input.length := h
    rw [dif_pos h, if_pos h']
    exact .values ⟨rfl, rfl⟩
  · have h' : ¬credentialIdBytes ≤ input.length := h
    rw [dif_neg h, if_neg h']
    exact .failed _

theorem contains_iff {ids : List Vault.CredentialId} {ids' : List (List UInt8)}
    (hids : ids' = ids.map (·.1)) {id : Vault.CredentialId} {id' : List UInt8} (hid : id' = id.1) :
    (!ids'.contains id') = true ↔ id ∉ ids := by
  subst hids hid
  rw [Bool.not_eq_true', Bool.eq_false_iff, Ne, List.contains_iff_mem]
  constructor
  · exact fun h hmem => h (List.mem_map_of_mem hmem)
  · rintro h hmem
    obtain ⟨other, hother, heq⟩ := List.mem_map.1 hmem
    exact h (Subtype.ext heq ▸ hother)

/-- The two checks of a whole record. -/
theorem validate_iff {r : CredentialRecord} {w : VaultCredentialRecord} (h : SameFields r w) :
    validateCredential w = .ok () ↔ Vault.validCredential r = true := by
  have hid : w.credentialId.length = credentialIdBytes := by
    rw [h.credentialId]
    exact r.credentialId.2
  have hperiod : r.periodSeconds.toNat < 65536 := r.periodSeconds.toNat_lt
  have horder : r.manualOrder.toNat < 65536 := r.manualOrder.toNat_lt
  have hmax : maxSecretBytes = Vault.maxSecretBytes := rfl
  have hsecret : (decide (1 ≤ r.secret.length) && decide (r.secret.length ≤ maxSecretBytes)) =
      (r.secret ≠ [] && decide (r.secret.length ≤ Vault.maxSecretBytes)) := by
    rw [hmax]
    cases r.secret <;> simp
  have hdigits : (Number.integer r.digits.toNat).inRange 1 10 =
      (decide (1 ≤ r.digits) && decide (r.digits ≤ 10)) := by
    simp [Number.inRange, UInt8.le_iff_toNat_le]
  have hperiods : (Number.integer r.periodSeconds.toNat).inRange 1 0xffff =
      decide (1 ≤ r.periodSeconds) := by
    simp [Number.inRange, UInt16.le_iff_toNat_le]
    omega
  have horders : (Number.integer r.manualOrder.toNat).inRange 0 0xffff = true := by
    simp [Number.inRange]
    omega
  unfold validateCredential assertIntegerRange
  rw [h.secret, h.digits, h.periodSeconds, h.manualOrder, hid, hsecret, hdigits, hperiods, horders,
    require_bind, require_bind, require_bind, require_bind, require_ok]
  simp only [Vault.validCredential, beq_self_eq_true, Bool.and_eq_true, true_and, and_true,
    and_assoc]

/-- A last check before the value. -/
theorem checked_agrees {α β : Type} {R : α → β → Prop} {c : Bool} {check : Except Thrown Unit}
    {a : α} {b : β} (hcheck : check = .ok () ↔ c = true) (hr : R a b) :
    Agree R (if c = true then some a else none) (check >>= fun _ => .ok b) := by
  by_cases hc : c = true
  · rw [if_pos hc, hcheck.2 hc]
    exact .values hr
  · rw [if_neg hc]
    cases hcase : check with
    | error e => exact .failed e
    | ok u => exact absurd (hcheck.1 hcase) hc

theorem readCredential_agrees {ids : List Vault.CredentialId} {ids' : List (List UInt8)}
    (hids : ids' = ids.map (·.1)) (input : List UInt8) :
    Agree (Left RecordReads) (Vault.readCredential ids input) (readCredential ids' input) := by
  unfold Vault.readCredential readCredential
  refine (take_exact "credentialId" input).bind ?_
  rintro ⟨id, input1⟩ ⟨id', _⟩ ⟨rfl, rfl⟩
  refine Agree.guard ((contains_iff hids rfl).trans Iff.rfl) fun _ => ?_
  refine (sizedBytes_agrees Vault.maxSecretBytes "secret" input1).bind ?_
  rintro ⟨secret, input2⟩ ⟨_, _⟩ ⟨rfl, rfl⟩
  refine Agree.guard ?_ fun _ => ?_
  · simp [Nat.one_le_iff_ne_zero, List.length_eq_zero_iff]
  refine (sizedText_agrees "issuer" input2).bind ?_
  rintro ⟨issuer, input3⟩ ⟨issuer', _⟩ ⟨hissuer, rfl⟩
  refine (sizedText_agrees "account" input3).bind ?_
  rintro ⟨account, input4⟩ ⟨account', _⟩ ⟨haccount, rfl⟩
  refine (sizedText_agrees "displayName" input4).bind ?_
  rintro ⟨displayName, input5⟩ ⟨displayName', _⟩ ⟨hdisplay, rfl⟩
  refine (u8_agrees "algorithm" input5).bind ?_
  rintro ⟨algorithm, input6⟩ ⟨_, _⟩ ⟨rfl, rfl⟩
  refine Agree.guard ?_ fun _ => ?_
  · rw [beq_iff_eq, ne_eq, Decidable.not_not, ← UInt8.toNat_inj]
    exact Iff.rfl
  refine (u8_agrees "digits" input6).bind ?_
  rintro ⟨digits, input7⟩ ⟨_, _⟩ ⟨rfl, rfl⟩
  refine (u16_agrees "periodSeconds" input7).bind ?_
  rintro ⟨periodSeconds, input8⟩ ⟨_, _⟩ ⟨rfl, rfl⟩
  refine (u16_agrees "manualOrder" input8).bind ?_
  rintro ⟨manualOrder, input9⟩ ⟨_, _⟩ ⟨rfl, rfl⟩
  have hrecord : RecordReads
      ⟨id, secret, issuer, account, displayName, digits, periodSeconds, manualOrder⟩
      ⟨id.1, secret, issuer', account', displayName', .integer digits.toNat,
        .integer periodSeconds.toNat, .integer manualOrder.toNat⟩ :=
    ⟨⟨rfl, rfl, rfl, rfl, rfl⟩, hissuer, haccount, hdisplay⟩
  exact checked_agrees (validate_iff hrecord.fields) ⟨hrecord, rfl⟩

/-! ## The loop and the end -/

theorem ids_of {rs : List CredentialRecord} {ws : List VaultCredentialRecord}
    (h : List.Forall₂ RecordReads rs ws) :
    ws.map (·.credentialId) = (rs.map (·.credentialId)).map (·.1) := by
  induction h with
  | nil => rfl
  | cons hr _ ih => simp [hr.fields.credentialId, ih]

theorem readCredentials_agrees (count : Nat) {rs : List CredentialRecord}
    {ws : List VaultCredentialRecord} (h : List.Forall₂ RecordReads rs ws) (input : List UInt8) :
    Agree (Left (List.Forall₂ RecordReads)) (Vault.readCredentials count rs input)
      (readCredentials count ws input) := by
  induction count generalizing rs ws input with
  | zero => exact .values ⟨h, rfl⟩
  | succ count ih =>
    have hstep : Vault.readCredentials (count + 1) rs input =
        (Vault.readCredential (rs.map (·.credentialId)) input >>= fun read =>
          Vault.readCredentials count (rs ++ [read.1]) read.2) := by
      rw [Vault.readCredentials]
      cases Vault.readCredential (rs.map (·.credentialId)) input <;> rfl
    rw [hstep, readCredentials]
    refine (readCredential_agrees (ids_of h) input).bind ?_
    rintro ⟨record, rest⟩ ⟨record', _⟩ ⟨hrecord, rfl⟩
    exact ih (List.rel_append h (.cons hrecord .nil)) rest

theorem flag_iff {flag : UInt8} : ((flag.toNat == 0) || (flag.toNat == 1)) = true ↔ ¬flag > 1 := by
  have h1 : (1 : UInt8).toNat = 1 := rfl
  rw [gt_iff_lt, UInt8.lt_iff_toNat_lt, h1, Bool.or_eq_true, beq_iff_eq, beq_iff_eq]
  omega

theorem flag_one_iff {flag : UInt8} : flag.toNat = 1 ↔ flag = 1 := by
  rw [← UInt8.toNat_inj]
  exact Iff.rfl

theorem readCommonPlaintext_agrees (input : List UInt8) :
    Agree (Left Reads) (Vault.decodeCommonBody input) (readCommonPlaintext input) := by
  unfold Vault.decodeCommonBody readCommonPlaintext
  refine (u16_agrees "credential count" input).bind ?_
  rintro ⟨count, input1⟩ ⟨_, _⟩ ⟨rfl, rfl⟩
  dsimp only
  refine Agree.guard ?_ fun _ => ?_
  · have hmax : maxVaultCredentials = Vault.maxCredentials := rfl
    rw [decide_eq_true_eq, hmax]
    omega
  refine (readCredentials_agrees count.toNat .nil input1).bind ?_
  rintro ⟨credentials, input2⟩ ⟨credentials', _⟩ ⟨hcredentials, rfl⟩
  dsimp only [readWifi]
  simp only [bind_assoc]
  refine (u8_agrees "wifi presence" input2).bind ?_
  rintro ⟨present, input3⟩ ⟨_, _⟩ ⟨rfl, rfl⟩
  dsimp only
  refine Agree.guard flag_iff fun _ => ?_
  by_cases hone : present = 1
  · rw [if_pos hone, if_pos (flag_one_iff.2 hone)]
    simp only [bind_assoc]
    refine (sizedText_agrees "wifi ssid" input3).bind ?_
    rintro ⟨ssid, input4⟩ ⟨ssid', _⟩ ⟨hssid, rfl⟩
    dsimp only
    refine (sizedText_agrees "wifi password" input4).bind ?_
    rintro ⟨password, input5⟩ ⟨password', _⟩ ⟨hpassword, rfl⟩
    exact .values ⟨⟨hcredentials, ⟨hssid, hpassword⟩, rfl⟩, rfl⟩
  · rw [if_neg hone, if_neg fun h => hone (flag_one_iff.1 h)]
    exact .values ⟨⟨hcredentials, trivial, rfl⟩, rfl⟩

theorem days_iff {days : UInt8} :
    (Number.integer days.toNat).inRange 1 31 = true ↔
      ¬(days < Vault.minAutoLockDays ∨ Vault.maxAutoLockDays < days) := by
  have hmin : Vault.minAutoLockDays.toNat = 1 := rfl
  have hmax : Vault.maxAutoLockDays.toNat = 31 := rfl
  rw [UInt8.lt_iff_toNat_lt, UInt8.lt_iff_toNat_lt, hmin, hmax]
  simp only [Number.inRange, Bool.and_eq_true, decide_eq_true_eq]
  omega

theorem readAutoLockDays_agrees (input : List UInt8) :
    Agree (Left fun (days : Option UInt8) days' => days' = days.map fun d => .integer d.toNat)
      (Vault.readAutoLockDays input) (readAutoLockDays input) := by
  unfold Vault.readAutoLockDays readAutoLockDays
  refine (u8_agrees "auto_lock_present" input).bind ?_
  rintro ⟨present, input1⟩ ⟨_, _⟩ ⟨rfl, rfl⟩
  refine Agree.guard flag_iff fun _ => ?_
  dsimp only
  by_cases hone : present = 1
  · rw [if_pos hone, if_pos (flag_one_iff.2 hone)]
    refine (u8_agrees "auto_lock_days" input1).bind ?_
    rintro ⟨days, input2⟩ ⟨_, _⟩ ⟨rfl, rfl⟩
    dsimp only [normalizeAutoLockDays, assertIntegerRange]
    simp only [bind_assoc]
    exact Agree.guard days_iff fun _ => .values ⟨rfl, rfl⟩
  · rw [if_neg hone, if_neg fun h => hone (flag_one_iff.1 h)]
    exact .values ⟨rfl, rfl⟩

/-! ## The plaintext -/

/-- The firmware's number of a version. -/
def VaultFormatVersion.format (version : VaultFormatVersion) : UInt16 := UInt16.ofNat version.number

theorem magic_v1 : vaultPlaintextMagicV1 = Vault.plaintextMagicV1 := by
  rw [vaultPlaintextMagicV1, Vault.plaintextMagicV1, literal, ascii, String.toList_ofList]
  rfl

theorem magic_v2 : vaultPlaintextMagicV2 = Vault.plaintextMagicV2 := by
  rw [vaultPlaintextMagicV2, Vault.plaintextMagicV2, literal, ascii, String.toList_ofList]
  rfl

/-- What follows the magic of format 1. -/
theorem body_agrees_legacy (input : List UInt8) :
    Agree (fun (p : Vault.VaultPlaintext × UInt16) v => Reads p.1 v ∧ p.2 = 1)
      (Vault.decodeBody Vault.vaultFormatVersion1 input)
      (do
        let (encodedVersion, input) ← ByteReader.u16 "vault format version" input
        require (encodedVersion == VaultFormatVersion.legacy.number)
          s!"unsupported vault format version: {encodedVersion}"
        let (common, input) ← readCommonPlaintext input
        ByteReader.expectEnd input
        .ok { common with autoLockDays := none }) := by
  unfold Vault.decodeBody
  refine (u16_agrees "vault format version" input).bind ?_
  rintro ⟨encodedVersion, input1⟩ ⟨_, _⟩ ⟨rfl, rfl⟩
  refine Agree.guard ?_ fun _ => ?_
  · rw [beq_iff_eq, ne_eq, Decidable.not_not, ← UInt16.toNat_inj]
    exact Iff.rfl
  refine (readCommonPlaintext_agrees input1).bind ?_
  rintro ⟨candidate, input2⟩ ⟨common, _⟩ ⟨hcommon, rfl⟩
  refine Agree.guard ?_ fun _ => .values ⟨⟨hcommon.credentials, hcommon.wifi, rfl⟩, rfl⟩
  rw [List.isEmpty_iff, ne_eq, Decidable.not_not]

/-- What follows the magic of format 2. -/
theorem body_agrees_current (input : List UInt8) :
    Agree (fun (p : Vault.VaultPlaintext × UInt16) v => Reads p.1 v ∧ p.2 = 2)
      (Vault.decodeBody Vault.vaultFormatVersion2 input)
      (do
        let (encodedVersion, input) ← ByteReader.u16 "vault format version" input
        require (encodedVersion == VaultFormatVersion.current.number)
          s!"unsupported vault format version: {encodedVersion}"
        let (common, input) ← readCommonPlaintext input
        let (autoLockDays, input) ← readAutoLockDays input
        ByteReader.expectEnd input
        .ok { common with autoLockDays }) := by
  unfold Vault.decodeBody
  refine (u16_agrees "vault format version" input).bind ?_
  rintro ⟨encodedVersion, input1⟩ ⟨_, _⟩ ⟨rfl, rfl⟩
  refine Agree.guard ?_ fun _ => ?_
  · rw [beq_iff_eq, ne_eq, Decidable.not_not, ← UInt16.toNat_inj]
    exact Iff.rfl
  refine (readCommonPlaintext_agrees input1).bind ?_
  rintro ⟨candidate, input2⟩ ⟨common, _⟩ ⟨hcommon, rfl⟩
  refine (readAutoLockDays_agrees input2).bind ?_
  rintro ⟨days, input3⟩ ⟨_, _⟩ ⟨rfl, rfl⟩
  refine Agree.guard ?_ fun _ => .values ⟨⟨hcommon.credentials, hcommon.wifi, rfl⟩, rfl⟩
  rw [List.isEmpty_iff, ne_eq, Decidable.not_not]

/-- The firmware's plaintext, where its format is the version's. -/
def ofVersion (version : VaultFormatVersion) (read : Option (Vault.VaultPlaintext × UInt16)) :
    Option Vault.VaultPlaintext :=
  match read with
  | some (p, format) => if format = version.format then some p else none
  | none => none

theorem ofVersion_agrees {version : VaultFormatVersion}
    {read : Option (Vault.VaultPlaintext × UInt16)} {y : Except Thrown VaultPlaintext}
    (h : Agree (fun p v => Reads p.1 v ∧ p.2 = version.format) read y) :
    Agree Reads (ofVersion version read) y := by
  cases h with
  | failed e => exact .failed e
  | values hr =>
    rw [ofVersion, if_pos hr.2]
    exact .values hr.1

/-- A body of another format is none of this version. -/
theorem ofVersion_other {version : VaultFormatVersion} {format : UInt16} {input : List UInt8}
    (hformat : format = Vault.vaultFormatVersion1 ∨ format = Vault.vaultFormatVersion2)
    (hother : format ≠ version.format) :
    ofVersion version (Vault.decodeBody format input) = none := by
  cases hbody : Vault.decodeBody format input with
  | none => rfl
  | some read =>
    obtain ⟨p, format'⟩ := read
    obtain ⟨rfl, -⟩ := (Vault.decodeBody_iff hformat).1 hbody
    rw [ofVersion, if_neg hother]

theorem expectMagic_short {expected encoded : List UInt8} (h : encoded.length < expected.length)
    (field : String) : ∃ e, expectMagic expected field encoded = .error e := by
  unfold expectMagic ByteReader.take
  rw [if_neg (by omega)]
  exact ⟨_, rfl⟩

theorem expectMagic_append {magic expected : List UInt8} (h : magic.length = expected.length)
    (field : String) (rest : List UInt8) :
    expectMagic expected field (magic ++ rest) =
      (require (magic == expected) s!"unsupported {field}" >>= fun _ => .ok rest) := by
  unfold expectMagic ByteReader.take
  rw [if_pos (by rw [List.length_append]; omega), ← h, List.take_left, List.drop_left]
  rfl

/-- **The decoders accept the same bytes and read the same fields.** -/
theorem decoders_agree (version : VaultFormatVersion) (encoded : List UInt8) :
    Agree Reads (ofVersion version (decodePlaintext encoded)) (decodeVersion version encoded) := by
  have hlengths := Vault.magic_lengths
  have hdistinct := Vault.magic_ne
  rw [Vault.decodePlaintext_eq]
  cases hread : Vault.readBytes Vault.plaintextMagicV1.length encoded with
  | none =>
    have hshort : encoded.length < Vault.plaintextMagicV1.length := by
      unfold Vault.readBytes at hread
      split at hread
      · assumption
      · cases hread
    cases version with
    | legacy =>
      have hlt : encoded.length < vaultPlaintextMagicV1.length := by
        rw [magic_v1]
        exact hshort
      obtain ⟨e, he⟩ := expectMagic_short hlt "vault plaintext magic"
      rw [decodeVersion, he]
      exact .failed e
    | current =>
      have hlt : encoded.length < vaultPlaintextMagicV2.length := by
        rw [magic_v2, hlengths]
        exact hshort
      obtain ⟨e, he⟩ := expectMagic_short hlt "vault plaintext magic"
      rw [decodeVersion, he]
      exact .failed e
  | some read =>
    obtain ⟨magic, rest⟩ := read
    obtain ⟨hmagic, rfl⟩ := Vault.readBytes_iff.1 hread
    dsimp only
    cases version with
    | legacy =>
      rw [decodeVersion, magic_v1, expectMagic_append hmagic]
      by_cases hm : magic = Vault.plaintextMagicV1
      · rw [if_pos hm, beq_iff_eq.2 hm]
        exact ofVersion_agrees (body_agrees_legacy rest)
      · rw [if_neg hm, beq_eq_false_iff_ne.2 hm]
        have hnone : ofVersion .legacy
            (if magic = Vault.plaintextMagicV2 then Vault.decodeBody Vault.vaultFormatVersion2 rest
              else none) = none := by
          split
          · exact ofVersion_other (.inr rfl) (by decide)
          · rfl
        rw [hnone]
        exact .failed _
    | current =>
      rw [decodeVersion, magic_v2, expectMagic_append (hmagic.trans hlengths.symm)]
      by_cases hm : magic = Vault.plaintextMagicV2
      · have hm1 : ¬magic = Vault.plaintextMagicV1 := fun h => hdistinct (hm.symm.trans h)
        rw [if_neg hm1, if_pos hm, beq_iff_eq.2 hm]
        exact ofVersion_agrees (body_agrees_current rest)
      · rw [if_neg hm, beq_eq_false_iff_ne.2 hm]
        have hnone : ofVersion .current
            (if magic = Vault.plaintextMagicV1 then Vault.decodeBody Vault.vaultFormatVersion1 rest
              else none) = none := by
          split
          · exact ofVersion_other (.inl rfl) (by decide)
          · rfl
        rw [hnone]
        exact .failed _

/-! ## Byte order marks -/

/-- The bytes of the byte order mark. -/
def bomBytes : List UInt8 := [0xef, 0xbb, 0xbf]

theorem bomBytes_eq : String.utf8EncodeChar bom = bomBytes := by decide

/-- The bytes of a text begin with those of the mark exactly if the text begins with it. -/
theorem bomBytes_prefix_iff {text : List Char} :
    bomBytes <+: encodeUtf8 text ↔ ∃ rest, text = bom :: rest := by
  constructor
  · rintro ⟨rest, hrest⟩
    have hdecode := congrArg decodeUtf8 hrest
    rw [← bomBytes_eq, (spells_encode bom).decode, Char.ofNat_toNat, decodeUtf8_encodeUtf8] at hdecode
    obtain ⟨tail, -, htail⟩ := Option.map_eq_some_iff.1 hdecode
    exact ⟨tail, htail.symm⟩
  · rintro ⟨rest, rfl⟩
    exact ⟨encodeUtf8 rest, by rw [encodeUtf8_cons, bomBytes_eq]⟩

theorem dropBom_eq_iff {text : List Char} : dropBom text = text ↔ ¬∃ rest, text = bom :: rest := by
  cases text with
  | nil => simp [dropBom]
  | cons c text =>
    by_cases hc : c = bom
    · subst hc
      have hlength : text ≠ bom :: text := fun h => by
        have := congrArg List.length h
        simp at this
      simp [dropBom, hlength]
    · simp [dropBom, hc]

/-- A string has the bytes it was read from unless they begin with a byte order mark. -/
theorem TextReads.encode_iff {t : Text} {s : JsString} (h : TextReads t s) :
    textEncode s = t ↔ ¬bomBytes <+: t := by
  obtain ⟨text, rfl, rfl⟩ := h
  rw [textEncode_encodeUtf16, bomBytes_prefix_iff, ← dropBom_eq_iff]
  exact ⟨encodeUtf8_injective, congrArg encodeUtf8⟩

/-! ## Agreement -/

/-- The same account, with the same bytes of every text. -/
structure SameRecord (r : CredentialRecord) (w : VaultCredentialRecord) : Prop where
  fields : SameFields r w
  issuer : textEncode w.issuer = r.issuer
  account : textEncode w.account = r.account
  displayName : textEncode w.displayName = r.displayName

def SameWifi : Option WifiRecord → Option VaultWifiRecord → Prop
  | none, none => True
  | some r, some w => textEncode w.ssid = r.ssid ∧ textEncode w.password = r.password
  | _, _ => False

/-- The same accounts in the same order, Wi-Fi settings and policy. -/
structure SamePlaintext (p : Vault.VaultPlaintext) (v : VaultPlaintext) : Prop where
  credentials : List.Forall₂ SameRecord p.credentials v.credentials
  wifi : SameWifi p.wifi v.wifi
  autoLockDays : v.autoLockDays = p.autoLockDays.map fun days => .integer days.toNat

/-- The decoders accept the same bytes as a version, and then they read the same. -/
def DecodersAgree (version : VaultFormatVersion) (encoded : List UInt8) : Prop :=
  ((∃ p, decodePlaintext encoded = some (p, version.format)) ↔
    ∃ v, decodeVaultPlaintext encoded (some version) = .ok v) ∧
  ∀ p v, decodePlaintext encoded = some (p, version.format) →
    decodeVaultPlaintext encoded (some version) = .ok v → SamePlaintext p v

/-- The texts of an account and of a plaintext. -/
def recordTexts (r : CredentialRecord) : List Text := [r.issuer, r.account, r.displayName]

def wifiTexts : Option WifiRecord → List Text
  | none => []
  | some wifi => [wifi.ssid, wifi.password]

def plaintextTexts (p : Vault.VaultPlaintext) : List Text :=
  p.credentials.flatMap recordTexts ++ wifiTexts p.wifi

theorem RecordReads.same_iff {r : CredentialRecord} {w : VaultCredentialRecord}
    (h : RecordReads r w) : SameRecord r w ↔ ∀ t ∈ recordTexts r, ¬bomBytes <+: t := by
  simp only [recordTexts, List.forall_mem_cons, List.not_mem_nil, IsEmpty.forall_iff,
    implies_true, and_true]
  rw [← h.issuer.encode_iff, ← h.account.encode_iff, ← h.displayName.encode_iff]
  constructor
  · intro hs
    exact ⟨hs.issuer, hs.account, hs.displayName⟩
  · rintro ⟨hissuer, haccount, hdisplay⟩
    exact ⟨h.fields, hissuer, haccount, hdisplay⟩

theorem forall₂_same_iff {rs : List CredentialRecord} {ws : List VaultCredentialRecord}
    (h : List.Forall₂ RecordReads rs ws) :
    List.Forall₂ SameRecord rs ws ↔ ∀ t ∈ rs.flatMap recordTexts, ¬bomBytes <+: t := by
  induction h with
  | nil => simp
  | cons hr _ ih =>
    rw [List.forall₂_cons, hr.same_iff, ih, List.flatMap_cons, List.forall_mem_append]

theorem wifi_same_iff {r : Option WifiRecord} {w : Option VaultWifiRecord} (h : WifiReads r w) :
    SameWifi r w ↔ ∀ t ∈ wifiTexts r, ¬bomBytes <+: t := by
  match r, w, h with
  | none, none, _ => simp [SameWifi, wifiTexts]
  | some r, some w, h =>
    rw [SameWifi, h.1.encode_iff, h.2.encode_iff]
    simp [wifiTexts]

theorem Reads.same_iff {p : Vault.VaultPlaintext} {v : VaultPlaintext} (h : Reads p v) :
    SamePlaintext p v ↔ ∀ t ∈ plaintextTexts p, ¬bomBytes <+: t := by
  rw [plaintextTexts, List.forall_mem_append, ← forall₂_same_iff h.credentials,
    ← wifi_same_iff h.wifi]
  exact ⟨fun hs => ⟨hs.credentials, hs.wifi⟩, fun hs => ⟨hs.1, hs.2, h.autoLockDays⟩⟩

theorem ofVersion_iff {version : VaultFormatVersion} {encoded : List UInt8}
    {p : Vault.VaultPlaintext} :
    ofVersion version (decodePlaintext encoded) = some p ↔
      decodePlaintext encoded = some (p, version.format) := by
  cases hdecode : decodePlaintext encoded with
  | none => simp [ofVersion]
  | some read =>
    obtain ⟨p', format⟩ := read
    by_cases hformat : format = version.format
    · simp [ofVersion, hformat]
    · simp [ofVersion, hformat]

theorem accepted_iff {version : VaultFormatVersion} {encoded : List UInt8} :
    (∃ p, decodePlaintext encoded = some (p, version.format)) ↔
      ∃ v, decodeVaultPlaintext encoded (some version) = .ok v := by
  rw [decodeVaultPlaintext, ← (decoders_agree version encoded).isSome_iff,
    Option.isSome_iff_exists]
  simp only [ofVersion_iff]

theorem reads_of {version : VaultFormatVersion} {encoded : List UInt8} {p : Vault.VaultPlaintext}
    {v : VaultPlaintext} (hp : decodePlaintext encoded = some (p, version.format))
    (hv : decodeVaultPlaintext encoded (some version) = .ok v) : Reads p v := by
  have h := decoders_agree version encoded
  rw [ofVersion_iff.2 hp, show decodeVersion version encoded = .ok v from hv] at h
  cases h with
  | values hr => exact hr

/-- **The decoders agree unless a text begins with a byte order mark.** -/
theorem decoders_agree_iff (version : VaultFormatVersion) (encoded : List UInt8) :
    DecodersAgree version encoded ↔
      ∀ p, encodePlaintext p version.format = some encoded →
        ∀ t ∈ plaintextTexts p, ¬bomBytes <+: t := by
  simp only [← Vault.decodePlaintext_iff]
  constructor
  · rintro ⟨haccept, hsame⟩ p hp
    obtain ⟨v, hv⟩ := haccept.1 ⟨p, hp⟩
    exact (reads_of hp hv).same_iff.1 (hsame p v hp hv)
  · intro hmarks
    exact ⟨accepted_iff, fun p v hp hv => (reads_of hp hv).same_iff.2 (hmarks p hp)⟩

/-- A format 2 plaintext without accounts, whose network is named U+FEFF "A". -/
def markedNetwork : List UInt8 :=
  [0x4d, 0x35, 0x41, 0x55, 0x54, 0x48, 0x2d, 0x56, 0x4c, 0x54, 0x2d, 0x50, 0x54, 0x32, 0, 0, 2, 0, 0,
    1, 0, 4, 0xef, 0xbb, 0xbf, 0x41, 0, 1, 0x42, 0]

/-- The firmware reads the name with the mark, the Web application without it. -/
theorem decoders_disagree : ¬DecodersAgree .current markedNetwork := by
  intro h
  have hp : decodePlaintext markedNetwork =
      some (⟨[], some ⟨[0xef, 0xbb, 0xbf, 0x41], [0x42]⟩, none⟩, 2) := by
    decide +kernel
  have hv : (decodeVaultPlaintext markedNetwork (some .current)).toOption =
      some ⟨[], some ⟨[0x41], [0x42]⟩, none⟩ := by
    decide +kernel
  cases hd : decodeVaultPlaintext markedNetwork (some .current) with
  | error e => simp [hd, Except.toOption] at hv
  | ok v =>
    rw [hd] at hv
    cases hv
    have hname := (h.2 _ _ hp hd).wifi.1
    exact absurd hname (by decide +kernel)

end M5Auth.Web
