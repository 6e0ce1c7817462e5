import M5Auth.Provisioning.Messages
import M5Auth.VaultRuntime.Envelope
import M5Auth.Web.Proof.Base64Codecs
import M5Auth.Web.Proof.Decimals
import M5Auth.Web.Proof.VaultRoundTrip
import M5Auth.Web.VaultRequest

/-!
# The size of a Vault on its way to the Device

The Web application bounds the fields of a plaintext and their number, the Device the whole
ciphertext. `plaintextSize` is the length of an encoding, and the main result is
`vault_request_passes_iff`: the request that carries a sealed plaintext passes every limit of the
Device exactly if this length is at most `maxPersistedCiphertextBytes`.
-/

namespace M5Auth.Web

open Provisioning (maxCanonicalMessageBytes parseReplacement readEnvelope)
open Unicode
open Vault (VaultEnvelope)
open VaultRuntime (maxPersistedCiphertextBytes validEnvelope validEnvelopeFraming)

/-! ## The length of an encoding -/

def textSize (s : JsString) : Nat := 2 + (textEncode s).length

def recordSize (record : VaultCredentialRecord) : Nat :=
  24 + record.secret.length + textSize record.issuer + textSize record.account +
    textSize record.displayName

def wifiSize : Option VaultWifiRecord → Nat
  | none => 1
  | some wifi => 1 + textSize wifi.ssid + textSize wifi.password

def policySize (version : VaultFormatVersion) (autoLockDays : Option Number) : Nat :=
  match version with
  | .legacy => 0
  | .current => if autoLockDays.isSome then 2 else 1

/-- The length of the encoding of a plaintext. -/
def plaintextSize (value : VaultPlaintext) (version : VaultFormatVersion) : Nat :=
  19 + (value.credentials.map recordSize).sum + wifiSize value.wifi +
    policySize version value.autoLockDays

theorem u8_size {value : Number} {bytes : List UInt8} (h : ByteWriter.u8 value = .ok bytes) :
    bytes.length = 1 := by
  obtain ⟨n, -, rfl⟩ := u8_ok h
  rfl

theorem u16_size {value : Number} {bytes : List UInt8} (h : ByteWriter.u16 value = .ok bytes) :
    bytes.length = 2 := by
  obtain ⟨n, -, rfl⟩ := u16_ok h
  exact length_appendBE 2 _

theorem sizedBytes_size {value bytes : List UInt8} {maximum : Nat} {field : String}
    (h : ByteWriter.sizedBytes value maximum field = .ok bytes) :
    bytes.length = 2 + value.length := by
  obtain ⟨-, h⟩ := require_bind.1 h
  obtain ⟨length, hlength, h⟩ := bind_ok.1 h
  cases h
  rw [List.length_append, u16_size hlength]

theorem sizedText_size {s : JsString} {bytes : List UInt8} {field : String}
    (h : ByteWriter.sizedText s field = .ok bytes) : bytes.length = textSize s :=
  sizedBytes_size h

theorem writeCredential_size {ids : List (List UInt8)} {record : VaultCredentialRecord}
    {bytes : List UInt8} (h : writeCredential ids record = .ok bytes) :
    bytes.length = recordSize record := by
  unfold writeCredential at h
  obtain ⟨_, hvalid, h⟩ := bind_ok.1 h
  obtain ⟨-, h⟩ := require_bind.1 h
  obtain ⟨secret, hsecret, h⟩ := bind_ok.1 h
  obtain ⟨issuer, hissuer, h⟩ := bind_ok.1 h
  obtain ⟨account, haccount, h⟩ := bind_ok.1 h
  obtain ⟨displayName, hdisplay, h⟩ := bind_ok.1 h
  obtain ⟨algorithm, halgorithm, h⟩ := bind_ok.1 h
  obtain ⟨digits, hdigits, h⟩ := bind_ok.1 h
  obtain ⟨periodSeconds, hperiod, h⟩ := bind_ok.1 h
  obtain ⟨manualOrder, horder, h⟩ := bind_ok.1 h
  cases h
  have hid : record.credentialId.length = 16 := by
    unfold validateCredential at hvalid
    exact beq_iff_eq.1 (require_bind.1 hvalid).1
  simp only [List.length_append, hid, sizedBytes_size hsecret, sizedText_size hissuer,
    sizedText_size haccount, sizedText_size hdisplay, u8_size halgorithm, u8_size hdigits,
    u16_size hperiod, u16_size horder, recordSize]
  omega

theorem writeCredentials_size {records : List VaultCredentialRecord} {ids : List (List UInt8)}
    {bytes : List UInt8} (h : writeCredentials ids records = .ok bytes) :
    bytes.length = (records.map recordSize).sum := by
  induction records generalizing ids bytes with
  | nil =>
    cases h
    rfl
  | cons record records ih =>
    obtain ⟨first, hfirst, h⟩ := bind_ok.1 h
    obtain ⟨rest, hrest, h⟩ := bind_ok.1 h
    cases h
    rw [List.length_append, writeCredential_size hfirst, ih hrest, List.map_cons, List.sum_cons]

theorem writeWifi_size {wifi : Option VaultWifiRecord} {bytes : List UInt8}
    (h : writeWifi wifi = .ok bytes) : bytes.length = wifiSize wifi := by
  cases wifi with
  | none => exact u8_size h
  | some wifi =>
    obtain ⟨present, hpresent, h⟩ := bind_ok.1 h
    obtain ⟨ssid, hssid, h⟩ := bind_ok.1 h
    obtain ⟨password, hpassword, h⟩ := bind_ok.1 h
    cases h
    rw [List.length_append, List.length_append, u8_size hpresent, sizedText_size hssid,
      sizedText_size hpassword]
    rfl

theorem writeCommonPlaintext_size {value : VaultPlaintext} {bytes : List UInt8}
    (h : writeCommonPlaintext value = .ok bytes) :
    bytes.length = 2 + (value.credentials.map recordSize).sum + wifiSize value.wifi := by
  obtain ⟨-, h⟩ := require_bind.1 h
  obtain ⟨count, hcount, h⟩ := bind_ok.1 h
  obtain ⟨credentials, hcredentials, h⟩ := bind_ok.1 h
  obtain ⟨wifi, hwifi, h⟩ := bind_ok.1 h
  cases h
  rw [List.length_append, List.length_append, u16_size hcount, writeCredentials_size hcredentials,
    writeWifi_size hwifi]

theorem normalizeAutoLockDays_ok {days normalized : Option Number}
    (h : normalizeAutoLockDays days = .ok normalized) : normalized = days := by
  cases days with
  | none =>
    cases h
    rfl
  | some days =>
    obtain ⟨-, h⟩ := require_bind.1 h
    cases h
    rfl

theorem magic_size : vaultPlaintextMagicV1.length = 15 ∧ vaultPlaintextMagicV2.length = 15 := by
  rw [vaultPlaintextMagicV1, vaultPlaintextMagicV2, literal, literal, String.toList_ofList,
    String.toList_ofList]
  exact ⟨rfl, rfl⟩

/-- An encoding has the length that its plaintext says. -/
theorem encodeVaultPlaintext_size {value : VaultPlaintext} {version : VaultFormatVersion}
    {bytes : List UInt8} (h : encodeVaultPlaintext value version = .ok bytes) :
    bytes.length = plaintextSize value version := by
  cases version with
  | legacy =>
    obtain ⟨days, -, h⟩ := bind_ok.1 h
    obtain ⟨-, h⟩ := require_bind.1 h
    obtain ⟨format, hformat, h⟩ := bind_ok.1 h
    obtain ⟨common, hcommon, h⟩ := bind_ok.1 h
    cases h
    rw [List.length_append, List.length_append, magic_size.1, u16_size hformat,
      writeCommonPlaintext_size hcommon, plaintextSize, policySize]
    omega
  | current =>
    obtain ⟨format, hformat, h⟩ := bind_ok.1 h
    obtain ⟨common, hcommon, h⟩ := bind_ok.1 h
    obtain ⟨days, hdays, h⟩ := bind_ok.1 h
    obtain ⟨policy, hpolicy, h⟩ := bind_ok.1 h
    cases h
    obtain rfl := normalizeAutoLockDays_ok hdays
    have hsize : policy.length = policySize .current value.autoLockDays := by
      cases hd : value.autoLockDays with
      | none =>
        rw [hd] at hpolicy
        exact u8_size hpolicy
      | some days =>
        rw [hd] at hpolicy
        obtain ⟨present, hpresent, h⟩ := bind_ok.1 hpolicy
        obtain ⟨number, hnumber, h⟩ := bind_ok.1 h
        cases h
        rw [List.length_append, u8_size hpresent, u8_size hnumber]
        rfl
    rw [List.length_append, List.length_append, List.length_append, magic_size.2,
      u16_size hformat, writeCommonPlaintext_size hcommon, hsize, plaintextSize]
    omega

/-! ## The line -/

/-- A unit that a JSON string holds unescaped, of one byte. -/
def Plain (unit : UInt16) : Prop := 32 ≤ unit ∧ unit < 128 ∧ unit ≠ 34 ∧ unit ≠ 92

instance (unit : UInt16) : Decidable (Plain unit) := inferInstanceAs (Decidable (_ ∧ _))

theorem plain_of_all {s : JsString} (h : s.all (decide <| Plain ·) = true) :
    ∀ unit ∈ s, Plain unit :=
  fun unit hunit => of_decide_eq_true (List.all_eq_true.1 h unit hunit)

theorem escapeUnit_plain {unit : UInt16} (h : Plain unit) :
    escapeUnit unit = [unit] ∧ isLead unit = false := by
  obtain ⟨hlow, hhigh, hquote, hslash⟩ := h
  rw [UInt16.le_iff_toNat_le] at hlow
  rw [UInt16.lt_iff_toNat_lt] at hhigh
  simp only [UInt16.reduceToNat] at hlow hhigh
  have hlead : isLead unit = false := by
    rw [Bool.eq_false_iff, Ne, isLead_iff]
    omega
  have htrail : isTrail unit = false := by
    rw [Bool.eq_false_iff, Ne, isTrail_iff]
    omega
  have hcontrol {n : UInt16} (hn : n.toNat < 32) : unit ≠ n := by
    rintro rfl
    omega
  have hsmall : ¬(unit < 32 || isLead unit || isTrail unit) = true := by
    simpa [hlead, htrail, UInt16.lt_iff_toNat_lt] using hlow
  refine ⟨?_, hlead⟩
  rw [escapeUnit, if_neg (hcontrol (by decide)), if_neg (hcontrol (by decide)),
    if_neg (hcontrol (by decide)), if_neg (hcontrol (by decide)), if_neg (hcontrol (by decide)),
    if_neg hquote, if_neg hslash, if_neg hsmall]

theorem quote_plain {s : JsString} (h : ∀ unit ∈ s, Plain unit) : quote s = 34 :: (s ++ [34]) := by
  have hescape : escapeUnits s = s := by
    fun_induction escapeUnits s with
    | case1 => rfl
    | case2 unit => exact (escapeUnit_plain (h unit (by simp))).1
    | case3 unit second rest hpair =>
      rw [(escapeUnit_plain (h unit (by simp))).2] at hpair
      cases hpair
    | case4 unit second rest hpair ih =>
      rw [(escapeUnit_plain (h unit (by simp))).1, ih fun u hu => h u (by simp [hu])]
      rfl
  rw [quote, hescape]

theorem plain_base64Url (bytes : List UInt8) :
    ∀ unit ∈ encodeBase64UrlCanonical bytes, Plain unit := by
  have hall : ∀ code ∈ alphabetCodes, 32 ≤ code ∧ code < 128 ∧ code ≠ 34 ∧ code ≠ 92 := by decide
  intro unit hunit
  rw [encodeBase64Url_eq, List.mem_map] at hunit
  obtain ⟨byte, hbyte, rfl⟩ := hunit
  have hmem := base64urlEncode_mem bytes byte hbyte
  rw [alphabet_codes, List.mem_map] at hmem
  obtain ⟨code, hcode, rfl⟩ := hmem
  have hbounds := hall code hcode
  simp only [Plain, UInt16.le_iff_toNat_le, UInt16.lt_iff_toNat_lt, ne_eq, ← UInt16.toNat_inj,
    UInt16.reduceToNat, UInt8.toNat_toUInt16, UInt8.toNat_ofNat']
  omega

theorem encodeBase64Url_length (bytes : List UInt8) :
    (encodeBase64UrlCanonical bytes).length = (4 * bytes.length + 2) / 3 := by
  rw [encodeBase64Url_eq, List.length_map, base64urlEncode_length]

theorem toUInt8_ascii {unit : UInt16} (h : unit < 128) :
    unit.toUInt8 < 128 ∧ unit.toUInt8.toUInt16 = unit := by
  rw [UInt16.lt_iff_toNat_lt] at h
  have hsame : unit.toUInt8.toNat = unit.toNat := by
    rw [UInt16.toNat_toUInt8]
    exact Nat.mod_eq_of_lt (Nat.lt_trans h (by decide))
  rw [UInt8.lt_iff_toNat_lt, ← UInt16.toNat_inj, UInt8.toNat_toUInt16, hsame]
  exact ⟨h, rfl⟩

theorem map_toUInt8_ascii {s : JsString} (h : ∀ unit ∈ s, unit < 128) :
    (s.map (·.toUInt8)).map (·.toUInt16) = s := by
  rw [List.map_map]
  exact (List.map_congr_left fun unit hunit => (toUInt8_ascii (h unit hunit)).2).trans
    (List.map_id s)

/-- ASCII units are sent as the same bytes. -/
theorem textEncode_ascii {s : JsString} (h : ∀ unit ∈ s, unit < 128) :
    textEncode s = s.map (·.toUInt8) := by
  have hbytes : ∀ byte ∈ s.map (·.toUInt8), byte < 128 := by
    intro byte hbyte
    obtain ⟨unit, hunit, rfl⟩ := List.mem_map.1 hbyte
    exact (toUInt8_ascii (h unit hunit)).1
  obtain ⟨h8, h16⟩ := spell_ascii hbytes
  rw [map_toUInt8_ascii h] at h16
  have hsent := congrArg textEncode h16
  rw [textEncode_encodeUtf16, h8] at hsent
  exact hsent.symm

theorem plain_digits (n : Nat) : ∀ unit ∈ literal (toString n), Plain unit := by
  intro unit hunit
  have hdigit := List.all_eq_true.1 (decimal_digits n) unit hunit
  simp only [isDigit, Bool.and_eq_true, decide_eq_true_eq, UInt16.le_iff_toNat_le,
    UInt16.reduceToNat] at hdigit
  simp only [Plain, UInt16.le_iff_toNat_le, UInt16.lt_iff_toNat_lt, ne_eq, ← UInt16.toNat_inj,
    UInt16.reduceToNat]
  omega

/-- The bytes of a name in ASCII are its units. -/
theorem ascii_literal {name : String} (h : ∀ unit ∈ literal name, unit < 128) :
    ascii name = (literal name).map (·.toUInt8) := by
  unfold literal at h ⊢
  unfold ascii
  generalize name.toList = text at h ⊢
  induction text with
  | nil => rfl
  | cons c text ih =>
    rw [encodeUtf16_cons] at h ⊢
    obtain ⟨hfirst, hrest⟩ := List.forall_mem_append.1 h
    rw [List.map_append, ← ih hrest, List.map_cons]
    rcases unitsOf_cases c with ⟨unit, hunit, -, -, hc⟩ | ⟨lead, trail, hpair, hlead, -⟩
    · have hlt := hfirst unit (by rw [hunit]; exact List.mem_singleton_self unit)
      rw [UInt16.lt_iff_toNat_lt] at hlt
      have hnumber : c.toNat = unit.toNat := by
        rw [← hc, toNat_ofNat_char (.inl (Nat.lt_trans hlt (by decide)))]
      rw [hunit, hnumber]
      simp
    · -- Half of a surrogate pair is not ASCII.
      have hlt := hfirst lead (by rw [hpair]; exact List.mem_cons_self)
      rw [UInt16.lt_iff_toNat_lt] at hlt
      exact absurd (isLead_iff.1 hlead).1 (Nat.not_le.2 (Nat.lt_trans hlt (by decide)))

/-- A text of ASCII of at most `n` units. -/
structure Printed (s : JsString) (n : Nat) : Prop where
  ascii : ∀ unit ∈ s, unit < 128
  short : s.length ≤ n

theorem Printed.append {s t : JsString} {m n : Nat} (hs : Printed s m) (ht : Printed t n) :
    Printed (s ++ t) (m + n) := by
  refine ⟨List.forall_mem_append.2 ⟨hs.ascii, ht.ascii⟩, ?_⟩
  rw [List.length_append]
  exact Nat.add_le_add hs.short ht.short

theorem Printed.of_all {s : JsString} {n : Nat} (h : s.all (· < 128) = true ∧ s.length ≤ n) :
    Printed s n :=
  ⟨fun unit hunit => of_decide_eq_true (List.all_eq_true.1 h.1 unit hunit), h.2⟩

theorem Printed.unit {unit : UInt16} (h : unit < 128) : Printed [unit] 1 :=
  ⟨fun _ hmem => (List.mem_singleton.1 hmem).symm ▸ h, Nat.le_refl 1⟩

theorem Printed.plain {s : JsString} {n : Nat} (h : ∀ unit ∈ s, Plain unit) (hn : s.length ≤ n) :
    Printed s n := ⟨fun unit hunit => (h unit hunit).2.1, hn⟩

theorem Printed.quote {s : JsString} {n : Nat} (h : ∀ unit ∈ s, Plain unit)
    (hn : s.length ≤ n) : Printed (quote s) (1 + (n + 1)) := by
  rw [quote_plain h]
  exact .append (s := [34]) (.unit (by decide)) (.append (.plain h hn) (.unit (by decide)))

theorem Printed.mono {s : JsString} {m n : Nat} (h : Printed s m) (hn : m ≤ n) : Printed s n :=
  ⟨h.ascii, Nat.le_trans h.short hn⟩

/-- Members with the commas between them. -/
theorem Printed.intercalate {members : List JsString} {bounds : List Nat}
    (h : List.Forall₂ Printed members bounds) :
    Printed ([44].intercalate members) (bounds.map (· + 1)).sum := by
  induction h with
  | nil => exact ⟨by simp [List.intercalate_nil], Nat.le_refl 0⟩
  | @cons first n rest bounds hfirst hrest ih =>
    rw [List.map_cons, List.sum_cons]
    cases rest with
    | nil =>
      rw [List.intercalate_singleton]
      exact hfirst.mono (by omega)
    | cons second rest =>
      rw [List.intercalate_cons_cons]
      exact (hfirst.append (.unit (by decide))).append ih

/-! ## The requests -/

/-- What the browser seals a plaintext with. -/
structure Sealing where
  vmk : Bytes 32
  vaultId : Bytes 16
  nonce : Bytes 12
  generation : UInt64
  positive : generation ≠ 0

def Sealing.seal (sealing : Sealing) (aes : AesGcm) (encoded : List UInt8)
    (version : VaultFormatVersion) : Except Thrown EncryptedVaultEnvelope :=
  encryptVaultForFormat aes sealing.nonce.1 encoded sealing.vmk.1 sealing.vaultId.1
    sealing.generation.toNat version

/-- What the Device reads from the parameters of an operation. -/
def VaultOperation.read (operation : VaultOperation) (params : Json) : Option VaultEnvelope :=
  match operation with
  | .install => readEnvelope params
  | _ => (parseReplacement params).map Prod.fst

/-- The request for a sealed plaintext is built, and it passes every limit of the Device. -/
def PassesLimits (aes : AesGcm) (sealing : Sealing) (encoded : List UInt8)
    (version : VaultFormatVersion) (operation : VaultOperation) (id : Nat)
    (expectedGeneration : UInt64) : Prop :=
  ∃ envelope line params received, sealing.seal aes encoded version = .ok envelope ∧
    operation.request id expectedGeneration.toNat envelope = .ok (line ++ [10], params) ∧
    (textEncode line).length ≤ maxCanonicalMessageBytes ∧
    operation.read (sentParams params) = some received ∧
    validEnvelopeFraming received = true ∧ validEnvelope received = true

/-- The names of the parameters. -/
def memberNames : List String :=
  ["expected_generation", "vault_format_version", "storage_schema_version", "vault_id",
    "generation", "nonce", "ciphertext", "tag", "ciphertext_length"]

theorem memberNames_plain {name : String} (h : name ∈ memberNames) :
    (∀ unit ∈ literal name, Plain unit) ∧ (literal name).length ≤ 22 := by
  have hall : ∀ name ∈ memberNames,
      (literal name).all (decide <| Plain ·) = true ∧ (literal name).length ≤ 22 := by
    decide +kernel
  exact (hall name h).imp_left plain_of_all

theorem memberNames_ascii {key name : String} (hkey : key ∈ memberNames)
    (hname : name ∈ memberNames) : (ascii key == ascii name) = (key == name) := by
  have hascii {name : String} (h : name ∈ memberNames) : ∀ unit ∈ literal name, unit < 128 :=
    fun unit hunit => ((memberNames_plain h).1 unit hunit).2.1
  by_cases h : key = name
  · rw [h, beq_self_eq_true, beq_self_eq_true]
  · rw [beq_eq_false_iff_ne.2 h, beq_eq_false_iff_ne]
    intro hsame
    rw [ascii_literal (hascii hkey), ascii_literal (hascii hname)] at hsame
    have hback := congrArg (List.map (·.toUInt16)) hsame
    rw [map_toUInt8_ascii (hascii hkey), map_toUInt8_ascii (hascii hname)] at hback
    exact h (literal_injective hback)

theorem getItem_sent {params : List (String × RequestParam)} {key : String}
    (hkey : key ∈ memberNames) (hnames : ∀ member ∈ params, member.1 ∈ memberNames) :
    (sentParams params).getItem key = (params.lookup key).map RequestParam.sent := by
  rw [sentParams, Json.getItem]
  induction params with
  | nil => rfl
  | cons member params ih =>
    have hsame := memberNames_ascii hkey (hnames member (by simp))
    rw [List.map_cons, List.lookup_cons, List.lookup_cons, hsame]
    cases key == member.1 with
    | true => rfl
    | false => exact ih fun m hm => hnames m (by simp [hm])

/-! ### What is read -/

/-- The members of a sealed plaintext among parameters. -/
structure Members (params : Json) (envelope : EncryptedVaultEnvelope) : Prop where
  vaultFormat : params.getItem "vault_format_version" =
    some (.number (some (envelope.vaultFormatVersion.number : Nat)))
  storageSchema : params.getItem "storage_schema_version" =
    some (.number (some (envelope.storageSchemaVersion : Nat)))
  vaultId : params.getItem "vault_id" = some (.string (base64urlEncode envelope.vaultId))
  generation : params.getItem "generation" =
    some (.string (textEncode (literal (toString envelope.generation))))
  nonce : params.getItem "nonce" = some (.string (base64urlEncode envelope.nonce))
  ciphertext : params.getItem "ciphertext" = some (.string (base64urlEncode envelope.ciphertext))
  tag : params.getItem "tag" = some (.string (base64urlEncode envelope.tag))
  ciphertextLength : params.getItem "ciphertext_length" =
    some (.number (some (envelope.ciphertextLength : Nat)))

theorem vaultMembers_names (envelope : EncryptedVaultEnvelope) :
    ∀ member ∈ vaultMembers envelope, member.1 ∈ memberNames := by
  simp [vaultMembers, memberNames]

theorem members_of {envelope : EncryptedVaultEnvelope} {params : List (String × RequestParam)}
    (hnames : ∀ member ∈ params, member.1 ∈ memberNames)
    (hlookup : ∀ key, key ≠ "expected_generation" →
      params.lookup key = (vaultMembers envelope).lookup key) :
    Members (sentParams params) envelope := by
  constructor <;>
    rw [getItem_sent (by decide) hnames, hlookup _ (by decide)] <;>
    simp [vaultMembers, List.lookup_cons, RequestParam.sent, textEncode_base64Url]

theorem readNonnegativeInt_natCast {n : Nat} (h : n ≤ 2147483647) :
    readNonnegativeInt (some (.number (some (n : Rat)))) = some n := by
  rw [readNonnegativeInt, Json.readNumber, if_pos]
  · simp
  · refine ⟨by exact_mod_cast Nat.zero_le n, by exact_mod_cast h, by simp⟩

theorem readBinary_encode {n : Nat} {params : Json} {key : String} (bytes : Bytes n)
    (h : params.getItem key = some (.string (base64urlEncode bytes.1))) :
    readBinary n params key = some bytes := by
  rw [readBinary, h, Json.string?, Option.bind_some, base64urlDecode_encode, Option.bind_some,
    Bytes.ofList?_self]

variable {sealing : Sealing} {version : VaultFormatVersion} {ciphertext : List UInt8}
  {tag : Bytes 16} {params : Json}

/-- The envelope that is sent for a ciphertext. -/
def Sealing.envelope (sealing : Sealing) (version : VaultFormatVersion) (ciphertext : List UInt8)
    (tag : Bytes 16) : EncryptedVaultEnvelope where
  vaultFormatVersion := version
  storageSchemaVersion := vaultTargetStorageSchemaVersion
  vaultId := sealing.vaultId.1
  generation := sealing.generation.toNat
  nonce := sealing.nonce.1
  ciphertext := ciphertext
  tag := tag.1
  ciphertextLength := ciphertext.length

/-- The same envelope on the Device. -/
def Sealing.received (sealing : Sealing) (version : VaultFormatVersion) (ciphertext : List UInt8)
    (tag : Bytes 16) : VaultEnvelope where
  vaultFormatVersion := version.format
  storageSchemaVersion := Vault.targetStorageSchemaVersion
  vaultId := sealing.vaultId
  generation := sealing.generation
  nonce := sealing.nonce
  ciphertext := ciphertext
  tag := tag

/-- The envelope is read exactly if its ciphertext is within the Device's limit. -/
theorem readEnvelope_sent (h : Members params (sealing.envelope version ciphertext tag))
    (hne : ciphertext ≠ []) :
    readEnvelope params = if ciphertext.length ≤ maxPersistedCiphertextBytes then
      some (sealing.received version ciphertext tag) else none := by
  have hformat : readNonnegativeInt (params.getItem "vault_format_version") =
      some version.number := by
    rw [h.vaultFormat]
    refine readNonnegativeInt_natCast (n := version.number) ?_
    cases version <;> decide
  have hschema : readNonnegativeInt (params.getItem "storage_schema_version") = some 2 := by
    rw [h.storageSchema]
    exact readNonnegativeInt_natCast (n := 2) (by decide)
  have hgeneration : readU64Decimal (params.getItem "generation") = some sealing.generation := by
    rw [h.generation]
    exact readU64Decimal_toString sealing.generation
  have hsupported : ¬(version.number ≠ Vault.vaultFormatVersion1.toNat ∧
      version.number ≠ Vault.vaultFormatVersion2.toNat) := by
    cases version <;> decide
  have hciphertext : Provisioning.readCiphertext params =
      if ciphertext.length ≤ maxPersistedCiphertextBytes then some ciphertext else none := by
    rw [Provisioning.readCiphertext, h.ciphertext, Json.string?, Option.bind_some,
      base64urlDecode_encode]
    simp only [Sealing.envelope, Option.filter, List.isEmpty_eq_false_iff.2 hne, Bool.not_false,
      Bool.true_and]
    exact if_congr decide_eq_true_iff rfl rfl
  unfold readEnvelope
  rw [hformat, hschema, readBinary_encode sealing.vaultId h.vaultId, hgeneration,
    readBinary_encode sealing.nonce h.nonce, readBinary_encode tag h.tag, hciphertext]
  by_cases hmax : ciphertext.length ≤ maxPersistedCiphertextBytes
  · have hlength : readNonnegativeInt (params.getItem "ciphertext_length") =
        some ciphertext.length := by
      rw [h.ciphertextLength]
      exact readNonnegativeInt_natCast (Nat.le_trans hmax (by decide))
    rw [if_pos hmax, if_pos hmax, hlength]
    simp only [Option.bind_eq_bind, Option.bind_some, if_neg hsupported, if_neg sealing.positive,
      if_neg (show ¬(ciphertext.length = 0 ∨ ciphertext.length ≠ ciphertext.length) by simp [hne])]
    rfl
  · rw [if_neg hmax, if_neg hmax]
    simp

/-- The members before those of the envelope. -/
def VaultOperation.preface (operation : VaultOperation) (expectedGeneration : UInt64) :
    List (String × RequestParam) :=
  match operation with
  | install => []
  | _ => [("expected_generation", .string (literal (toString expectedGeneration.toNat)))]

theorem params_ok (sealing : Sealing) (version : VaultFormatVersion) (tag : Bytes 16)
    (operation : VaultOperation) (expectedGeneration : UInt64) (hne : ciphertext ≠ []) :
    operation.params expectedGeneration.toNat (sealing.envelope version ciphertext tag) =
      .ok (operation.preface expectedGeneration ++
        vaultMembers (sealing.envelope version ciphertext tag)) := by
  have hlength : ciphertext.length ≠ 0 := fun hz => hne (List.length_eq_zero_iff.1 hz)
  have hpositive : sealing.generation.toNat ≠ 0 := fun hz => sealing.positive (UInt64.toNat.inj hz)
  have hlt := sealing.generation.toNat_lt
  have hparams : encryptedVaultParams (sealing.envelope version ciphertext tag) =
      .ok (vaultMembers (sealing.envelope version ciphertext tag)) := by
    rw [encryptedVaultParams, require_bind]
    refine ⟨?_, rfl⟩
    simp only [Sealing.envelope, Bool.and_eq_true, beq_iff_eq, bne_iff_ne, sealing.vaultId.2,
      sealing.nonce.2, tag.2, vaultIdBytes]
    exact ⟨⟨⟨⟨⟨⟨⟨trivial, trivial⟩, trivial⟩, trivial⟩, hlength⟩, trivial⟩,
      decide_eq_true (Nat.pos_of_ne_zero hpositive)⟩, decide_eq_true (by omega)⟩
  cases operation with
  | install => exact hparams
  | update => exact bind_ok.2 ⟨_, hparams, rfl⟩
  | rekey => exact bind_ok.2 ⟨_, hparams, rfl⟩

theorem preface_names {operation : VaultOperation} {expectedGeneration : UInt64} :
    ∀ member ∈ operation.preface expectedGeneration, member.1 = "expected_generation" := by
  cases operation <;> simp [VaultOperation.preface]

theorem lookup_preface {operation : VaultOperation} {expectedGeneration : UInt64} {key : String}
    (hkey : key ≠ "expected_generation") (members : List (String × RequestParam)) :
    (operation.preface expectedGeneration ++ members).lookup key = members.lookup key := by
  cases operation <;>
    simp [VaultOperation.preface, List.lookup_cons, beq_eq_false_iff_ne.2 hkey]

/-- What is read from the parameters of an operation. -/
theorem read_sent (sealing : Sealing) (version : VaultFormatVersion) (tag : Bytes 16)
    (operation : VaultOperation) (expectedGeneration : UInt64) (hne : ciphertext ≠ []) :
    operation.read (sentParams (operation.preface expectedGeneration ++
        vaultMembers (sealing.envelope version ciphertext tag))) =
      if ciphertext.length ≤ maxPersistedCiphertextBytes then
        some (sealing.received version ciphertext tag) else none := by
  have hnames : ∀ member ∈ operation.preface expectedGeneration ++
      vaultMembers (sealing.envelope version ciphertext tag), member.1 ∈ memberNames := by
    refine List.forall_mem_append.2 ⟨fun member hmember => ?_, vaultMembers_names _⟩
    rw [preface_names member hmember]
    decide
  have hread := readEnvelope_sent (members_of hnames fun key hkey => lookup_preface hkey _) hne
  have hexpected (h : operation ≠ .install) : readU64Decimal ((sentParams
      (operation.preface expectedGeneration ++
        vaultMembers (sealing.envelope version ciphertext tag))).getItem "expected_generation") =
      some expectedGeneration := by
    rw [getItem_sent (by decide) hnames]
    cases operation with
    | install => exact absurd rfl h
    | update => exact readU64Decimal_toString expectedGeneration
    | rekey => exact readU64Decimal_toString expectedGeneration
  cases operation with
  | install => exact hread
  | update =>
    unfold VaultOperation.read parseReplacement
    dsimp only
    rw [hread, hexpected (by decide)]
    split <;> rfl
  | rekey =>
    unfold VaultOperation.read parseReplacement
    dsimp only
    rw [hread, hexpected (by decide)]
    split <;> rfl

/-! ### The length of the line -/

theorem printMember_printed {name : String} {value : RequestParam} {n : Nat}
    (hname : name ∈ memberNames) (hvalue : Printed value.print n) :
    Printed (printMember (name, value)) (25 + n) := by
  obtain ⟨hplain, hlength⟩ := memberNames_plain hname
  exact .append (.append (.quote hplain hlength) (.unit (by decide))) hvalue

theorem digits_printed {n : Nat} (h : n ≤ 18446744073709551615) :
    Printed (literal (toString n)) 20 := .plain (plain_digits n) (decimal_length (by omega))

theorem integer_printed {name : String} {n : Nat} (hname : name ∈ memberNames)
    (hn : n ≤ 18446744073709551615) : Printed (printMember (name, .integer n)) 45 := by
  have hvalue : Printed (RequestParam.integer n).print 20 := digits_printed hn
  exact printMember_printed hname hvalue

theorem decimal_printed {name : String} {n : Nat} (hname : name ∈ memberNames)
    (hn : n ≤ 18446744073709551615) :
    Printed (printMember (name, .string (literal (toString n)))) 47 :=
  printMember_printed (n := 1 + (20 + 1)) hname (.quote (plain_digits n) (decimal_length (by omega)))

theorem base64Url_printed {name : String} {bytes : List UInt8} {n : Nat}
    (hname : name ∈ memberNames) (hn : (4 * bytes.length + 2) / 3 ≤ n) :
    Printed (printMember (name, .string (encodeBase64UrlCanonical bytes))) (25 + (1 + (n + 1))) :=
  printMember_printed hname (.quote (plain_base64Url bytes) (by rwa [encodeBase64Url_length]))

/-- The members of the parameters, printed. -/
theorem members_printed (operation : VaultOperation) (expectedGeneration : UInt64)
    (hmax : ciphertext.length ≤ maxPersistedCiphertextBytes) :
    Printed ([44].intercalate ((operation.preface expectedGeneration ++
      vaultMembers (sealing.envelope version ciphertext tag)).map printMember)) 87820 := by
  have hmax' : ciphertext.length ≤ 65536 := hmax
  have hexpected := expectedGeneration.toNat_lt
  have hgeneration := sealing.generation.toNat_lt
  have hversion : version.number ≤ 18446744073709551615 := by cases version <;> decide
  have hsixteen {bytes : Bytes 16} : (4 * bytes.1.length + 2) / 3 ≤ 22 := by rw [bytes.2]
  have henvelope : List.Forall₂ Printed
      ((vaultMembers (sealing.envelope version ciphertext tag)).map printMember)
      [45, 45, 49, 47, 43, 87409, 49, 45] :=
    .cons (integer_printed (by decide) hversion) <|
    .cons (integer_printed (n := 2) (by decide) (by decide)) <|
    .cons (base64Url_printed (by decide) hsixteen) <|
    .cons (decimal_printed (by decide) (show sealing.generation.toNat ≤ _ by omega)) <|
    .cons (base64Url_printed (n := 16) (by decide)
      (show (4 * sealing.nonce.1.length + 2) / 3 ≤ _ by rw [sealing.nonce.2])) <|
    .cons (base64Url_printed (n := 87382) (by decide)
      (show (4 * ciphertext.length + 2) / 3 ≤ _ by omega)) <|
    .cons (base64Url_printed (by decide) hsixteen) <|
    .cons (integer_printed (by decide) (show ciphertext.length ≤ _ by omega)) .nil
  rw [List.map_append]
  cases operation with
  | install => exact (Printed.intercalate henvelope).mono (by decide)
  | _ =>
    have hfirst : Printed (printMember ("expected_generation",
        .string (literal (toString expectedGeneration.toNat)))) 47 :=
      decimal_printed (by decide) (by omega)
    exact (Printed.intercalate (.cons hfirst henvelope)).mono (by decide)

/-- The line is within the message limit. -/
theorem requestLine_printed (sealing : Sealing) (version : VaultFormatVersion) (tag : Bytes 16)
    (operation : VaultOperation) (expectedGeneration : UInt64)
    (hmax : ciphertext.length ≤ maxPersistedCiphertextBytes) {id : Nat}
    (hid : id ≤ 9007199254740991) :
    Printed (requestLine id operation.op (operation.preface expectedGeneration ++
      vaultMembers (sealing.envelope version ciphertext tag))) maxCanonicalMessageBytes := by
  have hop : (literal operation.op).all (decide <| Plain ·) = true ∧
      (literal operation.op).length ≤ 13 := by
    cases operation <;> decide +kernel
  have hstart : Printed (literal "\x7b\"v\":2,\"id\":") 16 := .of_all (by decide +kernel)
  have hname : Printed (literal ",\"op\":") 16 := .of_all (by decide +kernel)
  have hparams : Printed (literal ",\"params\":\x7b") 16 := .of_all (by decide +kernel)
  have hend : Printed (literal "\x7d\x7d") 16 := .of_all (by decide +kernel)
  exact (((((hstart.append (digits_printed (n := id) (by omega))).append hname).append
    (.quote (plain_of_all hop.1) hop.2)).append hparams).append (members_printed operation expectedGeneration
      hmax)).append hend |>.mono (by decide)

/-! ### The limits -/

section
variable {value : VaultPlaintext} {encoded : List UInt8}
  (h : encodeVaultPlaintext value version = .ok encoded) {aes : AesGcm} (htags : aes.Tags)
  (operation : VaultOperation) {id : Nat} (hid : id ≤ 9007199254740991)
  (expectedGeneration : UInt64)
include h htags hid

/-- The request for an encoding is built, with a ciphertext of its length. -/
theorem request_built (sealing : Sealing) : ∃ (ciphertext : List UInt8) (tag : Bytes 16),
    ciphertext.length = plaintextSize value version ∧ ciphertext ≠ [] ∧
      sealing.seal aes encoded version = .ok (sealing.envelope version ciphertext tag) ∧
      operation.request id expectedGeneration.toNat (sealing.envelope version ciphertext tag) =
        .ok (requestLine id operation.op (operation.preface expectedGeneration ++
            vaultMembers (sealing.envelope version ciphertext tag)) ++ [10],
          operation.preface expectedGeneration ++
            vaultMembers (sealing.envelope version ciphertext tag)) := by
  have hlt := sealing.generation.toNat_lt
  obtain ⟨ciphertext, tag, hciphertext, htag, hseal⟩ := encryptVaultForFormat_ok htags
    sealing.vmk.2 sealing.vaultId.2 sealing.nonce.2 (show sealing.generation.toNat ≤ _ by omega)
    version encoded
  have hsize : ciphertext.length = plaintextSize value version := by
    rw [hciphertext, encodeVaultPlaintext_size h]
  have hne : ciphertext ≠ [] := by
    intro hnil
    rw [hnil, List.length_nil, plaintextSize] at hsize
    omega
  have hparams := params_ok sealing version ⟨tag, htag⟩ operation expectedGeneration hne
  exact ⟨ciphertext, ⟨tag, htag⟩, hsize, hne, hseal, bind_ok.2 ⟨_, hparams, bind_ok.2
    ⟨_, require_bind.2 ⟨decide_eq_true hid, rfl⟩, rfl⟩⟩⟩

theorem size_of_passes (sealing : Sealing)
    (hpasses : PassesLimits aes sealing encoded version operation id expectedGeneration) :
    plaintextSize value version ≤ maxPersistedCiphertextBytes := by
  obtain ⟨ciphertext, tag, hsize, hne, hsealed, hrequest⟩ :=
    request_built h htags operation hid expectedGeneration sealing
  obtain ⟨envelope, line, params, received, henvelope, hbuilt, -, hreceived, -⟩ := hpasses
  rw [hsealed] at henvelope
  cases henvelope
  rw [hrequest] at hbuilt
  obtain ⟨-, rfl⟩ := Prod.mk.inj (Except.ok.inj hbuilt)
  rw [read_sent sealing version tag operation expectedGeneration hne] at hreceived
  rw [← hsize]
  by_contra hmax
  rw [if_neg hmax] at hreceived
  cases hreceived

theorem passes_of_size (sealing : Sealing)
    (hmax : plaintextSize value version ≤ maxPersistedCiphertextBytes) :
    PassesLimits aes sealing encoded version operation id expectedGeneration := by
  obtain ⟨ciphertext, tag, hsize, hne, hsealed, hrequest⟩ :=
    request_built h htags operation hid expectedGeneration sealing
  rw [← hsize] at hmax
  have hread := read_sent sealing version tag operation expectedGeneration hne
  have hprinted := requestLine_printed sealing version tag operation expectedGeneration hmax hid
  have hsupported : Vault.isSupportedVaultFormat version.format = true := by
    cases version <;> decide
  have hframing : validEnvelopeFraming (sealing.received version ciphertext tag) = true := by
    simp [validEnvelopeFraming, Sealing.received, hsupported, sealing.positive, hne, hmax]
  refine ⟨_, _, _, _, hsealed, hrequest, ?_, hread.trans (if_pos hmax), hframing,
    (VaultRuntime.validEnvelope_eq _).trans hframing⟩
  rw [textEncode_ascii hprinted.ascii, List.length_map]
  exact hprinted.short

/-- **A sealed plaintext passes the limits of the Device exactly if it is at most 64 KiB long.** -/
theorem vault_request_passes_iff (sealing : Sealing) :
    PassesLimits aes sealing encoded version operation id expectedGeneration ↔
      plaintextSize value version ≤ maxPersistedCiphertextBytes :=
  ⟨size_of_passes h htags operation hid expectedGeneration sealing,
    passes_of_size h htags operation hid expectedGeneration sealing⟩

end

/-! ## Plaintexts around the limit -/

/-- Ciphertext and plaintext are the same, and the tag is zero. -/
def plainGcm : AesGcm where
  encrypt _ _ plaintext _ := plaintext ++ List.replicate 16 0

theorem plainGcm_tags : plainGcm.Tags := fun _ _ plaintext _ => by
  simp [plainGcm, aesGcmTagBytes]

def someSealing : Sealing where
  vmk := .zero 32
  vaultId := .zero 16
  nonce := .zero 12
  generation := 1
  positive := by decide

section
variable (width : Nat)

/-- An account with an issuer of `width` characters and an account name of the largest size. -/
def wideAccount (order : Nat) : VaultCredentialRecord where
  credentialId := List.replicate 15 0 ++ [UInt8.ofNat order]
  secret := [1]
  issuer := List.replicate width 65
  account := List.replicate 1024 65
  displayName := []
  digits := .integer 6
  periodSeconds := .integer 30
  manualOrder := .integer order

def wideVault : VaultPlaintext where
  credentials := (List.range 32).map (wideAccount width)
  wifi := none
  autoLockDays := none

theorem wideName_length : (textEncode (List.replicate width 65)).length = width := by
  rw [textEncode_ascii fun unit hunit => by rw [List.eq_of_mem_replicate hunit]; decide,
    List.length_map, List.length_replicate]

end

theorem u8_accepts {n : Nat} (h : n ≤ 255) : ByteWriter.u8 (.integer n) = .ok [UInt8.ofNat n] :=
  require_bind.2 ⟨Number.inRange_iff.2 ⟨n, rfl, by omega, by omega⟩, rfl⟩

theorem u16_accepts {n : Nat} (h : n ≤ 65535) : ByteWriter.u16 (.integer n) = .ok (appendBE 2 n) :=
  require_bind.2 ⟨Number.inRange_iff.2 ⟨n, rfl, by omega, by omega⟩, rfl⟩

theorem sizedBytes_accepts (value : List UInt8) (maximum : Nat) (h : value.length ≤ maximum)
    (hmax : maximum ≤ 65535) (field : String) :
    ByteWriter.sizedBytes value maximum field = .ok (appendBE 2 value.length ++ value) := by
  refine require_bind.2 ⟨?_, bind_ok.2 ⟨_, u16_accepts (Nat.le_trans h hmax), rfl⟩⟩
  rw [decide_eq_true h, decide_eq_true (Nat.le_trans h hmax)]
  rfl

section
variable {width : Nat} (hwidth : width ≤ 1024)
include hwidth

theorem writeCredential_wide {order : Nat} (h : order ≤ 65535) {ids : List (List UInt8)}
    (hfresh : (wideAccount width order).credentialId ∉ ids) :
    ∃ bytes, writeCredential ids (wideAccount width order) = .ok bytes := by
  have hvalid : validateCredential (wideAccount width order) = .ok () :=
    require_bind.2 ⟨rfl, require_bind.2 ⟨rfl, require_bind.2 ⟨rfl, require_bind.2 ⟨rfl,
      require_ok.2 (Number.inRange_iff.2 ⟨order, rfl, by omega, by omega⟩)⟩⟩⟩⟩
  have hsecret := sizedBytes_accepts [1] 512 (by decide) (by decide)
  have hissuer := sizedBytes_accepts _ 1024
    (Nat.le_trans (Nat.le_of_eq (wideName_length width)) hwidth) (by decide)
  have hname := sizedBytes_accepts _ 1024 (Nat.le_of_eq (wideName_length 1024)) (by decide)
  have hempty := sizedBytes_accepts [] 1024 (by decide) (by decide)
  exact ⟨_, bind_ok.2 ⟨_, hvalid, require_bind.2 ⟨by simpa using hfresh,
    bind_ok.2 ⟨_, hsecret _, bind_ok.2 ⟨_, hissuer _, bind_ok.2 ⟨_, hname _, bind_ok.2 ⟨_, hempty _,
    bind_ok.2 ⟨_, u8_accepts (by decide), bind_ok.2 ⟨_, u8_accepts (by decide),
    bind_ok.2 ⟨_, u16_accepts (by decide), bind_ok.2 ⟨_, u16_accepts h, rfl⟩⟩⟩⟩⟩⟩⟩⟩⟩⟩⟩

theorem writeCredentials_wide {orders : List Nat} (h : ∀ order ∈ orders, order ≤ 65535)
    {ids : List (List UInt8)}
    (hnodup : (ids ++ (orders.map (wideAccount width)).map (·.credentialId)).Nodup) :
    ∃ bytes, writeCredentials ids (orders.map (wideAccount width)) = .ok bytes := by
  induction orders generalizing ids with
  | nil => exact ⟨_, rfl⟩
  | cons order orders ih =>
    rw [List.map_cons, List.map_cons] at hnodup
    have hfresh : (wideAccount width order).credentialId ∉ ids := fun hmem =>
      (List.nodup_append.1 hnodup).2.2 _ hmem _ List.mem_cons_self rfl
    obtain ⟨bytes, hbytes⟩ := writeCredential_wide hwidth (h order (by simp)) hfresh
    have hnodup' : (ids ++ [(wideAccount width order).credentialId] ++
        (orders.map (wideAccount width)).map (·.credentialId)).Nodup := by
      rwa [List.append_assoc]
    obtain ⟨rest, hrest⟩ := ih (fun o ho => h o (by simp [ho])) hnodup'
    exact ⟨_, bind_ok.2 ⟨_, hbytes, bind_ok.2 ⟨_, hrest, rfl⟩⟩⟩

theorem encode_wide :
    ∃ encoded, encodeVaultPlaintext (wideVault width) .current = .ok encoded := by
  have hids : (wideVault width).credentials.map VaultCredentialRecord.credentialId =
      (List.range 32).map fun order => List.replicate 15 0 ++ [UInt8.ofNat order] :=
    List.map_map
  have hnodup :
      ([] ++ (wideVault width).credentials.map VaultCredentialRecord.credentialId).Nodup := by
    rw [hids]
    decide +kernel
  have hcount : (wideVault width).credentials.length = 32 := List.length_map _
  obtain ⟨credentials, hcredentials⟩ := writeCredentials_wide hwidth (by decide) hnodup
  exact ⟨_, bind_ok.2 ⟨_, u16_accepts (by decide), bind_ok.2 ⟨_,
    require_bind.2 ⟨by simp [hcount, maxVaultCredentials],
    bind_ok.2 ⟨_, u16_accepts (by simp [hcount]), bind_ok.2 ⟨_, hcredentials, bind_ok.2 ⟨_,
      u8_accepts (n := 0) (by decide), rfl⟩⟩⟩⟩, bind_ok.2 ⟨_, rfl, bind_ok.2 ⟨_,
        u8_accepts (n := 0) (by decide), rfl⟩⟩⟩⟩⟩

end

theorem wide_size (width : Nat) :
    plaintextSize (wideVault width) .current = 32 * (width + 1055) + 21 := by
  have hrecord (order : Nat) : recordSize (wideAccount width order) = width + 1055 := by
    have hempty : textSize [] = 2 := rfl
    rw [recordSize, wideAccount, hempty, textSize, textSize, wideName_length, wideName_length,
      List.length_singleton]
    omega
  have hrecords : (wideVault width).credentials.map recordSize =
      List.replicate 32 (width + 1055) := by
    rw [wideVault, List.map_map, List.eq_replicate_iff]
    exact ⟨rfl, fun n hn => by obtain ⟨order, _, rfl⟩ := List.mem_map.1 hn; exact hrecord order⟩
  have hwifi : wifiSize (wideVault width).wifi = 1 := rfl
  have hpolicy : policySize .current (wideVault width).autoLockDays = 1 := rfl
  rw [plaintextSize, hrecords, List.sum_replicate_nat, hwifi, hpolicy]
  omega

/-- A Vault of 32 accounts with 65,525 bytes fits. -/
theorem vault_request_passes_wide : ∃ encoded,
    encodeVaultPlaintext (wideVault 992) .current = .ok encoded ∧
    plaintextSize (wideVault 992) .current = 65525 ∧
    PassesLimits plainGcm someSealing encoded .current .update 1 1 := by
  obtain ⟨encoded, hencoded⟩ := encode_wide (show 992 ≤ 1024 by decide)
  refine ⟨encoded, hencoded, wide_size 992, ?_⟩
  refine (vault_request_passes_iff hencoded plainGcm_tags .update (by decide) 1 someSealing).2 ?_
  rw [wide_size]
  decide

/-- A Vault of 32 accounts with long names is encoded, and no limit of the Device admits it. -/
theorem vault_request_too_large : ¬∀ (value : VaultPlaintext) (version : VaultFormatVersion)
    (encoded : List UInt8) (aes : AesGcm) (sealing : Sealing) (operation : VaultOperation)
    (id : Nat) (expectedGeneration : UInt64), encodeVaultPlaintext value version = .ok encoded →
      aes.Tags → id ≤ 9007199254740991 →
      PassesLimits aes sealing encoded version operation id expectedGeneration := by
  intro hall
  obtain ⟨encoded, hencoded⟩ := encode_wide (Nat.le_refl 1024)
  have hpasses := hall (wideVault 1024) .current encoded plainGcm someSealing .update 1 1 hencoded
    plainGcm_tags (by decide)
  have hsize := size_of_passes hencoded plainGcm_tags .update (by decide) 1 someSealing hpasses
  rw [wide_size] at hsize
  exact absurd hsize (by decide)

end M5Auth.Web
