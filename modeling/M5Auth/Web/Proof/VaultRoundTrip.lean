import M5Auth.Web.Proof.VaultDecoders

/-!
# Encoding and decoding the Web application's plaintext

What `encodeVaultPlaintext` writes is what the firmware writes for the same settings
(`encodeVaultPlaintext_ok`), so the firmware's round trip and the comparison of the two decoders say
what `decodeVaultPlaintext` reads back. The main result is `round_trip_iff`: a value is read back,
and an account keeps its bytes when other accounts are edited, unless a text begins with a byte
order mark.
-/

namespace M5Auth.Web

open Unicode
open Vault (CredentialRecord CredentialId WifiRecord decodePlaintext encodePlaintext)

/-! ## The writers -/

theorem u8_ok {value : Number} {bytes : List UInt8} (h : ByteWriter.u8 value = .ok bytes) :
    ∃ n : UInt8, value = .integer n.toNat ∧ bytes = [n] := by
  obtain ⟨hrange, hbytes⟩ := require_bind.1 h
  obtain ⟨n, rfl, h0, h1⟩ := Number.inRange_iff.1 hrange
  cases hbytes
  have hn : (UInt8.ofNat n.toNat).toNat = n.toNat := by
    rw [UInt8.toNat_ofNat']
    omega
  exact ⟨UInt8.ofNat n.toNat, by rw [hn, Int.toNat_of_nonneg h0], rfl⟩

theorem u16_ok {value : Number} {bytes : List UInt8} (h : ByteWriter.u16 value = .ok bytes) :
    ∃ n : UInt16, value = .integer n.toNat ∧ bytes = appendBE 2 n.toNat := by
  obtain ⟨hrange, hbytes⟩ := require_bind.1 h
  obtain ⟨n, rfl, h0, h1⟩ := Number.inRange_iff.1 hrange
  cases hbytes
  have hn : (UInt16.ofNat n.toNat).toNat = n.toNat := by
    rw [UInt16.toNat_ofNat']
    omega
  exact ⟨UInt16.ofNat n.toNat, by rw [hn, Int.toNat_of_nonneg h0], by rw [hn]; rfl⟩

theorem u16_length {n : Nat} {bytes : List UInt8}
    (h : ByteWriter.u16 (.integer n) = .ok bytes) : bytes = appendBE 2 n := by
  obtain ⟨m, hm, rfl⟩ := u16_ok h
  simp only [Number.integer.injEq] at hm
  have hnat : n = m.toNat := by omega
  rw [hnat]

theorem sizedBytes_ok {value bytes : List UInt8} {maximum : Nat} {field : String}
    (h : ByteWriter.sizedBytes value maximum field = .ok bytes) :
    Vault.appendSizedBytes maximum value = some bytes := by
  obtain ⟨hlength, hrest⟩ := require_bind.1 h
  obtain ⟨length, hl, hbytes⟩ := bind_ok.1 hrest
  obtain rfl := u16_length hl
  cases hbytes
  simp only [Bool.and_eq_true, decide_eq_true_eq] at hlength
  rw [Vault.appendSizedBytes, if_neg (by omega)]

theorem sizedText_ok {s : JsString} {bytes : List UInt8} {field : String}
    (h : ByteWriter.sizedText s field = .ok bytes) :
    Vault.appendSizedText (textEncode s) = some bytes := by
  have hvalid : Vault.isValidUtf8 (textEncode s) = true :=
    Vault.isValidUtf8_iff.2 ⟨scalars s, rfl⟩
  rw [Vault.appendSizedText, if_pos hvalid]
  exact sizedBytes_ok h

/-! ## A credential -/

theorem writeCredential_ok {ids : List CredentialId} {ids' : List (List UInt8)}
    (hids : ids' = ids.map (·.1)) {w : VaultCredentialRecord} {bytes : List UInt8}
    (h : writeCredential ids' w = .ok bytes) :
    ∃ r, SameRecord r w ∧ Vault.encodeCredential ids r = some bytes := by
  unfold writeCredential at h
  obtain ⟨_, hvalid, h⟩ := bind_ok.1 h
  obtain ⟨hfresh, h⟩ := require_bind.1 h
  obtain ⟨secret, hsecret, h⟩ := bind_ok.1 h
  obtain ⟨issuer, hissuer, h⟩ := bind_ok.1 h
  obtain ⟨account, haccount, h⟩ := bind_ok.1 h
  obtain ⟨displayName, hdisplay, h⟩ := bind_ok.1 h
  obtain ⟨algorithm, halgorithm, h⟩ := bind_ok.1 h
  obtain ⟨digits, hdigits, h⟩ := bind_ok.1 h
  obtain ⟨periodSeconds, hperiod, h⟩ := bind_ok.1 h
  obtain ⟨manualOrder, horder, h⟩ := bind_ok.1 h
  cases h
  obtain rfl : algorithm = [1] := by
    obtain ⟨n, hn, rfl⟩ := u8_ok halgorithm
    simp only [algorithmSha1, Number.integer.injEq] at hn
    rw [List.cons.injEq, ← UInt8.toNat_inj]
    exact ⟨by have h1 : (1 : UInt8).toNat = 1 := rfl; omega, rfl⟩
  obtain ⟨digits, hd, rfl⟩ := u8_ok hdigits
  obtain ⟨periodSeconds, hp, rfl⟩ := u16_ok hperiod
  obtain ⟨manualOrder, ho, rfl⟩ := u16_ok horder
  have hlength : w.credentialId.length = 16 := by
    unfold validateCredential at hvalid
    exact beq_iff_eq.1 (require_bind.1 hvalid).1
  have hsame : SameRecord
      ⟨⟨w.credentialId, hlength⟩, w.secret, textEncode w.issuer, textEncode w.account,
        textEncode w.displayName, digits, periodSeconds, manualOrder⟩ w :=
    ⟨⟨rfl, rfl, hd, hp, ho⟩, rfl, rfl, rfl⟩
  refine ⟨_, hsame, ?_⟩
  have hguard : (!Vault.validCredential ⟨⟨w.credentialId, hlength⟩, w.secret, textEncode w.issuer,
      textEncode w.account, textEncode w.displayName, digits, periodSeconds, manualOrder⟩ ||
      ids.contains ⟨w.credentialId, hlength⟩) = false := by
    rw [(validate_iff hsame.fields).1 hvalid, Bool.not_true, Bool.false_or, Bool.eq_false_iff, Ne,
      List.contains_iff_mem]
    exact (contains_iff hids rfl).1 hfresh
  unfold Vault.encodeCredential
  rw [if_neg (Bool.eq_false_iff.1 hguard)]
  have hmax : maxSecretBytes = Vault.maxSecretBytes := rfl
  rw [hmax] at hsecret
  simp [sizedBytes_ok hsecret, sizedText_ok hissuer, sizedText_ok haccount, sizedText_ok hdisplay]

/-! ## The plaintext -/

theorem writeCredentials_ok {ws : List VaultCredentialRecord} {ids : List CredentialId}
    {ids' : List (List UInt8)} (hids : ids' = ids.map (·.1)) {bytes : List UInt8}
    (h : writeCredentials ids' ws = .ok bytes) :
    ∃ rs, List.Forall₂ SameRecord rs ws ∧ Vault.encodeCredentials ids rs = some bytes := by
  induction ws generalizing ids ids' bytes with
  | nil =>
    cases h
    exact ⟨[], .nil, rfl⟩
  | cons w ws ih =>
    obtain ⟨head, hhead, h⟩ := bind_ok.1 h
    obtain ⟨tail, htail, h⟩ := bind_ok.1 h
    cases h
    obtain ⟨r, hr, hencode⟩ := writeCredential_ok hids hhead
    have hids' : ids' ++ [w.credentialId] = (ids ++ [r.credentialId]).map (·.1) := by
      simp [hids, hr.fields.credentialId]
    obtain ⟨rs, hrs, hmore⟩ := ih hids' htail
    refine ⟨r :: rs, .cons hr hrs, ?_⟩
    simp [Vault.encodeCredentials, hencode, hmore]

theorem writeWifi_ok {w : Option VaultWifiRecord} {bytes : List UInt8}
    (h : writeWifi w = .ok bytes) :
    ∃ r, SameWifi r w ∧ Vault.encodeWifi r = some bytes := by
  cases w with
  | none =>
    cases h
    exact ⟨none, trivial, rfl⟩
  | some wifi =>
    obtain ⟨present, hpresent, h⟩ := bind_ok.1 h
    obtain ⟨ssid, hssid, h⟩ := bind_ok.1 h
    obtain ⟨password, hpassword, h⟩ := bind_ok.1 h
    cases h
    cases hpresent
    exact ⟨some ⟨textEncode wifi.ssid, textEncode wifi.password⟩, ⟨rfl, rfl⟩, by
      simp [Vault.encodeWifi, sizedText_ok hssid, sizedText_ok hpassword]
      rfl⟩

theorem writeAutoLockDays_ok {days : Option Number} {normalized : Option Number}
    {bytes : List UInt8} (hdays : normalizeAutoLockDays days = .ok normalized)
    (h : writeAutoLockDays normalized = .ok bytes) :
    ∃ d : Option UInt8, days = d.map (fun n => .integer n.toNat) ∧
      Vault.validAutoLockDays d = true ∧ bytes = Vault.encodeAutoLockDays d := by
  cases days with
  | none =>
    cases hdays
    cases h
    exact ⟨none, rfl, rfl, rfl⟩
  | some days =>
    obtain ⟨hrange, hnormal⟩ := require_bind.1 hdays
    cases hnormal
    obtain ⟨present, hpresent, h⟩ := bind_ok.1 h
    obtain ⟨encoded, hencoded, h⟩ := bind_ok.1 h
    cases h
    cases hpresent
    obtain ⟨n, rfl, rfl⟩ := u8_ok hencoded
    refine ⟨some n, rfl, ?_, rfl⟩
    have hvalid := days_iff.1 hrange
    rw [not_or, UInt8.not_lt, UInt8.not_lt] at hvalid
    simp [Vault.validAutoLockDays, hvalid.1, hvalid.2]

theorem writeCommonPlaintext_ok {value : VaultPlaintext} {bytes : List UInt8}
    (h : writeCommonPlaintext value = .ok bytes) :
    ∃ rs wifi credentials wifiBytes, List.Forall₂ SameRecord rs value.credentials ∧
      SameWifi wifi value.wifi ∧ rs.length ≤ Vault.maxCredentials ∧
      Vault.encodeCredentials [] rs = some credentials ∧ Vault.encodeWifi wifi = some wifiBytes ∧
      bytes = appendBE 2 rs.length ++ (credentials ++ wifiBytes) := by
  obtain ⟨hmax, h⟩ := require_bind.1 h
  obtain ⟨count, hcount, h⟩ := bind_ok.1 h
  obtain ⟨credentials, hcredentials, h⟩ := bind_ok.1 h
  obtain ⟨wifiBytes, hwifi, h⟩ := bind_ok.1 h
  cases h
  have hids : ([] : List (List UInt8)) = ([] : List CredentialId).map (·.1) := rfl
  obtain ⟨rs, hrs, hencode⟩ := writeCredentials_ok hids hcredentials
  obtain ⟨wifi, hsame, hwifi⟩ := writeWifi_ok hwifi
  have hlength : rs.length = value.credentials.length := hrs.length_eq
  rw [decide_eq_true_eq, ← hlength] at hmax
  refine ⟨rs, wifi, credentials, wifiBytes, hrs, hsame, hmax, hencode, hwifi, ?_⟩
  rw [u16_length hcount, hlength, List.append_assoc]

/-- **The Web application writes what the firmware writes for the same settings.** -/
theorem encodeVaultPlaintext_ok {value : VaultPlaintext} {version : VaultFormatVersion}
    {bytes : List UInt8} (h : encodeVaultPlaintext value version = .ok bytes) :
    ∃ p, SamePlaintext p value ∧ encodePlaintext p version.format = some bytes := by
  cases version with
  | legacy =>
    obtain ⟨days, hdays, h⟩ := bind_ok.1 h
    obtain ⟨hnone, h⟩ := require_bind.1 h
    obtain ⟨format, hformat, h⟩ := bind_ok.1 h
    obtain ⟨common, hcommon, h⟩ := bind_ok.1 h
    cases h
    obtain ⟨rs, wifi, credentials, wifiBytes, hrs, hwifi, hmax, hencode, hwifiBytes, rfl⟩ :=
      writeCommonPlaintext_ok hcommon
    have hpolicy : value.autoLockDays = none := by
      cases hv : value.autoLockDays with
      | none => rfl
      | some n =>
        rw [hv] at hdays
        obtain ⟨-, hnormal⟩ := require_bind.1 hdays
        cases hnormal
        cases hnone
    refine ⟨⟨rs, wifi, none⟩, ⟨hrs, hwifi, by simp [hpolicy]⟩, ?_⟩
    rw [Vault.encodePlaintext_iff]
    refine ⟨credentials, wifiBytes, [], hmax, hencode, hwifiBytes, .inl ⟨rfl, rfl, rfl⟩, ?_⟩
    rw [u16_length hformat, magic_v1, List.append_assoc, List.append_nil]
    rfl
  | current =>
    obtain ⟨format, hformat, h⟩ := bind_ok.1 h
    obtain ⟨common, hcommon, h⟩ := bind_ok.1 h
    obtain ⟨days, hdays, h⟩ := bind_ok.1 h
    obtain ⟨policy, hpolicy, h⟩ := bind_ok.1 h
    cases h
    obtain ⟨rs, wifi, credentials, wifiBytes, hrs, hwifi, hmax, hencode, hwifiBytes, rfl⟩ :=
      writeCommonPlaintext_ok hcommon
    obtain ⟨d, hd, hvalid, rfl⟩ := writeAutoLockDays_ok hdays hpolicy
    refine ⟨⟨rs, wifi, d⟩, ⟨hrs, hwifi, hd⟩, ?_⟩
    rw [Vault.encodePlaintext_iff]
    refine ⟨credentials, wifiBytes, _, hmax, hencode, hwifiBytes, .inr ⟨rfl, hvalid, rfl⟩, ?_⟩
    rw [u16_length hformat, magic_v2]
    simp only [List.append_assoc]
    rfl

/-! ## Strings -/

/-- The code unit of the byte order mark. -/
def bomUnit : UInt16 := 0xfeff

theorem unitChar_bom {unit : UInt16} (h : unitChar unit = bom) : unit = bomUnit := by
  unfold unitChar at h
  split at h
  · exact absurd h (by decide)
  · rename_i hsurrogate
    simp only [Bool.or_eq_true, not_or, Bool.not_eq_true] at hsurrogate
    have hunits := unitsOf_unit hsurrogate.1 hsurrogate.2
    rw [h] at hunits
    have hbom : unitsOf bom = [bomUnit] := by decide
    rw [hbom, List.cons.injEq] at hunits
    exact hunits.1.symm

theorem pairChar_ne_bom {lead trail : UInt16} (hl : isLead lead = true) (ht : isTrail trail = true) :
    pairChar lead trail ≠ bom := by
  intro h
  have hunits := unitsOf_pair hl ht
  have hbom : unitsOf bom = [bomUnit] := by decide
  rw [h, hbom] at hunits
  simp at hunits

/-- The text of a string begins with the mark exactly if the string does. -/
theorem scalars_bom_iff {s : JsString} :
    (∃ rest, scalars s = bom :: rest) ↔ s.head? = some bomUnit := by
  have hlead : isLead bomUnit = false := by decide
  have htrail : isTrail bomUnit = false := by decide
  constructor
  · rintro ⟨rest, hrest⟩
    cases s with
    | nil => cases hrest
    | cons unit more =>
      cases more with
      | nil =>
        rw [scalars, List.cons.injEq] at hrest
        simp [unitChar_bom hrest.1]
      | cons second more =>
        rw [scalars] at hrest
        split at hrest
        · rename_i hpair
          simp only [Bool.and_eq_true] at hpair
          rw [List.cons.injEq] at hrest
          exact absurd hrest.1 (pairChar_ne_bom hpair.1 hpair.2)
        · rw [List.cons.injEq] at hrest
          simp [unitChar_bom hrest.1]
  · intro h
    cases s with
    | nil => cases h
    | cons unit more =>
      simp only [List.head?_cons, Option.some.injEq] at h
      subst h
      exact ⟨scalars more, by rw [scalars_cons hlead htrail]; rfl⟩

/-- What is decoded from the bytes of a well-formed string is the string, unless it begins with the
mark. -/
theorem reads_back_iff {s s' : JsString} {t : Text} (hs : WellFormed s = true)
    (hsame : textEncode s = t) (hreads : TextReads t s') : s' = s ↔ s.head? ≠ some bomUnit := by
  obtain ⟨text, rfl, rfl⟩ := hreads
  obtain rfl := encodeUtf8_injective hsame
  rw [Ne, ← scalars_bom_iff, ← dropBom_eq_iff]
  constructor
  · intro h
    have hscalars := congrArg scalars h
    rwa [scalars_encodeUtf16] at hscalars
  · intro h
    rw [h, encodeUtf16_scalars hs]

/-! ## Reading back -/

/-- The strings of an account and of a plaintext. -/
def recordStrings (w : VaultCredentialRecord) : List JsString := [w.issuer, w.account, w.displayName]

def wifiStrings : Option VaultWifiRecord → List JsString
  | none => []
  | some wifi => [wifi.ssid, wifi.password]

def plaintextStrings (v : VaultPlaintext) : List JsString :=
  v.credentials.flatMap recordStrings ++ wifiStrings v.wifi

theorem record_back_iff {r : CredentialRecord} {w w' : VaultCredentialRecord}
    (hw : ∀ s ∈ recordStrings w, WellFormed s = true) (hsame : SameRecord r w)
    (hreads : RecordReads r w') : w' = w ↔ ∀ s ∈ recordStrings w, s.head? ≠ some bomUnit := by
  simp only [recordStrings, List.forall_mem_cons, List.not_mem_nil, IsEmpty.forall_iff,
    implies_true, and_true] at hw ⊢
  rw [← reads_back_iff hw.1 hsame.issuer hreads.issuer,
    ← reads_back_iff hw.2.1 hsame.account hreads.account,
    ← reads_back_iff hw.2.2 hsame.displayName hreads.displayName]
  constructor
  · rintro rfl
    exact ⟨rfl, rfl, rfl⟩
  · rintro ⟨hissuer, haccount, hdisplay⟩
    cases w
    cases w'
    simp only at hissuer haccount hdisplay
    simp only [VaultCredentialRecord.mk.injEq]
    exact ⟨hreads.fields.credentialId.trans hsame.fields.credentialId.symm,
      hreads.fields.secret.trans hsame.fields.secret.symm, hissuer, haccount, hdisplay,
      hreads.fields.digits.trans hsame.fields.digits.symm,
      hreads.fields.periodSeconds.trans hsame.fields.periodSeconds.symm,
      hreads.fields.manualOrder.trans hsame.fields.manualOrder.symm⟩

theorem records_back_iff {rs : List CredentialRecord} {ws ws' : List VaultCredentialRecord}
    (hw : ∀ s ∈ ws.flatMap recordStrings, WellFormed s = true)
    (hsame : List.Forall₂ SameRecord rs ws) (hreads : List.Forall₂ RecordReads rs ws') :
    ws' = ws ↔ ∀ s ∈ ws.flatMap recordStrings, s.head? ≠ some bomUnit := by
  induction hsame generalizing ws' with
  | nil =>
    cases hreads
    simp
  | cons hr _ ih =>
    cases hreads with
    | cons hr' hrs' =>
      rw [List.flatMap_cons, List.forall_mem_append] at hw
      rw [List.flatMap_cons, List.forall_mem_append, List.cons.injEq,
        record_back_iff hw.1 hr hr', ih hw.2 hrs']

theorem wifi_back_iff {r : Option WifiRecord} {w w' : Option VaultWifiRecord}
    (hw : ∀ s ∈ wifiStrings w, WellFormed s = true) (hsame : SameWifi r w)
    (hreads : WifiReads r w') : w' = w ↔ ∀ s ∈ wifiStrings w, s.head? ≠ some bomUnit := by
  match r, w, w', hsame, hreads with
  | none, none, none, _, _ => simp [wifiStrings]
  | some r, some w, some w', hsame, hreads =>
    simp only [wifiStrings, List.forall_mem_cons, List.not_mem_nil, IsEmpty.forall_iff,
      implies_true, and_true] at hw ⊢
    rw [← reads_back_iff hw.1 hsame.1 hreads.1, ← reads_back_iff hw.2 hsame.2 hreads.2]
    cases w
    cases w'
    simp

/-- What is decoded from an encoded value is the value, unless a string begins with the mark. -/
theorem decode_encode_iff {value : VaultPlaintext} {version : VaultFormatVersion}
    {bytes : List UInt8} (hw : ∀ s ∈ plaintextStrings value, WellFormed s = true)
    (h : encodeVaultPlaintext value version = .ok bytes) :
    decodeVaultPlaintext bytes (some version) = .ok value ↔
      ∀ s ∈ plaintextStrings value, s.head? ≠ some bomUnit := by
  obtain ⟨p, hsame, hencode⟩ := encodeVaultPlaintext_ok h
  have hp := Vault.decodePlaintext_iff.2 hencode
  obtain ⟨v, hv⟩ := accepted_iff.1 ⟨p, hp⟩
  have hreads := reads_of hp hv
  rw [plaintextStrings, List.forall_mem_append] at hw ⊢
  rw [← records_back_iff hw.1 hsame.credentials hreads.credentials,
    ← wifi_back_iff hw.2 hsame.wifi hreads.wifi, hv, Except.ok.injEq]
  constructor
  · rintro rfl
    exact ⟨rfl, rfl⟩
  · rintro ⟨hcredentials, hwifi⟩
    cases v
    cases value
    simp only at hcredentials hwifi
    simp only [VaultPlaintext.mk.injEq]
    exact ⟨hcredentials, hwifi, hreads.autoLockDays.trans hsame.autoLockDays.symm⟩

/-! ## An edit of other accounts -/

/-- The bytes of the account with an identifier inside an encoded plaintext; they stand among the
other accounts as `Vault.decodePlaintext_accounts` says. -/
def accountBytes (encoded id : List UInt8) : Option (List UInt8) :=
  match decodePlaintext encoded with
  | some (p, _) => (p.credentials.find? fun r => r.credentialId.1 == id).map Vault.recordBytes
  | none => none

theorem find_of_mem {rs : List CredentialRecord} (h : (rs.map (·.credentialId)).Nodup)
    {r : CredentialRecord} (hr : r ∈ rs) :
    rs.find? (fun other => other.credentialId.1 == r.credentialId.1) = some r := by
  induction rs with
  | nil => cases hr
  | cons head rs ih =>
    rw [List.map_cons, List.nodup_cons] at h
    rcases List.mem_cons.1 hr with rfl | hr
    · simp
    · have hne : (head.credentialId.1 == r.credentialId.1) = false := by
        rw [beq_eq_false_iff_ne]
        intro heq
        exact h.1 (Subtype.ext heq ▸ List.mem_map_of_mem hr)
      simp only [List.find?_cons, hne]
      exact ih h.2 hr

theorem accountBytes_of_mem {encoded : List UInt8} {p : Vault.VaultPlaintext} {format : UInt16}
    (h : decodePlaintext encoded = some (p, format)) {r : CredentialRecord}
    (hr : r ∈ p.credentials) :
    accountBytes encoded r.credentialId.1 = some (Vault.recordBytes r) := by
  obtain ⟨-, hnodup, -⟩ := Vault.decodePlaintext_accounts h
  rw [accountBytes, h]
  simp only [find_of_mem hnodup hr, Option.map_some]

theorem forall₂_mem_right {α β : Type} {R : α → β → Prop} {as : List α} {bs : List β}
    (h : List.Forall₂ R as bs) {b : β} (hb : b ∈ bs) : ∃ a ∈ as, R a b := by
  induction h with
  | nil => cases hb
  | cons hab _ ih =>
    rcases List.mem_cons.1 hb with rfl | hb
    · exact ⟨_, List.mem_cons_self, hab⟩
    · obtain ⟨a, ha, hr⟩ := ih hb
      exact ⟨a, List.mem_cons_of_mem _ ha, hr⟩

/-- A record read from one plaintext and the one written for the same value are the same exactly if
the value has the bytes that were read. -/
theorem rewritten_iff {r r' : CredentialRecord} {w : VaultCredentialRecord}
    (hreads : RecordReads r w) (hsame : SameRecord r' w) : r' = r ↔ SameRecord r w := by
  constructor
  · rintro rfl
    exact hsame
  · intro h
    have hid := Subtype.ext (hsame.fields.credentialId.symm.trans h.fields.credentialId)
    have hdigits : r'.digits = r.digits := by
      have heq := hsame.fields.digits.symm.trans h.fields.digits
      simp only [Number.integer.injEq, Int.natCast_inj] at heq
      exact UInt8.toNat_inj.1 heq
    have hperiod : r'.periodSeconds = r.periodSeconds := by
      have heq := hsame.fields.periodSeconds.symm.trans h.fields.periodSeconds
      simp only [Number.integer.injEq, Int.natCast_inj] at heq
      exact UInt16.toNat_inj.1 heq
    have horder : r'.manualOrder = r.manualOrder := by
      have heq := hsame.fields.manualOrder.symm.trans h.fields.manualOrder
      simp only [Number.integer.injEq, Int.natCast_inj] at heq
      exact UInt16.toNat_inj.1 heq
    cases r
    cases r'
    simp only [CredentialRecord.mk.injEq]
    exact ⟨hid, hsame.fields.secret.symm.trans h.fields.secret, hsame.issuer.symm.trans h.issuer,
      hsame.account.symm.trans h.account, hsame.displayName.symm.trans h.displayName, hdigits,
      hperiod, horder⟩

/-- An account that an edit leaves alone keeps its bytes, unless one of its texts begins with the
mark. -/
theorem accountBytes_kept_iff {old new : List UInt8} {version version' : VaultFormatVersion}
    {v v' : VaultPlaintext} (hdecode : decodeVaultPlaintext old (some version) = .ok v)
    (hencode : encodeVaultPlaintext v' version' = .ok new) {w : VaultCredentialRecord}
    (hw : w ∈ v.credentials) (hw' : w ∈ v'.credentials) :
    ∃ r, accountBytes old w.credentialId = some (Vault.recordBytes r) ∧
      (accountBytes new w.credentialId = accountBytes old w.credentialId ↔
        ∀ t ∈ recordTexts r, ¬bomBytes <+: t) := by
  obtain ⟨p, hp⟩ := accepted_iff.2 ⟨v, hdecode⟩
  have hreads := reads_of hp hdecode
  obtain ⟨r, hr, hrw⟩ := forall₂_mem_right hreads.credentials hw
  obtain ⟨p', hsame, hencode'⟩ := encodeVaultPlaintext_ok hencode
  have hp' := Vault.decodePlaintext_iff.2 hencode'
  obtain ⟨r', hr', hrw'⟩ := forall₂_mem_right hsame.credentials hw'
  have hold : accountBytes old w.credentialId = some (Vault.recordBytes r) := by
    rw [hrw.fields.credentialId]
    exact accountBytes_of_mem hp hr
  have hnew : accountBytes new w.credentialId = some (Vault.recordBytes r') := by
    rw [hrw'.fields.credentialId]
    exact accountBytes_of_mem hp' hr'
  refine ⟨r, hold, ?_⟩
  rw [hold, hnew, ← hrw.same_iff, ← rewritten_iff hrw hrw', Option.some.injEq]
  obtain ⟨-, -, hrecords⟩ := Vault.decodePlaintext_accounts hp
  obtain ⟨-, -, hrecords'⟩ := Vault.decodePlaintext_accounts hp'
  exact ⟨Vault.recordBytes_injective (hrecords' r' hr') (hrecords r hr), congrArg Vault.recordBytes⟩

/-- **Round trip.** A value with well-formed strings is read back from its encoding exactly if no
string begins with a byte order mark; and an account that an edit leaves alone keeps its bytes, in
any formats before and after, exactly if none of its texts begins with the mark. -/
theorem round_trip_iff (value : VaultPlaintext) (version : VaultFormatVersion)
    (bytes : List UInt8) :
    ((∀ s ∈ plaintextStrings value, WellFormed s = true) →
      encodeVaultPlaintext value version = .ok bytes →
      (decodeVaultPlaintext bytes (some version) = .ok value ↔
        ∀ s ∈ plaintextStrings value, s.head? ≠ some bomUnit)) ∧
    (∀ v' version' new w, decodeVaultPlaintext bytes (some version) = .ok value →
      encodeVaultPlaintext v' version' = .ok new → w ∈ value.credentials → w ∈ v'.credentials →
      ∃ r, accountBytes bytes w.credentialId = some (Vault.recordBytes r) ∧
        (accountBytes new w.credentialId = accountBytes bytes w.credentialId ↔
          ∀ t ∈ recordTexts r, ¬bomBytes <+: t)) :=
  ⟨decode_encode_iff, fun _ _ _ _ hdecode hencode => accountBytes_kept_iff hdecode hencode⟩

/-- A format 1 Vault with two accounts, the first with characters outside ASCII. -/
def accountsVault (second : JsString) : VaultPlaintext where
  credentials :=
    [⟨List.replicate 16 1, [1, 2, 3], literal "Issuer", literal "one", [0xc4, 0xd83d, 0xde00],
      .integer 6, .integer 30, .integer 0⟩,
     ⟨List.replicate 16 2, [4, 5, 6], literal "Issuer", literal "two", second,
      .integer 8, .integer 60, .integer 1⟩]
  wifi := none
  autoLockDays := none

/-- The stored bytes, in format 1. -/
def accountsBytes : List UInt8 :=
  ((encodeVaultPlaintext (accountsVault (literal "second")) .legacy).toOption).getD []

/-- The bytes once the second account was renamed, in format 2. -/
def renamedBytes : List UInt8 :=
  ((encodeVaultPlaintext (accountsVault (literal "renamed")) .current).toOption).getD []

/-- A Vault without accounts for a network of some name. -/
def networkVault (ssid : JsString) : VaultPlaintext :=
  ⟨[], some ⟨ssid, literal "B"⟩, none⟩

/-- The encoding of a Vault whose network has a plain name. -/
def plainNetwork : List UInt8 :=
  [0x4d, 0x35, 0x41, 0x55, 0x54, 0x48, 0x2d, 0x56, 0x4c, 0x54, 0x2d, 0x50, 0x54, 0x32, 0, 0, 2, 0, 0,
    1, 0, 1, 0x41, 0, 1, 0x42, 0]

/-- What the two names evaluate to. -/
theorem networks_evaluated :
    ((∀ s ∈ plaintextStrings (networkVault (literal "A")), WellFormed s = true) ∧
      (∀ s ∈ plaintextStrings (networkVault (literal "A")), s.head? ≠ some bomUnit) ∧
      (encodeVaultPlaintext (networkVault (literal "A")) .current).toOption = some plainNetwork) ∧
    (encodeVaultPlaintext (networkVault (bomUnit :: literal "A")) .current).toOption =
      some markedNetwork ∧
    (∀ s ∈ plaintextStrings (networkVault (bomUnit :: literal "A")), WellFormed s = true) ∧
    (decodeVaultPlaintext markedNetwork (some .current)).toOption =
      some (networkVault (literal "A")) ∧
    networkVault (literal "A") ≠ networkVault (bomUnit :: literal "A") := by
  decide +kernel

/-- What the two account lists evaluate to. -/
theorem accounts_evaluated :
    (encodeVaultPlaintext (accountsVault (literal "second")) .legacy).toOption =
      some accountsBytes ∧
    (encodeVaultPlaintext (accountsVault (literal "renamed")) .current).toOption =
      some renamedBytes ∧
    (∀ s ∈ plaintextStrings (accountsVault (literal "second")),
      WellFormed s = true ∧ s.head? ≠ some bomUnit) ∧
    accountBytes renamedBytes (List.replicate 16 1) =
      accountBytes accountsBytes (List.replicate 16 1) := by
  decide +kernel

/-- A Vault with two accounts is read back; the first one keeps its bytes when the second is
renamed and the Vault migrates to format 2. -/
theorem round_trip_accounts :
    decodeVaultPlaintext accountsBytes (some .legacy) = .ok (accountsVault (literal "second")) ∧
      ∃ r, accountBytes accountsBytes (List.replicate 16 1) = some (Vault.recordBytes r) ∧
        accountBytes renamedBytes (List.replicate 16 1) = some (Vault.recordBytes r) ∧
        ∀ t ∈ recordTexts r, ¬bomBytes <+: t := by
  obtain ⟨hold, hnew, htexts, hsame⟩ := accounts_evaluated
  have hiff := round_trip_iff (accountsVault (literal "second")) .legacy accountsBytes
  have hread := (hiff.1 (fun s hs => (htexts s hs).1) (toOption_some hold)).2
    fun s hs => (htexts s hs).2
  obtain ⟨r, hr, hkept⟩ := hiff.2 _ .current _ _ hread (toOption_some hnew)
    (List.mem_cons_self ..) (List.mem_cons_self ..)
  exact ⟨hread, r, hr, hsame.trans hr, hkept.1 hsame⟩

/-- A Vault whose network's name begins with U+FEFF is not. -/
theorem round_trip_loses_mark :
    encodeVaultPlaintext (networkVault (bomUnit :: literal "A")) .current = .ok markedNetwork ∧
      (∀ s ∈ plaintextStrings (networkVault (bomUnit :: literal "A")), WellFormed s = true) ∧
      decodeVaultPlaintext markedNetwork (some .current) = .ok (networkVault (literal "A")) ∧
      networkVault (literal "A") ≠ networkVault (bomUnit :: literal "A") :=
  ⟨toOption_some networks_evaluated.2.1, networks_evaluated.2.2.1,
    toOption_some networks_evaluated.2.2.2.1, networks_evaluated.2.2.2.2⟩

end M5Auth.Web
