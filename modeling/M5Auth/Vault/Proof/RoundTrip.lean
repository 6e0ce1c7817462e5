import M5Auth.Vault.Format
import Mathlib.Tactic.Ring

/-!
# The plaintext format, read back

`decodePlaintext` accepts exactly what `encodePlaintext` writes, and gives it back
(`decodePlaintext_iff`). Each reader inverts its writer in both directions (`Inverts`); the rules
for the fields come first, then those for a credential, the loop and the whole plaintext.
-/

namespace M5Auth.Vault

/-- The reader reads what the writer writes, and nothing else. -/
def Inverts {α : Type} (read : List UInt8 → Option (α × List UInt8)) (write : α → Option (List UInt8)) :
    Prop :=
  ∀ input a rest, read input = some (a, rest) ↔ ∃ bytes, write a = some bytes ∧ input = bytes ++ rest

/-- A read and what follows it. -/
theorem read_bind {α β γ : Type} {x : Option (α × β)} {f : α × β → Option γ} {c : γ}
    (h : x >>= f = some c) : ∃ a b, x = some (a, b) ∧ f (a, b) = some c := by
  cases x with
  | none => cases h
  | some ab => exact ⟨ab.1, ab.2, rfl, h⟩

/-! ## Integers -/

theorem toNat_pair (a b : UInt8) :
    ((a.toUInt16 <<< 8) ||| b.toUInt16).toNat = a.toNat * 256 + b.toNat := by
  have ha : a.toNat < 256 := a.toNat_lt
  have hb : b.toNat < 256 := b.toNat_lt
  rw [UInt16.toNat_or, UInt16.toNat_shiftLeft, UInt8.toNat_toUInt16, UInt8.toNat_toUInt16]
  have hs : a.toNat <<< (UInt16.toNat 8 % 16) % 2 ^ 16 = a.toNat <<< 8 := by
    rw [Nat.mod_eq_of_lt]
    · rfl
    · show a.toNat <<< 8 < 2 ^ 16
      rw [Nat.shiftLeft_eq]
      omega
  rw [hs, ← Nat.shiftLeft_add_eq_or_of_lt (by omega), Nat.shiftLeft_eq]

theorem appendBE_two (n : Nat) : appendBE 2 n = [UInt8.ofNat (n / 256), UInt8.ofNat n] := rfl

theorem appendBE_pair (a b : UInt8) : appendBE 2 (a.toNat * 256 + b.toNat) = [a, b] := by
  have hb : b.toNat < 256 := b.toNat_lt
  have h1 : (a.toNat * 256 + b.toNat) / 256 = a.toNat := by omega
  have h2 : UInt8.ofNat (a.toNat * 256 + b.toNat) = b := by
    apply UInt8.toNat_inj.1
    rw [UInt8.toNat_ofNat']
    omega
  rw [appendBE_two, h1, h2, UInt8.ofNat_toNat]

theorem readU8_inverts : Inverts readU8 fun value => some [value] := by
  intro input a rest
  constructor
  · intro h
    cases input with
    | nil => cases h
    | cons byte input =>
      cases h
      exact ⟨[a], rfl, rfl⟩
  · rintro ⟨bytes, hbytes, rfl⟩
    cases hbytes
    rfl

theorem readU16_inverts : Inverts readU16 fun value => some (appendBE 2 value.toNat) := by
  intro input a rest
  constructor
  · intro h
    match input, h with
    | x :: y :: input, h =>
      cases h
      exact ⟨_, rfl, by rw [toNat_pair, appendBE_pair]; rfl⟩
  · rintro ⟨bytes, hbytes, rfl⟩
    cases hbytes
    rw [appendBE_two]
    have ha : a.toNat < 65536 := a.toNat_lt
    have hv : (((UInt8.ofNat (a.toNat / 256)).toUInt16 <<< 8) |||
        (UInt8.ofNat a.toNat).toUInt16) = a := by
      apply UInt16.toNat_inj.1
      rw [toNat_pair, UInt8.toNat_ofNat', UInt8.toNat_ofNat']
      omega
    show some (_, rest) = _
    rw [hv]

/-! ## Sized fields -/

theorem readBytes_iff {length : Nat} {input value rest : List UInt8} :
    readBytes length input = some (value, rest) ↔ value.length = length ∧ input = value ++ rest := by
  unfold readBytes
  split
  · rename_i h
    constructor
    · intro hn
      cases hn
    · rintro ⟨hlen, rfl⟩
      simp only [List.length_append] at h
      omega
  · rename_i h
    constructor
    · intro hs
      cases hs
      exact ⟨by simp; omega, (List.take_append_drop length input).symm⟩
    · rintro ⟨rfl, rfl⟩
      simp

theorem readExact_iff {n : Nat} {input rest : List UInt8} {b : Bytes n} :
    readExact n input = some (b, rest) ↔ input = b.1 ++ rest := by
  constructor
  · intro h
    unfold readExact at h
    split at h
    · cases h
      exact (List.take_append_drop n input).symm
    · cases h
  · rintro rfl
    exact readExact_append b rest

theorem readSizedBytes_inverts (maximum : Nat) :
    Inverts (readSizedBytes maximum) (appendSizedBytes maximum) := by
  intro input value rest
  unfold readSizedBytes appendSizedBytes
  constructor
  · intro h
    obtain ⟨length, input', hlength, hbody⟩ := read_bind h
    obtain ⟨bytes, hbytes, rfl⟩ := (readU16_inverts _ _ _).1 hlength
    cases hbytes
    dsimp only at hbody
    split at hbody
    · cases hbody
    · rename_i hmax
      obtain ⟨hvalue, rfl⟩ := readBytes_iff.1 hbody
      have hlt : length.toNat < 65536 := length.toNat_lt
      rw [if_neg (by omega), hvalue]
      exact ⟨_, rfl, (List.append_assoc _ _ _).symm⟩
  · rintro ⟨bytes, hbytes, rfl⟩
    split at hbytes
    · cases hbytes
    · rename_i hmax
      cases hbytes
      have hlength : (UInt16.ofNat value.length).toNat = value.length := by
        rw [UInt16.toNat_ofNat']
        omega
      have hread : readU16 (appendBE 2 value.length ++ value ++ rest) =
          some (UInt16.ofNat value.length, value ++ rest) := by
        rw [readU16_inverts]
        exact ⟨_, rfl, by rw [hlength, List.append_assoc]⟩
      rw [hread]
      simp only [Option.bind_eq_bind, Option.bind_some, hlength]
      rw [if_neg (by omega), readBytes_iff]
      exact ⟨rfl, rfl⟩

theorem readSizedText_inverts : Inverts readSizedText appendSizedText := by
  intro input value rest
  unfold readSizedText appendSizedText
  constructor
  · intro h
    obtain ⟨text, input', htext, hbody⟩ := read_bind h
    dsimp only at hbody
    split at hbody
    · rename_i hvalid
      cases hbody
      obtain ⟨bytes, hbytes, rfl⟩ := (readSizedBytes_inverts _ _ _ _).1 htext
      exact ⟨bytes, by rw [if_pos hvalid, hbytes], rfl⟩
    · cases hbody
  · rintro ⟨bytes, hbytes, rfl⟩
    split at hbytes
    · rename_i hvalid
      have hread := (readSizedBytes_inverts maxFieldBytes (bytes ++ rest) value rest).2
        ⟨bytes, hbytes, rfl⟩
      simp [hread, hvalid]
    · cases hbytes

/-! ## A credential -/

theorem readCredential_inverts (ids : List CredentialId) :
    Inverts (readCredential ids) (encodeCredential ids) := by
  intro input record rest
  unfold readCredential encodeCredential
  constructor
  · intro h
    obtain ⟨credentialId, input1, hid, h⟩ := read_bind h
    dsimp only at h
    split at h
    · cases h
    rename_i hfresh
    obtain ⟨secret, input2, hsecret, h⟩ := read_bind h
    dsimp only at h
    split at h
    · cases h
    obtain ⟨issuer, input3, hissuer, h⟩ := read_bind h
    obtain ⟨account, input4, haccount, h⟩ := read_bind h
    obtain ⟨displayName, input5, hdisplay, h⟩ := read_bind h
    obtain ⟨algorithm, input6, halgorithm, h⟩ := read_bind h
    dsimp only at h
    split at h
    · cases h
    rename_i hsha1
    obtain ⟨digits, input7, hdigits, h⟩ := read_bind h
    obtain ⟨periodSeconds, input8, hperiod, h⟩ := read_bind h
    obtain ⟨manualOrder, input9, horder, h⟩ := read_bind h
    dsimp only at h
    split at h
    · rename_i hvalid
      simp only [Option.some.injEq, Prod.mk.injEq] at h
      obtain ⟨hrecord, rfl⟩ := h
      obtain rfl := readExact_iff.1 hid
      obtain ⟨secretBytes, hs, rfl⟩ := (readSizedBytes_inverts _ _ _ _).1 hsecret
      obtain ⟨issuerBytes, hi, rfl⟩ := (readSizedText_inverts _ _ _).1 hissuer
      obtain ⟨accountBytes, ha, rfl⟩ := (readSizedText_inverts _ _ _).1 haccount
      obtain ⟨displayBytes, hd, rfl⟩ := (readSizedText_inverts _ _ _).1 hdisplay
      obtain ⟨_, ⟨⟩, rfl⟩ := (readU8_inverts _ _ _).1 halgorithm
      obtain ⟨_, ⟨⟩, rfl⟩ := (readU8_inverts _ _ _).1 hdigits
      obtain ⟨_, ⟨⟩, rfl⟩ := (readU16_inverts _ _ _).1 hperiod
      obtain ⟨_, ⟨⟩, rfl⟩ := (readU16_inverts _ _ _).1 horder
      rw [ne_eq, Decidable.not_not] at hsha1
      have hguard : ¬(!validCredential record || ids.contains record.credentialId) = true := by
        rw [← hrecord]
        simp [hvalid, hfresh]
      rw [if_neg hguard]
      subst hrecord
      simp only [hs, hi, ha, hd, Option.bind_eq_bind, Option.bind_some]
      exact ⟨_, rfl, by simp [hsha1]⟩
    · cases h
  · rintro ⟨bytes, hbytes, rfl⟩
    split at hbytes
    · cases hbytes
    rename_i hguard
    obtain ⟨secretBytes, hsecret, hbytes⟩ := Option.bind_eq_some_iff.1 hbytes
    obtain ⟨issuerBytes, hissuer, hbytes⟩ := Option.bind_eq_some_iff.1 hbytes
    obtain ⟨accountBytes, haccount, hbytes⟩ := Option.bind_eq_some_iff.1 hbytes
    obtain ⟨displayBytes, hdisplay, hbytes⟩ := Option.bind_eq_some_iff.1 hbytes
    cases hbytes
    simp only [Bool.or_eq_true, Bool.not_eq_true', List.contains_iff_mem, not_or,
      Bool.not_eq_false] at hguard
    obtain ⟨hvalid, hfresh⟩ := hguard
    have hnonempty : record.secret ≠ [] := by
      simp only [validCredential, Bool.and_eq_true, decide_eq_true_eq] at hvalid
      exact hvalid.1.1.1.1
    simp only [List.append_assoc, List.cons_append, List.nil_append]
    rw [readExact_append]
    simp only [Option.bind_eq_bind, Option.bind_some, if_neg hfresh]
    rw [(readSizedBytes_inverts _ _ record.secret _).2 ⟨_, hsecret, rfl⟩]
    simp only [Option.bind_some, if_neg hnonempty]
    rw [(readSizedText_inverts _ record.issuer _).2 ⟨_, hissuer, rfl⟩]
    simp only [Option.bind_some]
    rw [(readSizedText_inverts _ record.account _).2 ⟨_, haccount, rfl⟩]
    simp only [Option.bind_some]
    rw [(readSizedText_inverts _ record.displayName _).2 ⟨_, hdisplay, rfl⟩]
    simp only [Option.bind_some, readU8, ne_eq, not_true_eq_false, if_false]
    rw [(readU16_inverts _ record.periodSeconds _).2 ⟨_, rfl, rfl⟩]
    simp only [Option.bind_some]
    rw [(readU16_inverts _ record.manualOrder _).2 ⟨_, rfl, rfl⟩]
    simp only [Option.bind_some]
    rw [if_pos hvalid]

/-! ## The loop -/

/-- The loop appends the records it reads, with new identifiers each. -/
theorem readCredentials_iff {count : Nat} {records all : List CredentialRecord}
    {input rest : List UInt8} :
    readCredentials count records input = some (all, rest) ↔
      ∃ more bytes, all = records ++ more ∧ more.length = count ∧
        encodeCredentials (records.map (·.credentialId)) more = some bytes ∧
        input = bytes ++ rest := by
  induction count generalizing records input with
  | zero =>
    constructor
    · intro h
      cases h
      exact ⟨[], [], (List.append_nil _).symm, rfl, rfl, rfl⟩
    · rintro ⟨more, bytes, rfl, hlength, hbytes, rfl⟩
      rw [List.length_eq_zero_iff] at hlength
      subst hlength
      cases hbytes
      simp [readCredentials]
  | succ count ih =>
    constructor
    · intro h
      unfold readCredentials at h
      split at h
      · cases h
      · rename_i record input' hrecord
        obtain ⟨bytes, hbytes, rfl⟩ := (readCredential_inverts _ _ _ _).1 hrecord
        obtain ⟨more, tail, rfl, hlength, htail, rfl⟩ := ih.1 h
        rw [List.map_append] at htail
        refine ⟨record :: more, bytes ++ tail, by simp, by simp [hlength], ?_, by simp⟩
        unfold encodeCredentials
        rw [hbytes]
        simp only [List.map_cons, List.map_nil] at htail
        simp [htail]
    · rintro ⟨more, bytes, rfl, hlength, hbytes, rfl⟩
      cases more with
      | nil => cases hlength
      | cons record more =>
        unfold encodeCredentials at hbytes
        obtain ⟨head, hhead, hbytes⟩ := Option.bind_eq_some_iff.1 hbytes
        obtain ⟨tail, htail, hbytes⟩ := Option.bind_eq_some_iff.1 hbytes
        cases hbytes
        unfold readCredentials
        rw [List.append_assoc, (readCredential_inverts _ _ record _).2 ⟨head, hhead, rfl⟩]
        dsimp only
        rw [ih]
        exact ⟨more, tail, by simp, by simpa using hlength, by simpa using htail, rfl⟩

/-! ## The plaintext -/

/-- A flag that is neither above one nor one. -/
theorem eq_zero_of_flag {flag : UInt8} (hflag : ¬flag > 1) (hone : ¬flag = 1) : flag = 0 := by
  have hle : ¬1 < flag := hflag
  rw [UInt8.lt_iff_toNat_lt] at hle
  have hne : flag.toNat ≠ 1 := fun he => hone (UInt8.toNat_inj.1 he)
  apply UInt8.toNat_inj.1
  have h1 : (1 : UInt8).toNat = 1 := rfl
  have h0 : (0 : UInt8).toNat = 0 := rfl
  omega

theorem decodeCommonBody_iff {input rest : List UInt8} {value : VaultPlaintext} :
    decodeCommonBody input = some (value, rest) ↔
      ∃ credentials wifi, value.credentials.length ≤ maxCredentials ∧
        encodeCredentials [] value.credentials = some credentials ∧
        encodeWifi value.wifi = some wifi ∧ value.autoLockDays = none ∧
        input = appendBE 2 value.credentials.length ++ (credentials ++ (wifi ++ rest)) := by
  unfold decodeCommonBody
  constructor
  · intro h
    obtain ⟨count, input1, hcount, h⟩ := read_bind h
    dsimp only at h
    split at h
    · cases h
    rename_i hmax
    obtain ⟨credentials, input2, hcredentials, h⟩ := read_bind h
    obtain ⟨present, input3, hpresent, hbody⟩ := read_bind h
    dsimp only at hbody
    split at hbody
    · cases hbody
    rename_i hflag
    obtain ⟨_, ⟨⟩, rfl⟩ := (readU16_inverts _ _ _).1 hcount
    obtain ⟨more, bytes, hall, hlength, hbytes, rfl⟩ := readCredentials_iff.1 hcredentials
    rw [List.nil_append] at hall
    subst hall
    obtain ⟨_, ⟨⟩, rfl⟩ := (readU8_inverts _ _ _).1 hpresent
    rw [← hlength] at hmax
    split at hbody
    · rename_i hone
      obtain ⟨ssid, input4, hssid, hbody⟩ := read_bind hbody
      obtain ⟨password, input5, hpassword, hbody⟩ := read_bind hbody
      cases hbody
      obtain ⟨ssidBytes, hs, rfl⟩ := (readSizedText_inverts _ _ _).1 hssid
      obtain ⟨passwordBytes, hp, rfl⟩ := (readSizedText_inverts _ _ _).1 hpassword
      refine ⟨bytes, 1 :: (ssidBytes ++ passwordBytes), Nat.le_of_not_lt hmax, hbytes, ?_, rfl, ?_⟩
      · simp [encodeWifi, hs, hp]
      · simp [hlength, hone]
    · rename_i hone
      cases hbody
      exact ⟨bytes, [0], Nat.le_of_not_lt hmax, hbytes, rfl, rfl, by
        rw [eq_zero_of_flag hflag hone, hlength]⟩
  · rintro ⟨credentials, wifi, hmax, hcredentials, hwifi, hpolicy, rfl⟩
    have hcount : (UInt16.ofNat value.credentials.length).toNat = value.credentials.length := by
      have hle : maxCredentials = 32 := rfl
      rw [UInt16.toNat_ofNat']
      omega
    rw [(readU16_inverts _ (UInt16.ofNat value.credentials.length) _).2
      ⟨_, rfl, by rw [hcount]⟩]
    simp only [Option.bind_eq_bind, Option.bind_some, hcount]
    have hread := @readCredentials_iff _ [] _ _ (wifi ++ rest) |>.2
      ⟨value.credentials, credentials, rfl, rfl, hcredentials, rfl⟩
    rw [if_neg (by omega), hread]
    simp only [Option.bind_some, List.nil_append]
    cases hw : value.wifi with
    | none =>
      rw [hw] at hwifi
      cases hwifi
      simp [readU8, ← hw, ← hpolicy]
    | some record =>
      rw [hw] at hwifi
      unfold encodeWifi at hwifi
      obtain ⟨ssid, hssid, hwifi⟩ := Option.bind_eq_some_iff.1 hwifi
      obtain ⟨password, hpassword, hwifi⟩ := Option.bind_eq_some_iff.1 hwifi
      cases hwifi
      simp only [List.cons_append, readU8, Option.bind_some, List.append_assoc]
      rw [if_neg (by decide), if_pos trivial,
        (readSizedText_inverts _ record.ssid _).2 ⟨ssid, hssid, rfl⟩]
      simp only [Option.bind_some]
      rw [(readSizedText_inverts _ record.password _).2 ⟨password, hpassword, rfl⟩]
      simp [← hw, ← hpolicy]

theorem readAutoLockDays_inverts :
    Inverts readAutoLockDays fun days =>
      if validAutoLockDays days then some (encodeAutoLockDays days) else none := by
  intro input days rest
  unfold readAutoLockDays
  constructor
  · intro h
    obtain ⟨present, input1, hpresent, hbody⟩ := read_bind h
    obtain ⟨_, ⟨⟩, rfl⟩ := (readU8_inverts _ _ _).1 hpresent
    dsimp only at hbody
    split at hbody
    · cases hbody
    rename_i hflag
    split at hbody
    · rename_i hone
      obtain ⟨value, input2, hvalue, hdays⟩ := read_bind hbody
      obtain ⟨_, ⟨⟩, rfl⟩ := (readU8_inverts _ _ _).1 hvalue
      dsimp only at hdays
      split at hdays
      · cases hdays
      · rename_i hrange
        cases hdays
        rw [not_or, UInt8.not_lt, UInt8.not_lt] at hrange
        have hvalid : validAutoLockDays (some value) = true := by
          simp [validAutoLockDays, hrange.1, hrange.2]
        exact ⟨[1, value], if_pos hvalid, by simp [hone]⟩
    · rename_i hone
      cases hbody
      exact ⟨[0], rfl, by rw [eq_zero_of_flag hflag hone]⟩
  · rintro ⟨bytes, hbytes, rfl⟩
    dsimp only at hbytes
    split at hbytes
    · rename_i hvalid
      cases hbytes
      cases days with
      | none => rfl
      | some value =>
        simp only [validAutoLockDays, Bool.and_eq_true, decide_eq_true_eq] at hvalid
        have hrange : ¬(value < minAutoLockDays ∨ maxAutoLockDays < value) := by
          rw [not_or, UInt8.not_lt, UInt8.not_lt]
          exact hvalid
        simp only [encodeAutoLockDays, List.cons_append, List.nil_append, readU8,
          Option.bind_eq_bind, Option.bind_some]
        rw [if_neg (by decide), if_pos trivial, if_neg hrange]
    · cases hbytes

theorem supported_iff {format : UInt16} : isSupportedVaultFormat format = true ↔
    format = vaultFormatVersion1 ∨ format = vaultFormatVersion2 := by
  simp [isSupportedVaultFormat]

/-- The guard of `encode_plaintext`. -/
theorem encode_guard {value : VaultPlaintext} {format : UInt16} :
    (!isSupportedVaultFormat format || decide (value.credentials.length > maxCredentials) ||
      !validAutoLockDays value.autoLockDays ||
      (decide (format = vaultFormatVersion1) && value.autoLockDays.isSome)) = false ↔
    value.credentials.length ≤ maxCredentials ∧
      (format = vaultFormatVersion1 ∧ value.autoLockDays = none ∨
        format = vaultFormatVersion2 ∧ validAutoLockDays value.autoLockDays = true) := by
  have hne : ¬vaultFormatVersion2 = vaultFormatVersion1 := by decide
  simp only [Bool.or_eq_false_iff, Bool.not_eq_false', decide_eq_false_iff_not, not_lt,
    Bool.and_eq_false_iff, supported_iff, Option.isSome_eq_false_iff, Option.isNone_iff_eq_none,
    gt_iff_lt]
  constructor
  · rintro ⟨⟨⟨hformat, hmax⟩, hvalid⟩, hnone⟩
    refine ⟨hmax, ?_⟩
    rcases hformat with rfl | rfl
    · exact .inl ⟨rfl, hnone.resolve_left fun hn => hn rfl⟩
    · exact .inr ⟨rfl, hvalid⟩
  · rintro ⟨hmax, ⟨rfl, hnone⟩ | ⟨rfl, hvalid⟩⟩
    · exact ⟨⟨⟨.inl rfl, hmax⟩, by rw [hnone]; rfl⟩, .inr hnone⟩
    · exact ⟨⟨⟨.inr rfl, hmax⟩, hvalid⟩, .inl hne⟩

/-- What `encode_plaintext` writes, and when. -/
theorem encodePlaintext_iff {value : VaultPlaintext} {format : UInt16} {encoded : List UInt8} :
    encodePlaintext value format = some encoded ↔
      ∃ credentials wifi policy, value.credentials.length ≤ maxCredentials ∧
        encodeCredentials [] value.credentials = some credentials ∧
        encodeWifi value.wifi = some wifi ∧
        (format = vaultFormatVersion1 ∧ value.autoLockDays = none ∧ policy = [] ∨
          format = vaultFormatVersion2 ∧ validAutoLockDays value.autoLockDays = true ∧
            policy = encodeAutoLockDays value.autoLockDays) ∧
        encoded = plaintextMagic format ++ (appendBE 2 format.toNat ++
          (appendBE 2 value.credentials.length ++ (credentials ++ (wifi ++ policy)))) := by
  have hne : ¬vaultFormatVersion1 = vaultFormatVersion2 := by decide
  unfold encodePlaintext
  constructor
  · intro h
    split at h
    · cases h
    · rename_i hguard
      obtain ⟨hmax, hformat⟩ := encode_guard.1 (Bool.eq_false_iff.2 hguard)
      obtain ⟨credentials, hcredentials, h⟩ := Option.bind_eq_some_iff.1 h
      obtain ⟨wifi, hwifi, h⟩ := Option.bind_eq_some_iff.1 h
      cases h
      rcases hformat with ⟨rfl, hnone⟩ | ⟨rfl, hvalid⟩
      · exact ⟨credentials, wifi, [], hmax, hcredentials, hwifi, .inl ⟨rfl, hnone, rfl⟩, by
          rw [if_neg hne]
          simp⟩
      · exact ⟨credentials, wifi, _, hmax, hcredentials, hwifi, .inr ⟨rfl, hvalid, rfl⟩, by simp⟩
  · rintro ⟨credentials, wifi, policy, hmax, hcredentials, hwifi, hformat, rfl⟩
    have hguard := encode_guard.2 ⟨hmax, hformat.imp (fun h => ⟨h.1, h.2.1⟩) fun h => ⟨h.1, h.2.1⟩⟩
    rw [if_neg (Bool.eq_false_iff.1 hguard), hcredentials, hwifi]
    rcases hformat with ⟨rfl, -, rfl⟩ | ⟨rfl, -, rfl⟩
    · simp [if_neg hne]
    · simp

theorem magic_lengths : plaintextMagicV2.length = plaintextMagicV1.length := by
  rw [plaintextMagicV1, plaintextMagicV2, ascii, ascii, String.toList_ofList, String.toList_ofList]
  rfl

theorem magic_ne : plaintextMagicV2 ≠ plaintextMagicV1 := by
  rw [plaintextMagicV1, plaintextMagicV2, ascii, ascii, String.toList_ofList, String.toList_ofList]
  decide

theorem magic_length (format : UInt16) : (plaintextMagic format).length = plaintextMagicV1.length := by
  unfold plaintextMagic
  split
  · rfl
  · exact magic_lengths

/-- What `decode_plaintext` reads after the magic of a format. -/
def decodeBody (format : UInt16) (input : List UInt8) : Option (VaultPlaintext × UInt16) := do
  let (encodedVersion, input) ← readU16 input
  if encodedVersion ≠ format then none
  let (candidate, input) ← decodeCommonBody input
  let (autoLockDays, input) ←
    if format = vaultFormatVersion1 then some (none, input) else readAutoLockDays input
  if input ≠ [] then none
  some ({ candidate with autoLockDays }, format)

theorem decodePlaintext_eq (encoded : List UInt8) :
    decodePlaintext encoded =
      match readBytes plaintextMagicV1.length encoded with
      | none => none
      | some (magic, input) =>
        if magic = plaintextMagicV1 then decodeBody vaultFormatVersion1 input
        else if magic = plaintextMagicV2 then decodeBody vaultFormatVersion2 input else none := by
  unfold decodePlaintext
  generalize plaintextMagicV1 = magic1, plaintextMagicV2 = magic2
  cases readBytes magic1.length encoded <;> rfl

theorem decodeBody_iff {format version : UInt16} {input : List UInt8} {value : VaultPlaintext}
    (hformat : format = vaultFormatVersion1 ∨ format = vaultFormatVersion2) :
    decodeBody format input = some (value, version) ↔
      version = format ∧ ∃ credentials wifi policy, value.credentials.length ≤ maxCredentials ∧
        encodeCredentials [] value.credentials = some credentials ∧
        encodeWifi value.wifi = some wifi ∧
        (format = vaultFormatVersion1 ∧ value.autoLockDays = none ∧ policy = [] ∨
          format = vaultFormatVersion2 ∧ validAutoLockDays value.autoLockDays = true ∧
            policy = encodeAutoLockDays value.autoLockDays) ∧
        input = appendBE 2 format.toNat ++
          (appendBE 2 value.credentials.length ++ (credentials ++ (wifi ++ policy))) := by
  have hne : ¬vaultFormatVersion2 = vaultFormatVersion1 := by decide
  constructor
  · intro h
    unfold decodeBody at h
    obtain ⟨encodedVersion, input2, hversion, h⟩ := read_bind h
    dsimp only at h
    split at h
    · cases h
    rename_i hsame
    rw [ne_eq, Decidable.not_not] at hsame
    subst hsame
    obtain ⟨candidate, input3, hcommon, hbody⟩ := read_bind h
    obtain ⟨_, ⟨⟩, rfl⟩ := (readU16_inverts _ _ _).1 hversion
    obtain ⟨credentials, wifi, hmax, hcredentials, hwifi, hnone, rfl⟩ :=
      decodeCommonBody_iff.1 hcommon
    dsimp only at hbody
    rcases hformat with rfl | rfl
    · rw [if_pos rfl] at hbody
      simp only [Option.bind_eq_bind, Option.bind_some] at hbody
      split at hbody
      · cases hbody
      · rename_i hend
        rw [ne_eq, Decidable.not_not] at hend
        cases hbody
        exact ⟨rfl, credentials, wifi, [], hmax, hcredentials, hwifi, .inl ⟨rfl, rfl, rfl⟩, by
          rw [hend]⟩
    · rw [if_neg hne] at hbody
      obtain ⟨autoLockDays, input4, hpolicy, hlast⟩ := read_bind hbody
      dsimp only at hlast
      split at hlast
      · cases hlast
      · rename_i hend
        rw [ne_eq, Decidable.not_not] at hend
        cases hlast
        obtain ⟨policy, hp, rfl⟩ := (readAutoLockDays_inverts _ _ _).1 hpolicy
        dsimp only at hp
        split at hp
        · rename_i hvalid
          cases hp
          exact ⟨rfl, credentials, wifi, _, hmax, hcredentials, hwifi, .inr ⟨rfl, hvalid, rfl⟩, by
            rw [hend, List.append_nil]⟩
        · cases hp
  · rintro ⟨rfl, credentials, wifi, policy, hmax, hcredentials, hwifi, hpolicy, rfl⟩
    have hcommon := (@decodeCommonBody_iff _ policy { value with autoLockDays := none }).2
      ⟨credentials, wifi, hmax, hcredentials, hwifi, rfl, rfl⟩
    unfold decodeBody
    rw [(readU16_inverts _ version _).2 ⟨_, rfl, rfl⟩]
    simp only [Option.bind_eq_bind, Option.bind_some, ne_eq, not_true_eq_false, if_false]
    rw [hcommon]
    simp only [Option.bind_some]
    rcases hpolicy with ⟨rfl, hnone, rfl⟩ | ⟨rfl, hvalid, rfl⟩
    · simp [← hnone]
    · have hread := (readAutoLockDays_inverts (encodeAutoLockDays value.autoLockDays)
        value.autoLockDays []).2 ⟨_, if_pos hvalid, (List.append_nil _).symm⟩
      rw [if_neg hne, hread]
      simp

/-- **The decoder accepts what the encoder writes, and gives it back.** -/
theorem decodePlaintext_iff {encoded : List UInt8} {value : VaultPlaintext} {format : UInt16} :
    decodePlaintext encoded = some (value, format) ↔ encodePlaintext value format = some encoded := by
  rw [encodePlaintext_iff, decodePlaintext_eq]
  constructor
  · intro h
    split at h
    · cases h
    · rename_i magic input hmagic
      obtain ⟨-, rfl⟩ := readBytes_iff.1 hmagic
      split at h
      · rename_i hm
        obtain ⟨rfl, credentials, wifi, policy, hmax, hcredentials, hwifi, hpolicy, rfl⟩ :=
          (decodeBody_iff (.inl rfl)).1 h
        exact ⟨credentials, wifi, policy, hmax, hcredentials, hwifi, hpolicy, by rw [hm]; rfl⟩
      · split at h
        · rename_i hm
          obtain ⟨rfl, credentials, wifi, policy, hmax, hcredentials, hwifi, hpolicy, rfl⟩ :=
            (decodeBody_iff (.inr rfl)).1 h
          exact ⟨credentials, wifi, policy, hmax, hcredentials, hwifi, hpolicy, by rw [hm]; rfl⟩
        · cases h
  · rintro ⟨credentials, wifi, policy, hmax, hcredentials, hwifi, hpolicy, rfl⟩
    have hformat : format = vaultFormatVersion1 ∨ format = vaultFormatVersion2 :=
      hpolicy.imp (·.1) (·.1)
    have hbody := (decodeBody_iff hformat).2
      ⟨rfl, credentials, wifi, policy, hmax, hcredentials, hwifi, hpolicy, rfl⟩
    rw [readBytes_iff.2 ⟨magic_length format, rfl⟩]
    dsimp only
    rcases hformat with rfl | rfl
    · rw [if_pos (by rfl)]
      exact hbody
    · rw [if_neg (show plaintextMagic vaultFormatVersion2 ≠ plaintextMagicV1 from magic_ne),
        if_pos (by rfl)]
      exact hbody

/-! ## The bytes of one account -/

/-- The bytes of an account inside a plaintext. -/
def recordBytes (r : CredentialRecord) : List UInt8 :=
  r.credentialId.1 ++ (appendBE 2 r.secret.length ++ r.secret) ++
    (appendBE 2 r.issuer.length ++ r.issuer) ++ (appendBE 2 r.account.length ++ r.account) ++
    (appendBE 2 r.displayName.length ++ r.displayName) ++ [1, r.digits] ++
    appendBE 2 r.periodSeconds.toNat ++ appendBE 2 r.manualOrder.toNat

theorem appendSizedBytes_some {maximum : Nat} {value bytes : List UInt8}
    (h : appendSizedBytes maximum value = some bytes) :
    bytes = appendBE 2 value.length ++ value := by
  unfold appendSizedBytes at h
  split at h
  · cases h
  · cases h
    rfl

theorem appendSizedText_some {value : Text} {bytes : List UInt8}
    (h : appendSizedText value = some bytes) : bytes = appendBE 2 value.length ++ value := by
  unfold appendSizedText at h
  split at h
  · exact appendSizedBytes_some h
  · cases h

theorem encodeCredential_some {ids : List CredentialId} {r : CredentialRecord} {bytes : List UInt8}
    (h : encodeCredential ids r = some bytes) :
    bytes = recordBytes r ∧ r.credentialId ∉ ids ∧ encodeCredential [] r = some bytes := by
  have hbody := h
  unfold encodeCredential at hbody
  split at hbody
  · cases hbody
  rename_i hguard
  simp only [Bool.or_eq_true, Bool.not_eq_true', List.contains_iff_mem, not_or,
    Bool.not_eq_false] at hguard
  have hempty : ¬(!validCredential r || ([] : List CredentialId).contains r.credentialId) = true := by
    simp [hguard.1]
  refine ⟨?_, hguard.2, ?_⟩
  · obtain ⟨secret, hsecret, hbody⟩ := Option.bind_eq_some_iff.1 hbody
    obtain ⟨issuer, hissuer, hbody⟩ := Option.bind_eq_some_iff.1 hbody
    obtain ⟨account, haccount, hbody⟩ := Option.bind_eq_some_iff.1 hbody
    obtain ⟨displayName, hdisplay, hbody⟩ := Option.bind_eq_some_iff.1 hbody
    cases hbody
    rw [appendSizedBytes_some hsecret, appendSizedText_some hissuer, appendSizedText_some haccount,
      appendSizedText_some hdisplay]
    rfl
  · rw [encodeCredential, if_neg hempty]
    exact hbody

/-- The accounts stand one after the other and have distinct identifiers. -/
theorem encodeCredentials_some {ids : List CredentialId} {rs : List CredentialRecord}
    {bytes : List UInt8} (h : encodeCredentials ids rs = some bytes) :
    bytes = rs.flatMap recordBytes ∧ (rs.map (·.credentialId)).Nodup ∧
      ∀ r ∈ rs, r.credentialId ∉ ids ∧ encodeCredential [] r = some (recordBytes r) := by
  induction rs generalizing ids bytes with
  | nil =>
    cases h
    exact ⟨rfl, List.nodup_nil, by simp⟩
  | cons r rs ih =>
    obtain ⟨head, hhead, h⟩ := Option.bind_eq_some_iff.1 h
    obtain ⟨tail, htail, h⟩ := Option.bind_eq_some_iff.1 h
    cases h
    obtain ⟨rfl, hfresh, hencode⟩ := encodeCredential_some hhead
    obtain ⟨rfl, hnodup, hrest⟩ := ih htail
    refine ⟨by rw [List.flatMap_cons], ?_, ?_⟩
    · rw [List.map_cons, List.nodup_cons]
      refine ⟨fun hmem => ?_, hnodup⟩
      obtain ⟨other, hother, heq⟩ := List.mem_map.1 hmem
      exact (hrest other hother).1 (by simp [heq])
    · intro other hother
      rcases List.mem_cons.1 hother with rfl | hother
      · exact ⟨hfresh, hencode⟩
      · obtain ⟨hnot, hbytes⟩ := hrest other hother
        exact ⟨fun hmem => hnot (List.mem_append_left _ hmem), hbytes⟩

/-- The bytes of an account determine it. -/
theorem recordBytes_injective {r r' : CredentialRecord}
    (h : encodeCredential [] r = some (recordBytes r))
    (h' : encodeCredential [] r' = some (recordBytes r')) (heq : recordBytes r = recordBytes r') :
    r = r' := by
  have hread := (readCredential_inverts [] (recordBytes r) r []).2
    ⟨_, h, (List.append_nil _).symm⟩
  have hread' := (readCredential_inverts [] (recordBytes r') r' []).2
    ⟨_, h', (List.append_nil _).symm⟩
  rw [heq, hread'] at hread
  exact ((Prod.mk.inj (Option.some.inj hread)).1).symm

/-- **An encoded plaintext is its accounts between a header and a rest.** -/
theorem decodePlaintext_accounts {encoded : List UInt8} {p : VaultPlaintext} {format : UInt16}
    (h : decodePlaintext encoded = some (p, format)) :
    (∃ rest, encoded = plaintextMagic format ++ (appendBE 2 format.toNat ++
      (appendBE 2 p.credentials.length ++ (p.credentials.flatMap recordBytes ++ rest)))) ∧
    (p.credentials.map (·.credentialId)).Nodup ∧
    ∀ r ∈ p.credentials, encodeCredential [] r = some (recordBytes r) := by
  obtain ⟨credentials, wifi, policy, -, hcredentials, -, -, rfl⟩ :=
    encodePlaintext_iff.1 (decodePlaintext_iff.1 h)
  obtain ⟨rfl, hnodup, hrecords⟩ := encodeCredentials_some hcredentials
  exact ⟨⟨wifi ++ policy, rfl⟩, hnodup, fun r hr => (hrecords r hr).2⟩

end M5Auth.Vault
