import M5Auth.Time.TimeService
import M5Auth.Web.Proof.VaultRoundTrip
import M5Auth.Web.VaultMutation

/-!
# Wi-Fi settings between the Web application and the Device

`setWifi` counts UTF-16 code units, the Vault holds UTF-8, and the Device compares bytes with the
driver's fields. The main result is `set_wifi_usable_iff`: the Device can use the settings that a
call has committed exactly if their UTF-8 forms fit these fields.
-/

namespace M5Auth.Web

open Time (Network SyncResult TrustedClock connectAndSync fitsStation)
open Vault (decodePlaintext WifiRecord)

/-! ## The Device -/

/-- The length check of `connect_and_sync`, as bounds. -/
theorem fitsStation_iff {wifi : WifiRecord} :
    fitsStation wifi = true ↔
      wifi.ssid ≠ [] ∧ wifi.ssid.length ≤ 32 ∧ wifi.password ≠ [] ∧ wifi.password.length ≤ 64 := by
  simp only [fitsStation, Time.stationSsidBytes, Time.stationPasswordBytes, Bool.not_eq_true',
    Bool.or_eq_false_iff, List.isEmpty_eq_false_iff, decide_eq_false_iff_not, Nat.not_lt, gt_iff_lt,
    ne_eq, and_assoc]

/-- Some synchronization with the settings succeeds. -/
def CanSync (wifi : WifiRecord) : Prop :=
  ∃ clock network, (connectAndSync clock wifi network).1 = .ok

/-- A network that gives the earliest time the clock takes. -/
def someNetwork : Network where
  initialized := true
  connected := true
  sntpSeconds := some 1577836800
  sampledUs := 0

theorem canSync_iff {wifi : WifiRecord} : CanSync wifi ↔ fitsStation wifi = true := by
  constructor
  · rintro ⟨clock, network, hok⟩
    by_contra hfits
    rw [connectAndSync, if_pos (by simpa using hfits)] at hok
    cases hok
  · intro hfits
    refine ⟨{}, someNetwork, ?_⟩
    rw [connectAndSync, if_neg (by simp [hfits])]
    decide

/-! ## The settings that a call commits -/

/-- The Device decodes settings from the plaintext that it can synchronize with. -/
def UsableWifi (vault : StoredVault) : Prop :=
  ∃ p wifi, decodePlaintext vault.plaintext = some (p, vault.version.format) ∧
    p.wifi = some wifi ∧ fitsStation wifi = true ∧ CanSync wifi

variable {vault vault' : StoredVault} {canWriteFormat2 : Bool} {ssid password : JsString}

theorem textEncode_ne_nil {s : JsString} (h : s.length ≠ 0) : textEncode s ≠ [] := by
  intro hnil
  cases hscalars : Unicode.scalars s with
  | nil => exact h (by rw [Unicode.scalars_eq_nil.1 hscalars]; rfl)
  | cons c text =>
    rw [textEncode, hscalars, Unicode.encodeUtf8_cons] at hnil
    have hc : String.utf8EncodeChar c = [] := (List.append_eq_nil_iff.1 hnil).1
    have hsize := congrArg List.length hc
    rw [String.length_utf8EncodeChar] at hsize
    exact absurd hsize (Nat.pos_iff_ne_zero.1 c.utf8Size_pos)

/-- What the Device decodes after a call are the UTF-8 forms of its arguments. -/
theorem setWifi_decodes (h : setWifi vault canWriteFormat2 ssid password = .ok vault') :
    ssid.length ≠ 0 ∧ password.length ≠ 0 ∧
      ∃ p, decodePlaintext vault'.plaintext = some (p, vault'.version.format) ∧
        p.wifi = some ⟨textEncode ssid, textEncode password⟩ := by
  obtain ⟨hlengths, hmutate⟩ := require_bind.1 h
  obtain ⟨value, value', -, -, hvalue', hencoded, -, -⟩ := mutateVault_ok.1 hmutate
  cases hvalue'
  obtain ⟨p, hsame, hp⟩ := encodeVaultPlaintext_ok hencoded
  refine ⟨fun hzero => by simp [hzero] at hlengths, fun hzero => by simp [hzero] at hlengths, p,
    Vault.decodePlaintext_iff.2 hp, ?_⟩
  have hwifi := hsame.wifi
  cases hr : p.wifi with
  | none =>
    rw [hr] at hwifi
    exact hwifi.elim
  | some r =>
    obtain ⟨name, word⟩ := r
    rw [hr] at hwifi
    obtain ⟨hname, hword⟩ := hwifi
    dsimp only at hname hword
    rw [hname, hword]

/-- **Accepted settings are usable exactly if their UTF-8 forms fit the driver's fields.** -/
theorem set_wifi_usable_iff (h : setWifi vault canWriteFormat2 ssid password = .ok vault') :
    UsableWifi vault' ↔
      (textEncode ssid).length ≤ 32 ∧ (textEncode password).length ≤ 64 := by
  obtain ⟨hssid, hpassword, p, hp, hwifi⟩ := setWifi_decodes h
  constructor
  · rintro ⟨p', wifi, hp', hwifi', hfits, -⟩
    rw [hp] at hp'
    cases hp'
    rw [hwifi] at hwifi'
    cases hwifi'
    obtain ⟨-, hname, -, hword⟩ := fitsStation_iff.1 hfits
    exact ⟨hname, hword⟩
  · rintro ⟨hname, hword⟩
    have hfits : fitsStation ⟨textEncode ssid, textEncode password⟩ = true :=
      fitsStation_iff.2 ⟨textEncode_ne_nil hssid, hname, textEncode_ne_nil hpassword, hword⟩
    exact ⟨p, _, hp, hwifi, hfits, canSync_iff.2 hfits⟩

/-- A Vault of format 2 without accounts, for a network or none. -/
def networkOnly (generation : Nat) (wifi : List UInt8) : StoredVault where
  version := .current
  generation := generation
  plaintext :=
    [0x4d, 0x35, 0x41, 0x55, 0x54, 0x48, 0x2d, 0x56, 0x4c, 0x54, 0x2d, 0x50, 0x54, 0x32, 0, 0, 2,
      0, 0] ++ wifi ++ [0]

/-- Ten characters that are three bytes each in UTF-8, then two of one byte. -/
def fittingName : JsString := List.replicate 10 0x65e5 ++ literal "AB"

/-- Twenty-one such characters, then one of one byte. -/
def fittingPassword : JsString := List.replicate 21 0x65e5 ++ literal "A"

/-- Settings of 32 and 64 bytes fit. -/
theorem set_wifi_usable_multibyte : (textEncode fittingName).length = 32 ∧
    (textEncode fittingPassword).length = 64 ∧
    UsableWifi (networkOnly 2 ([1, 0, 32] ++ textEncode fittingName ++
      [0, 64] ++ textEncode fittingPassword)) :=
  have haccepted : setWifi (networkOnly 1 [0]) true fittingName fittingPassword =
      .ok (networkOnly 2 ([1, 0, 32] ++ textEncode fittingName ++
        [0, 64] ++ textEncode fittingPassword)) := toOption_some (by decide +kernel)
  ⟨by decide +kernel, by decide +kernel, (set_wifi_usable_iff haccepted).2 (by decide +kernel)⟩

/-- A name of eleven characters that are three bytes each in UTF-8. -/
def longName : JsString := List.replicate 11 0x65e5

/-- The application accepts eleven characters, the Device does not take their 33 bytes. -/
theorem set_wifi_unusable : ¬∀ (vault vault' : StoredVault) (canWriteFormat2 : Bool)
    (ssid password : JsString), Unicode.WellFormed ssid = true →
      Unicode.WellFormed password = true →
      setWifi vault canWriteFormat2 ssid password = .ok vault' → UsableWifi vault' := by
  intro hall
  have haccepted : setWifi (networkOnly 1 [0]) true longName (literal "B") =
      .ok (networkOnly 2 ([1, 0, 33] ++ textEncode longName ++ [0, 1, 0x42])) :=
    toOption_some (by decide +kernel)
  obtain ⟨p, wifi, hp, hwifi, hfits, -⟩ :=
    hall _ _ _ _ _ (by decide +kernel) (by decide +kernel) haccepted
  obtain ⟨-, -, p', hp', hwifi'⟩ := setWifi_decodes haccepted
  rw [hp] at hp'
  cases hp'
  rw [hwifi] at hwifi'
  cases hwifi'
  exact absurd (fitsStation_iff.1 hfits).2.1 (by decide +kernel)

end M5Auth.Web
