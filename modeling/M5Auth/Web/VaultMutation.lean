import M5Auth.Web.Base64Url
import M5Auth.Web.VaultFormat

/-!
# Changes of the Vault in the Web application

The calls of `CanonicalDeviceManagement` that change the Vault. Each decrypts the stored Vault,
changes its plaintext and encodes it again; `StoredVault` is the stored Vault with its decrypted
plaintext. A call returns the Vault that the Device is asked to commit, or what it throws before it
stages anything.
-/

namespace M5Auth.Web

/-- The Vault of the browser's state, decrypted. -/
structure StoredVault where
  version : VaultFormatVersion
  generation : Nat
  plaintext : List UInt8
  deriving DecidableEq

/-- `nextMutationVaultFormat`. `canWriteFormat2` is what the Device advertises. -/
def nextMutationVaultFormat (version : VaultFormatVersion) (canWriteFormat2 requireFormat2 : Bool) :
    Except Thrown VaultFormatVersion :=
  match version with
  | .current => do
    require canWriteFormat2
      "Device does not advertise Vault Format 2 write support for the active canonical Vault"
    .ok .current
  | .legacy =>
    if canWriteFormat2 then .ok .current
    else do
      require (!requireFormat2)
        ("Automatic LOCK settings require Device firmware that explicitly supports Vault " ++
          "Format 2")
      .ok .legacy

/-- `mutateVault`, up to the Vault that it stages. -/
def mutateVault (vault : StoredVault) (canWriteFormat2 : Bool)
    (mutator : VaultPlaintext → Except Thrown VaultPlaintext) (requireFormat2 : Bool) :
    Except Thrown StoredVault := do
  let targetFormat ← nextMutationVaultFormat vault.version canWriteFormat2 requireFormat2
  let plaintext ← decodeVaultPlaintext vault.plaintext (some vault.version)
  let plaintext ← mutator plaintext
  let encoded ← encodeVaultPlaintext plaintext targetFormat
  let nextGeneration := vault.generation + 1
  require (decide (nextGeneration ≤ 0xffffffffffffffff)) "Canonical Vault generation overflow"
  .ok { version := targetFormat, generation := nextGeneration, plaintext := encoded }

/-- `setWifi`. -/
def setWifi (vault : StoredVault) (canWriteFormat2 : Bool) (ssid password : JsString) :
    Except Thrown StoredVault := do
  require (!(ssid.length == 0 || decide (ssid.length > 32) || password.length == 0 ||
    decide (password.length > 64))) "Invalid Wi-Fi credentials"
  mutateVault vault canWriteFormat2 (fun plaintext =>
    .ok { plaintext with wifi := some ⟨ssid, password⟩ }) false

/-! ## What a call stages -/

theorem mutateVault_ok {vault vault' : StoredVault} {canWriteFormat2 requireFormat2 : Bool}
    {mutator : VaultPlaintext → Except Thrown VaultPlaintext} :
    mutateVault vault canWriteFormat2 mutator requireFormat2 = .ok vault' ↔
      ∃ value value', nextMutationVaultFormat vault.version canWriteFormat2 requireFormat2 =
          .ok vault'.version ∧
        decodeVaultPlaintext vault.plaintext (some vault.version) = .ok value ∧
        mutator value = .ok value' ∧
        encodeVaultPlaintext value' vault'.version = .ok vault'.plaintext ∧
        vault'.generation = vault.generation + 1 ∧ vault.generation + 1 ≤ 0xffffffffffffffff := by
  unfold mutateVault
  constructor
  · intro h
    obtain ⟨targetFormat, hformat, h⟩ := bind_ok.1 h
    obtain ⟨value, hvalue, h⟩ := bind_ok.1 h
    obtain ⟨value', hvalue', h⟩ := bind_ok.1 h
    obtain ⟨encoded, hencoded, h⟩ := bind_ok.1 h
    obtain ⟨hmax, h⟩ := require_bind.1 h
    cases h
    exact ⟨value, value', hformat, hvalue, hvalue', hencoded, rfl, of_decide_eq_true hmax⟩
  · rintro ⟨value, value', hformat, hvalue, hvalue', hencoded, hgeneration, hmax⟩
    refine bind_ok.2 ⟨_, hformat, bind_ok.2 ⟨_, hvalue, bind_ok.2 ⟨_, hvalue', bind_ok.2 ⟨_,
      hencoded, require_bind.2 ⟨decide_eq_true hmax, ?_⟩⟩⟩⟩⟩
    rw [← hgeneration]

end M5Auth.Web
