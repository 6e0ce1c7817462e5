import M5Auth.Web.Proof.Keeping

/-!
# The candidates of the operations

What an operation stages opens with the browser's key and with the Passphrase of the record that it
started from, and advances that record (`Successor`).
-/

namespace M5Auth.Web

open CanonicalDeviceManagement

variable {platform : Platform} {hello : CanonicalHelloData} {passphrase : JsString}
  {base candidate : BrowserCanonicalState}

/-- A candidate of the next generation, for the same registration. -/
structure Successor (platform : Platform) (base candidate : BrowserCanonicalState) : Prop where
  vaultId : candidate.vault.vaultId = base.vault.vaultId
  generation : candidate.vault.generation = base.vault.generation + 1
  binding : SameBinding base candidate
  opens : ∀ passphrase, Opens platform passphrase base → ∃ passphrase',
    Opens platform passphrase' base ∧ Opens platform passphrase' candidate

theorem Opens.encoded {vmk encoded : List UInt8} {value : VaultPlaintext}
    (hframed : Framed candidate)
    (hwraps : WrapsVmk platform candidate.trustedBrowser.buk candidate.trustedBrowser.wrappedVmk
      candidate.vault.vaultId candidate.trustedBrowser.registrationId
      candidate.trustedBrowser.epoch vmk)
    (hunwrap : unwrapVmkWithPassphrase platform candidate.recoveryWrappedVmk passphrase = .ok vmk)
    (hencoded : encodeVaultPlaintext value candidate.vault.vaultFormatVersion = .ok encoded)
    (hopens : decryptVault platform candidate.vault vmk = .ok encoded) :
    Opens platform passphrase candidate := by
  obtain ⟨v, hv⟩ := decodes_encoded hencoded
  exact ⟨hframed, vmk, encoded, v, hwraps, hunwrap, hopens, hv⟩

theorem mutateVault_successor (hp : platform.Correct) {nonce : List UInt8}
    {mutator : VaultPlaintext → Except Thrown VaultPlaintext} {requireFormat2 : Bool}
    (h : CanonicalDeviceManagement.mutateVault platform nonce hello mutator requireFormat2 base =
      .ok candidate) : Successor platform base candidate := by
  obtain ⟨_, -, h⟩ := bind_ok.1 h
  obtain ⟨format, -, h⟩ := bind_ok.1 h
  obtain ⟨vmk, hvmk, h⟩ := bind_ok.1 h
  obtain ⟨decrypted, -, h⟩ := bind_ok.1 h
  obtain ⟨v, -, h⟩ := bind_ok.1 h
  obtain ⟨v', -, h⟩ := bind_ok.1 h
  obtain ⟨encoded, hencoded, h⟩ := bind_ok.1 h
  obtain ⟨-, h⟩ := require_bind.1 h
  obtain ⟨vault, hvault, h⟩ := bind_ok.1 h
  obtain ⟨hframed, rfl⟩ := sanitize_ok.1 h
  have hsealed := decryptVault_sealed hp hvault
  obtain ⟨⟨⟩, hbase, -⟩ := bind_ok.1 hvmk
  have hwraps := (unwrap_iff hbase).1 hvmk
  refine ⟨hsealed.vaultId, hsealed.generation, ⟨rfl, rfl⟩, fun passphrase hopens => ?_⟩
  refine ⟨passphrase, hopens, .encoded hframed ?_ ?_ (hsealed.version ▸ hencoded) hsealed.opens⟩
  · rw [show vault.vaultId = base.vault.vaultId from hsealed.vaultId]
    exact hwraps
  · obtain ⟨-, vmk', -, -, hwraps', hunwrap, -⟩ := hopens
    rw [hwraps.unique hwraps']
    exact hunwrap

/-- A re-keyed state: another Vault and other wrappers, of the new key. -/
theorem rekey_shape (hp : platform.Correct) {nonce vmk : List UInt8}
    {vault : EncryptedVaultEnvelope} {wrapper : PassphraseWrappedVmk}
    (h : rekeyTrustedBrowserState platform nonce base vault wrapper vmk = .ok candidate) :
    Framed candidate ∧ ∃ wrappedVmk,
      candidate = { base with
        vault := vault
        recoveryWrappedVmk := wrapper
        trustedBrowser := { base.trustedBrowser with wrappedVmk := wrappedVmk } } ∧
      WrapsVmk platform base.trustedBrowser.buk wrappedVmk base.vault.vaultId
        base.trustedBrowser.registrationId base.trustedBrowser.epoch vmk := by
  obtain ⟨-, -, hwraps⟩ := rekey_ok hp h
  obtain ⟨safe, hsafe, hrest⟩ := bind_ok.1 h
  obtain ⟨-, rfl⟩ := sanitize_ok.1 hsafe
  iterate 4 replace hrest := (require_bind.1 hrest).2
  obtain ⟨aad, -, hrest⟩ := bind_ok.1 hrest
  replace hrest := (require_bind.1 hrest).2
  obtain ⟨hframed, rfl⟩ := sanitize_ok.1 hrest
  exact ⟨hframed, _, rfl, hwraps⟩

theorem rotateVmk_successor (hp : platform.Correct) {draw : RekeyDraw}
    (h : CanonicalDeviceManagement.rotateVmk platform draw hello passphrase base = .ok candidate) :
    Successor platform base candidate := by
  replace h := (require_bind.1 h).2
  obtain ⟨_, -, h⟩ := bind_ok.1 h
  obtain ⟨format, -, h⟩ := bind_ok.1 h
  obtain ⟨vmk, hvmk, h⟩ := bind_ok.1 h
  replace h := (require_bind.1 h).2
  obtain ⟨vmk', hverified, h⟩ := bind_ok.1 h
  obtain ⟨hsame, h⟩ := require_bind.1 h
  obtain ⟨decrypted, -, h⟩ := bind_ok.1 h
  obtain ⟨v, -, h⟩ := bind_ok.1 h
  obtain ⟨encoded, hencoded, h⟩ := bind_ok.1 h
  obtain ⟨vault, hvault, h⟩ := bind_ok.1 h
  obtain ⟨wrapper, hwrapper, hrekey⟩ := bind_ok.1 h
  have hsealed := decryptVault_sealed hp hvault
  obtain ⟨⟨⟩, hbase, -⟩ := bind_ok.1 hvmk
  have hwraps := (unwrap_iff hbase).1 hvmk
  obtain rfl := sameBytes_iff.1 hsame
  obtain ⟨hframed, wrappedVmk, rfl, hwraps'⟩ := rekey_shape hp hrekey
  refine ⟨hsealed.vaultId, hsealed.generation, ⟨rfl, rfl⟩, fun _ hopens => ?_⟩
  obtain ⟨-, vmk₁, decrypted₁, v₁, hwraps₁, -, hdecrypted₁, hv₁⟩ := hopens
  have hvmk₁ := hwraps.unique hwraps₁
  refine ⟨passphrase, ⟨hbase, vmk, decrypted₁, v₁, hwraps, hverified, ?_, hv₁⟩,
    .encoded hframed ?_ ?_ (hsealed.version ▸ hencoded) hsealed.opens⟩
  · rw [hvmk₁]
    exact hdecrypted₁
  · rw [show vault.vaultId = base.vault.vaultId from hsealed.vaultId]
    exact hwraps'
  · exact unwrapVmkWithPassphrase_wrapped hp hwrapper wrapper.vaultFormatVersion

/-! ## New registrations -/

/-- What `createBrowserCanonicalState` makes of a Vault and the key that opens it. -/
theorem create_opens (hp : platform.Correct) {draw : RegistrationDraw}
    {vault : EncryptedVaultEnvelope} {wrapped : PassphraseWrappedVmk} {vmk decrypted : List UInt8}
    {epoch : Nat} {status : TrustedBrowserStatus} {metadata : Option BrowserDeviceMetadata}
    {v : VaultPlaintext}
    (h : createBrowserCanonicalState platform draw vault wrapped vmk epoch status metadata =
      .ok candidate)
    (hunwrap : unwrapVmkWithPassphrase platform wrapped passphrase = .ok vmk)
    (hdecrypted : decryptVault platform vault vmk = .ok decrypted)
    (hv : decodeVaultPlaintext decrypted (some vault.vaultFormatVersion) = .ok v) :
    Opens platform passphrase candidate := by
  obtain ⟨hframed, wrappedVmk, hwrap, rfl⟩ := create_ok h
  exact ⟨hframed, vmk, decrypted, v, wrapVmkWithBuk_wraps hp hwrap, hunwrap, hdecrypted, hv⟩

/-- The fields that `createBrowserCanonicalState` sets. -/
theorem create_fields {draw : RegistrationDraw} {vault : EncryptedVaultEnvelope}
    {wrapped : PassphraseWrappedVmk} {vmk : List UInt8} {epoch : Nat}
    {status : TrustedBrowserStatus} {metadata : Option BrowserDeviceMetadata}
    (h : createBrowserCanonicalState platform draw vault wrapped vmk epoch status metadata =
      .ok candidate) :
    candidate.vault = vault ∧ candidate.deviceMetadata = metadata ∧
      candidate.trustedBrowser.onDevice =
        ⟨candidate.trustedBrowser.registrationId, epoch,
          candidate.trustedBrowser.brkPublicKeyRaw⟩ := by
  obtain ⟨-, wrappedVmk, -, rfl⟩ := create_ok h
  exact ⟨rfl, rfl, rfl⟩

/-- A candidate that registers a browser on a Device without a Vault. -/
structure FirstRegistration (platform : Platform) (passphrase : JsString) (deviceId : JsString)
    (vault : EncryptedVaultEnvelope) (candidate : BrowserCanonicalState) : Prop where
  opens : Opens platform passphrase candidate
  vault : candidate.vault = vault
  device : candidate.belongsTo deviceId = true
  epoch : candidate.trustedBrowser.epoch = 1

theorem belongsTo_some {deviceId : JsString} (h : candidate.deviceMetadata = some ⟨deviceId⟩) :
    candidate.belongsTo deviceId = true := by
  rw [BrowserCanonicalState.belongsTo, h]
  exact beq_self_eq_true _

theorem initialProvision_registers (hp : platform.Correct) {draw : ProvisionDraw}
    {imported : List ImportedCredential}
    (h : CanonicalDeviceManagement.initialProvision platform draw hello imported passphrase =
      .ok candidate) :
    hello.vaultPresent = false ∧ hello.registrationPresent = false ∧
      candidate.vault.vaultId = draw.vaultId.1 ∧
      FirstRegistration platform passphrase hello.deviceId candidate.vault candidate := by
  obtain ⟨hclean, h⟩ := require_bind.1 h
  replace h := (require_bind.1 h).2
  obtain ⟨encoded, hencoded, h⟩ := bind_ok.1 h
  obtain ⟨vault, hvault, h⟩ := bind_ok.1 h
  obtain ⟨wrapper, hwrapper, h⟩ := bind_ok.1 h
  have hsealed := decryptVault_sealed hp hvault
  obtain ⟨hsame, hdevice, hregistration⟩ := create_fields h
  obtain ⟨v, hv⟩ := decodes_encoded (hsealed.version.symm ▸ hencoded)
  rw [Bool.not_eq_true', Bool.or_eq_false_iff] at hclean
  refine ⟨hclean.1, hclean.2, ?_, ?_, rfl, belongsTo_some hdevice,
    congrArg DeviceRegistration.epoch hregistration⟩
  · rw [hsame]
    exact hsealed.vaultId
  · exact create_opens hp h
      (unwrapVmkWithPassphrase_wrapped hp hwrapper wrapper.vaultFormatVersion) hsealed.opens hv

theorem recover_registers (hp : platform.Correct) {draw : RegistrationDraw} {vmk : List UInt8}
    {deviceId : JsString} (hbase : Opens platform passphrase base)
    (hvmk : unwrapVmkForTrustedBrowser platform base = .ok vmk)
    (h : createBrowserCanonicalState platform draw base.vault base.recoveryWrappedVmk vmk 1 .active
      (some ⟨deviceId⟩) = .ok candidate) :
    FirstRegistration platform passphrase deviceId base.vault candidate := by
  obtain ⟨hframed, vmk', decrypted, v, hwraps, hunwrap, hdecrypted, hv⟩ := hbase
  obtain rfl := ((unwrap_iff hframed).1 hvmk).unique hwraps
  obtain ⟨hsame, hdevice, hregistration⟩ := create_fields h
  exact ⟨create_opens hp h hunwrap hdecrypted hv, hsame, belongsTo_some hdevice,
    congrArg DeviceRegistration.epoch hregistration⟩

theorem Opens.activated {state : BrowserCanonicalState} {metadata : Option BrowserDeviceMetadata}
    (h : Opens platform passphrase state)
    (hframed : Framed { state.activated with deviceMetadata := metadata }) :
    Opens platform passphrase { state.activated with deviceMetadata := metadata } :=
  ⟨hframed, h.opens⟩

/-- An imported package opens with the Passphrase that was entered. -/
theorem import_opens (hp : platform.Correct) {draw : RegistrationDraw} {serialized : JsString}
    (h : importRecoveryPackage platform draw serialized passphrase = .ok candidate) :
    Opens platform passphrase candidate := by
  obtain ⟨parsed, -, h⟩ := bind_ok.1 h
  obtain ⟨vmk, hvmk, h⟩ := bind_ok.1 h
  obtain ⟨decrypted, hdecrypted, h⟩ := bind_ok.1 h
  obtain ⟨v, hv, h⟩ := bind_ok.1 h
  exact create_opens hp (require_bind.1 h).2 hvmk hdecrypted hv

/-! ## Another Passphrase -/

/-- A state opens with a new Passphrase, if the current one gave the browser's own key. -/
theorem changePassphrase_opens (hp : platform.Correct) {salt nonce : List UInt8}
    {current chosen : JsString}
    (h : changeRecoveryPassphrase platform salt nonce base current chosen = .ok candidate)
    (hbase : Opens platform passphrase base)
    (hcurrent : ∀ vmk, unwrapVmkWithPassphrase platform base.recoveryWrappedVmk current = .ok vmk →
      unwrapVmkForTrustedBrowser platform base = .ok vmk) :
    SameContent candidate base ∧ Opens platform chosen candidate := by
  obtain ⟨_, hsafe, hrest⟩ := bind_ok.1 h
  obtain ⟨hframed, rfl⟩ := sanitize_ok.1 hsafe
  obtain ⟨vmk, hvmk, hrest⟩ := bind_ok.1 hrest
  obtain ⟨_, -, hrest⟩ := bind_ok.1 hrest
  obtain ⟨wrapper, hwrapper, hrest⟩ := bind_ok.1 hrest
  obtain ⟨hframed', rfl⟩ := sanitize_ok.1 hrest
  obtain ⟨-, vmk', decrypted, v, hwraps, -, hdecrypted, hv⟩ := hbase
  obtain rfl := ((unwrap_iff hframed).1 (hcurrent vmk hvmk)).unique hwraps
  exact ⟨⟨rfl, rfl, rfl⟩, hframed', vmk, decrypted, v, hwraps,
    unwrapVmkWithPassphrase_wrapped hp hwrapper wrapper.vaultFormatVersion, hdecrypted, hv⟩

end M5Auth.Web
