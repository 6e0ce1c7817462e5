import M5Auth.Web.BrowserVault

/-!
# What is sealed is opened

The Web application's three seals and their openings, on a platform that is `Correct`: the Vault
under the VMK (`decryptVault_sealed`), the VMK under the browser's key (`unwrap_wrapVmkWithBuk`) and
under the Passphrase (`unwrapVmkWithPassphrase_wrapped`). `Framed` is a state that passes
`validateStateFraming`.
-/

namespace M5Auth.Web

variable {platform : Platform}

/-! ## Comparisons and checks -/

theorem sameBytes_iff {left right : List UInt8} : sameBytes left right = true ↔ left = right := by
  rw [sameBytes, Bool.and_eq_true, beq_iff_eq, beq_iff_eq, Bytes.foldl_or_eq_zero]
  constructor
  · rintro ⟨hlength, -, hzero⟩
    exact (Bytes.zipWith_xor_zero hlength).1 hzero
  · rintro rfl
    exact ⟨rfl, rfl, (Bytes.zipWith_xor_zero rfl).2 rfl⟩

theorem sameBrowserWrappedVmk_iff {left right : BrowserWrappedVmk} :
    sameBrowserWrappedVmk left right = true ↔ left = right := by
  cases left
  cases right
  simp [sameBrowserWrappedVmk, sameBytes_iff, and_assoc]

theorem assertLength_bind_ok {α : Type} {value : List UInt8} {expected : Nat} {field : String}
    {rest : Except Thrown α} {result : α} :
    (do assertLength value expected field; rest) = .ok result ↔
      value.length = expected ∧ rest = .ok result := by
  rw [assertLength, require_bind, beq_iff_eq]

/-- The state passes `validateStateFraming`. -/
def Framed (state : BrowserCanonicalState) : Prop := validateStateFraming state = .ok ()

theorem sanitize_ok {state state' : BrowserCanonicalState} :
    sanitizeBrowserCanonicalState state = .ok state' ↔ Framed state ∧ state' = state := by
  rw [sanitizeBrowserCanonicalState, bind_ok, Framed]
  constructor
  · rintro ⟨_, hframed, hstate⟩
    cases hstate
    exact ⟨hframed, rfl⟩
  · rintro ⟨hframed, rfl⟩
    exact ⟨(), hframed, rfl⟩

/-! ## AES-GCM -/

/-- What `splitCiphertextAndTag` takes apart, `joinCiphertextAndTag` joins. -/
theorem split_ok {combined ciphertext tag : List UInt8}
    (h : splitCiphertextAndTag combined = .ok (ciphertext, tag)) :
    ciphertext ++ tag = combined ∧ tag.length = aesGcmTagBytes := by
  obtain ⟨hlength, hsplit⟩ := require_bind.1 h
  cases hsplit
  rw [decide_eq_true_eq] at hlength
  refine ⟨List.take_append_drop _ _, ?_⟩
  rw [List.length_drop]
  omega

theorem splitWrappedVmk_eq (combined : List UInt8) (ciphertext tag : List UInt8) :
    splitWrappedVmk combined = .ok (ciphertext, tag) ↔
      splitCiphertextAndTag combined = .ok (ciphertext, tag) := by
  rw [splitWrappedVmk, splitCiphertextAndTag, require_bind, require_bind]

theorem joinCiphertextAndTag_ok {ciphertext tag : List UInt8} (h : tag.length = aesGcmTagBytes) :
    joinCiphertextAndTag ciphertext tag = .ok (ciphertext ++ tag) :=
  assertLength_bind_ok.2 ⟨h, rfl⟩

theorem subtleDecrypt_ok {key nonce combined aad plaintext : List UInt8} :
    subtleDecrypt platform key nonce combined aad = .ok plaintext ↔
      platform.decrypt key nonce combined aad = some plaintext := by
  unfold subtleDecrypt
  split <;> simp_all

/-- `aesGcmDecrypt` gives back what `aesGcmEncrypt` took. -/
theorem aesGcmDecrypt_encrypted (hp : platform.Correct)
    {key nonce plaintext aad ciphertext tag : List UInt8}
    (h : aesGcmEncrypt platform.toAesGcm key nonce plaintext aad = .ok (ciphertext, tag)) :
    aesGcmDecrypt platform key nonce ciphertext tag aad = .ok plaintext := by
  obtain ⟨hnonce, h⟩ := assertLength_bind_ok.1 h
  obtain ⟨hkey, h⟩ := assertLength_bind_ok.1 h
  obtain ⟨hjoin, htag⟩ := split_ok h
  refine assertLength_bind_ok.2 ⟨hnonce, assertLength_bind_ok.2 ⟨hkey, bind_ok.2
    ⟨_, joinCiphertextAndTag_ok htag, ?_⟩⟩⟩
  rw [subtleDecrypt_ok, hjoin]
  exact hp.decrypt_encrypt key nonce plaintext aad

/-! ## The Vault -/

/-- What `encryptVaultForFormat` returns. -/
structure Sealed (platform : Platform) (plaintext vmk : List UInt8) (vault : EncryptedVaultEnvelope)
    (vaultId : List UInt8) (generation : Nat) (version : VaultFormatVersion) : Prop where
  version : vault.vaultFormatVersion = version
  vaultId : vault.vaultId = vaultId
  generation : vault.generation = generation
  opens : decryptVault platform vault vmk = .ok plaintext

/-- **The Vault opens under the key that sealed it.** -/
theorem decryptVault_sealed (hp : platform.Correct) {nonce plaintext vmk vaultId : List UInt8}
    {generation : Nat} {version : VaultFormatVersion} {vault : EncryptedVaultEnvelope}
    (h : encryptVaultForFormat platform.toAesGcm nonce plaintext vmk vaultId generation version =
      .ok vault) : Sealed platform plaintext vmk vault vaultId generation version := by
  obtain ⟨hvmk, h⟩ := assertLength_bind_ok.1 h
  obtain ⟨hid, h⟩ := assertLength_bind_ok.1 h
  obtain ⟨aad, haad, h⟩ := bind_ok.1 h
  obtain ⟨⟨ciphertext, tag⟩, hencrypt, h⟩ := bind_ok.1 h
  cases h
  have hnonce := (assertLength_bind_ok.1 hencrypt).1
  have htag := (split_ok (assertLength_bind_ok.1 (assertLength_bind_ok.1 hencrypt).2).2).2
  have hvalid : validateVaultEnvelope
      { vaultFormatVersion := version, storageSchemaVersion := vaultTargetStorageSchemaVersion
        vaultId, generation, nonce, ciphertext, tag, ciphertextLength := ciphertext.length } =
      .ok () :=
    require_bind.2 ⟨beq_self_eq_true _, assertLength_bind_ok.2 ⟨hid, assertLength_bind_ok.2
      ⟨hnonce, assertLength_bind_ok.2 ⟨htag, require_ok.2 (beq_self_eq_true _)⟩⟩⟩⟩
  exact ⟨rfl, rfl, rfl, bind_ok.2 ⟨(), hvalid, assertLength_bind_ok.2 ⟨hvmk, bind_ok.2
    ⟨aad, haad, aesGcmDecrypt_encrypted hp hencrypt⟩⟩⟩⟩

/-! ## The VMK under the browser's key -/

/-- The wrapper holds the VMK for the Vault and registration that its associated data names. -/
def WrapsVmk (platform : Platform) (buk : CryptoKey) (wrapped : BrowserWrappedVmk)
    (vaultId registrationId : List UInt8) (epoch : Nat) (vmk : List UInt8) : Prop :=
  vmk.length = aesGcmKeyBytes ∧ ∃ aad, buildBukWrapAad vaultId registrationId epoch = .ok aad ∧
    platform.decrypt buk.material wrapped.nonce (wrapped.ciphertext ++ wrapped.tag) aad = some vmk

theorem wrapVmkWithBuk_wraps (hp : platform.Correct) {nonce vmk : List UInt8} {buk : CryptoKey}
    {vaultId registrationId : List UInt8} {epoch : Nat} {wrapped : BrowserWrappedVmk}
    (h : wrapVmkWithBuk platform nonce vmk buk vaultId registrationId epoch = .ok wrapped) :
    WrapsVmk platform buk wrapped vaultId registrationId epoch vmk := by
  obtain ⟨hvmk, h⟩ := assertLength_bind_ok.1 h
  obtain ⟨aad, haad, h⟩ := bind_ok.1 h
  obtain ⟨⟨ciphertext, tag⟩, hsplit, h⟩ := bind_ok.1 h
  cases h
  obtain ⟨hjoin, -⟩ := split_ok ((splitWrappedVmk_eq _ _ _).1 hsplit)
  refine ⟨hvmk, aad, haad, ?_⟩
  rw [hjoin]
  exact hp.decrypt_encrypt _ _ _ _

/-- What `validateStateFraming` knows of the registration, as far as it is not the platform's. -/
structure RegistrationFields (registration : TrustedBrowserRegistration) : Prop where
  registrationId : registration.registrationId.length = registrationIdBytes
  safe : registration.epoch ≤ 9007199254740991
  positive : 1 ≤ registration.epoch
  brkPublicKey : registration.brkPublicKeyRaw.length = brkPublicRawBytes
  tag : registration.wrappedVmk.tag.length = aesGcmTagBytes

theorem registrationFields {registration : TrustedBrowserRegistration}
    (h : validateRegistrationFraming registration = .ok ()) : RegistrationFields registration := by
  unfold validateRegistrationFraming at h
  obtain ⟨hid, h⟩ := assertLength_bind_ok.1 h
  obtain ⟨hepoch, h⟩ := require_bind.1 h
  rw [Bool.and_eq_true, decide_eq_true_eq, decide_eq_true_eq] at hepoch
  iterate 8 replace h := (require_bind.1 h).2
  obtain ⟨hbrk, h⟩ := assertLength_bind_ok.1 h
  replace h := (require_bind.1 h).2
  obtain ⟨-, h⟩ := assertLength_bind_ok.1 h
  exact ⟨hid, hepoch.1, hepoch.2, hbrk, (assertLength_bind_ok.1 h).1⟩

/-- What it knows of the Vault. -/
structure VaultFields (vault : EncryptedVaultEnvelope) : Prop where
  schema : vault.storageSchemaVersion = vaultTargetStorageSchemaVersion
  vaultId : vault.vaultId.length = vaultIdBytes
  nonce : vault.nonce.length = aesGcmNonceBytes
  tag : vault.tag.length = aesGcmTagBytes
  ciphertext : vault.ciphertextLength = vault.ciphertext.length

theorem vaultFields {vault : EncryptedVaultEnvelope} :
    validateVaultFraming vault = .ok () ↔ VaultFields vault := by
  simp only [validateVaultFraming, require_bind, assertLength_bind_ok, require_ok, beq_iff_eq]
  constructor
  · rintro ⟨hschema, hid, hnonce, htag, hciphertext⟩
    exact ⟨hschema, hid, hnonce, htag, hciphertext⟩
  · intro h
    exact ⟨h.schema, h.vaultId, h.nonce, h.tag, h.ciphertext⟩

/-- What it knows of the recovery wrapper. -/
structure WrapperFields (vault : EncryptedVaultEnvelope) (wrapped : PassphraseWrappedVmk) :
    Prop where
  packageVersion : wrapped.packageVersion = recoveryPackageVersion
  wrapVersion : wrapped.wrapVersion = vmkWrapVersion
  format : wrapped.vaultFormatVersion = vault.vaultFormatVersion
  vaultId : wrapped.vaultId = vault.vaultId
  nonce : wrapped.nonce.length = aesGcmNonceBytes
  tag : wrapped.tag.length = aesGcmTagBytes
  ciphertext : wrapped.ciphertext.length = aesGcmKeyBytes

theorem wrapperFields {vault : EncryptedVaultEnvelope} {wrapped : PassphraseWrappedVmk}
    (h : validateWrapperFraming vault wrapped = .ok ()) : WrapperFields vault wrapped := by
  simp only [validateWrapperFraming, require_bind, assertLength_bind_ok, require_ok, beq_iff_eq,
    sameBytes_iff] at h
  obtain ⟨hpackage, hwrap, hformat, -, hid, hnonce, htag, hciphertext⟩ := h
  exact ⟨hpackage, hwrap, hformat, hid.symm, hnonce, htag, hciphertext⟩

theorem Framed.registration {state : BrowserCanonicalState} (h : Framed state) :
    RegistrationFields state.trustedBrowser := by
  obtain ⟨-, h⟩ := require_bind.1 h
  obtain ⟨_, -, h⟩ := bind_ok.1 h
  obtain ⟨_, -, h⟩ := bind_ok.1 h
  obtain ⟨_, h, -⟩ := bind_ok.1 h
  exact registrationFields h

theorem Framed.vault {state : BrowserCanonicalState} (h : Framed state) :
    VaultFields state.vault := by
  obtain ⟨-, h⟩ := require_bind.1 h
  obtain ⟨_, h, -⟩ := bind_ok.1 h
  exact vaultFields.1 h

theorem Framed.wrapper {state : BrowserCanonicalState} (h : Framed state) :
    WrapperFields state.vault state.recoveryWrappedVmk := by
  obtain ⟨-, h⟩ := require_bind.1 h
  obtain ⟨_, -, h⟩ := bind_ok.1 h
  obtain ⟨_, h, -⟩ := bind_ok.1 h
  exact wrapperFields h

/-- **A framed state gives back the VMK that its wrapper holds, and nothing else.** -/
theorem unwrap_iff {state : BrowserCanonicalState} (hstate : Framed state) {vmk : List UInt8} :
    unwrapVmkForTrustedBrowser platform state = .ok vmk ↔
      WrapsVmk platform state.trustedBrowser.buk state.trustedBrowser.wrappedVmk
        state.vault.vaultId state.trustedBrowser.registrationId state.trustedBrowser.epoch vmk := by
  have htag := hstate.registration.tag
  constructor
  · intro h
    obtain ⟨_, -, h⟩ := bind_ok.1 h
    obtain ⟨aad, haad, h⟩ := bind_ok.1 h
    obtain ⟨combined, hjoin, h⟩ := bind_ok.1 h
    obtain ⟨vmk', hdecrypt, h⟩ := bind_ok.1 h
    obtain ⟨hlength, hvmk⟩ := assertLength_bind_ok.1 h
    cases hvmk
    rw [joinCiphertextAndTag_ok htag] at hjoin
    cases hjoin
    exact ⟨hlength, aad, haad, subtleDecrypt_ok.1 hdecrypt⟩
  · rintro ⟨hlength, aad, haad, hdecrypt⟩
    exact bind_ok.2 ⟨(), hstate, bind_ok.2 ⟨aad, haad, bind_ok.2 ⟨_, joinCiphertextAndTag_ok htag,
      bind_ok.2 ⟨vmk, subtleDecrypt_ok.2 hdecrypt, assertLength_bind_ok.2 ⟨hlength, rfl⟩⟩⟩⟩⟩

/-! ## The VMK under the Passphrase -/

/-- **The VMK is unwrapped with the Passphrase that wrapped it.** -/
theorem unwrapVmkWithPassphrase_wrapped (hp : platform.Correct)
    {salt nonce vmk vaultId : List UInt8} {passphrase : JsString} {version : VaultFormatVersion}
    {wrapped : PassphraseWrappedVmk}
    (h : wrapVmkWithPassphraseForFormat platform salt nonce vmk vaultId passphrase version =
      .ok wrapped) (format : VaultFormatVersion) :
    unwrapVmkWithPassphrase platform { wrapped with vaultFormatVersion := format } passphrase =
      .ok vmk := by
  obtain ⟨hvmk, h⟩ := assertLength_bind_ok.1 h
  obtain ⟨hid, h⟩ := assertLength_bind_ok.1 h
  obtain ⟨_, -, h⟩ := bind_ok.1 h
  obtain ⟨_, hkdf, h⟩ := bind_ok.1 h
  obtain ⟨kek, hkek, h⟩ := bind_ok.1 h
  obtain ⟨aad, haad, h⟩ := bind_ok.1 h
  obtain ⟨⟨ciphertext, tag⟩, hencrypt, h⟩ := bind_ok.1 h
  cases h
  have hnonce := (assertLength_bind_ok.1 hencrypt).1
  obtain ⟨hjoin, htag⟩ := split_ok (assertLength_bind_ok.1 (assertLength_bind_ok.1 hencrypt).2).2
  have hciphertext : ciphertext.length = aesGcmKeyBytes := by
    have hlength := hp.tags kek nonce vmk aad
    rw [← hjoin, List.length_append, htag, hvmk] at hlength
    omega
  have hvalid : validateWrappedVmk
      { packageVersion := recoveryPackageVersion, wrapVersion := vmkWrapVersion
        vaultFormatVersion := format, vaultId, kdf := createArgon2idMetadata salt, nonce, ciphertext
        tag } = .ok () :=
    require_bind.2 ⟨beq_self_eq_true _, require_bind.2 ⟨beq_self_eq_true _,
      assertLength_bind_ok.2 ⟨hid, assertLength_bind_ok.2 ⟨hnonce, assertLength_bind_ok.2
        ⟨htag, require_bind.2 ⟨beq_iff_eq.2 hciphertext, hkdf⟩⟩⟩⟩⟩⟩
  exact bind_ok.2 ⟨(), hvalid, bind_ok.2 ⟨kek, hkek, bind_ok.2 ⟨aad, haad, bind_ok.2
    ⟨vmk, aesGcmDecrypt_encrypted hp hencrypt, assertLength_bind_ok.2 ⟨hvmk, rfl⟩⟩⟩⟩⟩

/-! ## A platform without secrets -/

/-- Ciphertext and plaintext are the same, the tag is zero, and every password gives the same key. -/
def plainPlatform : Platform where
  encrypt _ _ plaintext _ := plaintext ++ List.replicate aesGcmTagBytes 0
  decrypt _ _ combined _ :=
    if aesGcmTagBytes ≤ combined.length then
      some (combined.take (combined.length - aesGcmTagBytes))
    else none
  argon2id _ _ _ _ _ hashLength := List.replicate hashLength 0
  normalize := id

theorem plainPlatform_correct : plainPlatform.Correct where
  tags _ _ plaintext _ := by simp [plainPlatform]
  decrypt_encrypt _ _ plaintext _ := by simp [plainPlatform]
  decrypt_length _ _ combined _ plaintext h := by
    simp only [plainPlatform] at h
    split at h
    · cases h
      rw [List.length_take]
      omega
    · cases h
  argon2id_length _ _ _ _ _ _ := List.length_replicate

end M5Auth.Web
