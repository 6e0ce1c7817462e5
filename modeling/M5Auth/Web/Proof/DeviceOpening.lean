import Mathlib.Data.List.Forall2
import M5Auth.VaultRuntime.Proof.Cases
import M5Auth.Web.AccountCalls
import M5Auth.Web.Proof.Unsealing
import M5Auth.Web.Proof.VaultSize

/-!
# The Device opens what the browser sealed

A request carries the browser's Vault to the Device (`Carries`). Both sides build the same
associated data for it (`aad_same`), so that with one AES-GCM they open the same plaintext
(`decrypt_same`), and the list on the Device's screen is the list of the page
(`device_lists_page`): both sort by the order, stably. The page drops a byte order mark in front of a
text, and only there the texts differ (`SameLine.sameTexts_iff`).
-/

namespace M5Auth.Web

open Vault VaultRuntime CanonicalDeviceManagement

/-! ## The Vault on both sides -/

/-- The Device reads `received` from a request that carries the browser's Vault. -/
def Carries (vault : EncryptedVaultEnvelope) (received : VaultEnvelope) : Prop :=
  ∃ (operation : VaultOperation) (expectedGeneration : UInt64)
    (params : List (String × RequestParam)),
    operation.params expectedGeneration.toNat vault = .ok params ∧
      operation.read (sentParams params) = some received

/-- The same Vault. -/
structure SameVault (vault : EncryptedVaultEnvelope) (received : VaultEnvelope) : Prop where
  format : received.vaultFormatVersion = vault.vaultFormatVersion.format
  browserSchema : vault.storageSchemaVersion = vaultTargetStorageSchemaVersion
  schema : received.storageSchemaVersion = targetStorageSchemaVersion
  vaultId : received.vaultId.1 = vault.vaultId
  generation : received.generation.toNat = vault.generation
  nonce : received.nonce.1 = vault.nonce
  ciphertext : received.ciphertext = vault.ciphertext
  tag : received.tag.1 = vault.tag
  ciphertextLength : vault.ciphertextLength = vault.ciphertext.length

theorem sealing_same (sealing : Sealing) (version : VaultFormatVersion) (ciphertext : List UInt8)
    (tag : Bytes 16) :
    SameVault (sealing.envelope version ciphertext tag) (sealing.received version ciphertext tag) :=
  ⟨rfl, rfl, rfl, rfl, rfl, rfl, rfl, rfl, rfl⟩

/-- A Vault that a request may carry is some plaintext's. -/
theorem sendable {vault : EncryptedVaultEnvelope} {members : List (String × RequestParam)}
    (h : encryptedVaultParams vault = .ok members) :
    ∃ (sealing : Sealing) (tag : Bytes 16), vault.ciphertext ≠ [] ∧
      vault = sealing.envelope vault.vaultFormatVersion vault.ciphertext tag := by
  obtain ⟨hchecks, -⟩ := require_bind.1 h
  simp only [Bool.and_eq_true, beq_iff_eq, bne_iff_ne, decide_eq_true_eq] at hchecks
  obtain ⟨⟨⟨⟨⟨⟨⟨hschema, hid⟩, hnonce⟩, htag⟩, hne⟩, hlength⟩, hpositive⟩, hmax⟩ := hchecks
  have hgeneration : (UInt64.ofNat vault.generation).toNat = vault.generation := by
    rw [UInt64.toNat_ofNat']
    exact Nat.mod_eq_of_lt (by omega)
  refine ⟨⟨.zero 32, ⟨vault.vaultId, hid⟩, ⟨vault.nonce, hnonce⟩, .ofNat vault.generation, ?_⟩,
    ⟨vault.tag, htag⟩, fun hnil => hne (by rw [hnil]; rfl), ?_⟩
  · intro hzero
    rw [hzero] at hgeneration
    exact absurd hpositive (by rw [← hgeneration]; decide)
  · rw [Sealing.envelope]
    cases vault
    simp_all

theorem carried_same {vault : EncryptedVaultEnvelope} {received : VaultEnvelope}
    (h : Carries vault received) : SameVault vault received := by
  obtain ⟨operation, expectedGeneration, params, hparams, hread⟩ := h
  have hmembers : ∃ members, encryptedVaultParams vault = .ok members := by
    cases operation with
    | install => exact ⟨params, hparams⟩
    | update =>
      obtain ⟨members, hmembers, -⟩ := bind_ok.1 hparams
      exact ⟨members, hmembers⟩
    | rekey =>
      obtain ⟨members, hmembers, -⟩ := bind_ok.1 hparams
      exact ⟨members, hmembers⟩
  obtain ⟨members, hmembers⟩ := hmembers
  obtain ⟨sealing, tag, hne, hvault⟩ := sendable hmembers
  rw [hvault] at hparams ⊢
  rw [params_ok sealing _ tag operation expectedGeneration hne] at hparams
  cases hparams
  rw [read_sent sealing _ tag operation expectedGeneration hne] at hread
  split at hread
  · cases hread
    exact sealing_same sealing _ _ tag
  · cases hread

/-! ## The plaintext on both sides -/

theorem aadMagics : vaultAadMagicV1 = ascii "M5AUTH-VLT-AAD1" ++ [0] ∧
    vaultAadMagicV2 = ascii "M5AUTH-VLT-AAD2" ++ [0] := by decide +kernel

/-- Both sides bind the same associated data to the Vault. -/
theorem aad_same {vault : EncryptedVaultEnvelope} {received : VaultEnvelope}
    (h : SameVault vault received) : ∃ aad, Vault.buildVaultAad received = some aad ∧
      buildVaultAad vault.vaultId vault.generation vault.vaultFormatVersion = .ok aad := by
  have hid : vault.vaultId.length = vaultIdBytes := by rw [← h.vaultId, received.vaultId.2]; rfl
  have hgeneration := received.generation.toNat_lt
  have hmax : vault.generation ≤ 0xffffffffffffffff := by rw [← h.generation]; omega
  unfold Vault.buildVaultAad buildVaultAad
  rw [h.format, h.schema, h.vaultId, h.generation, assertLength_bind hid, decide_eq_true hmax]
  cases vault.vaultFormatVersion with
  | legacy => exact ⟨_, rfl, by rw [aadMagics.1]; rfl⟩
  | current => exact ⟨_, rfl, by rw [aadMagics.2]; rfl⟩

/-- The Device's AES-GCM is the browser's. -/
def SameGcm (gcm : GcmOpen) (platform : Platform) : Prop :=
  ∀ vmk nonce aad ciphertext tag,
    gcm vmk nonce aad ciphertext tag = platform.decrypt vmk.1 nonce.1 (ciphertext ++ tag.1) aad

variable {platform : Platform} {gcm : GcmOpen}

/-- **Both sides open the same plaintext.** -/
theorem decrypt_same (hgcm : SameGcm gcm platform) {vault : EncryptedVaultEnvelope}
    {received : VaultEnvelope} (h : SameVault vault received) (vmk : Vmk) (plaintext : List UInt8) :
    Vault.decryptVault gcm received vmk = some plaintext ↔
      decryptVault platform vault vmk.1 = .ok plaintext := by
  obtain ⟨aad, hdevice, hbrowser⟩ := aad_same h
  have hid : vault.vaultId.length = vaultIdBytes := by rw [← h.vaultId, received.vaultId.2]; rfl
  have hnonce : vault.nonce.length = aesGcmNonceBytes := by rw [← h.nonce, received.nonce.2]; rfl
  have htag : vault.tag.length = aesGcmTagBytes := by rw [← h.tag, received.tag.2]; rfl
  have hvalid : validateVaultEnvelope vault = .ok () :=
    require_bind.2 ⟨beq_iff_eq.2 h.browserSchema, assertLength_bind_ok.2 ⟨hid,
      assertLength_bind_ok.2 ⟨hnonce, assertLength_bind_ok.2 ⟨htag,
        require_ok.2 (beq_iff_eq.2 h.ciphertextLength)⟩⟩⟩⟩
  have hopens : decryptVault platform vault vmk.1 =
      subtleDecrypt platform vmk.1 vault.nonce (vault.ciphertext ++ vault.tag) aad := by
    unfold decryptVault aesGcmDecrypt
    rw [hvalid, hbrowser, joinCiphertextAndTag_ok htag]
    exact (assertLength_bind vmk.2).trans ((assertLength_bind hnonce).trans
      (assertLength_bind vmk.2))
  unfold Vault.decryptVault
  rw [hdevice, hopens, subtleDecrypt_ok, ← h.nonce, ← h.ciphertext, ← h.tag, ← hgcm]

/-! ## The list on both sides -/

/-- Lists that correspond are sorted alike where their orders are. -/
theorem forall₂_mergeSort {α β : Type} {R : α → β → Prop} {le : α → α → Bool}
    {le' : β → β → Bool} (hle : ∀ a b a' b', R a a' → R b b' → le a b = le' a' b')
    {as : List α} {bs : List β} (h : List.Forall₂ R as bs) :
    List.Forall₂ R (as.mergeSort le) (bs.mergeSort le') := by
  obtain ⟨pairs, rfl, rfl⟩ : ∃ pairs : List { pair : α × β // R pair.1 pair.2 },
      pairs.map (·.1.1) = as ∧ pairs.map (·.1.2) = bs := by
    induction h with
    | nil => exact ⟨[], rfl, rfl⟩
    | cons hfirst _ ih =>
      obtain ⟨pairs, hleft, hright⟩ := ih
      exact ⟨⟨(_, _), hfirst⟩ :: pairs, by rw [List.map_cons, hleft], by rw [List.map_cons, hright]⟩
  have hleft := List.map_mergeSort (r := fun p q => le p.1.1 q.1.1) (s := le)
    (f := fun p : { pair : α × β // R pair.1 pair.2 } => p.1.1) (l := pairs) fun _ _ _ _ => rfl
  have hright := List.map_mergeSort (r := fun p q => le p.1.1 q.1.1) (s := le')
    (f := fun p : { pair : α × β // R pair.1 pair.2 } => p.1.2) (l := pairs)
    fun p _ q _ => hle _ _ _ _ p.2 q.2
  rw [← hleft, ← hright, List.forall₂_map_left_iff, List.forall₂_map_right_iff, List.forall₂_same]
  exact fun p _ => p.2

/-- A line on the Device's screen and the page's line of the same account. -/
structure SameLine (line : CredentialMetadata) (view : CanonicalAccountView) : Prop where
  id : view.id = credentialViewId line.credentialId.1
  issuer : TextReads line.issuer view.issuer
  account : TextReads line.account view.account
  displayName : TextReads line.displayName view.displayName
  order : view.order = .integer line.manualOrder.toNat

/-- The page's texts have the bytes of the Device's. -/
structure SameTexts (line : CredentialMetadata) (view : CanonicalAccountView) : Prop where
  issuer : textEncode view.issuer = line.issuer
  account : textEncode view.account = line.account
  displayName : textEncode view.displayName = line.displayName

/-- No text of the line begins with a byte order mark. -/
structure Unmarked (line : CredentialMetadata) : Prop where
  issuer : ¬bomBytes <+: line.issuer
  account : ¬bomBytes <+: line.account
  displayName : ¬bomBytes <+: line.displayName

theorem SameLine.sameTexts_iff {line : CredentialMetadata} {view : CanonicalAccountView}
    (h : SameLine line view) : SameTexts line view ↔ Unmarked line :=
  ⟨fun ht => ⟨h.issuer.encode_iff.1 ht.issuer, h.account.encode_iff.1 ht.account,
    h.displayName.encode_iff.1 ht.displayName⟩,
  fun hm => ⟨h.issuer.encode_iff.2 hm.issuer, h.account.encode_iff.2 hm.account,
    h.displayName.encode_iff.2 hm.displayName⟩⟩

theorem SameLine.le {line line' : CredentialMetadata} {view view' : CanonicalAccountView}
    (h : SameLine line view) (h' : SameLine line' view') :
    decide (line.manualOrder ≤ line'.manualOrder) = view.order.le view'.order := by
  rw [h.order, h'.order, Number.le, decide_eq_decide, UInt16.le_iff_toNat_le, Int.ofNat_le]

theorem openResident_ok {σ : Type} {rt : Runtime σ} {p : Vault.VaultPlaintext} :
    rt.openResident gcm = .ok p ↔ (rt.unlocked = true ∧ rt.hasVault = true) ∧
      ∃ decrypted, Vault.decryptVault gcm rt.envelope rt.vmk = some decrypted ∧
        decodePlaintext decrypted = some (p, rt.envelope.vaultFormatVersion) := by
  unfold Runtime.openResident Runtime.unlocked
  cases hinitialized : rt.initialized with
  | false => simp
  | true =>
    by_cases hopen : rt.state = .unlocked ∧ rt.vmkPresent = true ∧ rt.hasVault = true
    · obtain ⟨hstate, hvmk, hvault⟩ := hopen
      cases hdecrypt : Vault.decryptVault gcm rt.envelope rt.vmk with
      | none => simp [hstate, hvmk, hvault]
      | some decrypted =>
        cases hdecode : decodePlaintext decrypted with
        | none => simp [hstate, hvmk, hvault, hdecode]
        | some read =>
          obtain ⟨q, format⟩ := read
          by_cases hformat : format = rt.envelope.vaultFormatVersion
          · simp [hstate, hvmk, hvault, hdecode, hformat]
          · simp [hstate, hvmk, hvault, hdecode, hformat]
    · have hlocked : rt.state ≠ .unlocked ∨ (!rt.vmkPresent) = true ∨ (!rt.hasVault) = true := by
        simpa [not_and_or, imp_iff_not_or] using hopen
      simp only [Bool.not_true, Bool.false_eq_true, if_false, if_pos hlocked, reduceCtorEq,
        Bool.true_and, Bool.and_eq_true, beq_iff_eq, false_iff, not_and]
      exact fun hall => absurd ⟨hall.1.1, hall.1.2, hall.2⟩ hopen

/-- The Device is unlocked, with the browser's Vault and its key. -/
structure Serves {σ : Type} (platform : Platform) (rt : Runtime σ)
    (state : BrowserCanonicalState) : Prop where
  unlocked : rt.unlocked = true
  hasVault : rt.hasVault = true
  carries : Carries state.vault rt.envelope
  key : unwrapVmkForTrustedBrowser platform state = .ok rt.vmk.1

/-- The page opens a plaintext exactly if the Device does. -/
theorem Serves.opens {σ : Type} {rt : Runtime σ} {state : BrowserCanonicalState}
    (h : Serves platform rt state) (hgcm : SameGcm gcm platform) (p : Vault.VaultPlaintext) :
    rt.openResident gcm = .ok p ↔ ∃ decrypted,
      decryptVault platform state.vault rt.vmk.1 = .ok decrypted ∧
        decodePlaintext decrypted = some (p, state.vault.vaultFormatVersion.format) := by
  have hsame := carried_same h.carries
  rw [openResident_ok, and_iff_right ⟨h.unlocked, h.hasVault⟩, hsame.format]
  exact exists_congr fun decrypted => and_congr_left fun _ => decrypt_same hgcm hsame _ _

/-- The Device lists accounts exactly if it opens its Vault. -/
theorem listCredentials_ok {σ : Type} {rt : Runtime σ} :
    (rt.listCredentials gcm).1.1 = .ok ↔ ∃ p, rt.openResident gcm = .ok p := by
  unfold Runtime.listCredentials
  rcases rt.openResident_cases gcm with ⟨p, hp, -⟩ | ⟨st, hst, h⟩ | ⟨st, hst, -, -, -, h⟩
  · simp [hp]
  · simp [h, hst]
  · simp [h, hst]

theorem view_ok {state : BrowserCanonicalState} {view : BrowserVaultView} {vmk : List UInt8}
    (hvmk : unwrapVmkForTrustedBrowser platform state = .ok vmk) :
    readBrowserVaultView platform state = .ok view ↔ ∃ decrypted v,
      decryptVault platform state.vault vmk = .ok decrypted ∧
        decodeVaultPlaintext decrypted (some state.vault.vaultFormatVersion) = .ok v ∧
        view = vaultView v := by
  constructor
  · intro h
    obtain ⟨_, hvmk', h⟩ := bind_ok.1 h
    rw [hvmk] at hvmk'
    cases hvmk'
    obtain ⟨decrypted, hdecrypted, h⟩ := bind_ok.1 h
    obtain ⟨v, hv, h⟩ := bind_ok.1 h
    cases h
    exact ⟨decrypted, v, hdecrypted, hv, rfl⟩
  · rintro ⟨decrypted, v, hdecrypted, hv, rfl⟩
    exact bind_ok.2 ⟨vmk, hvmk, bind_ok.2 ⟨decrypted, hdecrypted, bind_ok.2 ⟨v, hv, rfl⟩⟩⟩

/-- The lines of one plaintext on both sides. -/
theorem lines_same {σ : Type} {rt : Runtime σ} {p : Vault.VaultPlaintext} {v : VaultPlaintext}
    (hp : rt.openResident gcm = .ok p) (hreads : Reads p v) :
    ∃ lines, rt.listCredentials gcm = ((.ok, lines), rt) ∧
      List.Forall₂ SameLine lines (vaultView v).accounts := by
  refine ⟨_, by rw [Runtime.listCredentials, hp], ?_⟩
  refine forall₂_mergeSort (fun _ _ _ _ hline hline' => hline.le hline') ?_
  rw [List.forall₂_map_left_iff, List.forall₂_map_right_iff]
  exact hreads.credentials.imp fun r w hr =>
    ⟨congrArg credentialViewId hr.fields.credentialId, hr.issuer, hr.account, hr.displayName,
      hr.fields.manualOrder⟩

/-- **The Device lists what the page lists.** It lists accounts exactly if the page can show them,
and then line by line the same ones in the same order. A line's texts are the same exactly if none
of them begins with a byte order mark on the Device. -/
theorem device_lists_page {σ : Type} {rt : Runtime σ} {state : BrowserCanonicalState}
    (h : Serves platform rt state) (hgcm : SameGcm gcm platform) :
    ((rt.listCredentials gcm).1.1 = .ok ↔ ∃ view, readBrowserVaultView platform state = .ok view) ∧
      ∀ view, readBrowserVaultView platform state = .ok view →
        ∃ lines, rt.listCredentials gcm = ((.ok, lines), rt) ∧
          List.Forall₂ (fun line view => SameLine line view ∧ (SameTexts line view ↔ Unmarked line))
            lines view.accounts := by
  refine ⟨?_, fun view hview => ?_⟩
  · rw [listCredentials_ok]
    constructor
    · rintro ⟨p, hp⟩
      obtain ⟨decrypted, hdecrypted, hdecode⟩ := (h.opens hgcm p).1 hp
      obtain ⟨v, hv⟩ := accepted_iff.1 ⟨p, hdecode⟩
      exact ⟨_, (view_ok h.key).2 ⟨decrypted, v, hdecrypted, hv, rfl⟩⟩
    · rintro ⟨view, hview⟩
      obtain ⟨decrypted, v, hdecrypted, hv, -⟩ := (view_ok h.key).1 hview
      obtain ⟨p, hp⟩ := accepted_iff.2 ⟨v, hv⟩
      exact ⟨p, (h.opens hgcm p).2 ⟨decrypted, hdecrypted, hp⟩⟩
  · obtain ⟨decrypted, v, hdecrypted, hv, rfl⟩ := (view_ok h.key).1 hview
    obtain ⟨p, hp⟩ := accepted_iff.2 ⟨v, hv⟩
    obtain ⟨lines, hlines, hsame⟩ :=
      lines_same ((h.opens hgcm p).2 ⟨decrypted, hdecrypted, hp⟩) (reads_of hp hv)
    exact ⟨lines, hlines, hsame.imp fun _ _ hline => ⟨hline, hline.sameTexts_iff⟩⟩

/-! ### A Device that serves a browser -/

/-- A Vault of one account. -/
def oneAccount : VaultPlaintext where
  credentials :=
    [{ credentialId := (Bytes.zero 16).1, secret := [1], issuer := literal "issuer"
       account := [], displayName := [], digits := .integer 6, periodSeconds := .integer 30
       manualOrder := .integer 0 }]
  wifi := none
  autoLockDays := none

def oneAccountBytes : List UInt8 := (encodeVaultPlaintext oneAccount .current).toOption.getD []

/-- The state of a browser that provisioned it on the platform without secrets. -/
def servedState : BrowserCanonicalState where
  stateVersion := browserStateVersion
  vault := someSealing.envelope .current oneAccountBytes (.zero 16)
  recoveryWrappedVmk :=
    { packageVersion := recoveryPackageVersion, wrapVersion := vmkWrapVersion
      vaultFormatVersion := .current, vaultId := someSealing.vaultId.1
      kdf := createArgon2idMetadata (Bytes.zero 32).1, nonce := (Bytes.zero 12).1
      ciphertext := someSealing.vmk.1, tag := (Bytes.zero 16).1 }
  trustedBrowser :=
    { registrationId := (Bytes.zero 16).1, epoch := 1, status := .active
      buk := ⟨.secretKey, false, .aesGcm, [.encrypt, .decrypt], (Bytes.zero 32).1⟩
      brkPrivateKey := ⟨.privateKey, false, .ecdsaP256, [.sign], []⟩
      brkPublicKeyRaw := (Bytes.zero 65).1
      wrappedVmk := ⟨bukWrapVersion, (Bytes.zero 12).1, someSealing.vmk.1, (Bytes.zero 16).1⟩ }
  deviceMetadata := none

/-- The Device after it unlocked. -/
def servingRuntime : Runtime Unit where
  persistence := ()
  initialized := true
  schemaReady := true
  hasVault := true
  state := .unlocked
  envelope := someSealing.received .current oneAccountBytes (.zero 16)
  vmk := someSealing.vmk
  vmkPresent := true

/-- Its AES-GCM. -/
def plainDeviceGcm : GcmOpen := fun vmk nonce aad ciphertext tag =>
  plainPlatform.decrypt vmk.1 nonce.1 (ciphertext ++ tag.1) aad

theorem serves_one : Serves plainPlatform servingRuntime servedState where
  unlocked := rfl
  hasVault := rfl
  carries := by
    have hne : oneAccountBytes ≠ [] := by decide +kernel
    have hmax : oneAccountBytes.length ≤ maxPersistedCiphertextBytes := by decide +kernel
    exact ⟨.install, 0, _, params_ok someSealing .current (.zero 16) .install 0 hne,
      (read_sent someSealing .current (.zero 16) .install 0 hne).trans (if_pos hmax)⟩
  key := toOption_some (by decide +kernel)

/-- The Device lists the account that the page lists. -/
theorem device_lists_one : ∃ line view,
    readBrowserVaultView plainPlatform servedState = .ok view ∧ view.accounts ≠ [] ∧
      servingRuntime.listCredentials plainDeviceGcm = ((.ok, line), servingRuntime) ∧
      List.Forall₂ SameLine line view.accounts := by
  have hview : readBrowserVaultView plainPlatform servedState = .ok (vaultView oneAccount) :=
    toOption_some (by decide +kernel)
  have hgcm : SameGcm plainDeviceGcm plainPlatform := fun _ _ _ _ _ => rfl
  obtain ⟨lines, hlines, hsame⟩ := (device_lists_page serves_one hgcm).2 _ hview
  exact ⟨lines, _, hview, by decide +kernel, hlines, hsame.imp fun _ _ h => h.1⟩

end M5Auth.Web
