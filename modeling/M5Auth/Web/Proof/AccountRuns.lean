import M5Auth.Web.Proof.AccountBook
import M5Auth.Web.Proof.Unsealing

/-!
# The account list over a run

`Managed` are the states of a browser that provisioned a Device and then made calls, with changes of
the Recovery Passphrase in between. In each of them the browser opens its Vault and finds the
account book that the calls have written (`account_book`): what a call does to the list is what
`Does` says. Each write also rereads every text of the Vault, which drops a leading byte order mark
and replaces lone surrogates (`Recorded`); where all texts are plain it changes none (`Performed`).
-/

namespace M5Auth.Web

open CanonicalDeviceManagement

variable {platform : Platform}

/-! ## What the constructors of states return -/

theorem create_ok {draw : RegistrationDraw} {vault : EncryptedVaultEnvelope}
    {wrapped : PassphraseWrappedVmk} {vmk : List UInt8} {epoch : Nat}
    {status : TrustedBrowserStatus} {metadata : Option BrowserDeviceMetadata}
    {state : BrowserCanonicalState}
    (h : createBrowserCanonicalState platform draw vault wrapped vmk epoch status metadata =
      .ok state) :
    Framed state ∧ ∃ wrappedVmk, wrapVmkWithBuk platform draw.wrapNonce.1 vmk (generatedBuk draw)
        vault.vaultId draw.registrationId.1 epoch = .ok wrappedVmk ∧
      state =
        { stateVersion := browserStateVersion, vault, recoveryWrappedVmk := wrapped
          trustedBrowser :=
            { registrationId := draw.registrationId.1, epoch, status, buk := generatedBuk draw
              brkPrivateKey := generatedBrk draw, brkPublicKeyRaw := draw.brkPublicKeyRaw.1
              wrappedVmk }
          deviceMetadata := metadata } := by
  obtain ⟨-, h⟩ := assertLength_bind_ok.1 h
  obtain ⟨-, h⟩ := require_bind.1 h
  obtain ⟨-, h⟩ := require_bind.1 h
  obtain ⟨wrappedVmk, hwrap, h⟩ := bind_ok.1 h
  obtain ⟨hframed, rfl⟩ := sanitize_ok.1 h
  exact ⟨hframed, wrappedVmk, hwrap, rfl⟩

/-- What a merge stores: the advanced Vault, with the registration of the candidate. -/
theorem merge_ok {current candidate state : BrowserCanonicalState} {expected : Nat}
    (h : mergeVaultAdvanceWithCurrentBrowserState current candidate expected = .ok state) :
    Framed candidate ∧ Framed state ∧ state.vault = candidate.vault ∧
      (state = candidate ∨ state.trustedBrowser = current.trustedBrowser ∧
        current.trustedBrowser.wrappedVmk = candidate.trustedBrowser.wrappedVmk) := by
  obtain ⟨_, hcurrent, hmerge⟩ := bind_ok.1 h
  obtain ⟨_, hcandidate, hmerged⟩ := bind_ok.1 hmerge
  obtain ⟨-, rfl⟩ := sanitize_ok.1 hcurrent
  obtain ⟨hframed, rfl⟩ := sanitize_ok.1 hcandidate
  dsimp only at hmerged
  split at hmerged
  · cases hmerged
    exact ⟨hframed, hframed, rfl, .inl rfl⟩
  · rename_i hsame
    obtain ⟨hstate, rfl⟩ := sanitize_ok.1 hmerged
    simp only [Bool.or_eq_true, Bool.not_eq_true', not_or, Bool.not_eq_false,
      sameBrowserWrappedVmk_iff] at hsame
    exact ⟨hframed, hstate, rfl, .inr ⟨rfl, hsame.2⟩⟩

/-- What a mutation stages. -/
structure Mutated (platform : Platform) (base : BrowserCanonicalState)
    (mutator : VaultPlaintext → Except Thrown VaultPlaintext) (candidate : BrowserCanonicalState) :
    Prop where
  framed : Framed base
  registration : candidate.trustedBrowser = base.trustedBrowser
  vaultId : candidate.vault.vaultId = base.vault.vaultId
  rewritten : ∃ vmk decrypted v v' encoded,
    unwrapVmkForTrustedBrowser platform base = .ok vmk ∧
    decryptVault platform base.vault vmk = .ok decrypted ∧
    decodeVaultPlaintext decrypted (some base.vault.vaultFormatVersion) = .ok v ∧
    mutator v = .ok v' ∧ encodeVaultPlaintext v' candidate.vault.vaultFormatVersion = .ok encoded ∧
    decryptVault platform candidate.vault vmk = .ok encoded

theorem mutateVault_candidate (hp : platform.Correct) {nonce : List UInt8}
    {hello : CanonicalHelloData} {mutator : VaultPlaintext → Except Thrown VaultPlaintext}
    {requireFormat2 : Bool} {base candidate : BrowserCanonicalState}
    (h : CanonicalDeviceManagement.mutateVault platform nonce hello mutator requireFormat2 base =
      .ok candidate) : Mutated platform base mutator candidate := by
  obtain ⟨_, -, h⟩ := bind_ok.1 h
  obtain ⟨format, -, h⟩ := bind_ok.1 h
  obtain ⟨vmk, hvmk, h⟩ := bind_ok.1 h
  obtain ⟨decrypted, hdecrypted, h⟩ := bind_ok.1 h
  obtain ⟨v, hv, h⟩ := bind_ok.1 h
  obtain ⟨v', hv', h⟩ := bind_ok.1 h
  obtain ⟨encoded, hencoded, h⟩ := bind_ok.1 h
  obtain ⟨-, h⟩ := require_bind.1 h
  obtain ⟨vault, hvault, h⟩ := bind_ok.1 h
  obtain ⟨-, rfl⟩ := sanitize_ok.1 h
  have hsealed := decryptVault_sealed hp hvault
  obtain ⟨_, hframed, -⟩ := bind_ok.1 hvmk
  exact
    { framed := hframed
      registration := rfl
      vaultId := hsealed.vaultId
      rewritten := ⟨vmk, decrypted, v, v', encoded, hvmk, hdecrypted, hv, hv',
        hsealed.version ▸ hencoded, hsealed.opens⟩ }

/-- What a re-key stages: the same plaintext under a new key. -/
structure Rekeyed (platform : Platform) (base candidate : BrowserCanonicalState) : Prop where
  framed : Framed base
  vaultId : candidate.vault.vaultId = base.vault.vaultId
  registration : { candidate.trustedBrowser with wrappedVmk := base.trustedBrowser.wrappedVmk } =
    base.trustedBrowser
  rewritten : ∃ vmk vmk' decrypted v encoded,
    unwrapVmkForTrustedBrowser platform base = .ok vmk ∧
    decryptVault platform base.vault vmk = .ok decrypted ∧
    decodeVaultPlaintext decrypted (some base.vault.vaultFormatVersion) = .ok v ∧
    encodeVaultPlaintext v candidate.vault.vaultFormatVersion = .ok encoded ∧
    WrapsVmk platform base.trustedBrowser.buk candidate.trustedBrowser.wrappedVmk
      base.vault.vaultId base.trustedBrowser.registrationId base.trustedBrowser.epoch vmk' ∧
    decryptVault platform candidate.vault vmk' = .ok encoded

/-- A re-key wraps the new key for the same registration. -/
theorem rekey_ok (hp : platform.Correct) {nonce vmk : List UInt8}
    {current state : BrowserCanonicalState} {vault : EncryptedVaultEnvelope}
    {wrapped : PassphraseWrappedVmk}
    (h : rekeyTrustedBrowserState platform nonce current vault wrapped vmk = .ok state) :
    state.vault = vault ∧
      { state.trustedBrowser with wrappedVmk := current.trustedBrowser.wrappedVmk } =
        current.trustedBrowser ∧
      WrapsVmk platform current.trustedBrowser.buk state.trustedBrowser.wrappedVmk
        current.vault.vaultId current.trustedBrowser.registrationId current.trustedBrowser.epoch
        vmk := by
  obtain ⟨safe, hsafe, hrest⟩ := bind_ok.1 h
  obtain ⟨-, rfl⟩ := sanitize_ok.1 hsafe
  obtain ⟨hvmk, hrest⟩ := require_bind.1 hrest
  iterate 3 replace hrest := (require_bind.1 hrest).2
  obtain ⟨aad, haad, hrest⟩ := bind_ok.1 hrest
  replace hrest := (require_bind.1 hrest).2
  obtain ⟨-, rfl⟩ := sanitize_ok.1 hrest
  refine ⟨rfl, rfl, beq_iff_eq.1 hvmk, aad, haad, ?_⟩
  rw [List.take_append_drop]
  exact hp.decrypt_encrypt _ _ _ _

theorem rotateVmk_candidate (hp : platform.Correct) {draw : RekeyDraw}
    {hello : CanonicalHelloData} {passphrase : JsString} {base candidate : BrowserCanonicalState}
    (h : CanonicalDeviceManagement.rotateVmk platform draw hello passphrase base = .ok candidate) :
    Rekeyed platform base candidate := by
  replace h := (require_bind.1 h).2
  obtain ⟨_, -, h⟩ := bind_ok.1 h
  obtain ⟨format, -, h⟩ := bind_ok.1 h
  obtain ⟨vmk, hvmk, h⟩ := bind_ok.1 h
  replace h := (require_bind.1 h).2
  obtain ⟨_, -, h⟩ := bind_ok.1 h
  replace h := (require_bind.1 h).2
  obtain ⟨decrypted, hdecrypted, h⟩ := bind_ok.1 h
  obtain ⟨v, hv, h⟩ := bind_ok.1 h
  obtain ⟨encoded, hencoded, h⟩ := bind_ok.1 h
  obtain ⟨vault, hvault, h⟩ := bind_ok.1 h
  obtain ⟨wrapper, -, h⟩ := bind_ok.1 h
  have hsealed := decryptVault_sealed hp hvault
  obtain ⟨_, hframed, -⟩ := bind_ok.1 hvmk
  obtain ⟨rfl, hregistration, hwraps⟩ := rekey_ok hp h
  exact
    { framed := hframed
      vaultId := hsealed.vaultId
      registration := hregistration
      rewritten := ⟨vmk, draw.vmk.1, decrypted, v, encoded, hvmk, hdecrypted, hv,
        hsealed.version ▸ hencoded, hwraps, hsealed.opens⟩ }

/-! ## The book that a browser can open -/

/-- The browser opens its Vault and finds the accounts `book`, in order. -/
structure Shows (platform : Platform) (state : BrowserCanonicalState) (book : List Account) :
    Prop where
  framed : Framed state
  opens : ∃ vmk decrypted v,
    WrapsVmk platform state.trustedBrowser.buk state.trustedBrowser.wrappedVmk state.vault.vaultId
      state.trustedBrowser.registrationId state.trustedBrowser.epoch vmk ∧
    decryptVault platform state.vault vmk = .ok decrypted ∧
    decodeVaultPlaintext decrypted (some state.vault.vaultFormatVersion) = .ok v ∧
    Ordered v.credentials ∧ v.credentials.map VaultCredentialRecord.toAccount = book

theorem Shows.congr {state state' : BrowserCanonicalState} {book : List Account}
    (h : Shows platform state book) (hframed : Framed state') (hvault : state'.vault = state.vault)
    (hregistration : state'.trustedBrowser = state.trustedBrowser) :
    Shows platform state' book := by
  obtain ⟨-, hopens⟩ := h
  refine ⟨hframed, ?_⟩
  rw [hvault, hregistration]
  exact hopens

/-- The state that a merge stores shows what the candidate shows. -/
theorem Shows.merged {current candidate state : BrowserCanonicalState} {book : List Account}
    {expected : Nat} (h : Shows platform candidate book)
    (hmerge : mergeVaultAdvanceWithCurrentBrowserState current candidate expected = .ok state)
    (hregistration : { candidate.trustedBrowser with
      wrappedVmk := current.trustedBrowser.wrappedVmk } = current.trustedBrowser) :
    Shows platform state book := by
  obtain ⟨-, hframed, hvault, rfl | ⟨hcurrent, hsame⟩⟩ := merge_ok hmerge
  · exact h
  · refine h.congr hframed hvault ?_
    rw [hcurrent, ← hregistration, hsame]

/-- A plaintext that is sealed for the registration is shown. -/
theorem shows_of_encoded {state : BrowserCanonicalState} (hframed : Framed state)
    {vmk encoded : List UInt8} {value : VaultPlaintext}
    (hwraps : WrapsVmk platform state.trustedBrowser.buk state.trustedBrowser.wrappedVmk
      state.vault.vaultId state.trustedBrowser.registrationId state.trustedBrowser.epoch vmk)
    (hencoded : encodeVaultPlaintext value state.vault.vaultFormatVersion = .ok encoded)
    (hopens : decryptVault platform state.vault vmk = .ok encoded)
    (hvalue : Increasing value.credentials) :
    Shows platform state
      ((value.credentials.map VaultCredentialRecord.toAccount).map Account.reread) := by
  obtain ⟨v, hdecode, hordered, hcredentials⟩ := decode_encoded hencoded hvalue
  refine ⟨hframed, vmk, encoded, v, hwraps, hopens, hdecode, hordered, ?_⟩
  rw [hcredentials, reread_toAccount]

/-- Two openings of a state find the same plaintext. -/
theorem Shows.plaintext {state : BrowserCanonicalState} {book : List Account}
    (h : Shows platform state book) {vmk decrypted : List UInt8} {v : VaultPlaintext}
    (hvmk : unwrapVmkForTrustedBrowser platform state = .ok vmk)
    (hdecrypted : decryptVault platform state.vault vmk = .ok decrypted)
    (hv : decodeVaultPlaintext decrypted (some state.vault.vaultFormatVersion) = .ok v) :
    Ordered v.credentials ∧ v.credentials.map VaultCredentialRecord.toAccount = book := by
  obtain ⟨hframed, vmk', decrypted', v', hwraps, hdecrypted', hv', hshows⟩ := h
  rw [(unwrap_iff hframed).2 hwraps] at hvmk
  cases hvmk
  rw [hdecrypted'] at hdecrypted
  cases hdecrypted
  rw [hv'] at hv
  cases hv
  exact hshows

/-! ## Steps -/

theorem mutated_shows {base candidate : BrowserCanonicalState} {book : List Account}
    {mutator : VaultPlaintext → Except Thrown VaultPlaintext} (h : Shows platform base book)
    (hmutated : Mutated platform base mutator candidate) (hcandidate : Framed candidate)
    {R : List Account → List Account → Prop}
    (hmutator : ∀ v v', Ordered v.credentials → mutator v = .ok v' → Increasing v'.credentials ∧
      R (v.credentials.map VaultCredentialRecord.toAccount)
        (v'.credentials.map VaultCredentialRecord.toAccount)) :
    ∃ book', R book book' ∧ Shows platform candidate (book'.map Account.reread) := by
  obtain ⟨vmk, decrypted, v, v', encoded, hvmk, hdecrypted, hv, hv', hencoded, hopens⟩ :=
    hmutated.rewritten
  obtain ⟨hordered, rfl⟩ := h.plaintext hvmk hdecrypted hv
  obtain ⟨hincreasing, hrelated⟩ := hmutator v v' hordered hv'
  refine ⟨_, hrelated, shows_of_encoded hcandidate ?_ hencoded hopens hincreasing⟩
  rw [hmutated.registration, hmutated.vaultId]
  exact (unwrap_iff hmutated.framed).1 hvmk

theorem rekeyed_shows {base candidate : BrowserCanonicalState} {book : List Account}
    (h : Shows platform base book) (hrekeyed : Rekeyed platform base candidate)
    (hcandidate : Framed candidate) : Shows platform candidate (book.map Account.reread) := by
  obtain ⟨vmk, vmk', decrypted, v, encoded, hvmk, hdecrypted, hv, hencoded, hwraps, hopens⟩ :=
    hrekeyed.rewritten
  obtain ⟨hordered, rfl⟩ := h.plaintext hvmk hdecrypted hv
  refine shows_of_encoded hcandidate ?_ hencoded hopens hordered.toIncreasing
  have hregistration := hrekeyed.registration
  rw [hrekeyed.vaultId, show candidate.trustedBrowser.buk = base.trustedBrowser.buk from
    congrArg (·.buk) hregistration, show candidate.trustedBrowser.registrationId =
    base.trustedBrowser.registrationId from congrArg (·.registrationId) hregistration,
    show candidate.trustedBrowser.epoch = base.trustedBrowser.epoch from
    congrArg (·.epoch) hregistration]
  exact hwraps

theorem Mutated.doing {base candidate : BrowserCanonicalState} {book : List Account}
    {mutator : VaultPlaintext → Except Thrown VaultPlaintext} {call : VaultCall}
    (hmutated : Mutated platform base mutator candidate) (h : Shows platform base book)
    (hcandidate : Framed candidate)
    (hmutator : ∀ v v', Ordered v.credentials → mutator v = .ok v' → Increasing v'.credentials ∧
      Does call (v.credentials.map VaultCredentialRecord.toAccount)
        (v'.credentials.map VaultCredentialRecord.toAccount)) :
    { candidate.trustedBrowser with wrappedVmk := base.trustedBrowser.wrappedVmk } =
        base.trustedBrowser ∧
      ∃ book', Does call book book' ∧ Shows platform candidate (book'.map Account.reread) := by
  refine ⟨?_, mutated_shows h hmutated hcandidate hmutator⟩
  rw [hmutated.registration]

/-- **A call does to the book what it is for**, and keeps the registration. -/
theorem call_does (hp : platform.Correct) {call : VaultCall} {draw : RekeyDraw}
    {hello : CanonicalHelloData} {base candidate : BrowserCanonicalState} {book : List Account}
    (hcall : call.candidate platform draw hello base = .ok candidate) (hcandidate : Framed candidate)
    (h : Framed base → Shows platform base book) :
    { candidate.trustedBrowser with wrappedVmk := base.trustedBrowser.wrappedVmk } =
        base.trustedBrowser ∧
      ∃ book', Does call book book' ∧ Shows platform candidate (book'.map Account.reread) := by
  cases call with
  | importAccounts imported credentialId =>
    have hmutated := mutateVault_candidate hp hcall
    exact hmutated.doing (h hmutated.framed) hcandidate fun v v' hv hv' =>
      importMutator_does hv' hv.toIncreasing
  | renameAccount id displayName =>
    have hmutated := mutateVault_candidate hp hcall
    exact hmutated.doing (h hmutated.framed) hcandidate fun v v' hv hv' =>
      renameMutator_does hv' hv.toIncreasing
  | deleteAccount id =>
    have hmutated := mutateVault_candidate hp hcall
    exact hmutated.doing (h hmutated.framed) hcandidate fun v v' _ hv' => deleteMutator_does hv'
  | reorderAccounts ids =>
    have hmutated := mutateVault_candidate hp hcall
    exact hmutated.doing (h hmutated.framed) hcandidate fun v v' _ hv' => reorderMutator_does hv'
  | setWifi ssid password =>
    have hmutated := mutateVault_candidate hp (require_bind.1 hcall).2
    refine hmutated.doing (h hmutated.framed) hcandidate fun v v' hv hv' => ?_
    cases hv'
    exact ⟨hv.toIncreasing, rfl⟩
  | clearWifi =>
    have hmutated := mutateVault_candidate hp hcall
    refine hmutated.doing (h hmutated.framed) hcandidate fun v v' hv hv' => ?_
    cases hv'
    exact ⟨hv.toIncreasing, rfl⟩
  | setAutoLockDays days =>
    obtain ⟨_, -, hcall⟩ := bind_ok.1 hcall
    have hmutated := mutateVault_candidate hp hcall
    refine hmutated.doing (h hmutated.framed) hcandidate fun v v' hv hv' => ?_
    cases hv'
    exact ⟨hv.toIncreasing, rfl⟩
  | rotateVmk passphrase =>
    have hrekeyed := rotateVmk_candidate hp hcall
    exact ⟨hrekeyed.registration, book, rfl,
      rekeyed_shows (h hrekeyed.framed) hrekeyed hcandidate⟩

theorem provisioned_shows (hp : platform.Correct) {draw : ProvisionDraw}
    {hello : CanonicalHelloData} {imported : List ImportedCredential} {passphrase : JsString}
    {state : BrowserCanonicalState}
    (h : initialProvision platform draw hello imported passphrase = .ok state) :
    Shows platform state ((importedAccounts imported draw.credentialId).map Account.reread) := by
  replace h := (require_bind.1 h).2
  replace h := (require_bind.1 h).2
  obtain ⟨encoded, hencoded, h⟩ := bind_ok.1 h
  obtain ⟨vault, hvault, h⟩ := bind_ok.1 h
  obtain ⟨wrapper, -, h⟩ := bind_ok.1 h
  have hsealed := decryptVault_sealed hp hvault
  obtain ⟨hframed, wrappedVmk, hwrap, rfl⟩ := create_ok h
  have hincreasing : Increasing (provisionPlaintext draw imported).credentials :=
    .of_getElem (f := id) (fun _ _ h => h) fun i hi => by simp [provisionPlaintext]
  have haccounts : (provisionPlaintext draw imported).credentials.map
      VaultCredentialRecord.toAccount = importedAccounts imported draw.credentialId := by
    apply List.ext_getElem
    · simp [provisionPlaintext, importedAccounts]
    · intro i hi hi'
      simp [provisionPlaintext, importedAccounts, importedAccount, VaultCredentialRecord.toAccount]
  rw [← haccounts]
  exact shows_of_encoded hframed (wrapVmkWithBuk_wraps hp hwrap) (hsealed.version ▸ hencoded)
    hsealed.opens hincreasing

theorem passphraseChanged_shows {salt nonce : List UInt8} {current chosen : JsString}
    {state state' : BrowserCanonicalState} {book : List Account}
    (hstate : Shows platform state book)
    (h : changeRecoveryPassphrase platform salt nonce state current chosen = .ok state') :
    Shows platform state' book := by
  obtain ⟨_, hsafe, hrest⟩ := bind_ok.1 h
  obtain ⟨-, rfl⟩ := sanitize_ok.1 hsafe
  obtain ⟨_, -, hrest⟩ := bind_ok.1 hrest
  obtain ⟨_, -, hrest⟩ := bind_ok.1 hrest
  obtain ⟨_, -, hrest⟩ := bind_ok.1 hrest
  obtain ⟨hframed, rfl⟩ := sanitize_ok.1 hrest
  exact hstate.congr hframed rfl rfl

/-! ## Runs -/

/-- The states that a browser stores after it provisioned a Device with the accounts `first` and
made `calls`. -/
inductive Managed (platform : Platform) (first : List Account) :
    List VaultCall → BrowserCanonicalState → Prop
  | provisioned {draw : ProvisionDraw} {hello : CanonicalHelloData}
      {imported : List ImportedCredential} {passphrase : JsString} {state : BrowserCanonicalState}
      (h : initialProvision platform draw hello imported passphrase = .ok state)
      (hfirst : first = importedAccounts imported draw.credentialId) : Managed platform first [] state
  | called {calls : List VaultCall} {call : VaultCall} {draw : RekeyDraw}
      {hello : CanonicalHelloData} {base candidate current state : BrowserCanonicalState}
      (hcurrent : Managed platform first calls current) (hbase : Rewrapped base current)
      (h : call.candidate platform draw hello base = .ok candidate)
      (hmerge : mergeVaultAdvanceWithCurrentBrowserState current candidate
        base.vault.generation = .ok state) : Managed platform first (calls ++ [call]) state
  | passphraseChanged {calls : List VaultCall} {salt : Bytes 32} {nonce : Bytes 12}
      {passphrase chosen : JsString} {state state' : BrowserCanonicalState}
      (hstate : Managed platform first calls state)
      (h : changeRecoveryPassphrase platform salt.1 nonce.1 state passphrase chosen = .ok state') :
      Managed platform first calls state'

/-- The account book after `calls`: each does its part, and its write rereads all texts. -/
inductive Recorded (first : List Account) : List VaultCall → List Account → Prop
  | provisioned : Recorded first [] (first.map Account.reread)
  | called {calls : List VaultCall} {call : VaultCall} {book book' : List Account}
      (hbook : Recorded first calls book) (h : Does call book book') :
      Recorded first (calls ++ [call]) (book'.map Account.reread)

/-- The account book after `calls`, where each does its part and nothing else happens. -/
inductive Performed (first : List Account) : List VaultCall → List Account → Prop
  | provisioned : Performed first [] first
  | called {calls : List VaultCall} {call : VaultCall} {book book' : List Account}
      (hbook : Performed first calls book) (h : Does call book book') :
      Performed first (calls ++ [call]) book'

/-- Plain texts are not changed by the writes. -/
theorem Recorded.written {first : List Account} {calls : List VaultCall} {book : List Account}
    (h : Recorded first calls book) (hfirst : ∀ account ∈ first, account.Plain)
    (hcalls : ∀ call ∈ calls, WritesPlain call) :
    Performed first calls book ∧ ∀ account ∈ book, account.Plain := by
  induction h with
  | provisioned =>
    rw [map_reread_plain hfirst]
    exact ⟨.provisioned, hfirst⟩
  | called hbook hdoes ih =>
    obtain ⟨hbefore, hlast⟩ := List.forall_mem_append.1 hcalls
    obtain ⟨hwritten, hplain⟩ := ih hbefore
    have hplain' := hdoes.plain (hlast _ List.mem_cons_self) hplain
    rw [map_reread_plain hplain']
    exact ⟨.called hwritten hdoes, hplain'⟩

/-- Every managed state shows a book that its calls have written. -/
theorem Managed.shows (hp : platform.Correct) {first : List Account} {calls : List VaultCall}
    {state : BrowserCanonicalState} (h : Managed platform first calls state) :
    ∃ book, Recorded first calls book ∧ Shows platform state book := by
  induction h with
  | provisioned h hfirst =>
    subst hfirst
    exact ⟨_, .provisioned, provisioned_shows hp h⟩
  | called hcurrent hbase h hmerge ih =>
    obtain ⟨book, hwritten, hshows⟩ := ih
    obtain ⟨hcandidate, -⟩ := merge_ok hmerge
    obtain ⟨hregistration, book', hdoes, hshows'⟩ := call_does hp h hcandidate fun hframed =>
      hshows.congr hframed hbase.vault.symm hbase.trustedBrowser.symm
    rw [← hbase.trustedBrowser] at hregistration
    exact ⟨_, .called hwritten hdoes, hshows'.merged hmerge hregistration⟩
  | passphraseChanged _ h ih =>
    obtain ⟨book, hwritten, hshows⟩ := ih
    exact ⟨book, hwritten, passphraseChanged_shows hshows h⟩

/-! ## The page -/

/-- The line of an account on the page. -/
def Account.line (account : Account) (order : Nat) : CanonicalAccountView where
  id := account.viewId
  issuer := account.issuer
  account := account.account
  displayName := account.displayName
  order := .integer order

/-- Orders are numbered, and the page's sort leaves the list as it is. -/
theorem Ordered.lines {records : List VaultCredentialRecord} (h : Ordered records) :
    ∃ orders : List Nat, orders.length = records.length ∧ orders.Pairwise (· < ·) ∧
      (∀ order ∈ orders, order ≤ 0xffff) ∧
      ((records.map accountView).mergeSort fun left right => left.order.le right.order) =
        List.zipWith Account.line (records.map VaultCredentialRecord.toAccount) orders := by
  have hinteger : ∀ record ∈ records, record.manualOrder = .integer record.manualOrder.toNat := by
    intro record hrecord
    obtain ⟨n, hn⟩ := h.integer record hrecord
    rw [hn]
    rfl
  refine ⟨records.map (·.manualOrder.toNat), List.length_map .., List.pairwise_map.2 h.sorted, ?_,
    ?_⟩
  · intro order horder
    obtain ⟨record, hrecord, rfl⟩ := List.mem_map.1 horder
    exact h.fits record hrecord
  · rw [List.mergeSort_of_pairwise]
    · rw [List.zipWith_map, List.zipWith_self]
      refine List.map_congr_left fun record hrecord => ?_
      rw [accountView, hinteger record hrecord]
      rfl
    · refine List.pairwise_map.2 (h.sorted.imp_of_mem fun {a b} ha hb hlt => ?_)
      rw [accountView, accountView, hinteger a ha, hinteger b hb]
      exact decide_eq_true (by omega)

/-- **The account list over a run.** After any calls the browser opens its Vault and finds the
accounts that the calls have written, up to rereading, and exactly these where all texts are plain;
they are at most 32 with distinct identifiers, and the page lists them in their order, with orders
that increase and fit their field. -/
theorem account_book (hp : platform.Correct) {first : List Account} {calls : List VaultCall}
    {state : BrowserCanonicalState} (h : Managed platform first calls state) :
    ∃ book view, Recorded first calls book ∧
      ((∀ account ∈ first, account.Plain) → (∀ call ∈ calls, WritesPlain call) →
        Performed first calls book) ∧
      Shows platform state book ∧ book.length ≤ 32 ∧
      (book.map Account.viewId).Nodup ∧ readBrowserVaultView platform state = .ok view ∧
      ∃ orders : List Nat, orders.length = book.length ∧ orders.Pairwise (· < ·) ∧
        (∀ order ∈ orders, order ≤ 0xffff) ∧
        view.accounts = List.zipWith Account.line book orders := by
  obtain ⟨book, hwritten, hshows⟩ := h.shows hp
  obtain ⟨hframed, vmk, decrypted, v, hwraps, hdecrypted, hv, hordered, rfl⟩ := id hshows
  obtain ⟨orders, hlength, hincreasing, hfits, hlines⟩ := hordered.lines
  refine ⟨_, _, hwritten, fun hfirst hcalls => (hwritten.written hfirst hcalls).1, hshows, ?_,
    viewIds_nodup hordered.ids, bind_ok.2 ⟨vmk, (unwrap_iff hframed).2 hwraps, bind_ok.2
    ⟨decrypted, hdecrypted, bind_ok.2 ⟨v, hv, rfl⟩⟩⟩, orders, ?_, hincreasing, hfits, hlines⟩
  · rw [List.length_map]
    exact hordered.limit
  · rw [hlength, List.length_map]

/-! ### A run -/

/-- What a provisioning of two accounts draws. -/
def someProvision : ProvisionDraw where
  vmk := .zero 32
  vaultId := .zero 16
  credentialId order := ⟨List.replicate 16 (UInt8.ofNat order), List.length_replicate⟩
  vaultNonce := .zero 12
  salt := .zero 32
  wrapNonce := .zero 12
  registration :=
    { registrationId := .zero 16, buk := .zero 32, brk := [], brkPublicKeyRaw := .zero 65
      wrapNonce := .zero 12 }

/-- A Device without a Vault. -/
def cleanHello : CanonicalHelloData where
  device := literal "StickC Plus2"
  deviceId := literal "device"
  firmware := literal "1.0.0"
  vaultFormat := .current
  supportedVaultFormats := [.integer 1, .integer 2]
  buildCommit := literal "0"
  state := literal "unprovisioned"
  storageReady := true
  recoveryResetRequired := false
  factoryResetPresenceRequired := false
  vaultPresent := false
  vaultId := none
  generation := 0
  registrationPresent := false
  registrationId := none
  registrationEpoch := 0
  brkPublicKey := none

/-- The Device after the provisioning. -/
def unlockedHello : CanonicalHelloData :=
  { cleanHello with
    state := literal "unlocked"
    vaultPresent := true
    vaultId := some someProvision.vaultId.1
    generation := 1
    registrationPresent := true
    registrationId := some someProvision.registration.registrationId.1
    registrationEpoch := 1
    brkPublicKey := some someProvision.registration.brkPublicKeyRaw.1 }

def someRekey : RekeyDraw := ⟨.zero 32, .zero 12, .zero 32, .zero 12, .zero 12⟩

def twoAccounts : List ImportedCredential :=
  [⟨[1], literal "first", []⟩, ⟨[2], literal "second", []⟩]

/-- The page deletes the first account. -/
def deleteFirst : VaultCall := .deleteAccount (credentialViewId (someProvision.credentialId 0).1)

theorem someRun_ok : (do
    let current ← initialProvision plainPlatform someProvision cleanHello twoAccounts
      (literal "correct horse battery staple")
    let candidate ← deleteFirst.candidate plainPlatform someRekey unlockedHello current
    mergeVaultAdvanceWithCurrentBrowserState current candidate current.vault.generation).isOk =
      true := by
  decide +kernel

theorem twoAccounts_plain :
    ∀ account ∈ importedAccounts twoAccounts someProvision.credentialId, account.Plain := by
  have htexts : ∀ account ∈ twoAccounts, PlainText account.issuer ∧ PlainText account.account := by
    unfold PlainText
    decide
  intro account hmem
  obtain ⟨i, hi, rfl⟩ := List.mem_mapIdx.1 hmem
  obtain ⟨hissuer, haccount⟩ := htexts _ (List.getElem_mem hi)
  exact ⟨hissuer, ⟨rfl, nofun⟩, haccount⟩

/-- The list of two accounts of which the first is deleted. -/
theorem account_book_deleted : ∃ state book view,
    Recorded (importedAccounts twoAccounts someProvision.credentialId) [deleteFirst] book ∧
      Performed (importedAccounts twoAccounts someProvision.credentialId) [deleteFirst] book ∧
      readBrowserVaultView plainPlatform state = .ok view ∧
      view.accounts.length = book.length := by
  obtain ⟨state, hrun⟩ := ok_of_isOk someRun_ok
  obtain ⟨current, hcurrent, hrun⟩ := bind_ok.1 hrun
  obtain ⟨candidate, hcandidate, hmerge⟩ := bind_ok.1 hrun
  obtain ⟨book, view, hrecorded, hwritten, -, -, -, hview, orders, hlength, -, -, haccounts⟩ :=
    account_book plainPlatform_correct
      (.called (.provisioned hcurrent rfl) ⟨rfl, rfl⟩ hcandidate hmerge)
  refine ⟨state, book, view, hrecorded, hwritten twoAccounts_plain fun call hcall => ?_, hview, ?_⟩
  · rw [List.mem_singleton.1 hcall]
    trivial
  · rw [haccounts, List.length_zipWith, hlength, Nat.min_self]

end M5Auth.Web
