import M5Auth.Web.BrowserStores
import M5Auth.Web.Proof.JsonText
import M5Auth.Web.Proof.Unsealing

/-!
# What the transactions of the stores do

Look-ups by a Vault's identifier (`vault_iff`, `pending_iff`), and one lemma for each transaction:
what it gives, and the stores that it leaves.
-/

namespace M5Auth.Web

/-! ## Keys -/

theorem hexUnit_injective {m n : UInt16} (hm : m < 16) (hn : n < 16) (h : hexUnit m = hexUnit n) :
    m = n :=
  Option.some.inj ((hexValue_hexUnit hm).symm.trans ((congrArg hexValue? h).trans
    (hexValue_hexUnit hn)))

theorem toHex_byte {a b : UInt8} (hhigh : hexUnit (a / 16).toUInt16 = hexUnit (b / 16).toUInt16)
    (hlow : hexUnit (a % 16).toUInt16 = hexUnit (b % 16).toUInt16) : a = b := by
  have hlt : ∀ c : UInt8, (c / 16).toUInt16 < 16 ∧ (c % 16).toUInt16 < 16 := by
    intro c
    rw [UInt16.lt_iff_toNat_lt, UInt16.lt_iff_toNat_lt]
    have hc := c.toNat_lt
    simp
    omega
  have hdiv := congrArg UInt16.toNat (hexUnit_injective (hlt a).1 (hlt b).1 hhigh)
  have hmod := congrArg UInt16.toNat (hexUnit_injective (hlt a).2 (hlt b).2 hlow)
  simp only [UInt8.toNat_toUInt16, UInt8.toNat_div, UInt8.toNat_mod, UInt8.reduceToNat] at hdiv hmod
  rw [← UInt8.toNat_inj]
  omega

theorem toHex_injective {a b : List UInt8} (h : toHex a = toHex b) : a = b := by
  induction a generalizing b with
  | nil =>
    cases b with
    | nil => rfl
    | cons byte b => cases h
  | cons byte a ih =>
    cases b with
    | nil => cases h
    | cons byte' b =>
      simp only [toHex, List.flatMap_cons, List.cons_append, List.nil_append, List.cons.injEq] at h
      rw [toHex_byte h.1 h.2.1, ih h.2.2]

theorem storeKey_injective {a b : JsString} (h : storeKey a = storeKey b) : a = b :=
  List.map_injective_iff.2 (fun _ _ heq => UInt16.toNat_inj.1 heq) h

theorem storeKey_inj {a b : JsString} : storeKey a = storeKey b ↔ a = b :=
  ⟨storeKey_injective, fun h => h ▸ rfl⟩

theorem vaultKey_injective {a b : List UInt8} (h : vaultKey a = vaultKey b) : a = b :=
  toHex_injective (storeKey_injective h)

theorem vaultKey_inj {a b : List UInt8} : vaultKey a = vaultKey b ↔ a = b :=
  ⟨vaultKey_injective, fun h => h ▸ rfl⟩

/-! ## Look-ups -/

namespace BrowserStores

variable {stores : BrowserStores} {vaultId : List UInt8}

theorem vault_iff {state : BrowserCanonicalState} :
    stores.vault vaultId = some state ↔
      state ∈ stores.vaults.records ∧ state.vault.vaultId = vaultId := by
  rw [vault, ObjectStore.get_iff, vaultKey_inj]

theorem pending_iff {p : BrowserPendingTransaction} :
    stores.pending vaultId = some p ↔
      p ∈ stores.journal.records ∧ p.candidate.vault.vaultId = vaultId := by
  rw [pending, ObjectStore.get_iff, vaultKey_inj]

theorem intent_iff {deviceId : JsString} {intent : BrowserResetIntent} :
    stores.intent deviceId = some intent ↔
      intent ∈ stores.resets.records ∧ intent.deviceId = deviceId := by
  rw [BrowserStores.intent, ObjectStore.get_iff, storeKey_inj]

variable (stores)

/-! ### After a change -/

@[simp] theorem vault_put {state : BrowserCanonicalState} :
    (stores.withVaults (stores.vaults.put state)).vault vaultId =
      if vaultId = state.vault.vaultId then some state else stores.vault vaultId := by
  simp only [vault, withVaults, ObjectStore.get_put, vaultKey_inj]

@[simp] theorem vault_delete {vaultId' : List UInt8} :
    (stores.withVaults (stores.vaults.delete (vaultKey vaultId'))).vault vaultId =
      if vaultId = vaultId' then none else stores.vault vaultId := by
  simp only [vault, withVaults, ObjectStore.get_delete, vaultKey_inj]

@[simp] theorem pending_put {p : BrowserPendingTransaction} :
    (stores.withJournal (stores.journal.put p)).pending vaultId =
      if vaultId = p.candidate.vault.vaultId then some p else stores.pending vaultId := by
  simp only [pending, withJournal, ObjectStore.get_put, vaultKey_inj]

@[simp] theorem pending_delete {vaultId' : List UInt8} :
    (stores.withJournal (stores.journal.delete (vaultKey vaultId'))).pending vaultId =
      if vaultId = vaultId' then none else stores.pending vaultId := by
  simp only [pending, withJournal, ObjectStore.get_delete, vaultKey_inj]

@[simp] theorem intent_put {intent : BrowserResetIntent} (deviceId : JsString) :
    (stores.withResets (stores.resets.put intent)).intent deviceId =
      if deviceId = intent.deviceId then some intent else stores.intent deviceId := by
  simp only [BrowserStores.intent, withResets, ObjectStore.get_put, storeKey_inj]

@[simp] theorem intent_delete (deviceId deviceId' : JsString) :
    (stores.withResets (stores.resets.delete (storeKey deviceId'))).intent deviceId =
      if deviceId = deviceId' then none else stores.intent deviceId := by
  simp only [BrowserStores.intent, withResets, ObjectStore.get_delete, storeKey_inj]

@[simp] theorem pending_withVaults (vaults : VaultRecords) :
    (stores.withVaults vaults).pending vaultId = stores.pending vaultId := rfl

@[simp] theorem intent_withVaults (vaults : VaultRecords) (deviceId : JsString) :
    (stores.withVaults vaults).intent deviceId = stores.intent deviceId := rfl

@[simp] theorem vault_withJournal (journal : JournalRecords) :
    (stores.withJournal journal).vault vaultId = stores.vault vaultId := rfl

@[simp] theorem intent_withJournal (journal : JournalRecords) (deviceId : JsString) :
    (stores.withJournal journal).intent deviceId = stores.intent deviceId := rfl

@[simp] theorem vault_withResets (resets : ResetRecords) :
    (stores.withResets resets).vault vaultId = stores.vault vaultId := rfl

@[simp] theorem pending_withResets (resets : ResetRecords) :
    (stores.withResets resets).pending vaultId = stores.pending vaultId := rfl

end BrowserStores

/-! ## Transactions -/

theorem cloned_ok {α : Type} {clone : α → Except Thrown α}
    (hclone : ∀ record record', clone record = .ok record' → record' = record)
    {record record' : Option α} (h : cloned clone record = .ok record') : record' = record := by
  cases record with
  | none => cases h; rfl
  | some record =>
    obtain ⟨copy, hcopy, h⟩ := bind_ok.1 h
    cases h
    rw [hclone record copy hcopy]

theorem mapM_ok {α : Type} {clone : α → Except Thrown α}
    (hclone : ∀ record record', clone record = .ok record' → record' = record) {records : List α}
    {records' : List α} (h : records.mapM clone = .ok records') : records' = records := by
  induction records generalizing records' with
  | nil =>
    cases h
    rfl
  | cons record records ih =>
    rw [List.mapM_cons] at h
    obtain ⟨copy, hcopy, h⟩ := bind_ok.1 h
    obtain ⟨copies, hcopies, h⟩ := bind_ok.1 h
    cases h
    rw [hclone record copy hcopy, ih hcopies]

theorem sanitize_same {state state' : BrowserCanonicalState}
    (h : sanitizeBrowserCanonicalState state = .ok state') : state' = state := (sanitize_ok.1 h).2

theorem cloneTransaction_ok {p p' : BrowserPendingTransaction} (h : cloneTransaction p = .ok p') :
    Framed p.candidate ∧ p' = p := by
  obtain ⟨candidate, hcandidate, h⟩ := bind_ok.1 h
  obtain ⟨hframed, rfl⟩ := sanitize_ok.1 hcandidate
  cases h
  exact ⟨hframed, rfl⟩

theorem clone_same {p p' : BrowserPendingTransaction} (h : cloneTransaction p = .ok p') : p' = p :=
  (cloneTransaction_ok h).2

/-- What `put` stores: a first record as it is, and a successor merged with the record before. -/
theorem putVault_ok {vaults vaults' : VaultRecords} {state : BrowserCanonicalState}
    {expectedGeneration : Option Nat} (h : putVault vaults state expectedGeneration = .ok vaults') :
    ∃ next, vaults' = vaults.put next ∧ Framed state ∧
      (expectedGeneration = none ∧ vaults.get (vaultKey state.vault.vaultId) = none ∧
          next = state ∨
        ∃ expected current, expectedGeneration = some expected ∧
          vaults.get (vaultKey state.vault.vaultId) = some current ∧
          current.vault.generation = expected ∧
          mergeVaultAdvanceWithCurrentBrowserState current state expected = .ok next) := by
  obtain ⟨safe, hsafe, hput⟩ := bind_ok.1 h
  obtain ⟨hframed, rfl⟩ := sanitize_ok.1 hsafe
  cases hexpected : expectedGeneration with
  | none =>
    cases hcurrent : vaults.get (vaultKey safe.vault.vaultId) with
    | none =>
      rw [hexpected, hcurrent] at hput
      cases hput
      exact ⟨safe, rfl, hframed, .inl ⟨rfl, rfl, rfl⟩⟩
    | some current =>
      rw [hexpected, hcurrent] at hput
      cases hput
  | some expected =>
    cases hcurrent : vaults.get (vaultKey safe.vault.vaultId) with
    | none =>
      rw [hexpected, hcurrent] at hput
      cases hput
    | some current =>
      rw [hexpected, hcurrent] at hput
      dsimp only at hput
      split at hput
      · cases hput
      · rename_i hgeneration
        obtain ⟨next, hnext, hput⟩ := bind_ok.1 hput
        cases hput
        exact ⟨next, rfl, hframed,
          .inr ⟨expected, current, rfl, rfl, not_not.1 hgeneration, hnext⟩⟩

theorem deleteVault_ok {vaults vaults' : VaultRecords} {vaultId : List UInt8}
    {expectedGeneration : Option Nat}
    (h : deleteVault vaults vaultId expectedGeneration = .ok vaults') :
    vaults' = vaults.delete (vaultKey vaultId) := by
  obtain ⟨-, h⟩ := assertLength_bind_ok.1 h
  split at h
  · cases h
  · split at h
    · cases h
    · cases h
      rfl
  · cases h
    rfl

theorem stageTransaction_ok {journal journal' : JournalRecords} {p : BrowserPendingTransaction}
    (h : stageTransaction journal p = .ok journal') :
    journal' = journal.put p ∧ Framed p.candidate ∧
      journal.get (vaultKey p.candidate.vault.vaultId) = none := by
  obtain ⟨safe, hsafe, hstage⟩ := bind_ok.1 h
  obtain ⟨hframed, rfl⟩ := cloneTransaction_ok hsafe
  split at hstage
  · cases hstage
  · rename_i hnone
    cases hstage
    exact ⟨rfl, hframed, hnone⟩

theorem stageIntent_ok {resets resets' : ResetRecords} {value : BrowserResetIntent}
    (h : stageIntent resets value = .ok resets') :
    resets' = resets.put value ∧ validateIntent value = .ok () ∧
      resets.get (storeKey value.deviceId) = none := by
  obtain ⟨_, hvalid, hstage⟩ := bind_ok.1 h
  split at hstage
  · cases hstage
  · rename_i hnone
    cases hstage
    exact ⟨rfl, hvalid, hnone⟩

end M5Auth.Web
