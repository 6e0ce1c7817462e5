import Mathlib.Data.List.Perm.Subperm
import M5Auth.Web.AccountCalls
import M5Auth.Web.Proof.VaultRoundTrip

/-!
# The account book

What the account calls are for: `Does` says on a plain list of accounts, without orders, what a call
does. The mutators of the source work on records that carry an order besides their place; here each
of them is compared with the plain list (`mutated_does`), and the orders are shown to increase along
the list (`Increasing`), which is what makes the list and every sort of it the same.

Every write encodes all texts and every read decodes them again (`reread`).
-/

namespace M5Auth.Web

open Unicode CanonicalDeviceManagement

/-! ## Accounts -/

/-- An account, without its place among the others. -/
structure Account where
  id : List UInt8
  secret : List UInt8
  issuer : JsString
  account : JsString
  displayName : JsString
  digits : Number
  periodSeconds : Number
  deriving DecidableEq

/-- The account of a record. -/
def VaultCredentialRecord.toAccount (record : VaultCredentialRecord) : Account where
  id := record.credentialId
  secret := record.secret
  issuer := record.issuer
  account := record.account
  displayName := record.displayName
  digits := record.digits
  periodSeconds := record.periodSeconds

/-- The identifier of an account on the page. -/
def Account.viewId (account : Account) : JsString := credentialViewId account.id

@[simp] theorem toAccount_viewId (record : VaultCredentialRecord) :
    record.toAccount.viewId = credentialViewId record.credentialId := rfl

/-- An imported account. -/
def importedAccount (id : List UInt8) (account : ImportedCredential) : Account where
  id := id
  secret := account.secret
  issuer := account.issuer
  account := account.account
  displayName := []
  digits := .integer 6
  periodSeconds := .integer 30

/-- The accounts of an import, in its order. -/
def importedAccounts (imported : List ImportedCredential) (credentialId : Nat → Bytes 16) :
    List Account :=
  imported.mapIdx fun index account => importedAccount (credentialId index).1 account

/-- What a string is after it was written and read. -/
def reread (s : JsString) : JsString := encodeUtf16 (dropBom (scalars s))

/-- A well-formed string that does not begin with a byte order mark stays what it is. -/
theorem reread_eq_self {s : JsString} (hs : WellFormed s = true) (hbom : s.head? ≠ some bomUnit) :
    reread s = s :=
  (reads_back_iff hs rfl ⟨scalars s, rfl, rfl⟩).2 hbom

def Account.reread (account : Account) : Account :=
  { account with
    issuer := Web.reread account.issuer
    account := Web.reread account.account
    displayName := Web.reread account.displayName }

/-- A text that is read as it was written. -/
def PlainText (s : JsString) : Prop := WellFormed s = true ∧ s.head? ≠ some bomUnit

/-- All texts of the account are read as they were written. -/
structure Account.Plain (account : Account) : Prop where
  issuer : PlainText account.issuer
  displayName : PlainText account.displayName
  account : PlainText account.account

theorem Account.Plain.reread {account : Account} (h : account.Plain) : account.reread = account := by
  rw [Account.reread, reread_eq_self h.issuer.1 h.issuer.2, reread_eq_self h.account.1 h.account.2,
    reread_eq_self h.displayName.1 h.displayName.2]

theorem map_reread_plain {book : List Account} (h : ∀ account ∈ book, account.Plain) :
    book.map Account.reread = book :=
  (List.map_congr_left fun account hmem => (h account hmem).reread).trans (List.map_id _)

/-- A record after it was written and read. -/
def VaultCredentialRecord.reread (record : VaultCredentialRecord) : VaultCredentialRecord :=
  { record with
    issuer := Web.reread record.issuer
    account := Web.reread record.account
    displayName := Web.reread record.displayName }

/-! ## What a call does -/

/-- The call turns the accounts `book` into `book'`. -/
def Does (call : VaultCall) (book book' : List Account) : Prop :=
  match call with
  | .importAccounts imported credentialId =>
    book' = book ++ importedAccounts imported credentialId
  | .renameAccount id displayName => ∃ before account after,
    book = before ++ account :: after ∧ account.viewId = id ∧
      book' = before ++ { account with displayName } :: after
  | .deleteAccount id => ∃ before account after,
    book = before ++ account :: after ∧ account.viewId = id ∧ book' = before ++ after
  | .reorderAccounts ids => book'.Perm book ∧ book'.map Account.viewId = ids
  | _ => book' = book

/-- The texts that the call brings are read as they were written. -/
def WritesPlain : VaultCall → Prop
  | .importAccounts imported credentialId =>
    ∀ account ∈ importedAccounts imported credentialId, account.Plain
  | .renameAccount _ displayName => PlainText displayName
  | _ => True

theorem Does.plain {call : VaultCall} {book book' : List Account} (h : Does call book book')
    (hcall : WritesPlain call) (hbook : ∀ account ∈ book, account.Plain) :
    ∀ account ∈ book', account.Plain := by
  intro account hmem
  cases call with
  | importAccounts imported credentialId =>
    rcases List.mem_append.1 (h ▸ hmem) with hold | hnew
    · exact hbook account hold
    · exact hcall account hnew
  | renameAccount id displayName =>
    obtain ⟨before, renamed, after, rfl, -, rfl⟩ := h
    have hrenamed := hbook renamed (by simp)
    rcases List.mem_append.1 hmem with hbefore | hafter
    · exact hbook account (List.mem_append_left _ hbefore)
    · rcases List.mem_cons.1 hafter with rfl | hafter
      · exact { hrenamed with displayName := hcall }
      · exact hbook account (by simp [hafter])
  | deleteAccount id =>
    obtain ⟨before, deleted, after, rfl, -, rfl⟩ := h
    rcases List.mem_append.1 hmem with hbefore | hafter
    · exact hbook account (List.mem_append_left _ hbefore)
    · exact hbook account (by simp [hafter])
  | reorderAccounts ids => exact hbook account (h.1.mem_iff.1 hmem)
  | _ => exact hbook account (h ▸ hmem)

/-! ## Orders -/

/-- The orders are natural numbers that increase along the list. -/
structure Increasing (records : List VaultCredentialRecord) : Prop where
  integer : ∀ record ∈ records, ∃ n : Nat, record.manualOrder = .integer n
  sorted : records.Pairwise fun a b => a.manualOrder.toNat < b.manualOrder.toNat

theorem Increasing.of_getElem {records : List VaultCredentialRecord} {f : Nat → Nat}
    (hmono : ∀ i j, i < j → f i < f j)
    (h : ∀ i (hi : i < records.length), records[i].manualOrder = .integer (f i)) :
    Increasing records where
  integer record hrecord := by
    obtain ⟨i, hi, rfl⟩ := List.getElem_of_mem hrecord
    exact ⟨f i, h i hi⟩
  sorted := by
    rw [List.pairwise_iff_getElem]
    intro i j hi hj hij
    rw [h i hi, h j hj]
    exact hmono i j hij

/-- Records with the orders of others. -/
theorem Increasing.congr {records records' : List VaultCredentialRecord}
    (h : Increasing records)
    (horders : records'.map (·.manualOrder) = records.map (·.manualOrder)) :
    Increasing records' := by
  refine ⟨fun record hrecord => ?_, ?_⟩
  · have hmem : record.manualOrder ∈ records.map (·.manualOrder) :=
      horders ▸ List.mem_map_of_mem hrecord
    obtain ⟨other, hother, heq⟩ := List.mem_map.1 hmem
    obtain ⟨n, hn⟩ := h.integer other hother
    exact ⟨n, heq ▸ hn⟩
  · have horders' := congrArg (List.map Number.toNat) horders
    rw [List.map_map, List.map_map] at horders'
    have hsorted : (records'.map (Number.toNat ∘ (·.manualOrder))).Pairwise (· < ·) :=
      horders' ▸ List.pairwise_map.2 h.sorted
    exact List.pairwise_map.1 hsorted

theorem renumber_increasing (records : List VaultCredentialRecord) :
    Increasing (renumber records) :=
  .of_getElem (f := id) (fun _ _ h => h) fun i hi => by simp [renumber]

theorem renumber_toAccount (records : List VaultCredentialRecord) :
    (renumber records).map VaultCredentialRecord.toAccount =
      records.map VaultCredentialRecord.toAccount := by
  apply List.ext_getElem
  · simp [renumber]
  · intro i hi hi'
    simp [renumber, VaultCredentialRecord.toAccount]

/-- The next order is above all others. -/
theorem nextOrder_above {records : List VaultCredentialRecord}
    (h : ∀ record ∈ records, ∃ n : Nat, record.manualOrder = .integer n) :
    ∃ n : Nat, nextOrder records = .integer n ∧
      ∀ record ∈ records, record.manualOrder.toNat < n := by
  have hfold : ∀ (records : List VaultCredentialRecord) (m : Int), -1 ≤ m →
      (∀ record ∈ records, ∃ n : Nat, record.manualOrder = .integer n) →
      ∃ m' : Int, m ≤ m' ∧
        records.foldl (fun (maximum : Number) item => maximum.mathMax item.manualOrder)
          (.integer m) = .integer m' ∧
        ∀ record ∈ records, (record.manualOrder.toNat : Int) ≤ m' := by
    intro records
    induction records with
    | nil => exact fun m _ _ => ⟨m, Int.le_refl m, rfl, by simp⟩
    | cons record records ih =>
      intro m hm hall
      obtain ⟨n, hn⟩ := hall record List.mem_cons_self
      obtain ⟨m', hle, hfold, hbound⟩ := ih (max m n) (by omega)
        fun other hother => hall other (List.mem_cons_of_mem _ hother)
      refine ⟨m', by omega, ?_, ?_⟩
      · rw [List.foldl_cons, hn]
        exact hfold
      · intro other hother
        rcases List.mem_cons.1 hother with rfl | hother
        · rw [hn, Number.toNat, Int.toNat_natCast]
          omega
        · exact hbound other hother
  obtain ⟨m, hm, hfold, hbound⟩ := hfold records (-1) (Int.le_refl _) h
  refine ⟨(m + 1).toNat, ?_, fun record hrecord => ?_⟩
  · rw [nextOrder, hfold, Number.add, Int.toNat_of_nonneg (by omega)]
    rfl
  · have := hbound record hrecord
    omega

/-! ## The mutators -/

theorem importMutator_does {imported : List ImportedCredential} {credentialId : Nat → Bytes 16}
    {v v' : VaultPlaintext} (h : importMutator imported credentialId v = .ok v')
    (hv : Increasing v.credentials) :
    Increasing v'.credentials ∧ v'.credentials.map VaultCredentialRecord.toAccount =
      v.credentials.map VaultCredentialRecord.toAccount ++
        importedAccounts imported credentialId := by
  obtain ⟨-, h⟩ := require_bind.1 h
  cases h
  obtain ⟨n, hnext, hbound⟩ := nextOrder_above hv.integer
  have hnew : Increasing (imported.mapIdx fun index account =>
      importedRecord (credentialId index).1 account ((nextOrder v.credentials).add index)) :=
    .of_getElem (f := fun i => n + i) (fun i j h => by omega) fun i hi => by
      simp [importedRecord, hnext, Number.add]
  refine ⟨⟨fun record hrecord => ?_, ?_⟩, ?_⟩
  · rcases List.mem_append.1 hrecord with hold | hnew'
    · exact hv.integer record hold
    · exact hnew.integer record hnew'
  · refine List.pairwise_append.2 ⟨hv.sorted, hnew.sorted, fun a ha b hb => ?_⟩
    obtain ⟨i, hi, rfl⟩ := List.getElem_of_mem hb
    have horder : (Number.integer ((n : Int) + i)).toNat = n + i := by
      rw [Number.toNat]
      omega
    simp only [List.getElem_mapIdx, importedRecord, hnext, Number.add, horder]
    exact Nat.lt_add_right i (hbound a ha)
  · rw [List.map_append]
    congr 1
    apply List.ext_getElem
    · simp [importedAccounts]
    · intro i hi hi'
      simp [importedAccounts, importedRecord, importedAccount, VaultCredentialRecord.toAccount]

/-- The record that an identifier finds. -/
theorem findCredential_some {records : List VaultCredentialRecord} {id : JsString} {index : Nat}
    (h : findCredential records id = some index) : ∃ before record after,
      records = before ++ record :: after ∧ before.length = index ∧
        credentialViewId record.credentialId = id := by
  obtain ⟨hindex, hid, -⟩ := List.findIdx?_eq_some_iff_getElem.1 h
  refine ⟨records.take index, records[index], records.drop (index + 1), ?_, ?_, beq_iff_eq.1 hid⟩
  · rw [List.getElem_cons_drop, List.take_append_drop]
  · rw [List.length_take]
    omega

theorem renameMutator_does {id displayName : JsString} {v v' : VaultPlaintext}
    (h : renameMutator id displayName v = .ok v') (hv : Increasing v.credentials) :
    Increasing v'.credentials ∧ Does (.renameAccount id displayName)
      (v.credentials.map VaultCredentialRecord.toAccount)
      (v'.credentials.map VaultCredentialRecord.toAccount) := by
  unfold renameMutator at h
  split at h
  · cases h
  · rename_i index hindex
    cases h
    obtain ⟨before, record, after, hrecords, rfl, hid⟩ := findCredential_some hindex
    have hmodify : v.credentials.modify before.length (fun record =>
        { record with displayName }) = before ++ { record with displayName } :: after := by
      rw [hrecords, List.modify_eq_take_cons_drop (by simp)]
      simp
    refine ⟨hv.congr ?_, before.map VaultCredentialRecord.toAccount, record.toAccount,
      after.map VaultCredentialRecord.toAccount, ?_, hid, ?_⟩
    · dsimp only
      rw [hmodify, hrecords, List.map_append, List.map_append, List.map_cons, List.map_cons]
    · rw [hrecords, List.map_append, List.map_cons]
    · dsimp only
      rw [hmodify, List.map_append, List.map_cons]
      rfl

theorem deleteMutator_does {id : JsString} {v v' : VaultPlaintext}
    (h : deleteMutator id v = .ok v') :
    Increasing v'.credentials ∧ Does (.deleteAccount id)
      (v.credentials.map VaultCredentialRecord.toAccount)
      (v'.credentials.map VaultCredentialRecord.toAccount) := by
  unfold deleteMutator at h
  split at h
  · cases h
  · rename_i index hindex
    cases h
    obtain ⟨before, record, after, hrecords, rfl, hid⟩ := findCredential_some hindex
    have herase : v.credentials.eraseIdx before.length = before ++ after := by
      rw [hrecords, List.eraseIdx_eq_take_drop_succ]
      simp
    refine ⟨renumber_increasing _, before.map VaultCredentialRecord.toAccount, record.toAccount,
      after.map VaultCredentialRecord.toAccount, ?_, hid, ?_⟩
    · rw [hrecords, List.map_append, List.map_cons]
    · dsimp only
      rw [renumber_toAccount, herase, List.map_append]

/-- What the loop of `reorderAccounts` returns. -/
theorem reorderFrom_ok {records : List VaultCredentialRecord} {ids : List JsString} {order : Nat}
    {reordered : List VaultCredentialRecord} (h : reorderFrom records order ids = .ok reordered) :
    reordered.map (fun record => credentialViewId record.credentialId) = ids ∧
      (∀ record ∈ reordered, record.toAccount ∈ records.map VaultCredentialRecord.toAccount) ∧
      ∀ i (hi : i < reordered.length), reordered[i].manualOrder = .integer ((order + i : Nat)) := by
  induction ids generalizing order reordered with
  | nil =>
    cases h
    exact ⟨rfl, by simp, by simp⟩
  | cons id ids ih =>
    unfold reorderFrom at h
    split at h
    · cases h
    · rename_i record hrecord
      obtain ⟨rest, hrest, h⟩ := bind_ok.1 h
      cases h
      obtain ⟨hids, hmem, horders⟩ := ih hrest
      have hid : credentialViewId record.credentialId = id := by
        simpa using List.find?_some hrecord
      have hin : record ∈ records := by simpa using List.mem_of_find?_eq_some hrecord
      refine ⟨?_, fun other hother => ?_, fun i hi => ?_⟩
      · rw [List.map_cons, hids]
        exact congrArg (· :: ids) hid
      · rcases List.mem_cons.1 hother with rfl | hother
        · exact List.mem_map.2 ⟨record, hin, rfl⟩
        · exact hmem other hother
      · cases i with
        | zero => rfl
        | succ i =>
          rw [List.getElem_cons_succ, horders i (by simpa using hi)]
          congr 2
          omega

theorem viewIds_nodup {records : List VaultCredentialRecord}
    (h : (records.map (·.credentialId)).Nodup) :
    ((records.map VaultCredentialRecord.toAccount).map Account.viewId).Nodup := by
  have hmap : (records.map VaultCredentialRecord.toAccount).map Account.viewId =
      (records.map (·.credentialId)).map credentialViewId := by
    rw [List.map_map, List.map_map]
    rfl
  rw [hmap]
  exact h.map fun _ _ heq => encodeBase64Url_injective heq

theorem reorderMutator_does {ids : List JsString} {v v' : VaultPlaintext}
    (h : reorderMutator ids v = .ok v') :
    Increasing v'.credentials ∧ Does (.reorderAccounts ids)
      (v.credentials.map VaultCredentialRecord.toAccount)
      (v'.credentials.map VaultCredentialRecord.toAccount) := by
  obtain ⟨hset, h⟩ := require_bind.1 h
  obtain ⟨reordered, hreordered, h⟩ := bind_ok.1 h
  cases h
  rw [Bool.and_eq_true, beq_iff_eq, beq_iff_eq] at hset
  obtain ⟨hids, hmem, horders⟩ := reorderFrom_ok hreordered
  have hviews : (reordered.map VaultCredentialRecord.toAccount).map Account.viewId = ids := by
    rw [List.map_map]
    exact hids
  have hnodup : ids.Nodup := by
    rw [← List.dedup_eq_self]
    exact (List.dedup_sublist ids).eq_of_length hset.2
  have hlength : reordered.length = v.credentials.length := by
    rw [← hset.1, ← hids, List.length_map]
  refine ⟨.of_getElem (f := fun i => 0 + i) (fun i j h => by omega) horders, ?_, hviews⟩
  have hsubset : reordered.map VaultCredentialRecord.toAccount ⊆
      v.credentials.map VaultCredentialRecord.toAccount := by
    intro account haccount
    obtain ⟨record, hrecord, rfl⟩ := List.mem_map.1 haccount
    exact hmem record hrecord
  refine (List.subperm_of_subset ?_ hsubset).perm_of_length_le ?_
  · exact List.Nodup.of_map _ (hviews ▸ hnodup)
  · rw [List.length_map, List.length_map, hlength]

/-! ## Writing and reading the list -/

/-- A list as the Vault stores it. -/
structure Ordered (records : List VaultCredentialRecord) : Prop extends Increasing records where
  limit : records.length ≤ maxVaultCredentials
  ids : (records.map (·.credentialId)).Nodup
  fits : ∀ record ∈ records, record.manualOrder.toNat ≤ 0xffff

theorem record_reread {r : Vault.CredentialRecord} {w w' : VaultCredentialRecord}
    (hsame : SameRecord r w) (hreads : RecordReads r w') : w' = w.reread := by
  have htext {t : Text} {s s' : JsString} (hs : textEncode s = t) (ht : TextReads t s') :
      s' = Web.reread s := by
    obtain ⟨text, rfl, rfl⟩ := ht
    rw [Web.reread, encodeUtf8_injective hs]
  cases w
  cases w'
  simp only [VaultCredentialRecord.reread, VaultCredentialRecord.mk.injEq]
  exact ⟨hreads.fields.credentialId.trans hsame.fields.credentialId.symm,
    hreads.fields.secret.trans hsame.fields.secret.symm, htext hsame.issuer hreads.issuer,
    htext hsame.account hreads.account, htext hsame.displayName hreads.displayName,
    hreads.fields.digits.trans hsame.fields.digits.symm,
    hreads.fields.periodSeconds.trans hsame.fields.periodSeconds.symm,
    hreads.fields.manualOrder.trans hsame.fields.manualOrder.symm⟩

theorem records_reread {rs : List Vault.CredentialRecord} {ws ws' : List VaultCredentialRecord}
    (hsame : List.Forall₂ SameRecord rs ws) (hreads : List.Forall₂ RecordReads rs ws') :
    ws' = ws.map VaultCredentialRecord.reread := by
  induction hsame generalizing ws' with
  | nil =>
    cases hreads
    rfl
  | cons hr _ ih =>
    cases hreads with
    | cons hr' hrs' => rw [List.map_cons, record_reread hr hr', ih hrs']

theorem reread_toAccount (records : List VaultCredentialRecord) :
    (records.map VaultCredentialRecord.reread).map VaultCredentialRecord.toAccount =
      (records.map VaultCredentialRecord.toAccount).map Account.reread := by
  rw [List.map_map, List.map_map]
  rfl

/-- **Written and read.** The list that is read from an encoding is the written one with its texts
read again, and it is in order if the written one was. -/
theorem decode_encoded {value : VaultPlaintext} {version : VaultFormatVersion}
    {bytes : List UInt8} (h : encodeVaultPlaintext value version = .ok bytes)
    (hvalue : Increasing value.credentials) :
    ∃ v, decodeVaultPlaintext bytes (some version) = .ok v ∧ Ordered v.credentials ∧
      v.credentials = value.credentials.map VaultCredentialRecord.reread := by
  obtain ⟨p, hsame, hencode⟩ := encodeVaultPlaintext_ok h
  have hp := Vault.decodePlaintext_iff.2 hencode
  obtain ⟨v, hv⟩ := accepted_iff.1 ⟨p, hp⟩
  have hreads := reads_of hp hv
  have hcredentials := records_reread hsame.credentials hreads.credentials
  obtain ⟨-, hnodup, -⟩ := Vault.decodePlaintext_accounts hp
  obtain ⟨_, _, _, hmax, -, -, -, -⟩ := Vault.encodePlaintext_iff.1 hencode
  have horders : v.credentials.map (·.manualOrder) = value.credentials.map (·.manualOrder) := by
    rw [hcredentials, List.map_map]
    rfl
  refine ⟨v, hv, ⟨hvalue.congr horders, ?_, ?_, fun record hrecord => ?_⟩, hcredentials⟩
  · rw [← hreads.credentials.length_eq]
    exact hmax
  · rw [ids_of hreads.credentials]
    exact hnodup.map fun _ _ heq => Subtype.ext heq
  · obtain ⟨r, -, hr⟩ := forall₂_mem_right hreads.credentials hrecord
    have hlt := r.manualOrder.toNat_lt
    rw [hr.fields.manualOrder, Number.toNat, Int.toNat_natCast]
    omega

end M5Auth.Web
