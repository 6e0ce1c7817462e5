import M5Auth.Web.Proof.BrowserStores
import M5Auth.Web.System

/-!
# The steps of a section

One rule for each call of the management's programs, for any property `I` that the sections keep. A
look-up gives what the stores have and changes nothing; a change asks for `I` of the new stores; a
request asks for `I` of every Device that the request may leave.
-/

namespace M5Auth.Web

open CrashProgram

variable {deviceId : JsString} {I : System → Prop} {s : System} {α : Type}

/-- The section stops with `I`, and with `P` if it returns. -/
abbrev Section (deviceId : JsString) (I : System → Prop) (p : Manage α) (P : α → System → Prop)
    (s : System) : Prop :=
  Ensures (systemStep deviceId) I p P s

namespace Pair

@[simp] theorem withStores_self : s.withStores s.stores = s := rfl

/-- What a request leaves: the Device that handled it, or that may still handle it. -/
structure Handles (I : System → Prop) (s : System) (r : DeviceRequest) : Prop where
  done {d d' : DeviceData} (hd : s.MayBe d) (h : d.Effect r d') : I (s.requested r d' none)
  late {d d' : DeviceData} (hd : s.MayBe d) (h : d.Effect r d') : I (s.requested r d (some d'))

end Pair

namespace Manage

theorem ensures_self (hI : I s) :
    Section deviceId I self (fun memory s' => memory = s.memory ∧ s = s') s :=
  ensures_perform hI fun r s' ⟨hr, hs'⟩ => by
    subst hr hs'
    exact ⟨hI, fun memory h => ⟨(Except.ok.inj h).symm, rfl⟩⟩

theorem ensures_assign {change : Management → Management} (hI : I s)
    (h : I (s.withMemory (change s.memory))) :
    Section deviceId I (assign change) (fun _ s' => s' = s.withMemory (change s.memory)) s :=
  ensures_perform hI fun r s' ⟨_, hs'⟩ => by
    subst hs'
    exact ⟨h, fun _ _ => rfl⟩

/-- A check or a computation, which throws or leaves everything as it is. -/
theorem ensures_lift {x : Except Thrown α} (hI : I s) :
    Section deviceId I (liftM x : Manage α) (fun a s' => x = .ok a ∧ s = s') s :=
  ensures_ofExcept hI fun _ ha => ⟨ha, rfl⟩

/-- A transaction takes place or throws. -/
theorem ensures_store {call : StoreCall} {P : call.Result → System → Prop} (hI : I s)
    (h : ∀ result stores, call.apply s.stores = .ok (result, stores) →
      I (s.withStores stores) ∧ P result (s.withStores stores)) :
    Section deviceId I (store call) P s := by
  refine ensures_perform hI fun r s' hstep => ?_
  rcases hstep with ⟨⟨result, stores⟩, hresult, rfl, rfl⟩ | ⟨e, rfl, rfl⟩
  · obtain ⟨hI', hP⟩ := h result stores hresult
    exact ⟨hI', fun a ha => Except.ok.inj ha ▸ hP⟩
  · exact ⟨hI, nofun⟩

/-- A request is answered, or throws with its effect or before it. -/
theorem ensures_request {r : DeviceRequest} {P : r.Result → System → Prop} (hI : I s)
    (h : s.Handles I r)
    (hP : ∀ d d' result, s.MayBe d → d.Effect r d' → d'.Answers deviceId r result →
      P result (s.requested r d' none)) : Section deviceId I (request r) P s := by
  refine ensures_perform hI fun r s' hstep => ?_
  cases hstep with
  | answered hd hhandles =>
    obtain ⟨heffect, hanswers⟩ := hhandles
    exact ⟨h.done hd heffect,
      fun a ha => Except.ok.inj ha ▸ hP _ _ _ hd heffect (hanswers _ rfl)⟩
  | failed hd hhandles => exact ⟨h.done hd hhandles.1, nofun⟩
  | inFlight hd hhandles => exact ⟨h.late hd hhandles.1, nofun⟩

/-! ## Look-ups -/

theorem ensures_vaultGet {vaultId : List UInt8} (hI : I s) :
    Section deviceId I (vaultGet vaultId)
      (fun r s' => r = s.stores.vault vaultId ∧ s = s') s := by
  refine ensures_store hI fun result stores h => ?_
  obtain ⟨-, h⟩ := assertLength_bind_ok.1 h
  obtain ⟨record, hrecord, h⟩ := bind_ok.1 h
  cases h
  exact ⟨hI, cloned_ok (fun _ _ => sanitize_same) hrecord, rfl⟩

theorem ensures_vaultList (hI : I s) :
    Section deviceId I vaultList (fun r s' => r = s.stores.vaults.records ∧ s = s') s := by
  refine ensures_store hI fun result stores h => ?_
  obtain ⟨records, hrecords, h⟩ := bind_ok.1 h
  cases h
  exact ⟨hI, mapM_ok (fun _ _ => sanitize_same) hrecords, rfl⟩

theorem ensures_journalGet {vaultId : List UInt8} (hI : I s) :
    Section deviceId I (journalGet vaultId)
      (fun r s' => r = s.stores.pending vaultId ∧ s = s') s := by
  refine ensures_store hI fun result stores h => ?_
  obtain ⟨record, hrecord, h⟩ := bind_ok.1 h
  cases h
  exact ⟨hI, cloned_ok (fun _ _ => clone_same) hrecord, rfl⟩

theorem ensures_journalListForDevice {device : JsString} (hI : I s) :
    Section deviceId I (journalListForDevice device)
      (fun r s' => r = s.stores.journal.records.filter (·.candidate.belongsTo device) ∧ s = s')
      s := by
  refine ensures_store hI fun result stores h => ?_
  obtain ⟨records, hrecords, h⟩ := bind_ok.1 h
  cases h
  rw [mapM_ok (fun _ _ => clone_same) hrecords]
  exact ⟨hI, rfl, rfl⟩

theorem ensures_resetGet {device : JsString} (hI : I s) :
    Section deviceId I (resetGet device)
      (fun r s' => r = s.stores.intent device ∧ s = s') s := by
  refine ensures_store hI fun result stores h => ?_
  cases h
  exact ⟨hI, rfl, rfl⟩

theorem ensures_resetList (hI : I s) :
    Section deviceId I resetList (fun r s' => r = s.stores.resets.records ∧ s = s') s := by
  refine ensures_store hI fun result stores h => ?_
  cases h
  exact ⟨hI, rfl, rfl⟩

/-! ## Changes -/

theorem ensures_vaultPut {state : BrowserCanonicalState} {expectedGeneration : Option Nat}
    {P : System → Prop} (hI : I s)
    (h : ∀ vaults, putVault s.stores.vaults state expectedGeneration = .ok vaults →
      I (s.withStores (s.stores.withVaults vaults)) ∧
        P (s.withStores (s.stores.withVaults vaults))) :
    Section deviceId I (vaultPut state expectedGeneration) (fun _ s' => P s') s := by
  refine ensures_store hI fun result stores happly => ?_
  obtain ⟨vaults, hvaults, happly⟩ := bind_ok.1 happly
  cases happly
  exact h vaults hvaults

theorem ensures_vaultDelete {vaultId : List UInt8} {expectedGeneration : Option Nat} (hI : I s)
    (h : I (s.withStores (s.stores.withVaults (s.stores.vaults.delete (vaultKey vaultId))))) :
    Section deviceId I (vaultDelete vaultId expectedGeneration) (fun _ s' => s' =
      s.withStores (s.stores.withVaults (s.stores.vaults.delete (vaultKey vaultId)))) s := by
  refine ensures_store hI fun result stores happly => ?_
  obtain ⟨vaults, hvaults, happly⟩ := bind_ok.1 happly
  cases happly
  rw [deleteVault_ok hvaults]
  exact ⟨h, rfl⟩

theorem ensures_journalStage {value : BrowserPendingTransaction} (hI : I s)
    (h : Framed value.candidate → s.stores.pending value.candidate.vault.vaultId = none →
      I (s.withStores (s.stores.withJournal (s.stores.journal.put value)))) :
    Section deviceId I (journalStage value) (fun _ s' =>
      s.stores.pending value.candidate.vault.vaultId = none ∧
        s' = s.withStores (s.stores.withJournal (s.stores.journal.put value))) s := by
  refine ensures_store hI fun result stores happly => ?_
  obtain ⟨journal, hjournal, happly⟩ := bind_ok.1 happly
  cases happly
  obtain ⟨rfl, hframed, hnone⟩ := stageTransaction_ok hjournal
  exact ⟨h hframed hnone, hnone, rfl⟩

theorem ensures_journalDelete {vaultId : List UInt8} (hI : I s)
    (h : I (s.withStores (s.stores.withJournal (s.stores.journal.delete (vaultKey vaultId))))) :
    Section deviceId I (journalDelete vaultId) (fun _ s' => s' =
      s.withStores (s.stores.withJournal (s.stores.journal.delete (vaultKey vaultId)))) s := by
  refine ensures_store hI fun result stores happly => ?_
  cases happly
  exact ⟨h, rfl⟩

theorem ensures_resetStage {value : BrowserResetIntent} (hI : I s)
    (h : I (s.withStores (s.stores.withResets (s.stores.resets.put value)))) :
    Section deviceId I (resetStage value) (fun _ s' => s' =
      s.withStores (s.stores.withResets (s.stores.resets.put value))) s := by
  refine ensures_store hI fun result stores happly => ?_
  obtain ⟨resets, hresets, happly⟩ := bind_ok.1 happly
  cases happly
  obtain ⟨rfl, -, -⟩ := stageIntent_ok hresets
  exact ⟨h, rfl⟩

theorem ensures_resetDelete {device : JsString} (hI : I s)
    (h : I (s.withStores (s.stores.withResets (s.stores.resets.delete (storeKey device))))) :
    Section deviceId I (resetDelete device) (fun _ s' => s' =
      s.withStores (s.stores.withResets (s.stores.resets.delete (storeKey device)))) s := by
  refine ensures_store hI fun result stores happly => ?_
  cases happly
  exact ⟨h, rfl⟩

end Manage

end M5Auth.Web
