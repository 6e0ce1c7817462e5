import M5Auth.Web.Proof.Operations

/-!
# The resets and the security panel keep the invariant

A reset stages its intent before it commits, and drops records only after a `hello` of a clean
Device. The panel writes where no operation is pending.
-/

namespace M5Auth.Web

open CrashProgram CanonicalDeviceManagement

variable {platform : Platform} {deviceId : JsString} {s s' : System} {hello : CanonicalHelloData}

namespace Manage

theorem ensures_plain {r : DeviceRequest} (h : Good platform deviceId s) (hplain : r.Plain) :
    Section deviceId (Good platform deviceId) (request r)
      (fun _ s' => s'.stores = s.stores) s :=
  ensures_request h (h.handles_plain hplain) fun _ _ _ _ _ _ => rfl

/-! ## Factory reset -/

theorem ensures_awaitReset {attemptId : List UInt8} {polls : List Poll}
    (h : Good platform deviceId s) :
    Section deviceId (Good platform deviceId) (awaitReset attemptId polls)
      (fun _ s' => s'.stores = s.stores) s := by
  induction polls generalizing s with
  | nil => exact ensures_throw h
  | cons poll polls ih =>
    unfold awaitReset
    split
    · exact ensures_throw h
    · refine (ensures_plain (r := .resetStatus attemptId) h trivial).bind ?_
      rintro confirmed s₁ h₁ hstores
      split
      · exact (ih h₁).mono fun _ _ _ hs => hs.trans hstores
      · split
        · exact ensures_throw h₁
        · split
          · exact ensures_throw h₁
          · exact ensures_pure h₁ hstores

/-- The intent and the entry of a staged reset. -/
def ResetStaged (deviceId : JsString) (state : BrowserCanonicalState) (stores : BrowserStores) :
    Prop :=
  stores.intent deviceId = some ⟨deviceId, [affectedVault state]⟩ ∧
    stores.pending state.vault.vaultId = some ⟨.factoryReset, state.vault.generation, state⟩

theorem ensures_stageReset {state : BrowserCanonicalState} (h : Good platform deviceId s)
    (hrecord : s.stores.vault state.vault.vaultId = some state) :
    Section deviceId (Good platform deviceId) (stageReset deviceId state)
      (fun _ s' => ResetStaged deviceId state s'.stores) s := by
  refine (ensures_resetStage h (h.withResets _)).bind ?_
  rintro _ _ h₁ rfl
  refine Ensures.orElse ?_ ?_
  · obtain ⟨passphrase, hall⟩ := h.coherent.opens state.vault.vaultId
    have hopens := hall state (.inl hrecord)
    refine (ensures_journalStage h₁ fun _ hnone =>
      h₁.stage (p := ⟨.factoryReset, state.vault.generation, state⟩) hnone hopens ?_).mono ?_
    · intro current hcurrent
      rw [Pair.withStores, BrowserStores.vault_withResets, hrecord, Option.some.injEq] at hcurrent
      exact ⟨hcurrent ▸ hopens, .inl (congrArg _ hcurrent.symm)⟩
    · rintro _ _ - ⟨-, rfl⟩
      constructor
      · simp only [Pair.withStores, BrowserStores.intent_withJournal, BrowserStores.intent_put,
          if_pos]
        rfl
      · simp only [Pair.withStores, BrowserStores.pending_put, if_pos]
  · intro _ _ h₂
    exact (ensures_resetDelete h₂ (h₂.withResets _)).bind fun _ _ h₃ _ => ensures_throw h₃

theorem ensures_resolveReset {operation : Except Thrown Unit} (h : Good platform deviceId s) :
    Section deviceId (Good platform deviceId) (resolveFactoryReset deviceId operation)
      (fun _ s' => s'.memory.state = none ∧ s'.memory.hello.clean = true ∧
        RefreshedFrom deviceId s s') s := by
  refine ((ensures_refresh h).orElse fun e s₁ h₁ => ?_).bind ?_
  · refine (ensures_resetGet h₁).bind ?_
    rintro _ _ - ⟨rfl, rfl⟩
    split
    · exact ensures_throw h₁
    · exact (ensures_assign h₁ (h₁.withMemory _)).bind fun _ _ h₂ _ => ensures_conflict h₂
  · rintro _ s₁ h₁ hrefreshed
    refine (ensures_resetGet h₁).bind ?_
    rintro _ _ - ⟨rfl, rfl⟩
    split
    · exact ensures_throw h₁
    · refine (ensures_self h₁).bind ?_
      rintro _ _ - ⟨rfl, rfl⟩
      split
      · rename_i hclean
        refine (ensures_assign h₁ (h₁.withMemory _)).mono ?_
        rintro _ _ - rfl
        have hpresent : s₁.memory.hello.vaultPresent = false := by
          rw [CanonicalHelloData.clean, Bool.and_eq_true, Bool.and_eq_true] at hclean
          rw [← Bool.not_eq_true']
          exact hclean.1.1
        exact ⟨rfl, hclean, ⟨⟨loaded_none rfl fun _ _ htrue _ _ _ =>
          absurd htrue (Bool.eq_false_iff.1 hpresent), ⟨hrefreshed.knows.late,
          hrefreshed.knows.reports⟩, hrefreshed.intent, hrefreshed.pending⟩, hrefreshed.origin,
          hrefreshed.after, hrefreshed.records, hrefreshed.reset⟩⟩
      · split
        · exact ensures_throw h₁
        · exact ensures_throw h₁

theorem ensures_factoryReset {abortedFirst : Bool} {polls : List Poll}
    (h : Good platform deviceId s) :
    Section deviceId (Good platform deviceId) (factoryReset abortedFirst polls)
      (fun _ _ => True) s := by
  refine (ensures_refresh h).bind ?_
  rintro _ s₁ h₁ hrefreshed
  refine (ensures_activeWriter h₁ hrefreshed.toRefreshed).bind ?_
  rintro state _ - ⟨rfl, hw⟩
  refine (ensures_self h₁).bind ?_
  rintro _ _ - ⟨rfl, rfl⟩
  refine (ensures_lift h₁).bind ?_
  rintro _ _ - ⟨-, rfl⟩
  rw [hrefreshed.knows.reports.deviceId]
  split
  · exact ensures_throw h₁
  · refine (ensures_plain (r := .resetBegin) h₁ trivial).bind ?_
    rintro attemptId s₂ h₂ hstores₂
    refine (Ensures.orElse (P := fun _ s' => ResetStaged deviceId state s'.stores) ?_ ?_).bind ?_
    · refine (ensures_awaitReset h₂).bind ?_
      rintro _ s₃ h₃ hstores₃
      exact ensures_stageReset h₃ (hstores₃ ▸ hstores₂ ▸ hw.record)
    · intro e s₃ h₃
      refine Ensures.bind (P := fun _ _ => True) ?_ fun _ _ h₄ _ => ensures_throw h₄
      refine Ensures.orElse ?_ fun _ _ h₄ => ensures_pure h₄ trivial
      exact (ensures_plain (r := .resetCancel attemptId) h₃ trivial).mono fun _ _ _ _ => trivial
    · rintro _ s₃ h₃ hstaged
      have hcommit : Staged deviceId s₃.stores (.resetCommit attemptId) :=
        ⟨state.vault.vaultId, ⟨.factoryReset, state.vault.generation, state⟩, hstaged.1, hstaged.2,
          rfl⟩
      refine ((ensures_request (r := .resetCommit attemptId) (P := fun _ _ => True) h₃
        (h₃.handles hcommit fun d d' hd heffect => ?_)
        fun _ _ _ _ _ _ => trivial).outcome fun _ hs => hs).bind ?_
      · cases heffect with
        | nothing => exact h₃.kept _ hd
        | dropped => exact kept_congr (h₃.kept _ hd) rfl rfl
        | erased => exact kept_of_none (.inl rfl)
        | reset => exact kept_of_none (.inl rfl)
      · rintro operation s₄ h₄ -
        exact (ensures_resolveReset h₄).mono fun _ _ _ _ => trivial

/-! ## Recovery reset -/

theorem ensures_refreshRecovery {device : JsString} (h : Good platform deviceId s) :
    Section deviceId (Good platform deviceId) (refreshRecovery device)
      (fun next s' => Answered deviceId next s s') s := by
  refine (ensures_hello h).bind ?_
  rintro next s₁ h₁ hanswered
  refine (ensures_lift h₁).bind ?_
  rintro _ _ - ⟨-, rfl⟩
  exact ensures_pure h₁ hanswered

theorem ensures_cleanupAffected {states : List BrowserCanonicalState}
    {affected : BrowserResetAffectedVault} (h : Good platform deviceId s) (hbare : s.Bare) :
    Section deviceId (Good platform deviceId) (cleanupAffected states affected)
      (fun _ s' => Calm s s') s := by
  have hjournal : ∀ s₁, Good platform deviceId s₁ → Calm s s₁ →
      Section deviceId (Good platform deviceId) (journalDelete affected.vaultId)
        (fun _ s' => Calm s s') s₁ := by
    intro s₁ h₁ hcalm
    refine (ensures_journalDelete h₁ (h₁.withBare (hcalm.bare hbare)
      (h₁.coherent.deletePending _))).mono ?_
    rintro _ _ - rfl
    exact hcalm.trans (calm_withStores (reconciles_deletePending _ _))
  unfold cleanupAffected
  split
  · exact hjournal s h (.refl s)
  · split
    · exact ensures_throw h
    · refine (ensures_vaultDelete h (h.withBare hbare (h.coherent.deleteVault _))).bind ?_
      rintro _ _ h₁ rfl
      exact hjournal _ h₁ (calm_withStores (reconciles_deleteVault _ _))

theorem ensures_cleanup {device : JsString} (h : Good platform deviceId s) (hbare : s.Bare) :
    Section deviceId (Good platform deviceId) (cleanupFromResetIntent device)
      (fun _ _ => True) s := by
  refine (ensures_resetGet h).bind ?_
  rintro _ _ - ⟨rfl, rfl⟩
  split
  · exact ensures_throw h
  · refine (ensures_vaultList h).bind ?_
    rintro states _ - ⟨rfl, rfl⟩
    refine (ensures_each (fun _ s' => Calm s s') ?_ h (.refl s)).bind ?_
    · intro affected _ s₁ h₁ hcalm
      exact (ensures_cleanupAffected h₁ (hcalm.bare hbare)).mono fun _ _ _ hcalm' =>
        hcalm.trans hcalm'
    · rintro _ s₁ h₁ -
      exact (ensures_resetDelete h₁ (h₁.withResets _)).mono fun _ _ _ _ => trivial

/-- The intent of a recovery reset is there before the reset is completed. -/
theorem ensures_stageRecoveryIntent (h : Good platform deviceId s)
    (hdevice : hello.deviceId = deviceId) :
    Section deviceId (Good platform deviceId) (stageRecoveryIntent hello)
      (fun _ s' => ∃ intent, s'.stores.intent deviceId = some intent) s := by
  refine (ensures_resetGet h).bind ?_
  rintro _ _ - ⟨rfl, rfl⟩
  split
  · rename_i intent hintent
    exact ensures_pure h ⟨intent, hdevice ▸ hintent⟩
  · refine Ensures.bind (P := fun intent s' => intent.deviceId = deviceId ∧ s = s') ?_ ?_
    · refine (ensures_vaultList h).bind ?_
      rintro _ _ - ⟨rfl, rfl⟩
      refine (ensures_journalListForDevice h).bind ?_
      rintro _ _ - ⟨rfl, rfl⟩
      exact ensures_pure h ⟨hdevice, rfl⟩
    · rintro intent _ - ⟨hintent, rfl⟩
      refine (ensures_resetStage h (h.withResets _)).mono ?_
      rintro _ _ - rfl
      exact ⟨intent, by simp only [Pair.withStores, BrowserStores.intent_put, hintent, if_pos]⟩

theorem ensures_awaitRecovery {attemptId : List UInt8} {polls : Nat}
    (h : Good platform deviceId s) :
    Section deviceId (Good platform deviceId) (awaitRecovery attemptId polls)
      (fun _ _ => True) s := by
  induction polls generalizing s with
  | zero => exact ensures_throw h
  | succ polls ih =>
    refine (ensures_plain (r := .recoveryStatus attemptId) h trivial).bind ?_
    rintro confirmed s₁ h₁ -
    split
    · exact ih h₁
    · exact ensures_pure h₁ trivial

theorem ensures_completeRecovery {attemptId : List UInt8} (h : Good platform deviceId s)
    (hdevice : hello.deviceId = deviceId) :
    Section deviceId (Good platform deviceId) (completeRecoveryReset hello attemptId)
      (fun _ _ => True) s := by
  refine (ensures_stageRecoveryIntent h hdevice).bind ?_
  rintro _ s₁ h₁ hintent
  refine ((ensures_request (r := .recoveryComplete attemptId) (P := fun _ _ => True) h₁
    (h₁.handles hintent fun d d' hd heffect => ?_)
    fun _ _ _ _ _ _ => trivial).outcome fun _ hs => hs).bind ?_
  · cases heffect with
    | nothing => exact h₁.kept _ hd
    | dropped => exact kept_congr (h₁.kept _ hd) rfl rfl
    | unregistered => exact kept_of_none (.inr rfl)
    | recovered => exact kept_of_none (.inl rfl)
  · rintro operation s₂ h₂ -
    refine ((ensures_refreshRecovery h₂).orElse fun _ _ h₃ => ensures_throw h₃).bind ?_
    rintro next s₃ h₃ hanswered
    split
    · split
      · exact ensures_throw h₃
      · exact ensures_throw h₃
    · rename_i hclean
      simp only [Bool.or_eq_true, Bool.not_eq_true', not_or, Bool.not_eq_false] at hclean
      exact ensures_cleanup h₃ (hanswered.knows.bare hclean.2)

theorem ensures_performRecovery {polls : Nat} (h : Good platform deviceId s) :
    Section deviceId (Good platform deviceId) (performRecoveryReset polls)
      (fun _ _ => True) s := by
  refine (ensures_self h).bind ?_
  rintro _ _ - ⟨rfl, rfl⟩
  refine (ensures_refreshRecovery h).bind ?_
  rintro hello s₁ h₁ hanswered
  refine (ensures_lift h₁).bind ?_
  rintro _ _ - ⟨-, rfl⟩
  refine (ensures_plain (r := .recoveryBegin) h₁ trivial).bind ?_
  rintro attemptId s₂ h₂ -
  refine (ensures_awaitRecovery h₂).bind ?_
  rintro _ s₃ h₃ -
  exact ensures_completeRecovery h₃ hanswered.knows.reports.deviceId

theorem ensures_connectRecovery (h : Good platform deviceId s) :
    Section deviceId (Good platform deviceId) connectRecovery (fun _ _ => True) s := by
  refine (ensures_hello h).bind ?_
  rintro hello s₁ h₁ -
  refine (ensures_lift h₁).bind ?_
  rintro _ _ - ⟨-, rfl⟩
  exact ensures_assign_any h₁

/-! ## The security panel -/

theorem ensures_noPending {state : BrowserCanonicalState} (h : Good platform deviceId s) :
    Section deviceId (Good platform deviceId) (assertNoPendingSecurityMutation state)
      (fun _ s' => s = s' ∧ s.stores.pending state.vault.vaultId = none) s := by
  refine (ensures_journalGet h).bind ?_
  rintro _ _ - ⟨rfl, rfl⟩
  split
  · exact ensures_throw h
  · rename_i hnone
    refine (ensures_resetList h).bind ?_
    rintro _ _ - ⟨rfl, rfl⟩
    refine (ensures_lift h).bind ?_
    rintro _ _ - ⟨-, rfl⟩
    exact ensures_pure h ⟨rfl, hnone⟩

theorem ensures_latestState {vaultId : List UInt8} {missing blocked : String}
    (h : Good platform deviceId s) :
    Section deviceId (Good platform deviceId) (latestState vaultId missing blocked)
      (fun latest s' => s = s' ∧ s.stores.vault vaultId = some latest ∧
        s.stores.pending vaultId = none) s := by
  refine (ensures_vaultGet h).bind ?_
  rintro _ _ - ⟨rfl, rfl⟩
  split
  · exact ensures_throw h
  · rename_i latest hlatest
    obtain ⟨-, rfl⟩ := BrowserStores.vault_iff.1 hlatest
    refine (ensures_noPending h).bind ?_
    rintro _ _ - ⟨rfl, hnone⟩
    refine (ensures_lift h).bind ?_
    rintro _ _ - ⟨-, rfl⟩
    exact ensures_pure h ⟨rfl, hlatest, hnone⟩

theorem ensures_importPackage (hp : platform.Correct) {draw : RegistrationDraw}
    {serialized passphrase : JsString} (h : Good platform deviceId s) :
    Section deviceId (Good platform deviceId) (importPackage platform draw serialized passphrase)
      (fun _ _ => True) s := by
  refine (ensures_lift h).bind ?_
  rintro _ _ - ⟨-, rfl⟩
  refine (ensures_lift h).bind ?_
  rintro imported _ - ⟨himported, rfl⟩
  refine (ensures_vaultGet h).bind ?_
  rintro _ _ - ⟨rfl, rfl⟩
  split
  · exact ensures_throw h
  · rename_i hnone
    refine (ensures_noPending h).bind ?_
    rintro _ _ - ⟨rfl, hpending⟩
    refine ensures_vaultPut (P := fun _ => True) h fun vaults hvaults => ⟨?_, trivial⟩
    obtain ⟨next, rfl, -, ⟨-, -, rfl⟩ | ⟨_, _, hexpected, -⟩⟩ := putVault_ok hvaults
    · refine h.put (import_opens hp himported) (fun p hpending' => ?_) fun d current _ hsome => ?_
      · rw [hpending] at hpending'
        cases hpending'
      · rw [hnone] at hsome
        cases hsome
    · cases hexpected

theorem ensures_changePassphrase (hp : platform.Correct) {vaultId salt nonce : List UInt8}
    {currentPassphrase newPassphrase confirmPassphrase : JsString}
    (h : Good platform deviceId s)
    (hcurrent : ∀ state vmk, s.stores.vault vaultId = some state →
      unwrapVmkWithPassphrase platform state.recoveryWrappedVmk currentPassphrase = .ok vmk →
      unwrapVmkForTrustedBrowser platform state = .ok vmk) :
    Section deviceId (Good platform deviceId)
      (changePassphrase platform vaultId salt nonce currentPassphrase newPassphrase
        confirmPassphrase) (fun _ _ => True) s := by
  refine (ensures_lift h).bind ?_
  rintro _ _ - ⟨-, rfl⟩
  refine (ensures_latestState h).bind ?_
  rintro latest _ - ⟨rfl, hlatest, hpending⟩
  refine (ensures_lift h).bind ?_
  rintro updated _ - ⟨hupdated, rfl⟩
  obtain ⟨-, hid⟩ := BrowserStores.vault_iff.1 hlatest
  obtain ⟨passphrase, hall⟩ := h.coherent.opens vaultId
  obtain ⟨hsame, hopens⟩ := changePassphrase_opens hp hupdated (hall latest (.inl hlatest))
    fun vmk hvmk => hcurrent latest vmk hlatest hvmk
  refine ensures_vaultPut (P := fun _ => True) h fun vaults hvaults => ⟨?_, trivial⟩
  obtain ⟨next, rfl, -, ⟨hnone, -⟩ | ⟨expected, current, hexpected, -, -, hmerge⟩⟩ :=
    putVault_ok hvaults
  · cases hnone
  cases hexpected
  obtain ⟨-, rfl | ⟨hgeneration, -⟩⟩ := merge_cases hmerge
  · refine h.put hopens (fun p hpending' => ?_) fun d current' _ hsome hcovers => ?_
    · rw [hsame.vault, hid, hpending] at hpending'
      cases hpending'
    · rw [hsame.vault, hid, hlatest, Option.some.injEq] at hsome
      exact (hsome ▸ hcovers).congr hsame
  · rw [hsame.vault] at hgeneration
    omega

end Manage

end M5Auth.Web
