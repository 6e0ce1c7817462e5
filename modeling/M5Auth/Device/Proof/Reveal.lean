import M5Auth.Device.CanonicalUi
import M5Auth.Totp.Proof.AllOrNothing

/-!
# The code that an iteration reveals

`Generated`: an iteration generates a code for an account, at a trusted time that it reads.
-/

namespace M5Auth.Device

open Time (Readiness TrustedClock)
open Totp (GenerateResult Generates HmacSha1Provider Output Readings found generateForCredential
  generateKeyWithProvider)
open Vault (CredentialId CredentialRecord GcmOpen)
open VaultRuntime (Persistence Runtime State Status)

variable {σ : Type} {P : Persistence σ} {gcm : GcmOpen} {provider : HmacSha1Provider}

/-! ## The runtime -/

/-- What is found later in an iteration was there at its start. -/
def Narrows (gcm : GcmOpen) (rt rt' : Runtime σ) : Prop :=
  ∀ credentialId credential, found gcm rt' credentialId = some credential →
    found gcm rt credentialId = some credential

theorem Narrows.refl (rt : Runtime σ) : Narrows gcm rt rt := fun _ _ h => h

theorem Narrows.trans {rt rt' rt'' : Runtime σ} (h : Narrows gcm rt rt')
    (h' : Narrows gcm rt' rt'') : Narrows gcm rt rt'' :=
  fun credentialId credential hfound => h credentialId credential (h' credentialId credential hfound)

/-- The account is in the Vault that an unlocked runtime opens. -/
structure Opens (gcm : GcmOpen) (rt : Runtime σ) (credentialId : CredentialId)
    (credential : CredentialRecord) : Prop where
  initialized : rt.initialized = true
  unlocked : rt.state = .unlocked
  resident : rt.vmkPresent = true ∧ rt.hasVault = true
  plaintext : ∃ encoded plaintext, Vault.decryptVault gcm rt.envelope rt.vmk = some encoded ∧
    Vault.decodePlaintext encoded = some (plaintext, rt.envelope.vaultFormatVersion) ∧
    plaintext.credentials.find? (·.credentialId == credentialId) = some credential

theorem found_iff {rt : Runtime σ} {credentialId : CredentialId} {credential : CredentialRecord} :
    found gcm rt credentialId = some credential ↔ Opens gcm rt credentialId credential := by
  constructor
  · intro h
    unfold found Runtime.openResident at h
    split at h
    · cases h
    · rename_i plaintext hopen
      split at hopen
      · cases hopen
      · rename_i hinitialized
        split at hopen
        · cases hopen
        · rename_i hstate
          split at hopen
          · cases hopen
          · rename_i encoded hdecrypt
            split at hopen
            · cases hopen
            · rename_i decoded format hdecode
              split at hopen
              · cases hopen
              · rename_i hformat
                cases hopen
                simp only [not_or, not_not, Bool.not_eq_true', Bool.not_eq_false] at hinitialized hstate
                rw [not_not] at hformat
                exact ⟨hinitialized, hstate.1, hstate.2, encoded, plaintext, hdecrypt,
                  hformat ▸ hdecode, h⟩
  · intro h
    obtain ⟨encoded, plaintext, hdecrypt, hdecode, hfind⟩ := h.plaintext
    unfold found Runtime.openResident
    rw [if_neg (by simp [h.initialized]), if_neg (by simp [h.unlocked, h.resident]), hdecrypt]
    dsimp only
    rw [hdecode]
    dsimp only
    rw [if_neg (not_not.2 rfl)]
    exact hfind

/-- Nothing is found in a runtime that is not unlocked. -/
theorem unlocked_of_found {rt : Runtime σ} {credentialId : CredentialId}
    {credential : CredentialRecord} (h : found gcm rt credentialId = some credential) :
    Turn.observe rt = .unlocked := by
  have hopens := found_iff.1 h
  rw [Turn.observe, Runtime.metadata, hopens.initialized]
  exact hopens.unlocked

/-- What opens the Vault is the same with other records of uses. -/
theorem narrows_recorded (rt : Runtime σ) (persistence : σ) (lastUsed : Option CredentialId) :
    Narrows gcm rt { rt with persistence, lastUsed } := by
  intro credentialId credential h
  have hopens := found_iff.1 h
  exact found_iff.2 ⟨hopens.initialized, hopens.unlocked, hopens.resident, hopens.plaintext⟩

/-- Nothing is found after the runtime failed closed. -/
theorem narrows_of_locked (rt : Runtime σ) {rt' : Runtime σ} (h : rt'.state ≠ .unlocked) :
    Narrows gcm rt rt' :=
  fun _ _ hfound => absurd (found_iff.1 hfound).unlocked h

theorem narrows_openResident {rt rt' : Runtime σ} {status : Status}
    (h : rt.openResident gcm = .error (status, rt')) : Narrows gcm rt rt' := by
  rcases rt.openResident_cases gcm with
    ⟨plaintext, hopen, -⟩ | ⟨_, -, hopen⟩ | ⟨_, -, -, -, -, hopen⟩
  · cases hopen.symm.trans h
  · cases hopen.symm.trans h
    exact .refl rt
  · cases hopen.symm.trans h
    exact narrows_of_locked rt (by simp [Runtime.clearUnlockSessionState, Runtime.fail])

theorem narrows_withCredential {α : Type} (rt : Runtime σ) (credentialId : CredentialId)
    (consumer : CredentialRecord → α → Status × α) (before : α) :
    Narrows gcm rt (Totp.withCredential P gcm rt credentialId consumer before).2 := by
  unfold Totp.withCredential
  cases hopen : rt.openResident gcm with
  | error failure => exact narrows_openResident hopen
  | ok plaintext =>
    dsimp only
    cases plaintext.credentials.find? (·.credentialId == credentialId) with
    | none => exact .refl rt
    | some credential =>
      dsimp only
      split
      · exact .refl rt
      · split
        · exact narrows_recorded rt _ _
        · exact narrows_recorded rt _ _

/-- Generating a code only records its use, or fails closed. -/
theorem narrows_generate (P : Persistence σ) (gcm : GcmOpen) (provider : HmacSha1Provider)
    (rt : Runtime σ) (credentialId : CredentialId) (readings : Readings) (output : Output) :
    Narrows gcm rt (generateForCredential P gcm provider rt credentialId readings output).2 := by
  unfold generateForCredential
  dsimp only
  split
  · exact .refl rt
  · split
    · exact .refl rt
    · exact .refl rt
    · have hnarrows : Narrows gcm rt (Totp.withCredential P gcm rt credentialId
          (fun credential left =>
            (Status.ok, Totp.generateCode provider readings credential left.2))
          (GenerateResult.storageError, output.clearTime)).2 :=
        narrows_withCredential rt credentialId _ _
      split
      · exact hnarrows
      · split
        · exact hnarrows
        · exact hnarrows

/-! ## Codes -/

/-- The readings of an attempt, in order. -/
def AttemptTimes.all (times : AttemptTimes) : List Int :=
  [times.beforeVaultUs, times.currentUs, times.generationUs, times.checkUs]

/-- The readings of an iteration, in order. -/
def Times.all (times : Times) : List Int :=
  [times.nowUs, times.readinessUs, times.validityUs] ++ times.rollover.1.all ++
    times.rollover.2.all ++ times.hold.1.all ++ times.hold.2.all

/-- A code of an account in the period of a trusted time. -/
structure CodeOf (gcm : GcmOpen) (provider : HmacSha1Provider) (rt : Runtime σ)
    (clock : TrustedClock) (times : List Int) (credentialId : CredentialId) (code : UInt32)
    (periodIndex : UInt64) : Prop where
  ready : ∃ timerUs ∈ times, (clock.snapshot timerUs).readiness = .ready
  generated : ∃ credential, found gcm rt credentialId = some credential ∧
    ∃ timerUs ∈ times, ∃ unixSeconds, clock.currentUnixSeconds timerUs = some unixSeconds ∧
      (Validity.fromUnixSeconds unixSeconds).periodIndex = periodIndex ∧
      generateKeyWithProvider provider credential.secret unixSeconds = .ok code

theorem CodeOf.mono {rt rt' : Runtime σ} {clock : TrustedClock} {times times' : List Int}
    {credentialId : CredentialId} {code : UInt32} {periodIndex : UInt64}
    (h : CodeOf gcm provider rt' clock times credentialId code periodIndex)
    (hnarrows : Narrows gcm rt rt') (hsub : ∀ timerUs ∈ times, timerUs ∈ times') :
    CodeOf gcm provider rt clock times' credentialId code periodIndex := by
  obtain ⟨readyUs, hready⟩ := h.ready
  obtain ⟨credential, hfound, timerUs, hmem, hgenerated⟩ := h.generated
  exact ⟨⟨readyUs, hsub _ hready.1, hready.2⟩,
    ⟨credential, hnarrows _ _ hfound, timerUs, hsub _ hmem, hgenerated⟩⟩

/-- The parts of the view that generating a code leaves as they are. -/
structure SameView (ui ui' : Ui) : Prop where
  credentials : ui'.credentials = ui.credentials
  selectedIndex : ui'.selectedIndex = ui.selectedIndex
  visibleGeneration : ui'.visibleGeneration = ui.visibleGeneration

theorem SameView.refl (ui : Ui) : SameView ui ui := ⟨rfl, rfl, rfl⟩

theorem SameView.trans {ui ui' ui'' : Ui} (h : SameView ui ui') (h' : SameView ui' ui'') :
    SameView ui ui'' :=
  ⟨h'.credentials.trans h.credentials, h'.selectedIndex.trans h.selectedIndex,
    h'.visibleGeneration.trans h.visibleGeneration⟩

theorem SameView.selected {ui ui' : Ui} (h : SameView ui ui') : ui'.selected = ui.selected := by
  rw [Ui.selected, h.credentials, h.selectedIndex]
  rfl

theorem SameView.hideReveal (ui : Ui) : SameView ui ui.hideReveal := ⟨rfl, rfl, rfl⟩

/-- A success of the generator. -/
theorem generates_of_ok {rt rt' : Runtime σ} {credentialId : CredentialId} {readings : Readings}
    {generation : Output}
    (h : generateForCredential P gcm provider rt credentialId readings ⟨some 0, some 0⟩ =
      ((.ok, generation), rt')) :
    ∃ credential unixSeconds code,
      Generates gcm provider rt credentialId readings credential unixSeconds code ∧
        generation = ⟨some code, some unixSeconds⟩ := by
  have hcases := Totp.generate_cases P gcm provider rt credentialId readings
    (show (⟨some 0, some 0⟩ : Output).code.isNone = false from rfl)
  rw [h] at hcases
  rcases hcases with ⟨-, hfails, -⟩ | ⟨credential, unixSeconds, code, hgenerates, -, hwritten⟩
  · exact absurd rfl hfails
  · exact ⟨credential, unixSeconds, code, hgenerates, hwritten⟩

/-- What the attempts leave. -/
structure Attempted (gcm : GcmOpen) (provider : HmacSha1Provider) (clock : TrustedClock)
    (credentialId : CredentialId) (times : List Int) (ui : Ui) (rt : Runtime σ)
    (result : Bool × Ui × Runtime σ) : Prop where
  view : SameView ui result.2.1
  reveal : result.2.1.revealActive = ui.revealActive ∧
    result.2.1.revealDeadlineMs = ui.revealDeadlineMs
  narrows : Narrows gcm rt result.2.2
  code : result.1 = true → CodeOf gcm provider rt clock times credentialId
    result.2.1.revealedCode result.2.1.revealedPeriodIndex

/-- The attempts generate a code of the account, or they leave the code as it is. -/
theorem attempted (P : Persistence σ) (gcm : GcmOpen) (provider : HmacSha1Provider)
    (clock : TrustedClock) (credentialId : CredentialId) (ui : Ui) (rt : Runtime σ)
    (attempts : List AttemptTimes) :
    Attempted gcm provider clock credentialId (attempts.flatMap AttemptTimes.all) ui rt
      (generationLoop P gcm provider clock credentialId attempts ui rt) := by
  induction attempts generalizing ui rt with
  | nil => exact ⟨.refl ui, ⟨rfl, rfl⟩, .refl rt, fun h => by cases h⟩
  | cons times rest ih =>
    unfold generationLoop
    have hnarrows := narrows_generate P gcm provider rt credentialId (times.readings clock)
      ⟨some 0, some 0⟩
    cases hgenerate : generateForCredential P gcm provider rt credentialId (times.readings clock)
        ⟨some 0, some 0⟩ with
    | mk output rt' =>
      obtain ⟨result, generation⟩ := output
      rw [hgenerate] at hnarrows
      dsimp only at hnarrows ⊢
      split
      · exact ⟨⟨rfl, rfl, rfl⟩, ⟨rfl, rfl⟩, hnarrows, fun h => by cases h⟩
      · rename_i hok
        rw [not_not] at hok
        subst hok
        cases hcheck : clock.currentUnixSeconds times.checkUs with
        | none => exact ⟨⟨rfl, rfl, rfl⟩, ⟨rfl, rfl⟩, hnarrows, fun h => by cases h⟩
        | some current =>
          obtain ⟨credential, unixSeconds, code, hgenerates, rfl⟩ := generates_of_ok hgenerate
          have hsub (timerUs : Int) (hmem : timerUs ∈ times.all) :
              timerUs ∈ (times :: rest).flatMap AttemptTimes.all :=
            List.mem_append_left _ hmem
          dsimp only [Option.getD_some]
          split
          · have hrest := ih { ui with lastGenerateResult := .ok } rt'
            refine ⟨⟨hrest.view.credentials, hrest.view.selectedIndex,
              hrest.view.visibleGeneration⟩, hrest.reveal, hnarrows.trans hrest.narrows,
              fun hok => ?_⟩
            exact (hrest.code hok).mono hnarrows fun timerUs hmem => List.mem_append_right _ hmem
          · rename_i hsame
            rw [not_not] at hsame
            refine ⟨⟨rfl, rfl, rfl⟩, ⟨rfl, rfl⟩, hnarrows, fun _ => ⟨?_, ?_⟩⟩
            · exact ⟨times.beforeVaultUs, hsub _ (by simp [AttemptTimes.all]), hgenerates.ready⟩
            · exact ⟨credential, hgenerates.found, times.generationUs,
                hsub _ (by simp [AttemptTimes.all]), unixSeconds, hgenerates.codes.time, hsame,
                hgenerates.codes.code⟩

/-- A new code of the selected account, or the old one. -/
structure Refreshed (gcm : GcmOpen) (provider : HmacSha1Provider) (clock : TrustedClock)
    (times : List Int) (ui : Ui) (rt : Runtime σ) (result : Bool × Ui × Runtime σ) : Prop where
  view : SameView ui result.2.1
  reveal : result.2.1.revealActive = ui.revealActive ∧
    result.2.1.revealDeadlineMs = ui.revealDeadlineMs
  narrows : Narrows gcm rt result.2.2
  code : result.1 = true → ∃ view, ui.selected = some view ∧
    CodeOf gcm provider rt clock times view.credentialId result.2.1.revealedCode
      result.2.1.revealedPeriodIndex

theorem refreshed (P : Persistence σ) (gcm : GcmOpen) (provider : HmacSha1Provider)
    (clock : TrustedClock) (attempts : List AttemptTimes) (ui : Ui) (rt : Runtime σ) :
    Refreshed gcm provider clock (attempts.flatMap AttemptTimes.all) ui rt
      (refreshRevealedTotp P gcm provider clock attempts ui rt) := by
  unfold refreshRevealedTotp
  split
  · exact ⟨⟨rfl, rfl, rfl⟩, ⟨rfl, rfl⟩, .refl rt, fun h => by cases h⟩
  · rename_i view hview
    have hattempted := attempted P gcm provider clock view.credentialId ui rt attempts
    refine ⟨hattempted.view, hattempted.reveal, hattempted.narrows, fun hok => ⟨view, ?_, ?_⟩⟩
    · split at hview
      · exact hview
      · cases hview
    · exact hattempted.code hok

/-! ## The parts of an iteration -/

namespace Turn

/-- The button asks for a code. -/
def Holds (turn : Turn σ) : Prop := turn.buttonFree = true ∧ turn.wasHold = true

/-- The button changes the selection, or hides the code. -/
def Clicks (turn : Turn σ) : Prop :=
  turn.buttonFree = true ∧ turn.wasHold = false ∧
    (turn.wasDoubleClicked = true ∨ turn.wasSingleClicked = true)

end Turn

/-- An active code passes the checks only while all hold, and then nothing changes. -/
theorem gate_active {ui : Ui} {turn : Turn σ} (h : (gate ui turn).revealActive = true) :
    gate ui turn = ui ∧ turn.readiness = .ready ∧ turn.nowMs < ui.revealDeadlineMs ∧
      turn.observedState = .unlocked := by
  unfold gate at h ⊢
  by_cases hlocked : turn.observedState ≠ .unlocked ∧ ui.vaultVisible = true
  · rw [if_pos hlocked] at h
    dsimp only at h
    split at h
    · cases h
    · cases h
  · rw [if_neg hlocked] at h ⊢
    dsimp only at h ⊢
    split at h
    · cases h
    · rename_i hpasses
      rw [if_neg hpasses]
      rw [h] at hpasses
      simp only [true_and, not_or, not_not, ge_iff_le, UInt64.not_le] at hpasses
      exact ⟨rfl, hpasses.1, hpasses.2.1, hpasses.2.2⟩

/-- The checks keep the view, or they clear it. -/
theorem gate_view (ui : Ui) (turn : Turn σ) :
    SameView ui (gate ui turn) ∨ (gate ui turn).selected = none := by
  unfold gate
  dsimp only
  by_cases hlocked : turn.observedState ≠ .unlocked ∧ ui.vaultVisible = true
  · rw [if_pos hlocked]
    refine .inr ?_
    split
    · rfl
    · rfl
  · rw [if_neg hlocked]
    refine .inl ?_
    split
    · exact .hideReveal ui
    · exact .refl ui

theorem boundaryView_cases (ui : Ui) (turn : Turn σ) :
    boundaryView ui turn = ui ∨
      (boundaryView ui turn).selected = none ∧ (boundaryView ui turn).revealActive = false := by
  unfold boundaryView
  split
  · exact .inl rfl
  · exact .inr ⟨rfl, rfl⟩

/-- What the check of the period leaves. -/
structure RolledOver (gcm : GcmOpen) (provider : HmacSha1Provider) (turn : Turn σ) (ui : Ui)
    (result : Ui × Runtime σ) : Prop where
  view : SameView ui result.1
  narrows : Narrows gcm turn.runtime result.2
  active : result.1.revealActive = true → ui.revealActive = true ∧
    result.1.revealDeadlineMs = ui.revealDeadlineMs ∧
    ((result.1.revealedCode = ui.revealedCode ∧
        result.1.revealedPeriodIndex = ui.revealedPeriodIndex ∧
        ∃ timerUs ∈ turn.times.all, ∃ unixSeconds,
          turn.clock.currentUnixSeconds timerUs = some unixSeconds ∧
            (Validity.fromUnixSeconds unixSeconds).periodIndex = result.1.revealedPeriodIndex) ∨
      ∃ view, ui.selected = some view ∧ CodeOf gcm provider turn.runtime turn.clock
        turn.times.all view.credentialId result.1.revealedCode result.1.revealedPeriodIndex)

theorem rolledOver (P : Persistence σ) (gcm : GcmOpen) (provider : HmacSha1Provider) (ui : Ui)
    (turn : Turn σ) :
    RolledOver gcm provider turn ui (rollover P gcm provider ui turn) := by
  unfold rollover
  split
  · rename_i hinactive
    refine ⟨.refl ui, .refl _, fun h => ?_⟩
    rw [h] at hinactive
    cases hinactive
  · rename_i hactive
    rw [Bool.not_eq_true', Bool.not_eq_false] at hactive
    cases hread : turn.clock.currentUnixSeconds turn.times.validityUs with
    | none => exact ⟨⟨rfl, rfl, rfl⟩, .refl _, fun h => by cases h⟩
    | some currentUnixSeconds =>
      dsimp only
      split
      · have hrefreshed := refreshed P gcm provider turn.clock
          [turn.times.rollover.1, turn.times.rollover.2] ui turn.runtime
        cases hresult : refreshRevealedTotp P gcm provider turn.clock
            [turn.times.rollover.1, turn.times.rollover.2] ui turn.runtime with
        | mk ok left =>
          obtain ⟨ui', rt'⟩ := left
          rw [hresult] at hrefreshed
          cases ok with
          | false =>
            exact ⟨hrefreshed.view.trans (.hideReveal ui'), hrefreshed.narrows, fun h => by cases h⟩
          | true =>
            refine ⟨hrefreshed.view, hrefreshed.narrows,
              fun _ => ⟨hactive, hrefreshed.reveal.2, .inr ?_⟩⟩
            obtain ⟨view, hview, hcode⟩ := hrefreshed.code rfl
            refine ⟨view, hview, hcode.mono (.refl _) fun timerUs hmem => ?_⟩
            rw [List.flatMap_cons, List.flatMap_cons, List.flatMap_nil, List.append_nil] at hmem
            rw [Times.all, List.append_assoc _ turn.times.rollover.1.all]
            exact List.mem_append_left _ (List.mem_append_left _ (List.mem_append_right _ hmem))
      · rename_i hsame
        rw [not_not] at hsame
        refine ⟨⟨rfl, rfl, rfl⟩, .refl _, fun _ => ⟨hactive, rfl, .inl ⟨rfl, rfl, ?_⟩⟩⟩
        exact ⟨turn.times.validityUs, by simp [Times.all], currentUnixSeconds, hread, hsame⟩

/-- When a code that is revealed at a time is hidden. -/
def deadlineAfter (nowMs : UInt64) : UInt64 :=
  if nowMs > 0xffffffffffffffff - otpRevealDurationMs then 0xffffffffffffffff
  else nowMs + otpRevealDurationMs

/-- The readings of a hold. -/
def Times.holdTimes (times : Times) : List Int := times.hold.1.all ++ times.hold.2.all

/-- An active code has a selected account. -/
def HasSelection (ui : Ui) : Prop := ui.revealActive = true → ui.selected ≠ none

/-- Selecting an account hides the code. -/
theorem persistSelection_active (ui : Ui) (rt : Runtime σ) :
    (Ui.persistSelection P gcm ui rt).1.revealActive = ui.revealActive := by
  unfold Ui.persistSelection
  split
  · rfl
  · rfl

theorem selectPrevious_active {ui : Ui} (hselection : HasSelection ui) (rt : Runtime σ) :
    (ui.selectPrevious P gcm rt).1.revealActive = false := by
  unfold Ui.selectPrevious
  split
  · rename_i hempty
    by_contra hactive
    rw [Bool.not_eq_false] at hactive
    refine hselection hactive ?_
    rw [Ui.selected, List.isEmpty_iff.1 hempty]
    rfl
  · rw [persistSelection_active]
    rfl

theorem selectNext_active {ui : Ui} (hinactive : ui.revealActive = false) (rt : Runtime σ) :
    (ui.selectNext P gcm rt).1.revealActive = false := by
  unfold Ui.selectNext
  split
  · exact hinactive
  · rw [persistSelection_active]
    rfl

/-- What the button does to an active code: a hold reveals another, and otherwise it is left alone
only if nothing is clicked. -/
theorem button_active {ui : Ui} {rt : Runtime σ} {turn : Turn σ} (hselection : HasSelection ui)
    (h : (button P gcm provider ui rt turn).1.revealActive = true) :
    SameView ui (button P gcm provider ui rt turn).1 ∧ ¬turn.Clicks ∧
      ((turn.Holds ∧ (button P gcm provider ui rt turn).1.revealDeadlineMs =
          deadlineAfter turn.nowMs ∧ ∃ view, ui.selected = some view ∧
        CodeOf gcm provider rt turn.clock turn.times.holdTimes view.credentialId
          (button P gcm provider ui rt turn).1.revealedCode
          (button P gcm provider ui rt turn).1.revealedPeriodIndex) ∨
      (¬turn.Holds ∧ (button P gcm provider ui rt turn).1 = ui)) := by
  unfold button at h ⊢
  by_cases hfree : turn.buttonFree = true
  · have hnot : ¬(!turn.buttonFree) = true := by simp [hfree]
    rw [if_neg hnot] at h ⊢
    by_cases hhold : turn.wasHold = true
    · rw [if_pos hhold] at h ⊢
      have hnoClick : ¬turn.Clicks := fun hclicks => by
        cases hhold.symm.trans hclicks.2.1
      unfold revealSelected at h ⊢
      have hrefreshed := refreshed P gcm provider turn.clock [turn.times.hold.1, turn.times.hold.2]
        { ui.hideReveal with lastGenerateResult := .ok } rt
      cases hresult : refreshRevealedTotp P gcm provider turn.clock
          [turn.times.hold.1, turn.times.hold.2]
          { ui.hideReveal with lastGenerateResult := .ok } rt with
      | mk ok left =>
        obtain ⟨ui', rt'⟩ := left
        rw [hresult] at hrefreshed h
        cases ok with
        | false => cases hrefreshed.reveal.1.symm.trans h
        | true =>
          have hview : SameView ui ui' := ⟨hrefreshed.view.credentials,
            hrefreshed.view.selectedIndex, hrefreshed.view.visibleGeneration⟩
          refine ⟨⟨hview.credentials, hview.selectedIndex, hview.visibleGeneration⟩, hnoClick,
            .inl ⟨⟨hfree, hhold⟩, rfl, ?_⟩⟩
          obtain ⟨view, hselected, hcode⟩ := hrefreshed.code rfl
          refine ⟨view, hselected, hcode.mono (.refl _) fun timerUs hmem => ?_⟩
          rw [List.flatMap_cons, List.flatMap_cons, List.flatMap_nil, List.append_nil] at hmem
          exact hmem
    · rw [if_neg hhold] at h ⊢
      have hnoHold : ¬turn.Holds := fun hholds => hhold hholds.2
      split at h
      · cases (selectPrevious_active hselection rt).symm.trans h
      · rename_i hdouble
        split at h
        · split at h
          · cases h
          · rename_i hinactive
            rw [Bool.not_eq_true] at hinactive
            cases (selectNext_active hinactive rt).symm.trans h
        · rename_i hsingle
          rw [if_neg hdouble, if_neg hsingle]
          exact ⟨.refl ui, fun hclicks => hclicks.2.2.elim hdouble hsingle, .inr ⟨hnoHold, rfl⟩⟩
  · have hbusy : (!turn.buttonFree) = true := by simp [hfree]
    rw [if_pos hbusy] at h ⊢
    exact ⟨.refl ui, fun hclicks => hfree hclicks.1, .inr ⟨fun hholds => hfree hholds.1, rfl⟩⟩

/-- A refresh that leaves a code active changes nothing of it. -/
theorem refresh_active {ui : Ui} {rt : Runtime σ} {force : Bool}
    (h : (ui.refreshCredentials gcm rt force).1.revealActive = true) :
    (ui.refreshCredentials gcm rt force).1 = { ui with storageError := false } := by
  unfold Ui.refreshCredentials at h ⊢
  split at h
  · cases h
  · dsimp only at h
    split at h
    · cases h
    · split at h
      · rename_i hlocked hsame
        dsimp only
        rw [if_neg hlocked, if_pos hsame]
      · split at h
        · cases h
        · cases h

end M5Auth.Device
