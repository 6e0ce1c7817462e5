import Mathlib.Data.List.Induction
import M5Auth.Device.Proof.Reveal

/-!
# Revealed codes in runs of the user interface

`iterate_active` says where a code that is active after an iteration comes from. The main result is
`revealed_current`: in every run, an active code is that of the selected account in the period of a
time that is read in the iteration, it is within the time of the hold that revealed it, and whatever
ends a reveal leaves no code, unless a hold starts another.
-/

namespace M5Auth.Device

open Time (Readiness TrustedClock)
open Totp (HmacSha1Provider)
open Vault (GcmOpen)
open VaultRuntime (Persistence Runtime State Status)

variable {σ : Type} {P : Persistence σ} {gcm : GcmOpen} {provider : HmacSha1Provider}

/-! ## Turns -/

/-- The timer runs forward, it is within the range of its type, and the clock was set before. -/
structure Turn.Valid (turn : Turn σ) : Prop where
  ordered : turn.times.all.Pairwise (· ≤ ·)
  range : turn.times.nowUs < 2 ^ 63
  past : turn.clock.synchronized = true → turn.clock.baseMonotonicUs ≤ turn.times.nowUs

/-- A clock that is ready was ready before, since it was set. -/
theorem ready_before {clock : TrustedClock} {earlierUs laterUs : Int}
    (hpast : clock.synchronized = true → clock.baseMonotonicUs ≤ earlierUs)
    (hle : earlierUs ≤ laterUs) (h : (clock.snapshot laterUs).readiness = .ready) :
    (clock.snapshot earlierUs).readiness = .ready := by
  unfold TrustedClock.snapshot at h ⊢
  by_cases hset : clock.synchronized = true
  · have hbase := hpast hset
    rw [if_neg (by simp [hset])] at h ⊢
    dsimp only at h ⊢
    rw [if_neg (by omega)] at h ⊢
    dsimp only at h ⊢
    split at h
    · cases h
    · rw [if_neg (by omega)]
  · rw [if_pos (by simp [hset])] at h
    cases h

theorem Turn.Valid.order {turn : Turn σ} (h : turn.Valid) :
    turn.times.nowUs ≤ turn.times.readinessUs ∧
      ∀ timerUs ∈ turn.times.holdTimes, turn.times.readinessUs ≤ timerUs := by
  have hordered := h.ordered
  have hall : turn.times.all = turn.times.nowUs :: turn.times.readinessUs ::
      ((turn.times.validityUs :: (turn.times.rollover.1.all ++ turn.times.rollover.2.all)) ++
        turn.times.holdTimes) := by
    simp [Times.all, Times.holdTimes]
  rw [hall, List.pairwise_cons, List.pairwise_cons] at hordered
  exact ⟨hordered.1 _ List.mem_cons_self,
    fun timerUs hmem => hordered.2.1 timerUs (List.mem_append_right _ hmem)⟩

theorem Turn.Valid.nowMs_lt {turn : Turn σ} (h : turn.Valid) :
    turn.nowMs.toNat < 2 ^ 63 := by
  have hrange := h.range
  rw [Turn.nowMs, monotonicMs, UInt64.toNat_ofNat']
  omega

/-- The deadline of a hold is ten seconds later. -/
theorem Turn.Valid.deadline {turn : Turn σ} (h : turn.Valid) :
    (deadlineAfter turn.nowMs).toNat = turn.nowMs.toNat + 10000 := by
  have hlt := h.nowMs_lt
  have hduration : otpRevealDurationMs.toNat = 10000 := rfl
  have hmax : (0xffffffffffffffff - otpRevealDurationMs : UInt64).toNat = 18446744073709541615 := rfl
  unfold deadlineAfter
  rw [if_neg]
  · rw [UInt64.toNat_add, hduration]
    omega
  · rw [gt_iff_lt, UInt64.lt_iff_toNat_lt, hmax]
    omega

/-! ## An iteration -/

/-- The code after an iteration in which it is active. -/
structure Shown (gcm : GcmOpen) (provider : HmacSha1Provider) (turn : Turn σ) (ui : Ui) : Prop where
  unlocked : turn.observedState = .unlocked
  ready : turn.readiness = .ready
  beforeDeadline : turn.nowMs < ui.revealDeadlineMs
  period : ∃ timerUs ∈ turn.times.all, ∃ unixSeconds,
    turn.clock.currentUnixSeconds timerUs = some unixSeconds ∧
      (Validity.fromUnixSeconds unixSeconds).periodIndex = ui.revealedPeriodIndex

/-- An iteration generates the code of the selected account. -/
def Generated (gcm : GcmOpen) (provider : HmacSha1Provider) (turn : Turn σ) (ui : Ui) : Prop :=
  ∃ view, ui.selected = some view ∧ CodeOf gcm provider turn.runtime turn.clock turn.times.all
    view.credentialId ui.revealedCode ui.revealedPeriodIndex

/-- Where an active code comes from: a hold reveals it, or it was active before. -/
inductive Source (gcm : GcmOpen) (provider : HmacSha1Provider) (ui : Ui) (turn : Turn σ)
    (ui' : Ui) : Prop where
  | hold (hholds : turn.Holds) (hdeadline : ui'.revealDeadlineMs = deadlineAfter turn.nowMs)
      (hcode : Generated gcm provider turn ui')
  | kept (hnot : ¬turn.Holds) (hactive : ui.revealActive = true)
      (hdeadline : ui'.revealDeadlineMs = ui.revealDeadlineMs)
      (hcode : (ui'.revealedCode = ui.revealedCode ∧
        ui'.revealedPeriodIndex = ui.revealedPeriodIndex) ∨ Generated gcm provider turn ui')

/-- The view that passes the boundary and the checks. -/
def checked (ui : Ui) (turn : Turn σ) : Ui := gate (boundaryView ui turn) turn

/-- The refresh at the end changes nothing of an active code. -/
theorem iterate_button {loop : Loop} {turn : Turn σ}
    (h : (iterate P gcm provider loop turn).1.ui.revealActive = true) :
    ∃ storageError, (iterate P gcm provider loop turn).1.ui =
      { (button P gcm provider (rollover P gcm provider (checked loop.ui turn) turn).1
          (rollover P gcm provider (checked loop.ui turn) turn).2 turn).1 with storageError } := by
  unfold iterate at h ⊢
  dsimp only at h ⊢
  split at h
  · rename_i hrefresh
    rw [if_pos hrefresh]
    exact ⟨false, refresh_active h⟩
  · rename_i hrefresh
    rw [if_neg hrefresh]
    exact ⟨_, rfl⟩

/-- A code of the iteration is revealed in an unlocked state and at a trusted time. -/
theorem shown_of_code {turn : Turn σ} {ui : Ui} {times : List Int} (hvalid : turn.Valid)
    {view : CredentialView} (hcode : CodeOf gcm provider turn.runtime turn.clock times
      view.credentialId ui.revealedCode ui.revealedPeriodIndex)
    (hlater : ∀ timerUs ∈ times, turn.times.readinessUs ≤ timerUs ∧ timerUs ∈ turn.times.all)
    (hdeadline : ui.revealDeadlineMs = deadlineAfter turn.nowMs) :
    Shown gcm provider turn ui where
  unlocked := by
    obtain ⟨credential, hfound, -⟩ := hcode.generated
    exact unlocked_of_found hfound
  ready := by
    obtain ⟨timerUs, hmem, hready⟩ := hcode.ready
    exact ready_before (fun hset => Int.le_trans (hvalid.past hset) hvalid.order.1)
      (hlater timerUs hmem).1 hready
  beforeDeadline := by
    rw [hdeadline, UInt64.lt_iff_toNat_lt, hvalid.deadline]
    omega
  period := by
    obtain ⟨_, -, timerUs, hmem, unixSeconds, hread, hperiod, -⟩ := hcode.generated
    exact ⟨timerUs, (hlater timerUs hmem).2, unixSeconds, hread, hperiod⟩

/-- An active code passes only unchanged, and while everything holds. -/
theorem checked_active {ui : Ui} {turn : Turn σ} (h : (checked ui turn).revealActive = true) :
    checked ui turn = ui ∧ turn.readiness = .ready ∧ turn.nowMs < ui.revealDeadlineMs ∧
      turn.observedState = .unlocked := by
  obtain ⟨hsame, hready, hbefore, hunlocked⟩ := gate_active h
  rcases boundaryView_cases ui turn with hview | ⟨-, hinactive⟩
  · rw [hview] at hsame hbefore
    exact ⟨by rw [checked, hview, hsame], hready, hbefore, hunlocked⟩
  · rw [checked, hsame, hinactive] at h
    cases h

/-- A selection passes only unchanged. -/
theorem checked_selected {ui : Ui} {turn : Turn σ} (h : (checked ui turn).selected ≠ none) :
    SameView ui (checked ui turn) := by
  rcases gate_view (boundaryView ui turn) turn with hgate | hnone
  · rcases boundaryView_cases ui turn with hview | ⟨hnone, -⟩
    · rw [hview] at hgate
      rw [checked, hview]
      exact hgate
    · exact absurd (hgate.selected.trans hnone) h
  · exact absurd hnone h

theorem RolledOver.hasSelection {ui : Ui} {turn : Turn σ} {rolled : Ui × Runtime σ}
    (h : RolledOver gcm provider turn (checked ui turn) rolled) (hselection : HasSelection ui) :
    HasSelection rolled.1 := by
  intro hactive
  have hchecked := (h.active hactive).1
  rw [h.view.selected, (checked_active hchecked).1]
  rw [(checked_active hchecked).1] at hchecked
  exact hselection hchecked

/-- What holds of a code that is active after the button, and where it comes from. -/
theorem button_source {ui : Ui} {turn : Turn σ} {rolled : Ui × Runtime σ} (hvalid : turn.Valid)
    (hselection : HasSelection ui)
    (hrolled : RolledOver gcm provider turn (checked ui turn) rolled)
    (h : (button P gcm provider rolled.1 rolled.2 turn).1.revealActive = true) :
    SameView ui (button P gcm provider rolled.1 rolled.2 turn).1 ∧ ¬turn.Clicks ∧
      Shown gcm provider turn (button P gcm provider rolled.1 rolled.2 turn).1 ∧
      Source gcm provider ui turn (button P gcm provider rolled.1 rolled.2 turn).1 := by
  obtain ⟨hview, hclicks, hholds | hnot⟩ := button_active (hrolled.hasSelection hselection) h
  · obtain ⟨hholds, hdeadline, view, hselected, hcode⟩ := hholds
    have hsame : SameView ui rolled.1 := by
      refine (checked_selected ?_).trans hrolled.view
      rw [← hrolled.view.selected, hselected]
      simp
    have hall (timerUs : Int) (hmem : timerUs ∈ turn.times.holdTimes) :
        turn.times.readinessUs ≤ timerUs ∧ timerUs ∈ turn.times.all := by
      refine ⟨hvalid.order.2 timerUs hmem, ?_⟩
      rw [Times.all, List.append_assoc]
      exact List.mem_append_right _ hmem
    have hcode' := hcode.mono hrolled.narrows fun _ hmem => hmem
    refine ⟨hsame.trans hview, hclicks, shown_of_code hvalid hcode' hall hdeadline,
      .hold hholds hdeadline ⟨view, ?_, hcode'.mono (.refl _) fun timerUs hmem =>
        (hall timerUs hmem).2⟩⟩
    rw [hview.selected, hselected]
  · obtain ⟨hnot, hsame⟩ := hnot
    rw [hsame] at h ⊢
    obtain ⟨hactive, hdeadline, hcode⟩ := hrolled.active h
    obtain ⟨hui, hready, hbefore, hunlocked⟩ := checked_active hactive
    have hview' := hrolled.view
    rw [hui] at hactive hdeadline hcode hview'
    refine ⟨hview', hclicks, ⟨hunlocked, hready, by rw [hdeadline]; exact hbefore, ?_⟩,
      .kept hnot hactive hdeadline ?_⟩
    · rcases hcode with ⟨-, -, hread⟩ | ⟨view, -, hcode⟩
      · exact hread
      · obtain ⟨_, -, timerUs, hmem, unixSeconds, hread, hperiod, -⟩ := hcode.generated
        exact ⟨timerUs, hmem, unixSeconds, hread, hperiod⟩
    · rcases hcode with ⟨hcode, hperiod, -⟩ | ⟨view, hselected, hcode⟩
      · exact .inl ⟨hcode, hperiod⟩
      · exact .inr ⟨view, by rw [hview'.selected, hselected], hcode⟩

/-- **What holds of a code that is active after an iteration, and where it comes from.** -/
theorem iterate_active {loop : Loop} {turn : Turn σ} (hvalid : turn.Valid)
    (hselection : HasSelection loop.ui)
    (h : (iterate P gcm provider loop turn).1.ui.revealActive = true) :
    SameView loop.ui (iterate P gcm provider loop turn).1.ui ∧ ¬turn.Clicks ∧
      Shown gcm provider turn (iterate P gcm provider loop turn).1.ui ∧
      Source gcm provider loop.ui turn (iterate P gcm provider loop turn).1.ui := by
  obtain ⟨storageError, hfinal⟩ := iterate_button h
  rw [hfinal] at h ⊢
  obtain ⟨hview, hclicks, hshown, hsource⟩ := button_source hvalid hselection
    (rolledOver P gcm provider (checked loop.ui turn) turn) h
  refine ⟨⟨hview.credentials, hview.selectedIndex, hview.visibleGeneration⟩, hclicks,
    ⟨hshown.unlocked, hshown.ready, hshown.beforeDeadline, hshown.period⟩, ?_⟩
  cases hsource with
  | hold hholds hdeadline hcode => exact .hold hholds hdeadline hcode
  | kept hnot hactive hdeadline hcode => exact .kept hnot hactive hdeadline hcode

/-! ## Runs -/

theorem run_concat (first : Loop) (turns : List (Turn σ)) (turn : Turn σ) :
    run P gcm provider first (turns ++ [turn]) =
      (iterate P gcm provider (run P gcm provider first turns) turn).1 := by
  rw [run, List.foldl_append]
  rfl

/-- A hold revealed the code that is active after a run. Until then it stays active, its deadline
and its account stay the same, and one of the iterations generated it. -/
structure RevealedBy (P : Persistence σ) (gcm : GcmOpen) (provider : HmacSha1Provider)
    (first : Loop) (before : List (Turn σ)) (hold : Turn σ) (rest : List (Turn σ)) : Prop where
  holds : hold.Holds
  stays : ∀ done, done <+: rest →
    (run P gcm provider first (before ++ hold :: done)).ui.revealActive = true ∧
    (run P gcm provider first (before ++ hold :: done)).ui.revealDeadlineMs.toNat =
      hold.nowMs.toNat + 10000 ∧
    (run P gcm provider first (before ++ hold :: done)).ui.selected =
      (run P gcm provider first (before ++ hold :: rest)).ui.selected
  generated : ∃ turn ∈ hold :: rest,
    Generated gcm provider turn (run P gcm provider first (before ++ hold :: rest)).ui

theorem RevealedBy.selected {first : Loop} {before : List (Turn σ)} {hold : Turn σ}
    {rest : List (Turn σ)} (h : RevealedBy P gcm provider first before hold rest) :
    (run P gcm provider first (before ++ hold :: rest)).ui.selected ≠ none := by
  obtain ⟨_, -, view, hselected, -⟩ := h.generated
  rw [hselected]
  simp

/-- The reveal goes on in an iteration that keeps the code active. -/
theorem RevealedBy.kept {first : Loop} {before : List (Turn σ)} {hold turn : Turn σ}
    {rest : List (Turn σ)} (h : RevealedBy P gcm provider first before hold rest)
    (hactive : (run P gcm provider first (before ++ hold :: (rest ++ [turn]))).ui.revealActive =
      true)
    (hview : SameView (run P gcm provider first (before ++ hold :: rest)).ui
      (run P gcm provider first (before ++ hold :: (rest ++ [turn]))).ui)
    (hdeadline : (run P gcm provider first (before ++ hold :: (rest ++ [turn]))).ui.revealDeadlineMs
      = (run P gcm provider first (before ++ hold :: rest)).ui.revealDeadlineMs)
    (hcode : ((run P gcm provider first (before ++ hold :: (rest ++ [turn]))).ui.revealedCode =
        (run P gcm provider first (before ++ hold :: rest)).ui.revealedCode ∧
      (run P gcm provider first (before ++ hold :: (rest ++ [turn]))).ui.revealedPeriodIndex =
        (run P gcm provider first (before ++ hold :: rest)).ui.revealedPeriodIndex) ∨
      Generated gcm provider turn
        (run P gcm provider first (before ++ hold :: (rest ++ [turn]))).ui) :
    RevealedBy P gcm provider first before hold (rest ++ [turn]) where
  holds := h.holds
  stays := fun done hdone => by
    rcases List.prefix_concat_iff.1 hdone with rfl | hdone
    · refine ⟨hactive, ?_, rfl⟩
      rw [hdeadline]
      exact (h.stays rest List.prefix_rfl).2.1
    · obtain ⟨hactive', hdeadline', hselected⟩ := h.stays done hdone
      exact ⟨hactive', hdeadline', hselected.trans hview.selected.symm⟩
  generated := by
    rcases hcode with ⟨hcode, hperiod⟩ | hgenerated
    · obtain ⟨turn', hmem, view, hselected, hcodeOf⟩ := h.generated
      refine ⟨turn', List.mem_cons.2 ((List.mem_cons.1 hmem).imp_right
        (List.mem_append_left _)), view, ?_, ?_⟩
      · rw [hview.selected, hselected]
      · rw [hcode, hperiod]
        exact hcodeOf
    · exact ⟨turn, by simp, hgenerated⟩

/-- Every code that is active after a run was revealed by a hold. -/
theorem run_revealed {first : Loop} (hfirst : first.ui.revealActive = false)
    (turns : List (Turn σ)) (hvalid : ∀ turn ∈ turns, turn.Valid)
    (h : (run P gcm provider first turns).ui.revealActive = true) :
    ∃ before hold rest, turns = before ++ hold :: rest ∧
      RevealedBy P gcm provider first before hold rest := by
  induction turns using List.reverseRecOn with
  | nil => cases hfirst.symm.trans h
  | append_singleton turns turn ih =>
    have hvalid' : ∀ turn ∈ turns, turn.Valid := fun turn hmem =>
      hvalid turn (List.mem_append_left _ hmem)
    have hselection : HasSelection (run P gcm provider first turns).ui := by
      intro hactive
      obtain ⟨before, hold, rest, rfl, hrevealed⟩ := ih hvalid' hactive
      exact hrevealed.selected
    have hturn : turn.Valid := hvalid turn (by simp)
    rw [run_concat] at h
    obtain ⟨hview, -, -, hsource⟩ := iterate_active hturn hselection h
    rw [← run_concat] at h hview hsource
    cases hsource with
    | hold hholds hdeadline hcode =>
      refine ⟨turns, turn, [], rfl, hholds, fun done hdone => ?_, turn, by simp, hcode⟩
      rw [List.prefix_nil.1 hdone]
      refine ⟨h, ?_, rfl⟩
      rw [hdeadline, hturn.deadline]
    | kept _ hactive hdeadline hcode =>
      obtain ⟨before, hold, rest, rfl, hrevealed⟩ := ih hvalid' hactive
      rw [List.append_assoc, List.cons_append] at h hview hdeadline hcode ⊢
      exact ⟨before, hold, rest ++ [turn], rfl, hrevealed.kept h hview hdeadline hcode⟩

/-- The code that was active has no successor: the time cannot be read, or no code is generated. -/
def RegenerationFails (P : Persistence σ) (gcm : GcmOpen) (provider : HmacSha1Provider)
    (loop : Loop) (turn : Turn σ) : Prop :=
  (checked loop.ui turn).revealActive = true ∧
    (rollover P gcm provider (checked loop.ui turn) turn).1.revealActive = false

/-- What ends a reveal in an iteration. -/
inductive Ends (P : Persistence σ) (gcm : GcmOpen) (provider : HmacSha1Provider) (loop : Loop)
    (turn : Turn σ) : Prop where
  | locked (h : turn.observedState ≠ .unlocked)
  | notReady (h : turn.readiness ≠ .ready)
  | clicked (h : turn.Clicks)
  | changed (h : ¬SameView loop.ui (iterate P gcm provider loop turn).1.ui)
  | failed (h : RegenerationFails P gcm provider loop turn) (hnot : ¬turn.Holds)

/-- Without a hold, a code that is active at the end was so after the check of the period. -/
theorem rollover_active {loop : Loop} {turn : Turn σ} (hselection : HasSelection loop.ui)
    (hnot : ¬turn.Holds) (h : (iterate P gcm provider loop turn).1.ui.revealActive = true) :
    (rollover P gcm provider (checked loop.ui turn) turn).1.revealActive = true := by
  obtain ⟨storageError, hfinal⟩ := iterate_button h
  rw [hfinal] at h
  have hrolled := rolledOver P gcm provider (checked loop.ui turn) turn
  obtain ⟨-, -, hholds | ⟨-, hsame⟩⟩ := button_active (hrolled.hasSelection hselection) h
  · exact absurd hholds.1 hnot
  · rw [← hsame]
    exact h

/-- **In every run, a code that is active after an iteration is in the period of a time that is read
in the iteration, the Vault is unlocked and the time is ready, a hold revealed it less than ten
seconds ago, and it is the code of the account that is selected since. What ends a reveal leaves no
code, unless after a failure a hold starts another.** -/
theorem revealed_current (rt : Runtime σ) (timerUs : Int) (turns : List (Turn σ)) (turn : Turn σ)
    (hvalid : ∀ turn' ∈ turns ++ [turn], turn'.Valid) :
    let first := start gcm rt timerUs
    let ui := (run P gcm provider first (turns ++ [turn])).ui
    (ui.revealActive = true → Shown gcm provider turn ui ∧
      ∃ before hold rest, turns ++ [turn] = before ++ hold :: rest ∧
        RevealedBy P gcm provider first before hold rest) ∧
    (Ends P gcm provider (run P gcm provider first turns) turn → ui.revealActive = false) := by
  have hfirst : (start gcm rt timerUs).ui.revealActive = false := by
    by_contra hactive
    rw [Bool.not_eq_false] at hactive
    have hsame := refresh_active hactive
    rw [start, hsame] at hactive
    cases hactive
  intro first ui
  have hturns : ∀ turn' ∈ turns, turn'.Valid := fun turn' hmem =>
    hvalid turn' (List.mem_append_left _ hmem)
  have hturn : turn.Valid := hvalid turn (by simp)
  have hselection : HasSelection (run P gcm provider first turns).ui := by
    intro hactive
    obtain ⟨before, hold, rest, rfl, hrevealed⟩ := run_revealed hfirst turns hturns hactive
    exact hrevealed.selected
  have hui : ui = (iterate P gcm provider (run P gcm provider first turns) turn).1.ui :=
    congrArg Loop.ui (run_concat first turns turn)
  refine ⟨fun hactive => ⟨?_, run_revealed hfirst _ hvalid hactive⟩, fun hends => ?_⟩
  · rw [hui] at hactive ⊢
    exact (iterate_active hturn hselection hactive).2.2.1
  · by_contra hactive
    rw [Bool.not_eq_false, hui] at hactive
    obtain ⟨hview, hclicks, hshown, -⟩ := iterate_active hturn hselection hactive
    cases hends with
    | locked h => exact h hshown.unlocked
    | notReady h => exact h hshown.ready
    | clicked h => exact hclicks h
    | changed h => exact h hview
    | failed h hnot => cases h.2.symm.trans (rollover_active hselection hnot hactive)

/-! ### A hold after a failure -/

/-- A storage that counts the records of uses and fails at the second. -/
def failsOnce : Persistence Nat where
  load := fun st => ((.io, {}), st)
  formatSchema2 := fun st => (.io, st)
  replaceEnvelope := fun _ _ st => (.io, st)
  setLastUsed := fun _ st => (if st = 1 then .io else .ok, st + 1)
  eraseAll := fun st => (.io, st)

/-- An unlocked runtime over that storage. -/
def unlockedRuntime : Runtime Nat where
  persistence := 0
  initialized := true
  hasVault := true
  state := .unlocked
  vmkPresent := true

/-- All readings of an iteration at one time. -/
def Times.once (timerUs : Int) : Times :=
  let attempt : AttemptTimes := ⟨timerUs, timerUs, timerUs, timerUs⟩
  ⟨timerUs, timerUs, timerUs, (attempt, attempt), (attempt, attempt)⟩

/-- A hold at a time, with a clock that was set when the timer started. -/
def holdAt (rt : Runtime Nat) (timerUs : Int) : Turn Nat where
  boundary := none
  runtime := rt
  clock := (Time.syncFromUsb {} true true 1700000000 0).2
  times := .once timerUs
  presenceActive := false
  quarantineActive := false
  wasHold := true
  wasDoubleClicked := false
  wasSingleClicked := false

theorem holdAt_valid (rt : Runtime Nat) {timerUs : Int} (hpositive : 0 ≤ timerUs)
    (hrange : timerUs < 2 ^ 63) : (holdAt rt timerUs).Valid where
  ordered := by simp [holdAt, Times.once, Times.all, AttemptTimes.all]
  range := hrange
  past := fun _ => hpositive

def firstHold : Turn Nat := holdAt unlockedRuntime 1000000

/-- The loop before the first hold. -/
def sampleStart : Loop := start Totp.unnamedGcm unlockedRuntime 0

/-- A hold in the next period, with the runtime that the first hold left. -/
def secondHold : Turn Nat :=
  holdAt (iterate failsOnce Totp.unnamedGcm Totp.zeroDigest sampleStart firstHold).2 10500000

theorem revealed_current_first :
    Shown Totp.unnamedGcm Totp.zeroDigest firstHold
      (run failsOnce Totp.unnamedGcm Totp.zeroDigest sampleStart [firstHold]).ui :=
  ((revealed_current (P := failsOnce) unlockedRuntime 0 [] firstHold fun turn hmem => by
    rw [List.mem_singleton.1 hmem]
    exact holdAt_valid _ (by decide) (by decide)).1 (by decide +kernel)).1

/-- No code is generated for the new period, and the hold of the same iteration reveals one. -/
theorem hold_after_failure :
    firstHold.Valid ∧ secondHold.Valid ∧
      RegenerationFails failsOnce Totp.unnamedGcm Totp.zeroDigest
        (run failsOnce Totp.unnamedGcm Totp.zeroDigest sampleStart [firstHold]) secondHold ∧
      (run failsOnce Totp.unnamedGcm Totp.zeroDigest sampleStart
        [firstHold, secondHold]).ui.revealActive = true :=
  ⟨holdAt_valid _ (by decide) (by decide), holdAt_valid _ (by decide) (by decide),
    ⟨by decide +kernel, by decide +kernel⟩, by decide +kernel⟩

end M5Auth.Device
