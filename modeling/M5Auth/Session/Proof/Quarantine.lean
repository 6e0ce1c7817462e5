import M5Auth.Lib.Settling
import M5Auth.Session.GestureQuarantine

/-!
# How long the quarantine lasts

A quarantine is a detector that waits for quiet (`Settling`): a sample is quiet if the button is
released, and it settles if no click count is being decided and its time is more than the timeout
after that of the first released sample (`refines_after`). The main result is `quarantine_lasts`.
-/

namespace M5Auth.Session

open Settling (Detector Settles Stretch)

namespace ButtonSample

def released (sample : ButtonSample) : Bool := !sample.pressed

/-- More than the timeout has passed since the first released sample, and no click count is being
decided. -/
def overdue (timeoutMs : UInt32) (first sample : ButtonSample) : Bool :=
  !sample.decidingClickCount &&
    decide (first.nowMs.toNat + timeoutMs.toNat < sample.nowMs.toNat)

end ButtonSample

open ButtonSample

namespace PresenceGestureQuarantine

/-- What an observation does. -/
inductive Observed (q : PresenceGestureQuarantine) (sample : ButtonSample) :
    PresenceGestureQuarantine → Prop where
  | inactive (h : q.active = false) : Observed q sample q
  | pressed (h : q.active = true) (hp : sample.pressed = true) :
    Observed q sample { q with releaseObserved := false }
  | first (h : q.active = true) (hp : sample.pressed = false) (hr : q.releaseObserved = false) :
    Observed q sample { q with releaseObserved := true, releaseObservedAtMs := sample.nowMs }
  | kept (h : q.active = true) (hp : sample.pressed = false) (hr : q.releaseObserved = true)
      (hd : sample.decidingClickCount = true ∨ sample.nowMs.toNat ≤
        q.releaseObservedAtMs.toNat + q.clickDecisionTimeoutMs.toNat) : Observed q sample q
  | ended (h : q.active = true) (hp : sample.pressed = false) (hr : q.releaseObserved = true)
      (hd : sample.decidingClickCount = false)
      (ht : q.releaseObservedAtMs.toNat + q.clickDecisionTimeoutMs.toNat < sample.nowMs.toNat) :
    Observed q sample cancel

/-- The two comparisons of the times, without the subtraction. -/
theorem within_iff {nowMs atMs : UInt64} {timeoutMs : UInt32} (h : ¬nowMs < atMs) :
    nowMs - atMs ≤ timeoutMs.toUInt64 ↔ nowMs.toNat ≤ atMs.toNat + timeoutMs.toNat := by
  have hle : atMs ≤ nowMs := UInt64.not_lt.1 h
  have hle' : atMs.toNat ≤ nowMs.toNat := UInt64.le_iff_toNat_le.1 hle
  rw [UInt64.le_iff_toNat_le, UInt64.toNat_sub_of_le _ _ hle, UInt32.toNat_toUInt64]
  omega

theorem observe_cases (q : PresenceGestureQuarantine) (sample : ButtonSample) :
    Observed q sample (q.observe sample) := by
  unfold observe
  split
  · rename_i hinactive
    exact .inactive (by simpa using hinactive)
  rename_i hactive
  have hactive : q.active = true := by simpa using hactive
  split
  · exact .pressed hactive ‹_›
  rename_i hpressed
  have hpressed : sample.pressed = false := by simpa using hpressed
  split
  · rename_i hreleased
    exact .first hactive hpressed (by simpa using hreleased)
  rename_i hreleased
  have hreleased : q.releaseObserved = true := by simpa using hreleased
  split
  · exact .kept hactive hpressed hreleased (.inl ‹_›)
  rename_i hdeciding
  split
  · -- The time went backwards.
    rename_i hback
    have hlt := UInt64.lt_iff_toNat_lt.1 hback
    exact .kept hactive hpressed hreleased (.inr (by omega))
  rename_i hforward
  split
  · rename_i hwithin
    exact .kept hactive hpressed hreleased (.inr ((within_iff hforward).1 hwithin))
  · rename_i hover
    refine .ended hactive hpressed hreleased (by simpa using hdeciding) ?_
    exact Nat.lt_of_not_le fun hle => hover ((within_iff hforward).2 hle)

/-! ## The detector -/

/-- The quarantine and the detector are in the same state. -/
def Refines (timeoutMs : UInt32) (q : PresenceGestureQuarantine) : Detector ButtonSample → Prop
  | .done => q.active = false
  | .waiting none =>
    q.active = true ∧ q.clickDecisionTimeoutMs = timeoutMs ∧ q.releaseObserved = false
  | .waiting (some first) =>
    q.active = true ∧ q.clickDecisionTimeoutMs = timeoutMs ∧ q.releaseObserved = true ∧
      q.releaseObservedAtMs = first.nowMs

theorem Refines.active_iff {timeoutMs : UInt32} {q : PresenceGestureQuarantine}
    {d : Detector ButtonSample} (h : Refines timeoutMs q d) : q.active = false ↔ d = .done := by
  match d with
  | .done => exact iff_of_true h rfl
  | .waiting none => exact iff_of_false (by simp [h.1]) (by simp)
  | .waiting (some first) => exact iff_of_false (by simp [h.1]) (by simp)

theorem Refines.observe {timeoutMs : UInt32} {q : PresenceGestureQuarantine}
    {d : Detector ButtonSample} (h : Refines timeoutMs q d) (sample : ButtonSample) :
    Refines timeoutMs (q.observe sample) (Settling.step released (overdue timeoutMs) d sample) := by
  have hcases := observe_cases q sample
  match d with
  | .done =>
    have hinactive : q.active = false := h
    generalize q.observe sample = q' at hcases
    cases hcases with
    | inactive _ => exact hinactive
    | pressed hactive | first hactive | kept hactive | ended hactive =>
      rw [hinactive] at hactive
      cases hactive
  | .waiting none =>
    obtain ⟨hactive, htimeout, hreleased⟩ := h
    generalize q.observe sample = q' at hcases
    cases hcases with
    | inactive hinactive =>
      rw [hinactive] at hactive
      cases hactive
    | pressed _ hp =>
      simp only [Settling.step, released, hp, Bool.not_true, Bool.false_eq_true, if_false]
      exact ⟨hactive, htimeout, rfl⟩
    | first _ hp _ =>
      simp only [Settling.step, released, hp, Bool.not_false, if_true]
      exact ⟨hactive, htimeout, rfl, rfl⟩
    | kept _ _ hr | ended _ _ hr =>
      rw [hreleased] at hr
      cases hr
  | .waiting (some first) =>
    obtain ⟨hactive, htimeout, hreleased, hat⟩ := h
    generalize q.observe sample = q' at hcases
    cases hcases with
    | inactive hinactive =>
      rw [hinactive] at hactive
      cases hactive
    | pressed _ hp =>
      simp only [Settling.step, released, hp, Bool.not_true, Bool.false_eq_true, if_false]
      exact ⟨hactive, htimeout, rfl⟩
    | first _ _ hr =>
      rw [hreleased] at hr
      cases hr
    | kept _ hp _ hd =>
      have hnot : ¬overdue timeoutMs first sample = true := by
        rw [hat, htimeout] at hd
        simp only [overdue, Bool.and_eq_true, Bool.not_eq_true', decide_eq_true_eq, not_and]
        intro hfalse
        rcases hd with hd | hd
        · rw [hd] at hfalse
          cases hfalse
        · omega
      simp only [Settling.step, released, hp, Bool.not_false, if_true, hnot]
      exact ⟨hactive, htimeout, hreleased, hat⟩
    | ended _ hp _ hd ht =>
      have hover : overdue timeoutMs first sample = true := by
        rw [hat, htimeout] at ht
        simp only [overdue, hd, Bool.not_false, Bool.true_and, decide_eq_true_eq]
        exact ht
      simp only [Settling.step, released, hp, Bool.not_false, if_true, hover]
      rfl

/-- The quarantine after the first `n` observations since its `begin`. -/
def observed (nowMs : UInt64) (timeoutMs : UInt32) (samples : Nat → ButtonSample) (n : Nat) :
    PresenceGestureQuarantine :=
  Run.stateAt observe (beginQuarantine nowMs timeoutMs) samples n

theorem refines_after (nowMs : UInt64) (timeoutMs : UInt32) (samples : Nat → ButtonSample)
    (n : Nat) : Refines timeoutMs (observed nowMs timeoutMs samples n)
      (Settling.after released (overdue timeoutMs) samples n) := by
  induction n with
  | zero => exact ⟨rfl, rfl, rfl⟩
  | succ n ih => exact ih.observe (samples n)

/-! ## The end -/

section
variable (nowMs : UInt64) (timeoutMs : UInt32) (samples : Nat → ButtonSample)

/-- Observation `n` may end a quarantine: the button is released, no click count is being decided,
and more than the timeout has passed since the first released observation after the last pressed
one, or after `begin`. -/
structure Ends (n : Nat) : Prop where
  released : (samples n).pressed = false
  decided : (samples n).decidingClickCount = false
  waited : ∃ r, Stretch ButtonSample.released samples r n ∧
    (samples r).nowMs.toNat + timeoutMs.toNat < (samples n).nowMs.toNat

/-- The press at `i` is over at observation `n`: the button was released after it and stayed so for
more than the timeout, and no click count is being decided. -/
structure Finished (i n : Nat) : Prop where
  decided : (samples n).decidingClickCount = false
  waited : ∃ r, i < r ∧ r ≤ n ∧ (∀ k, r ≤ k → k ≤ n → (samples k).pressed = false) ∧
    (samples r).nowMs.toNat + timeoutMs.toNat < (samples n).nowMs.toNat

variable {nowMs timeoutMs samples}

theorem settles_iff {n : Nat} :
    Settles released (overdue timeoutMs) samples n ↔ Ends timeoutMs samples n := by
  constructor
  · intro h
    have hquiet := h.isQuiet
    obtain ⟨r, -, hstretch, hover⟩ := h
    simp only [overdue, Bool.and_eq_true, Bool.not_eq_true', decide_eq_true_eq] at hover
    exact ⟨by simpa [ButtonSample.released] using hquiet, hover.1, r, hstretch, hover.2⟩
  · rintro ⟨-, hdecided, r, hstretch, htime⟩
    refine ⟨r, ?_, hstretch, by simp [overdue, hdecided, htime]⟩
    -- No time passes within one observation.
    rcases Nat.lt_or_eq_of_le hstretch.le with hlt | rfl
    · exact hlt
    · omega

theorem inactive_iff {n : Nat} :
    (observed nowMs timeoutMs samples n).active = false ↔ ∃ k, k < n ∧ Ends timeoutMs samples k := by
  rw [(refines_after nowMs timeoutMs samples n).active_iff, Settling.done_iff]
  simp only [settles_iff]

/-- The observation at which a quarantine ends. -/
theorem ends_of_end {n : Nat} (hactive : (observed nowMs timeoutMs samples n).active = true)
    (hend : (observed nowMs timeoutMs samples (n + 1)).active = false) :
    Ends timeoutMs samples n := by
  obtain ⟨k, hk, hends⟩ := inactive_iff.1 hend
  rcases Nat.lt_or_ge k n with hlt | hge
  · rw [inactive_iff.2 ⟨k, hlt, hends⟩] at hactive
    cases hactive
  · obtain rfl : k = n := by omega
    exact hends

theorem Ends.finished {n : Nat} (h : Ends timeoutMs samples n) {i : Nat} (hi : i ≤ n)
    (hpressed : (samples i).pressed = true) : Finished timeoutMs samples i n := by
  obtain ⟨r, hstretch, htime⟩ := h.waited
  refine ⟨h.decided, r, ?_, hstretch.le, fun k hk hk' => ?_, htime⟩
  · exact hstretch.lt_of_not_quiet hi (by simp [ButtonSample.released, hpressed])
  · simpa [ButtonSample.released] using hstretch.all k hk hk'

/-- A pressed observation starts the wait again. -/
theorem restarts {n : Nat} (hactive : (observed nowMs timeoutMs samples n).active = true)
    (hpressed : (samples n).pressed = true) (laterMs : UInt64) (m : Nat) :
    (observed nowMs timeoutMs samples (n + 1 + m)).active =
      (observed laterMs timeoutMs (fun k => samples (n + 1 + k)) m).active := by
  have hwait : Settling.after released (overdue timeoutMs) samples n ≠ .done := by
    intro hdone
    rw [(refines_after nowMs timeoutMs samples n).active_iff.2 hdone] at hactive
    cases hactive
  have hsame := Settling.after_restart hwait (by simp [ButtonSample.released, hpressed]) m
  have hleft := (refines_after nowMs timeoutMs samples (n + 1 + m)).active_iff
  have hright := (refines_after laterMs timeoutMs (fun k => samples (n + 1 + k)) m).active_iff
  rw [hsame] at hleft
  rw [Bool.eq_iff_iff, ← Bool.not_eq_false, ← Bool.not_eq_false, hleft, hright]

end

/-- What holds of a quarantine for every sequence of observations. -/
structure Lasts (nowMs : UInt64) (timeoutMs : UInt32) (samples : Nat → ButtonSample) : Prop where
  inactive_iff : ∀ n, (observed nowMs timeoutMs samples n).active = false ↔
    ∃ k, k < n ∧ Ends timeoutMs samples k
  finished : ∀ n, (observed nowMs timeoutMs samples n).active = true →
    (observed nowMs timeoutMs samples (n + 1)).active = false → ∀ i, i ≤ n →
    (samples i).pressed = true → Finished timeoutMs samples i n
  restarts : ∀ n, (observed nowMs timeoutMs samples n).active = true →
    (samples n).pressed = true → ∀ laterMs m,
    (observed nowMs timeoutMs samples (n + 1 + m)).active =
      (observed laterMs timeoutMs (fun k => samples (n + 1 + k)) m).active
  backwards : ∀ n r, (observed nowMs timeoutMs samples n).active = true →
    Stretch released samples r n → (samples n).nowMs ≤ (samples r).nowMs →
    (observed nowMs timeoutMs samples (n + 1)).active = true

/-- **The quarantine lasts until the gesture is over.** -/
theorem quarantine_lasts (nowMs : UInt64) (timeoutMs : UInt32) (samples : Nat → ButtonSample) :
    Lasts nowMs timeoutMs samples where
  inactive_iff := fun _ => inactive_iff
  finished := fun _ hactive hend _ hi hpressed =>
    (ends_of_end hactive hend).finished hi hpressed
  restarts := fun _ hactive hpressed => restarts hactive hpressed
  backwards := by
    intro n r hactive hstretch hle
    rw [← Bool.not_eq_false]
    intro hend
    obtain ⟨r', hstretch', htime⟩ := (ends_of_end hactive hend).waited
    rw [← hstretch.unique hstretch'] at htime
    have hle' := UInt64.le_iff_toNat_le.1 hle
    omega

/-- A press within the timeout makes the quarantine wait again: it ends at the last of these. -/
example :
    let samples : List ButtonSample := [⟨true, false, 0⟩, ⟨false, false, 10⟩, ⟨false, false, 510⟩,
      ⟨true, false, 511⟩, ⟨false, false, 600⟩, ⟨false, true, 1200⟩, ⟨false, false, 20⟩,
      ⟨false, false, 1101⟩]
    (samples.foldl observe (beginQuarantine 0 500)).active = false ∧
      (samples.dropLast.foldl observe (beginQuarantine 0 500)).active = true := by decide

end PresenceGestureQuarantine

end M5Auth.Session
