import M5Auth.Time.TrustedClock

/-!
# How far the trusted clock can drift

`clock_drift_bounded`: after an anchor and any samples of the network, the clock reads at most 301
seconds an accepted sample away from the anchor carried forward. The proof counts in microseconds:
`clockError` is how far the base has moved against the timer. An accepted sample changes it by less
than 301 seconds (`Follows.accept`), and only the reading itself is rounded (`Follows.reading`).
-/

namespace M5Auth.Time

namespace TrustedClock

variable {clock : TrustedClock} {u : UInt64} {m m₀ : Int} {k : Nat}

/-! ## The arithmetic of one reading -/

/-- The times that the timer can give: 64 bits, and not negative. -/
def TimerValue (m : Int) : Prop := 0 ≤ m ∧ m < 9223372036854775808

/-- The whole seconds since the base. -/
def secondsSince (clock : TrustedClock) (m : Int) : Int := (m - clock.baseMonotonicUs) / 1000000

/-- The computations with the time since the base stay within their types: the difference of the
times, its seconds, the guard's difference and the sum. -/
structure InRange (clock : TrustedClock) (m : Int) : Prop where
  elapsed : TimerValue (m - clock.baseMonotonicUs)
  seconds : ((wholeSeconds (m - clock.baseMonotonicUs)).toNat : Int) = clock.secondsSince m
  room : ((0xffffffffffffffff - wholeSeconds (m - clock.baseMonotonicUs) : UInt64).toNat : Int) =
    0xffffffffffffffff - clock.secondsSince m
  projected : ((clock.baseUnixSeconds + wholeSeconds (m - clock.baseMonotonicUs)).toNat : Int) =
    clock.baseUnixSeconds.toNat + clock.secondsSince m
  guard : ¬clock.baseUnixSeconds > 0xffffffffffffffff - wholeSeconds (m - clock.baseMonotonicUs)

/-- The clock is anchored at a time that the callers admit. -/
structure Admitted (clock : TrustedClock) : Prop where
  synchronized : clock.synchronized = true
  unix : acceptableUnixSeconds clock.baseUnixSeconds = true
  timer : TimerValue clock.baseMonotonicUs

theorem acceptable_le (h : acceptableUnixSeconds u = true) : u.toNat ≤ 4102444800 := by
  unfold acceptableUnixSeconds at h
  simp only [Bool.and_eq_true, decide_eq_true_eq, UInt64.le_iff_toNat_le] at h
  exact h.2

theorem Admitted.inRange (h : Admitted clock) (hm : TimerValue m)
    (hle : clock.baseMonotonicUs ≤ m) : InRange clock m := by
  obtain ⟨hbase, -⟩ := h.timer
  have hunix := acceptable_le h.unix
  have helapsed : TimerValue (m - clock.baseMonotonicUs) := by
    unfold TimerValue at hm ⊢
    omega
  have hseconds : (wholeSeconds (m - clock.baseMonotonicUs)).toNat =
      (clock.secondsSince m).toNat := by
    unfold TimerValue at helapsed
    rw [wholeSeconds, secondsSince, UInt64.toNat_ofNat', Nat.mod_eq_of_lt (by omega)]
  have hpos : 0 ≤ clock.secondsSince m ∧ clock.secondsSince m < 9223372036855 := by
    unfold TimerValue at helapsed
    unfold secondsSince
    omega
  have hroom : (0xffffffffffffffff - wholeSeconds (m - clock.baseMonotonicUs) : UInt64).toNat =
      0xffffffffffffffff - (wholeSeconds (m - clock.baseMonotonicUs)).toNat := by
    refine UInt64.toNat_sub_of_le _ _ (UInt64.le_iff_toNat_le.2 ?_)
    show (wholeSeconds (m - clock.baseMonotonicUs)).toNat ≤ 18446744073709551615
    omega
  refine ⟨helapsed, by omega, by omega, ?_, ?_⟩
  · rw [UInt64.toNat_add, Nat.mod_eq_of_lt (by omega)]
    omega
  · rw [gt_iff_lt, UInt64.lt_iff_toNat_lt, hroom]
    omega

/-! ## What the functions do -/

theorem snapshot_ready (h : Admitted clock) (hle : clock.baseMonotonicUs ≤ m) :
    (clock.snapshot m).readiness = .ready ↔
      m - clock.baseMonotonicUs ≤ staleAfterSeconds * 1000000 := by
  have hafter : ¬m < clock.baseMonotonicUs := by omega
  unfold snapshot
  rw [h.synchronized]
  simp only [Bool.not_true, Bool.false_eq_true, if_false, if_neg hafter]
  by_cases hold : m - clock.baseMonotonicUs > staleAfterSeconds * 1000000
  · rw [if_pos hold]
    constructor
    · exact nofun
    · intro hyoung
      omega
  · rw [if_neg hold]
    constructor
    · intro _
      omega
    · exact fun _ => rfl

theorem currentUnixSeconds_eq (h : Admitted clock) (hm : TimerValue m)
    (hle : clock.baseMonotonicUs ≤ m) :
    clock.currentUnixSeconds m =
      if m - clock.baseMonotonicUs ≤ staleAfterSeconds * 1000000 then
        some (clock.baseUnixSeconds + wholeSeconds (m - clock.baseMonotonicUs))
      else none := by
  have hrange := h.inRange hm hle
  have helapsed : elapsedUs m clock.baseMonotonicUs = m - clock.baseMonotonicUs :=
    if_neg (by omega)
  have hpos := hrange.elapsed.1
  unfold currentUnixSeconds
  rw [h.synchronized, helapsed]
  simp only [Bool.not_true, Bool.false_eq_true, if_false, if_neg hrange.guard]
  by_cases hyoung : m - clock.baseMonotonicUs ≤ staleAfterSeconds * 1000000
  · rw [if_pos hyoung, if_neg (by omega)]
  · rw [if_neg hyoung, if_pos (by omega)]

/-- A sample is accepted within 300 seconds of the base carried forward. -/
theorem acceptNtpSample_eq (h : Admitted clock) (hm : TimerValue m)
    (hle : clock.baseMonotonicUs ≤ m) (unix : UInt64) :
    clock.acceptNtpSample unix m =
      if ((unix.toNat : Int) - (clock.baseUnixSeconds.toNat + clock.secondsSince m)).natAbs ≤ 300 then
        (true, .markSynchronized unix m .ntp)
      else (false, clock) := by
  have hrange := h.inRange hm hle
  have helapsed : elapsedUs m clock.baseMonotonicUs = m - clock.baseMonotonicUs :=
    if_neg (by omega)
  have hpos : ¬m - clock.baseMonotonicUs < 0 := by
    have hpos := hrange.elapsed.1
    omega
  unfold acceptNtpSample
  rw [h.synchronized, helapsed]
  simp only [Bool.not_true, Bool.false_eq_true, if_false, if_neg hpos, if_neg hrange.guard]
  have hprojected := hrange.projected
  generalize clock.baseUnixSeconds + wholeSeconds (m - clock.baseMonotonicUs) = projected
    at hprojected ⊢
  rw [← hprojected]
  have hdelta : (if unix ≥ projected then unix - projected else projected - unix) >
      maxNtpJumpSeconds ↔ ¬((unix.toNat : Int) - projected.toNat).natAbs ≤ 300 := by
    rw [gt_iff_lt, UInt64.lt_iff_toNat_lt]
    show 300 < _ ↔ _
    split
    · rename_i hge
      have hle := UInt64.le_iff_toNat_le.1 hge
      rw [UInt64.toNat_sub_of_le _ _ hge]
      omega
    · rename_i hlt
      have hle : unix.toNat < projected.toNat := UInt64.lt_iff_toNat_lt.1 (UInt64.not_le.1 hlt)
      rw [UInt64.toNat_sub_of_le _ _ (UInt64.le_iff_toNat_le.2 (Nat.le_of_lt hle))]
      omega
  by_cases hnear : ((unix.toNat : Int) - projected.toNat).natAbs ≤ 300
  · rw [if_pos hnear, if_neg fun h => hdelta.1 h hnear]
  · rw [if_neg hnear, if_pos (hdelta.2 hnear)]

/-! ## The error of the base -/

/-- How far the base is ahead of the anchor carried forward, in microseconds. -/
def clockError (u : UInt64) (m₀ : Int) (clock : TrustedClock) : Int :=
  ((clock.baseUnixSeconds.toNat : Int) - u.toNat) * 1000000 - (clock.baseMonotonicUs - m₀)

/-- The clock after `k` accepted samples. -/
structure Follows (u : UInt64) (m₀ : Int) (k : Nat) (clock : TrustedClock) : Prop
    extends Admitted clock where
  low : -(301000000 * (k : Int)) ≤ clockError u m₀ clock
  high : clockError u m₀ clock ≤ 300000000 * (k : Int)

theorem Follows.anchor (hu : acceptableUnixSeconds u = true) (hm : TimerValue m₀)
    (source : Source) : Follows u m₀ 0 (.markSynchronized u m₀ source) where
  synchronized := rfl
  unix := hu
  timer := hm
  low := by simp [clockError, markSynchronized]
  high := by simp [clockError, markSynchronized]

/-- An accepted sample. -/
theorem Follows.accept (h : Follows u m₀ k clock) (hm : TimerValue m) {unix : UInt64}
    (hunix : acceptableUnixSeconds unix = true)
    (hnear : ((unix.toNat : Int) - (clock.baseUnixSeconds.toNat + clock.secondsSince m)).natAbs ≤
      300) :
    Follows u m₀ (k + 1) (.markSynchronized unix m .ntp) := by
  have hl := h.low
  have hh := h.high
  unfold clockError at hl hh
  unfold secondsSince at hnear
  refine ⟨⟨rfl, hunix, hm⟩, ?_, ?_⟩
  · show _ ≤ ((unix.toNat : Int) - u.toNat) * 1000000 - (m - m₀)
    push_cast
    omega
  · show ((unix.toNat : Int) - u.toNat) * 1000000 - (m - m₀) ≤ _
    push_cast
    omega

/-- A reading against the anchor carried forward. -/
theorem Follows.reading (h : Follows u m₀ k clock) :
    ((clock.baseUnixSeconds.toNat : Int) + clock.secondsSince m -
      (u.toNat + (m - m₀) / 1000000)).natAbs ≤ 301 * k := by
  have hl := h.low
  have hh := h.high
  unfold clockError at hl hh
  unfold secondsSince
  omega

/-! ## Samples -/

/-- The clock after some samples of the network. -/
def afterSamples (clock : TrustedClock) (samples : List (UInt64 × Int)) : TrustedClock :=
  samples.foldl (fun clock sample => (clock.acceptNtpSample sample.1 sample.2).2) clock

/-- The samples that are accepted. -/
def acceptedSamples (clock : TrustedClock) : List (UInt64 × Int) → List (UInt64 × Int)
  | [] => []
  | sample :: samples =>
    match clock.acceptNtpSample sample.1 sample.2 with
    | (true, clock) => sample :: acceptedSamples clock samples
    | (false, clock) => acceptedSamples clock samples

/-- Samples that the callers admit, not before `m₀` and not after `m`, in their order. -/
inductive Samples (m : Int) : Int → List (UInt64 × Int) → Prop where
  | nil {m₀ : Int} : m₀ ≤ m → Samples m m₀ []
  | cons {m₀ : Int} {sample : UInt64 × Int} {samples : List (UInt64 × Int)} :
    m₀ ≤ sample.2 → acceptableUnixSeconds sample.1 = true → TimerValue sample.2 →
      Samples m sample.2 samples → Samples m m₀ (sample :: samples)

/-- The checks of all samples compute what they mean. -/
def ChecksExact (clock : TrustedClock) : List (UInt64 × Int) → Prop
  | [] => True
  | sample :: samples =>
    InRange clock sample.2 ∧
      ((clock.acceptNtpSample sample.1 sample.2).1 = true ↔
        ((sample.1.toNat : Int) -
          (clock.baseUnixSeconds.toNat + clock.secondsSince sample.2)).natAbs ≤ 300) ∧
      ChecksExact (clock.acceptNtpSample sample.1 sample.2).2 samples

/-- **A run of samples.** The accepted ones alone lead to the same clock. -/
theorem Follows.samples {samples : List (UInt64 × Int)} {now : Int} (h : Follows u m₀ k clock)
    (hnow : clock.baseMonotonicUs ≤ now) (hs : Samples m now samples) :
    Follows u m₀ (k + (clock.acceptedSamples samples).length) (clock.afterSamples samples) ∧
      (clock.afterSamples samples).baseMonotonicUs ≤ m ∧
      clock.afterSamples samples = clock.afterSamples (clock.acceptedSamples samples) ∧
      ChecksExact clock samples := by
  induction hs generalizing k clock with
  | nil hle => exact ⟨h, by exact Int.le_trans hnow hle, rfl, trivial⟩
  | @cons now sample samples hle hunix htimer _ ih =>
    have hbase : clock.baseMonotonicUs ≤ sample.2 := Int.le_trans hnow hle
    have heq := acceptNtpSample_eq h.toAdmitted htimer hbase sample.1
    have hrange := h.inRange htimer hbase
    by_cases hnear : ((sample.1.toNat : Int) -
        (clock.baseUnixSeconds.toNat + clock.secondsSince sample.2)).natAbs ≤ 300
    · rw [if_pos hnear] at heq
      obtain ⟨hfollows, hlast, hsame, hexact⟩ :=
        ih (h.accept htimer hunix hnear) (Int.le_refl _)
      have hafter : clock.afterSamples (sample :: samples) =
          afterSamples (.markSynchronized sample.1 sample.2 .ntp) samples := by
        rw [afterSamples, List.foldl_cons, heq]
        rfl
      have haccepted : clock.acceptedSamples (sample :: samples) =
          sample :: acceptedSamples (.markSynchronized sample.1 sample.2 .ntp) samples := by
        rw [acceptedSamples, heq]
      have hcount := hfollows
      rw [Nat.add_assoc, Nat.add_comm 1] at hcount
      refine ⟨?_, ?_, ?_, hrange, ?_, ?_⟩
      · rw [hafter, haccepted]
        exact hcount
      · rw [hafter]
        exact hlast
      · rw [hafter, haccepted, hsame, afterSamples, afterSamples, List.foldl_cons, heq]
      · rw [heq]
        exact ⟨fun _ => hnear, fun _ => rfl⟩
      · rw [heq]
        exact hexact
    · rw [if_neg hnear] at heq
      obtain ⟨hfollows, hlast, hsame, hexact⟩ := ih h hbase
      have hafter : clock.afterSamples (sample :: samples) = clock.afterSamples samples := by
        rw [afterSamples, List.foldl_cons, heq]
        rfl
      have haccepted : clock.acceptedSamples (sample :: samples) =
          clock.acceptedSamples samples := by
        rw [acceptedSamples, heq]
      refine ⟨?_, ?_, ?_, hrange, ?_, ?_⟩
      · rw [hafter, haccepted]
        exact hfollows
      · rw [hafter]
        exact hlast
      · rw [hafter, haccepted, hsame]
      · rw [heq]
        exact ⟨nofun, fun hn => absurd hn hnear⟩
      · rw [heq]
        exact hexact

/-- What holds of a clock that was anchored at `u` and `m₀` and then got `samples`, at the time
`m`. -/
structure DriftBounded (u : UInt64) (m₀ : Int) (source : Source) (samples : List (UInt64 × Int))
    (m : Int) : Prop where
  bound : let clock := afterSamples (.markSynchronized u m₀ source) samples
    (clock.snapshot m).readiness = .ready →
      ∃ seconds, clock.currentUnixSeconds m = some seconds ∧
        ((seconds.toNat : Int) - (u.toNat + (m - m₀) / 1000000)).natAbs ≤
          (acceptedSamples (.markSynchronized u m₀ source) samples).length *
            (maxNtpJumpSeconds.toNat + 1)
  rejected : afterSamples (.markSynchronized u m₀ source) samples =
    afterSamples (.markSynchronized u m₀ source)
      (acceptedSamples (.markSynchronized u m₀ source) samples)
  ready : let clock := afterSamples (.markSynchronized u m₀ source) samples
    (clock.snapshot m).readiness = .ready ↔ (clock.currentUnixSeconds m).isSome
  checks : ChecksExact (.markSynchronized u m₀ source) samples
  reading : InRange (afterSamples (.markSynchronized u m₀ source) samples) m

/-- **The drift is bounded** by 301 seconds for each accepted sample. -/
theorem clock_drift_bounded (u : UInt64) (m₀ : Int) (source : Source)
    (samples : List (UInt64 × Int)) (m : Int) (hu : acceptableUnixSeconds u = true)
    (hm₀ : TimerValue m₀) (hm : TimerValue m) (hs : Samples m m₀ samples) :
    DriftBounded u m₀ source samples m := by
  obtain ⟨hfollows, hle, hsame, hexact⟩ :=
    (Follows.anchor hu hm₀ source).samples (Int.le_refl _) hs
  rw [Nat.zero_add] at hfollows
  have hready := snapshot_ready hfollows.toAdmitted hle
  have hcurrent := currentUnixSeconds_eq hfollows.toAdmitted hm hle
  have hrange := hfollows.inRange hm hle
  refine ⟨?_, hsame, ?_, hexact, hrange⟩
  · intro clock hr
    refine ⟨_, hcurrent.trans (if_pos (hready.1 hr)), ?_⟩
    have hprojected := hrange.projected
    have hreading := hfollows.reading (m := m)
    rw [← hprojected, Nat.mul_comm] at hreading
    exact hreading
  · intro clock
    rw [hready, hcurrent]
    split
    · rename_i hyoung
      exact ⟨fun _ => rfl, fun _ => hyoung⟩
    · rename_i hold
      exact ⟨fun h => absurd h hold, nofun⟩

/-- An anchor and one sample that is accepted 200 seconds ahead. -/
theorem clock_drift_bounded_once :
    DriftBounded 1700000000 0 .usb [(1700000210, 10500000)] 20000000 :=
  clock_drift_bounded 1700000000 0 .usb [(1700000210, 10500000)] 20000000 (by decide)
    ⟨by decide, by decide⟩ ⟨by decide, by decide⟩
    (.cons (by decide) (by decide) ⟨by decide, by decide⟩ (.nil (by decide)))

end TrustedClock

end M5Auth.Time
