import M5Auth.Time.TimeService

/-!
# The clocks of a time service

A clock that is set shows a time that the service accepts (`Served.accepted`), so a trusted time is
never zero, and the clock is ready whenever it is read (`Served.unixSeconds_some`).
-/

namespace M5Auth.Time

/-- The clocks of a running time service. -/
inductive Served : TrustedClock → Prop where
  | initial : Served {}
  | usb {clock : TrustedClock} (unlocked settable : Bool) (unixSeconds : UInt64)
      (monotonicUs : Int) : Served clock →
      Served (syncFromUsb clock unlocked settable unixSeconds monotonicUs).2
  | network {clock : TrustedClock} (wifi : Vault.WifiRecord) (network : Time.Network) :
      Served clock → Served (connectAndSync clock wifi network).2

/-- A clock that is set was set to a time that is accepted. -/
theorem Served.accepted {clock : TrustedClock} (h : Served clock) :
    clock.synchronized = true → acceptableUnixSeconds clock.baseUnixSeconds = true := by
  induction h with
  | initial => exact fun hset => by cases hset
  | @usb clock unlocked settable unixSeconds monotonicUs _ ih =>
    unfold syncFromUsb
    split
    · exact ih
    · rename_i haccept
      split
      · exact ih
      · split
        · exact ih
        · intro _
          rw [Bool.not_eq_true, Bool.not_eq_false'] at haccept
          exact haccept
  | @network clock wifi network _ ih =>
    unfold connectAndSync
    split
    · exact ih
    · split
      · exact ih
      · split
        · exact ih
        · split
          · exact ih
          · rename_i seconds _
            split
            · exact ih
            · rename_i hseconds
              have haccept : acceptableUnixSeconds (UInt64.ofNat seconds.toNat) = true := by
                simpa using (not_or.1 hseconds).2
              have hsample : clock.acceptNtpSample (UInt64.ofNat seconds.toNat) network.sampledUs =
                  (true, .markSynchronized (UInt64.ofNat seconds.toNat) network.sampledUs .ntp) ∨
                  (clock.acceptNtpSample (UInt64.ofNat seconds.toNat) network.sampledUs) =
                    (false, clock) := by
                unfold TrustedClock.acceptNtpSample
                dsimp only
                repeat' split
                all_goals simp
              rcases hsample with hsample | hsample
              · rw [hsample]
                exact fun _ => haccept
              · rw [hsample]
                exact ih

/-- A trusted time is read while the clock is ready, and it is not zero. -/
theorem Served.unixSeconds_some {clock : TrustedClock} (h : Served clock) {timerUs : Int}
    {unixSeconds : UInt64} (hread : clock.currentUnixSeconds timerUs = some unixSeconds) :
    (clock.snapshot timerUs).readiness = .ready ∧ unixSeconds ≠ 0 := by
  unfold TrustedClock.currentUnixSeconds at hread
  dsimp only at hread
  split at hread
  · cases hread
  · rename_i hset
    split at hread
    · cases hread
    · rename_i hrange
      split at hread
      · cases hread
      · rename_i hguard
        cases hread
        rw [Bool.not_eq_true', Bool.not_eq_false] at hset
        have haccept := h.accepted hset
        unfold acceptableUnixSeconds at haccept
        unfold TrustedClock.elapsedUs at hrange hguard ⊢
        split at hrange
        · omega
        · rename_i hafter
          simp only [if_neg hafter] at hguard ⊢
          constructor
          · unfold TrustedClock.snapshot
            simp only [hset, hafter, Bool.not_true, Bool.false_eq_true, if_false]
            rw [if_neg (by omega)]
          · simp only [minAcceptedUnixSeconds, maxAcceptedUnixSeconds, Bool.and_eq_true,
              decide_eq_true_eq, UInt64.le_iff_toNat_le] at haccept
            have hmin : (1577836800 : UInt64).toNat = 1577836800 := rfl
            have hmax : (4102444800 : UInt64).toNat = 4102444800 := rfl
            simp only [staleAfterSeconds] at hrange
            intro hzero
            have hsum := congrArg UInt64.toNat hzero
            rw [UInt64.toNat_add, TrustedClock.wholeSeconds, UInt64.toNat_ofNat'] at hsum
            have hnone : (0 : UInt64).toNat = 0 := rfl
            omega

end M5Auth.Time
