import M5Auth.VaultRuntime.Proof.CallEffects
import M5Auth.VaultRuntime.Proof.SessionSteps

/-!
# Where the unlock session comes from

The session is open in `kUnlocked` and between a re-key boundary and its end. A call `Continues` it,
or an unlock `Starts` it: `Reaches.session`. Only the unlock sets the time from which the automatic
lock counts (`Starts.since`, `Stays.since`), and the policy it counts against is always the one of
the Vault in use (`Current`).
-/

namespace M5Auth.VaultRuntime.Runtime

open Vault

variable {σ : Type} {P : Persistence σ} {gcm : GcmOpen} {C : Call → Prop} {rt rt' : Runtime σ}

/-! ## Continuing and starting -/

/-- The call is an unlock that succeeds. -/
def Unlocks (gcm : GcmOpen) (rt : Runtime σ) (call : Call) (t : UInt64) : Prop :=
  ∃ vmk, call = .unlock vmk t ∧ (rt.unlock gcm vmk t).1 = .ok

/-- One call inside the session. -/
structure Continues (P : Persistence σ) (gcm : GcmOpen) (C : Call → Prop)
    (rt rt' : Runtime σ) : Prop where
  call : ∃ call, C call ∧ rt' = rt.step P gcm call ∧ ∀ t, ¬ Unlocks gcm rt call t
  before : rt.unlockSessionActive = true
  after : rt'.unlockSessionActive = true

/-- Calls inside the session. -/
def Stays (P : Persistence σ) (gcm : GcmOpen) (C : Call → Prop) :
    Runtime σ → Runtime σ → Prop :=
  Relation.ReflTransGen (Continues P gcm C)

/-- Calls among which is an unlock at `t`, and from there on calls inside its session. -/
def Starts (P : Persistence σ) (gcm : GcmOpen) (C : Call → Prop) (t : UInt64)
    (rt rt' : Runtime σ) : Prop :=
  ∃ before call, Reaches P gcm C rt before ∧ C call ∧ Unlocks gcm before call t ∧
    Stays P gcm C (before.step P gcm call) rt'

theorem unlocks_since {call : Call} {t : UInt64} (h : Unlocks gcm rt call t) :
    (rt.step P gcm call).unlockedSinceMs = t := by
  obtain ⟨vmk, rfl, hok⟩ := h
  rcases unlock_cases gcm rt vmk t with ⟨st, hne, he⟩ | ⟨_, _, _, policy, _, he⟩
  · rw [he] at hok
    exact absurd hok hne
  · show (rt.unlock gcm vmk t).2.unlockedSinceMs = t
    rw [he]

/-- A call is an unlock, or it leaves no session open that was not, and moves no unlock time. -/
theorem unlocks_or (rt : Runtime σ) (call : Call) :
    (∃ t, Unlocks gcm rt call t) ∨ (∀ t, ¬ Unlocks gcm rt call t) ∧
      ((rt.step P gcm call).unlockSessionActive = true → rt.unlockSessionActive = true ∧
        (rt.step P gcm call).unlockedSinceMs = rt.unlockedSinceMs) := by
  by_cases hun : ∃ t, Unlocks gcm rt call t
  · exact .inl hun
  refine .inr ⟨fun t h => hun ⟨t, h⟩, fun hact => ?_⟩
  have hs := session_step P gcm rt call
  generalize he : rt.step P gcm call = rt' at hs hact ⊢
  cases hs with
  | kept => exact ⟨hact, rfl⟩
  | closed _ hclosed =>
    rw [hclosed.unlockSessionActive] at hact
    cases hact
  | opened vmk nowMs policy hlocked =>
    exfalso
    rcases unlock_cases gcm rt vmk nowMs with ⟨st, _, hre⟩ | ⟨_, _, _, _, _, hre⟩
    · have hst : (rt.unlock gcm vmk nowMs).2.state = .unlocked :=
        (congrArg Runtime.state he).trans rfl
      rw [hre, hlocked] at hst
      cases hst
    · exact hun ⟨nowMs, vmk, rfl, by rw [hre]⟩
  | suspended => exact ⟨hact, rfl⟩
  | updated => exact ⟨hact, rfl⟩
  | rekeyed => exact ⟨hact, rfl⟩

theorem Continues.since (h : Continues P gcm C rt rt') :
    rt'.unlockedSinceMs = rt.unlockedSinceMs := by
  obtain ⟨call, _, rfl, hno⟩ := h.call
  rcases unlocks_or (P := P) rt call with ⟨t, hun⟩ | ⟨_, hkeep⟩
  · exact absurd hun (hno t)
  · exact (hkeep h.after).2

theorem Stays.since (h : Stays P gcm C rt rt') : rt'.unlockedSinceMs = rt.unlockedSinceMs := by
  induction h with
  | refl => rfl
  | tail _ hs ih => exact hs.since.trans ih

theorem Starts.since {t : UInt64} (h : Starts P gcm C t rt rt') : rt'.unlockedSinceMs = t := by
  obtain ⟨before, call, _, _, hun, hstays⟩ := h
  exact hstays.since.trans (unlocks_since hun)

theorem Stays.mono {C' : Call → Prop} (h : Stays P gcm C rt rt') (hC : ∀ call, C call → C' call) :
    Stays P gcm C' rt rt' := by
  induction h with
  | refl => exact .refl
  | tail _ hs ih =>
    obtain ⟨call, hcall, he, hno⟩ := hs.call
    exact ih.tail ⟨⟨call, hC call hcall, he, hno⟩, hs.before, hs.after⟩

/-- A start puts a key in force. -/
theorem Starts.unlocks_lt {t : UInt64} (h : Starts P gcm C t rt rt') :
    rt.unlocks.length < rt'.unlocks.length := by
  have hone (rt : Runtime σ) (call : Call) :
      rt.unlocks.length ≤ (rt.step P gcm call).unlocks.length := by
    rcases step_unlocks P gcm rt call with hu | ⟨vmk, _, he⟩
    · exact Nat.le_of_eq (by rw [hu.unlocks])
    · rw [he]
      exact Nat.le_succ _
  obtain ⟨before, call, hreach, _, ⟨vmk, rfl, hok⟩, hstays⟩ := h
  have hbefore : rt.unlocks.length ≤ before.unlocks.length :=
    hreach.rel (R := fun rt rt' => rt.unlocks.length ≤ rt'.unlocks.length)
      (fun _ => Nat.le_refl _) (fun _ _ _ => Nat.le_trans) fun rt call _ => hone rt call
  have hunlock : (before.step P gcm (.unlock vmk t)).unlocks.length =
      before.unlocks.length + 1 := by
    rcases unlock_cases gcm before vmk t with ⟨st, hne, he⟩ | ⟨_, _, _, policy, _, he⟩
    · rw [he] at hok
      exact absurd hok hne
    · show (before.unlock gcm vmk t).2.unlocks.length = _
      rw [he]
      rfl
  have hafter : (before.step P gcm (.unlock vmk t)).unlocks.length ≤ rt'.unlocks.length := by
    induction hstays with
    | refl => exact Nat.le_refl _
    | tail _ hs ih =>
      obtain ⟨call, _, rfl, _⟩ := hs.call
      exact Nat.le_trans ih (hone _ call)
  omega

/-- **A session found open** was open before and stayed so, or was started on the way. -/
theorem Reaches.session (h : Reaches P gcm C rt rt') (hact : rt'.unlockSessionActive = true) :
    (rt.unlockSessionActive = true ∧ Stays P gcm C rt rt') ∨ ∃ t, Starts P gcm C t rt rt' := by
  induction h with
  | refl => exact .inl ⟨hact, .refl⟩
  | tail hreach hs ih =>
    rename_i mid last
    obtain ⟨call, hC, rfl⟩ := hs
    rcases unlocks_or (P := P) mid call with ⟨t, hun⟩ | ⟨hno, hkeep⟩
    · exact .inr ⟨t, mid, call, hreach, hC, hun, .refl⟩
    · have hmid := (hkeep hact).1
      have hcont : Continues P gcm C mid (mid.step P gcm call) :=
        ⟨⟨call, hC, rfl, hno⟩, hmid, hact⟩
      rcases ih hmid with ⟨hrt, hstays⟩ | ⟨t, before, call', hbefore, hC', hun, hstays⟩
      · exact .inl ⟨hrt, hstays.tail hcont⟩
      · exact .inr ⟨t, before, call', hbefore, hC', hun, hstays.tail hcont⟩

/-! ## The policy in force -/

/-- In `kUnlocked` the automatic-lock policy is the one that the Vault holds. -/
def Current (gcm : GcmOpen) (rt : Runtime σ) : Prop :=
  rt.state = .unlocked → validateEnvelopeWithKey gcm rt.envelope rt.vmk = .ok rt.autoLockDays

theorem Current.step (h : Current gcm rt) (call : Call) : Current gcm (rt.step P gcm call) := by
  have hs := session_step P gcm rt call
  generalize rt.step P gcm call = rt' at hs ⊢
  cases hs with
  | kept => exact h
  | closed _ hclosed => exact fun hst => absurd hst hclosed.state
  | opened vmk nowMs policy _ _ hval => exact fun _ => hval
  | suspended => exact nofun
  | updated expected envelope nowMs world lastUsed policy _ hval => exact fun _ => hval
  | rekeyed expected envelope vmk world lastUsed policy _ _ hval => exact fun _ => hval

/-! ## The deadline -/

theorem not_due_of_state {nowMs : UInt64} (h : rt.state ≠ .unlocked) :
    rt.automaticLockDue nowMs = false := by
  simp [automaticLockDue, unlocked, h]

theorem not_due_of_disabled {nowMs : UInt64} (h : rt.autoLockDays = none) :
    rt.automaticLockDue nowMs = false := by
  simp [automaticLockDue, h]

theorem not_due_lock (rt : Runtime σ) (nowMs : UInt64) (hi : rt.initialized = true) :
    rt.lock.2.automaticLockDue nowMs = false := by
  refine not_due_of_state ?_
  rcases lock_cases rt with ⟨hno, _⟩ | ⟨_, hst, he⟩ | ⟨_, _, he⟩
  · rw [hi] at hno
    cases hno
  · rw [he]
    simp [hst]
  · rw [he]
    exact (closed_relock rt rt.hasVault).state

theorem initialized_of_due {nowMs : UInt64} (h : rt.automaticLockDue nowMs = true) :
    rt.initialized = true := by
  by_contra hi
  rw [Bool.not_eq_true] at hi
  simp [automaticLockDue, unlocked, hi] at h

/-- A lock that is not due is a deadline that lies ahead. -/
theorem within_of_not_due {nowMs : UInt64} {days : UInt8}
    (h : rt.automaticLockDue nowMs = false) (hinv : Inv rt) (hst : rt.state = .unlocked)
    (hact : rt.unlockSessionActive = true) (hdays : rt.autoLockDays = some days)
    (hle : rt.unlockedSinceMs ≤ nowMs) :
    nowMs.toNat < rt.unlockedSinceMs.toNat + days.toNat * millisecondsPerDay := by
  have hi : rt.initialized = true := by
    by_contra hi
    rw [hinv.fresh (by simpa using hi)] at hst
    cases hst
  have hun : rt.unlocked = true := by
    simp [unlocked, hi, hst, hinv.resident.2 hst]
  have hge : ¬ nowMs < rt.unlockedSinceMs := by simpa using hle
  simp only [automaticLockDue, hun, hact, hdays, hge, Bool.not_true, Bool.or_self, if_false,
    Bool.false_eq_true, decide_eq_false_iff_not, UInt64.toNat_sub_of_le _ _ hle] at h
  have hnat : rt.unlockedSinceMs.toNat ≤ nowMs.toNat := UInt64.le_iff_toNat_le.1 hle
  omega

end M5Auth.VaultRuntime.Runtime
