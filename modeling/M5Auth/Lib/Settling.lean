import M5Auth.Lib.Run

/-!
# Waiting for quiet

A detector reads samples one at a time until the input has been quiet for long enough: it keeps the
first sample of the current quiet stretch, forgets it at every sample that is not quiet, and is done
at the first sample that `settled` accepts as far enough from it.

`done_iff` says when it is done in terms of the samples alone: exactly from the first sample on that
ends a stretch of quiet (`Stretch`) whose beginning it is far enough from (`Settles`).
`after_restart` says that a sample that is not quiet makes it wait from the start again.
-/

namespace Settling

variable {α : Type}

/-- The detector's state, with the first sample of the current quiet stretch. -/
inductive Detector (α : Type) where
  | waiting (first : Option α)
  | done

/-- The samples from `r` to `n` are quiet, and the one before `r` is not. -/
structure Stretch (quiet : α → Bool) (inp : Nat → α) (r n : Nat) : Prop where
  le : r ≤ n
  all : ∀ k, r ≤ k → k ≤ n → quiet (inp k) = true
  first : r = 0 ∨ ∃ k, r = k + 1 ∧ quiet (inp k) = false

/-- Sample `n` is far enough from the beginning of its quiet stretch. -/
def Settles (quiet : α → Bool) (settled : α → α → Bool) (inp : Nat → α) (n : Nat) : Prop :=
  ∃ r, r < n ∧ Stretch quiet inp r n ∧ settled (inp r) (inp n) = true

section
variable (quiet : α → Bool) (settled : α → α → Bool)

def step : Detector α → α → Detector α
  | .done, _ => .done
  | .waiting first, sample =>
    if quiet sample then
      match first with
      | none => .waiting (some sample)
      | some first => if settled first sample then .done else .waiting (some first)
    else .waiting none

/-- The state after the first `n` samples. -/
def after (inp : Nat → α) (n : Nat) : Detector α :=
  Run.stateAt (step quiet settled) (.waiting none) inp n

end

variable {quiet : α → Bool} {settled : α → α → Bool} {inp : Nat → α}

/-! ## Stretches -/

namespace Stretch

variable {r r' n : Nat}

/-- A quiet sample right after a sample that is not. -/
theorem begin_at (hq : quiet (inp n) = true)
    (hfirst : n = 0 ∨ ∃ k, n = k + 1 ∧ quiet (inp k) = false) : Stretch quiet inp n n where
  le := Nat.le_refl n
  all := by
    intro k hk hk'
    obtain rfl : k = n := by omega
    exact hq
  first := hfirst

/-- A stretch goes on with a quiet sample. -/
theorem succ (h : Stretch quiet inp r n) (hq : quiet (inp (n + 1)) = true) :
    Stretch quiet inp r (n + 1) where
  le := Nat.le_succ_of_le h.le
  all := by
    intro k hk hk'
    rcases Nat.lt_or_ge n k with hlt | hge
    · obtain rfl : k = n + 1 := by omega
      exact hq
    · exact h.all k hk hge
  first := h.first

/-- A sample that is not quiet is before the stretch. -/
theorem lt_of_not_quiet (h : Stretch quiet inp r n) {k : Nat} (hk : k ≤ n)
    (hq : quiet (inp k) = false) : k < r := by
  rcases Nat.lt_or_ge k r with hlt | hge
  · exact hlt
  · rw [h.all k hge hk] at hq
    cases hq

theorem unique (h : Stretch quiet inp r n) (h' : Stretch quiet inp r' n) : r = r' := by
  have hle : ∀ {a b : Nat}, Stretch quiet inp a n → Stretch quiet inp b n → a ≤ b := by
    intro a b ha hb
    rcases ha.first with rfl | ⟨k, rfl, hk⟩
    · exact Nat.zero_le b
    · exact hb.lt_of_not_quiet (Nat.le_of_succ_le ha.le) hk
  exact Nat.le_antisymm (hle h h') (hle h' h)

end Stretch

/-- A sample that settles the detector is quiet. -/
theorem Settles.isQuiet {n : Nat} (h : Settles quiet settled inp n) : quiet (inp n) = true := by
  obtain ⟨r, -, hstretch, -⟩ := h
  exact hstretch.all n hstretch.le (Nat.le_refl n)

/-! ## The run -/

/-- What the detector knows of the samples so far. -/
def Tracks (quiet : α → Bool) (settled : α → α → Bool) (inp : Nat → α) :
    Nat → Detector α → Prop
  | n, .done => ∃ k, k < n ∧ Settles quiet settled inp k
  | n, .waiting first =>
    (∀ k, k < n → ¬Settles quiet settled inp k) ∧
      match first with
      | none => n = 0 ∨ ∃ k, n = k + 1 ∧ quiet (inp k) = false
      | some first => ∃ k r, n = k + 1 ∧ Stretch quiet inp r k ∧ first = inp r

theorem Tracks.step {n : Nat} {d : Detector α} (h : Tracks quiet settled inp n d) :
    Tracks quiet settled inp (n + 1) (Settling.step quiet settled d (inp n)) := by
  match d with
  | .done =>
    obtain ⟨k, hk, hsettles⟩ := h
    exact ⟨k, by omega, hsettles⟩
  | .waiting first =>
    obtain ⟨hnone, hfirst⟩ := h
    -- Whether sample `n` settles decides between the two states.
    have hnot : ¬Settles quiet settled inp n → ∀ k, k < n + 1 → ¬Settles quiet settled inp k := by
      intro hn k hk
      rcases Nat.lt_or_ge k n with hlt | hge
      · exact hnone k hlt
      · obtain rfl : k = n := by omega
        exact hn
    by_cases hq : quiet (inp n) = true
    · match first with
      | none =>
        have hbegin : Stretch quiet inp n n := .begin_at hq hfirst
        simp only [Settling.step, hq, if_true]
        refine ⟨hnot ?_, n, n, rfl, hbegin, rfl⟩
        rintro ⟨r, hr, hstretch, -⟩
        exact absurd (hbegin.unique hstretch) (by omega)
      | some first =>
        obtain ⟨k, r, rfl, hstretch, rfl⟩ := hfirst
        have hlt : r < k + 1 := by
          have hle := hstretch.le
          omega
        have hon := hstretch.succ hq
        simp only [Settling.step, hq, if_true]
        split
        · rename_i hsettled
          exact ⟨k + 1, by omega, r, hlt, hon, hsettled⟩
        · rename_i hsettled
          refine ⟨hnot ?_, k + 1, r, rfl, hon, rfl⟩
          rintro ⟨r', -, hstretch', hsettled'⟩
          rw [← hon.unique hstretch'] at hsettled'
          exact hsettled hsettled'
    · simp only [Settling.step, hq, Bool.false_eq_true, if_false]
      refine ⟨hnot fun hsettles => hq hsettles.isQuiet, .inr ⟨n, rfl, ?_⟩⟩
      simpa using hq

theorem tracks_after (n : Nat) : Tracks quiet settled inp n (after quiet settled inp n) := by
  induction n with
  | zero => exact ⟨fun k hk => absurd hk (Nat.not_lt_zero k), .inl rfl⟩
  | succ n ih => exact ih.step

/-- **The detector is done exactly when a sample has settled it.** -/
theorem done_iff {n : Nat} :
    after quiet settled inp n = .done ↔ ∃ k, k < n ∧ Settles quiet settled inp k := by
  have h : Tracks quiet settled inp n (after quiet settled inp n) := tracks_after n
  cases hd : after quiet settled inp n with
  | done =>
    rw [hd] at h
    exact iff_of_true rfl h
  | waiting first =>
    rw [hd] at h
    refine iff_of_false (by simp) ?_
    rintro ⟨k, hk, hsettles⟩
    exact h.1 k hk hsettles

/-- **A sample that is not quiet starts the wait again**: what follows is the run on the samples
after it. -/
theorem after_restart {n : Nat} (hwait : after quiet settled inp n ≠ .done)
    (hq : quiet (inp n) = false) (m : Nat) :
    after quiet settled inp (n + 1 + m) = after quiet settled (fun k => inp (n + 1 + k)) m := by
  induction m with
  | zero =>
    cases hd : after quiet settled inp n with
    | done => exact absurd hd hwait
    | waiting first =>
      show step quiet settled (after quiet settled inp n) (inp n) = .waiting none
      rw [hd]
      simp [step, hq]
  | succ m ih =>
    show step quiet settled (after quiet settled inp (n + 1 + m)) (inp (n + 1 + m)) = _
    rw [ih]
    rfl

end Settling
