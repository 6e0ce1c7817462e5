import Mathlib.Tactic.Common

/-!
# Runs of a step function

A system is a step function `step : S → I → S`; a run feeds it the inputs `inp 0`, `inp 1`, … from
a start state (`stateAt`). Three rules carry facts about single steps to whole runs:

* `stateAt_inv`: what the start state has and every step keeps holds all along the run;
* `stateAt_inv_of`: the same where only the steps that satisfy a condition keep it;
* `since`: a fact that only a step of kind `B` can bring about, and that is lost unless the step
  is of kind `Q`, was brought about by a `B` step after which every step was a `Q` step.
-/

namespace Run

variable {S I : Type}

/-- The state after the first `n` inputs. -/
def stateAt (step : S → I → S) (s₀ : S) (inp : Nat → I) : Nat → S
  | 0 => s₀
  | n + 1 => step (stateAt step s₀ inp n) (inp n)

variable {step : S → I → S} {s₀ : S} {inp : Nat → I}

@[simp] theorem stateAt_zero : stateAt step s₀ inp 0 = s₀ := rfl

theorem stateAt_succ (n : Nat) :
    stateAt step s₀ inp (n + 1) = step (stateAt step s₀ inp n) (inp n) := rfl

/-! ## Invariants -/

/-- An inductive invariant holds along every run. -/
theorem stateAt_inv {P : S → Prop} (h0 : P s₀) (hstep : ∀ s i, P s → P (step s i)) (n : Nat) :
    P (stateAt step s₀ inp n) := by
  induction n with
  | zero => exact h0
  | succ n ih => exact hstep _ _ ih

/-- A property kept by the steps that satisfy `C` holds as long as all steps so far did. -/
theorem stateAt_inv_of {P : S → Prop} {C : S → I → Prop} (h0 : P s₀)
    (hstep : ∀ s i, P s → C s i → P (step s i)) {n : Nat}
    (hC : ∀ k, k < n → C (stateAt step s₀ inp k) (inp k)) : P (stateAt step s₀ inp n) := by
  induction n with
  | zero => exact h0
  | succ n ih =>
    exact hstep _ _ (ih fun k hk => hC k (Nat.lt_succ_of_lt hk)) (hC n (Nat.lt_succ_self n))

/-! ## What happened before -/

/-- Step `n` of the run is of kind `R`: `R` relates the state before, the input and the state
after it. -/
def StepAt (step : S → I → S) (s₀ : S) (inp : Nat → I) (R : S → I → S → Prop) (n : Nat) : Prop :=
  R (stateAt step s₀ inp n) (inp n) (stateAt step s₀ inp (n + 1))

/-- The fact `A` holds after `n` steps because of step `m`: a `B` step after which `A` held in
every state and every step was a `Q` step. -/
structure Since (step : S → I → S) (s₀ : S) (inp : Nat → I) (A : S → Prop)
    (B Q : S → I → S → Prop) (m n : Nat) : Prop where
  before : m < n
  begun : StepAt step s₀ inp B m
  held : ∀ k, m < k → k ≤ n → A (stateAt step s₀ inp k)
  kept : ∀ k, m < k → k < n → StepAt step s₀ inp Q k

/-- What every `Q` step relates is related since the `B` step. -/
theorem Since.rel {A : S → Prop} {B Q : S → I → S → Prop} {R : S → S → Prop} {m n : Nat}
    (h : Since step s₀ inp A B Q m n) (hrefl : ∀ s, R s s)
    (htrans : ∀ s s' s'', R s s' → R s' s'' → R s s'') (hQ : ∀ s i s', Q s i s' → R s s') :
    R (stateAt step s₀ inp (m + 1)) (stateAt step s₀ inp n) := by
  have hrel : ∀ k, m < k → k ≤ n → R (stateAt step s₀ inp (m + 1)) (stateAt step s₀ inp k) := by
    intro k
    induction k with
    | zero => intro hk _; omega
    | succ k ih =>
      intro hk hkn
      rcases Nat.lt_or_ge m k with hlt | hge
      · exact htrans _ _ _ (ih hlt (by omega)) (hQ _ _ _ (h.kept k hlt hkn))
      · obtain rfl : k = m := by omega
        exact hrefl _
  exact hrel n h.before (Nat.le_refl n)

/-- **The since rule.** If a step into `A` is a `B` step, or starts in `A` and is a `Q` step, then
whenever `A` holds there was a `B` step with only `Q` steps since. The step lemma may use an
invariant `J` of the run and a condition `C` that the steps so far satisfied. -/
theorem since {A J : S → Prop} {C : S → I → Prop} {B Q : S → I → S → Prop} (h0 : ¬ A s₀)
    (hJ : ∀ n, J (stateAt step s₀ inp n))
    (hstep : ∀ s i, J s → C s i → A (step s i) → B s i (step s i) ∨ (A s ∧ Q s i (step s i)))
    {n : Nat} (hC : ∀ k, k < n → C (stateAt step s₀ inp k) (inp k))
    (hA : A (stateAt step s₀ inp n)) : ∃ m, Since step s₀ inp A B Q m n := by
  induction n with
  | zero => exact absurd hA h0
  | succ n ih =>
    rcases hstep _ _ (hJ n) (hC n (Nat.lt_succ_self n)) hA with hB | ⟨hAn, hQ⟩
    · refine ⟨n, Nat.lt_succ_self n, hB, fun k hk hk' => ?_, fun k hk hk' => ?_⟩
      · obtain rfl : k = n + 1 := by omega
        exact hA
      · omega
    · obtain ⟨m, hm⟩ := ih (fun k hk => hC k (Nat.lt_succ_of_lt hk)) hAn
      refine ⟨m, by have := hm.before; omega, hm.begun, fun k hk hk' => ?_, fun k hk hk' => ?_⟩
      · rcases Nat.lt_or_ge n k with h | h
        · obtain rfl : k = n + 1 := by omega
          exact hA
        · exact hm.held k hk h
      · rcases Nat.lt_or_ge k n with h | h
        · exact hm.kept k hk h
        · obtain rfl : k = n := by omega
          exact hQ

end Run
