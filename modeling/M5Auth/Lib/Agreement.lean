import Mathlib.Tactic.Common

/-!
# Two computations in lockstep

`Agree R x y`: the option `x` has a value exactly if the computation `y` returns one, and then the
two values are related by `R`. The rules follow the structure of a program, so that two parsers of
one format are compared field by field.
-/

namespace Agreement

variable {α β γ δ ε : Type}

/-- Both fail, or both succeed with related values. -/
inductive Agree (R : α → β → Prop) : Option α → Except ε β → Prop where
  | failed (e : ε) : Agree R none (.error e)
  | values {a : α} {b : β} : R a b → Agree R (some a) (.ok b)

variable {R : α → β → Prop} {S : γ → δ → Prop} {x : Option α} {y : Except ε β}

/-- A value and what is left of the input. -/
def Left (R : α → β → Prop) {ι : Type} (a : α × ι) (b : β × ι) : Prop := R a.1 b.1 ∧ a.2 = b.2

theorem Agree.bind {f : α → Option γ} {g : β → Except ε δ} (h : Agree R x y)
    (hnext : ∀ a b, R a b → Agree S (f a) (g b)) : Agree S (x >>= f) (y >>= g) := by
  cases h with
  | failed e => exact .failed e
  | values hr => exact hnext _ _ hr

theorem Agree.isSome_iff (h : Agree R x y) : x.isSome = true ↔ ∃ b, y = .ok b := by
  cases h with
  | failed e => simp
  | values _ => simp

/-- A check that both make. -/
theorem Agree.guard {p : Prop} [Decidable p] {c : Bool} {e : ε} {next : Option γ}
    {next' : Except ε δ} (hc : c = true ↔ ¬p) (hnext : ¬p → Agree S next next') :
    Agree S (if p then none else next)
      (((if c = true then .ok () else .error e) : Except ε Unit) >>= fun _ => next') := by
  by_cases hp : p
  · rw [if_pos hp, if_neg fun h => hc.1 h hp]
    exact .failed e
  · rw [if_neg hp, if_pos (hc.2 hp)]
    exact hnext hp

end Agreement
