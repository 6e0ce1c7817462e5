import Mathlib.Tactic.Common

/-!
# Programs that may stop before any call

A program (`Prog`) is a tree: it returns, it throws, or it makes a call and goes on with what the
call gives. The calls act on a state by a relation `step`, so that a call may have several outcomes.
A run (`Stops`) ends with a result, with an exception, or by a crash before one of the calls.

`Safe step I p Q s` says of all runs of `p` from `s` that the state satisfies `I` before every call
and `Q` holds of what they end with. It is the weakest precondition, by recursion on the tree;
`Stops.safe` says what it promises. `Ensures step I p P s` is the case where an exception promises
`I` and nothing else, with a rule for each way to build a program.
-/

namespace CrashProgram

variable {Op : Type} {Resp : Op → Type} {ε α β σ : Type}

/-! ## Programs -/

/-- A program over the calls `Op`. A call gives a result of `Resp op` or an exception. -/
inductive Prog (Op : Type) (Resp : Op → Type) (ε α : Type) where
  | pure (a : α)
  | throw (e : ε)
  | call (op : Op) (next : Except ε (Resp op) → Prog Op Resp ε α)

namespace Prog

def bind : Prog Op Resp ε α → (α → Prog Op Resp ε β) → Prog Op Resp ε β
  | pure a, f => f a
  | throw e, _ => throw e
  | call op next, f => call op fun r => (next r).bind f

/-- What `p` does, with `handler` for what it throws. -/
def catchWith : Prog Op Resp ε α → (ε → Prog Op Resp ε α) → Prog Op Resp ε α
  | pure a, _ => pure a
  | throw e, handler => handler e
  | call op next, handler => call op fun r => (next r).catchWith handler

instance : Monad (Prog Op Resp ε) where
  pure := pure
  bind := bind

instance : MonadExceptOf ε (Prog Op Resp ε) where
  throw := throw
  tryCatch := catchWith

/-- A result that is there already. -/
def ofExcept : Except ε α → Prog Op Resp ε α
  | .ok a => pure a
  | .error e => throw e

instance : MonadLift (Except ε) (Prog Op Resp ε) where
  monadLift := ofExcept

/-- A single call. -/
def perform (op : Op) : Prog Op Resp ε (Resp op) := call op ofExcept

/-- `p` for each item, in order. -/
def each (p : β → Prog Op Resp ε Unit) : List β → Prog Op Resp ε Unit
  | [] => pure ()
  | item :: items => (p item).bind fun _ => each p items

/-- What `p` ends with, as a value. -/
def outcome : Prog Op Resp ε α → Prog Op Resp ε (Except ε α)
  | pure a => pure (.ok a)
  | throw e => pure (.error e)
  | call op next => call op fun r => (next r).outcome

end Prog

/-! ## Runs -/

/-- What each call may do to the state, and what it may give. -/
abbrev Step (Op : Type) (Resp : Op → Type) (ε σ : Type) : Type :=
  (op : Op) → σ → Except ε (Resp op) → σ → Prop

/-- A run of a program from a state: what it ends with, if it does not crash, and the last state. -/
inductive Stops (step : Step Op Resp ε σ) :
    Prog Op Resp ε α → σ → Option (Except ε α) → σ → Prop
  | returned {a : α} {s : σ} : Stops step (.pure a) s (some (.ok a)) s
  | threw {e : ε} {s : σ} : Stops step (.throw e) s (some (.error e)) s
  | crashed {op : Op} {next : Except ε (Resp op) → Prog Op Resp ε α} {s : σ} :
      Stops step (.call op next) s none s
  | called {op : Op} {next : Except ε (Resp op) → Prog Op Resp ε α} {s s' s'' : σ}
      {r : Except ε (Resp op)} {o : Option (Except ε α)} (h : step op s r s')
      (hrest : Stops step (next r) s' o s'') : Stops step (.call op next) s o s''

/-- The run where every call does what `answer` says. -/
def Prog.run (answer : (op : Op) → σ → Except ε (Resp op) × σ) :
    Prog Op Resp ε α → σ → Except ε α × σ
  | .pure a, s => (.ok a, s)
  | .throw e, s => (.error e, s)
  | .call op next, s => (next (answer op s).1).run answer (answer op s).2

/-- If the steps allow what `answer` says, its run is one of theirs. -/
theorem Stops.of_run {step : Step Op Resp ε σ} {answer : (op : Op) → σ → Except ε (Resp op) × σ}
    (h : ∀ op s, step op s (answer op s).1 (answer op s).2) (p : Prog Op Resp ε α) (s : σ) :
    Stops step p s (some (p.run answer s).1) (p.run answer s).2 := by
  induction p generalizing s with
  | pure a => exact .returned
  | throw e => exact .threw
  | call op next ih => exact .called (h op s) (ih _ _)

theorem Stops.anywhere (step : Step Op Resp ε σ) (p : Prog Op Resp ε α) (s : σ) :
    ∃ o, Stops step p s o s := by
  cases p with
  | pure a => exact ⟨_, .returned⟩
  | throw e => exact ⟨_, .threw⟩
  | call op next => exact ⟨_, .crashed⟩

/-- The run that crashes after the first call that is `last`. -/
def Prog.runUntil (last : Op → Bool) (answer : (op : Op) → σ → Except ε (Resp op) × σ) :
    Prog Op Resp ε α → σ → σ
  | .pure _, s | .throw _, s => s
  | .call op next, s =>
    if last op then (answer op s).2
    else (next (answer op s).1).runUntil last answer (answer op s).2

theorem Stops.of_runUntil {step : Step Op Resp ε σ} (last : Op → Bool)
    {answer : (op : Op) → σ → Except ε (Resp op) × σ}
    (h : ∀ op s, step op s (answer op s).1 (answer op s).2) (p : Prog Op Resp ε α) (s : σ) :
    ∃ o, Stops step p s o (p.runUntil last answer s) := by
  induction p generalizing s with
  | pure a => exact Stops.anywhere step _ s
  | throw e => exact Stops.anywhere step _ s
  | call op next ih =>
    rw [Prog.runUntil]
    split
    · obtain ⟨o, hrest⟩ := Stops.anywhere step (next (answer op s).1) (answer op s).2
      exact ⟨o, .called (h op s) hrest⟩
    · obtain ⟨o, hrest⟩ := ih (answer op s).1 (answer op s).2
      exact ⟨o, .called (h op s) hrest⟩

/-! ## Runs over two states -/

/-- If each step over one state is a step over the other, with the same answer and from related
states to related ones, then so is each run. -/
theorem Stops.simulate {τ : Type} {step : Step Op Resp ε σ} {step' : Step Op Resp ε τ}
    {R : σ → τ → Prop}
    (hsim : ∀ op s t r s', R s t → step op s r s' → ∃ t', step' op t r t' ∧ R s' t')
    {p : Prog Op Resp ε α} {s s' : σ} {o : Option (Except ε α)} (h : Stops step p s o s')
    {t : τ} (hR : R s t) : ∃ t', Stops step' p t o t' ∧ R s' t' := by
  induction h generalizing t with
  | returned => exact ⟨t, .returned, hR⟩
  | threw => exact ⟨t, .threw, hR⟩
  | crashed => exact ⟨t, .crashed, hR⟩
  | called hstep _ ih =>
    obtain ⟨t₁, hstep', hR₁⟩ := hsim _ _ _ _ _ hR hstep
    obtain ⟨t₂, hrest, hR₂⟩ := ih hR₁
    exact ⟨t₂, .called hstep' hrest, hR₂⟩

/-! ## What all runs keep -/

/-- From `s` the state satisfies `I` before every call of the program, and `Q` holds at its end. -/
def Safe (step : Step Op Resp ε σ) (I : σ → Prop) :
    Prog Op Resp ε α → (Except ε α → σ → Prop) → σ → Prop
  | .pure a, Q, s => Q (.ok a) s
  | .throw e, Q, s => Q (.error e) s
  | .call op next, Q, s => I s ∧ ∀ r s', step op s r s' → Safe step I (next r) Q s'

variable {step : Step Op Resp ε σ} {I : σ → Prop} {s : σ}

/-- **What `Safe` promises.** -/
theorem Stops.safe {p : Prog Op Resp ε α} {Q : Except ε α → σ → Prop} {o : Option (Except ε α)}
    {s' : σ} (h : Stops step p s o s') (hsafe : Safe step I p Q s) :
    (o = none → I s') ∧ ∀ r, o = some r → Q r s' := by
  induction h with
  | returned => exact ⟨nofun, fun r hr => Option.some.inj hr ▸ hsafe⟩
  | threw => exact ⟨nofun, fun r hr => Option.some.inj hr ▸ hsafe⟩
  | crashed => exact ⟨fun _ => hsafe.1, nofun⟩
  | called h _ ih => exact ih (hsafe.2 _ _ h)

theorem Safe.mono {p : Prog Op Resp ε α} {Q Q' : Except ε α → σ → Prop}
    (h : Safe step I p Q s) (hQ : ∀ r s, Q r s → Q' r s) : Safe step I p Q' s := by
  induction p generalizing s with
  | pure a => exact hQ _ _ h
  | throw e => exact hQ _ _ h
  | call op next ih => exact ⟨h.1, fun r s' hstep => ih r (h.2 r s' hstep)⟩

/-- A stronger property that holds before every call. -/
theorem Safe.weaken {I' : σ → Prop} {p : Prog Op Resp ε α} {Q : Except ε α → σ → Prop}
    (h : Safe step I' p Q s) (hI : ∀ s, I' s → I s) : Safe step I p Q s := by
  induction p generalizing s with
  | pure a => exact h
  | throw e => exact h
  | call op next ih => exact ⟨hI s h.1, fun r s' hstep => ih r (h.2 r s' hstep)⟩

/-! ## Rules -/

/-- What is to hold at the end of the first part of a program that goes on with `f`. -/
def Then (step : Step Op Resp ε σ) (I : σ → Prop) (f : α → Prog Op Resp ε β)
    (Q : Except ε β → σ → Prop) : Except ε α → σ → Prop
  | .ok a, s => Safe step I (f a) Q s
  | .error e, s => Q (.error e) s

theorem safe_bind {p : Prog Op Resp ε α} {f : α → Prog Op Resp ε β}
    {Q : Except ε β → σ → Prop} :
    Safe step I (p >>= f) Q s ↔ Safe step I p (Then step I f Q) s := by
  change Safe step I (p.bind f) Q s ↔ _
  induction p generalizing s with
  | pure a => rfl
  | throw e => rfl
  | call op next ih => exact and_congr_right fun _ => forall₃_congr fun r s' _ => ih r

/-- What is to hold at the end of a program whose exceptions `handler` catches. -/
def Handled (step : Step Op Resp ε σ) (I : σ → Prop) (handler : ε → Prog Op Resp ε α)
    (Q : Except ε α → σ → Prop) : Except ε α → σ → Prop
  | .ok a, s => Q (.ok a) s
  | .error e, s => Safe step I (handler e) Q s

theorem safe_catch {p : Prog Op Resp ε α} {handler : ε → Prog Op Resp ε α}
    {Q : Except ε α → σ → Prop} :
    Safe step I (tryCatch p handler) Q s ↔ Safe step I p (Handled step I handler Q) s := by
  change Safe step I (p.catchWith handler) Q s ↔ _
  induction p generalizing s with
  | pure a => rfl
  | throw e => rfl
  | call op next ih => exact and_congr_right fun _ => forall₃_congr fun r s' _ => ih r

theorem safe_ofExcept {x : Except ε α} {Q : Except ε α → σ → Prop} :
    Safe step I (Prog.ofExcept x) Q s ↔ Q x s := by
  cases x <;> rfl

theorem safe_perform {op : Op} {Q : Except ε (Resp op) → σ → Prop} :
    Safe step I (Prog.perform op) Q s ↔ I s ∧ ∀ r s', step op s r s' → Q r s' := by
  refine and_congr_right fun _ => forall₃_congr fun r s' _ => ?_
  cases r <;> rfl

theorem safe_outcome {p : Prog Op Resp ε α} {Q : Except ε (Except ε α) → σ → Prop} :
    Safe step I p.outcome Q s ↔ Safe step I p (fun r s => Q (.ok r) s) s := by
  induction p generalizing s with
  | pure a => rfl
  | throw e => rfl
  | call op next ih => exact and_congr_right fun _ => forall₃_congr fun r s' _ => ih r

/-! ## What a program ensures -/

/-- From `s` the state satisfies `I` wherever the program stops, and `P` holds of what it returns. -/
def Ensures (step : Step Op Resp ε σ) (I : σ → Prop) (p : Prog Op Resp ε α) (P : α → σ → Prop)
    (s : σ) : Prop :=
  Safe step I p (fun r s' => I s' ∧ ∀ a, r = .ok a → P a s') s

/-- **What `Ensures` promises.** -/
theorem Ensures.stops {p : Prog Op Resp ε α} {P : α → σ → Prop} (h : Ensures step I p P s)
    {o : Option (Except ε α)} {s' : σ} (hrun : Stops step p s o s') :
    I s' ∧ ∀ a, o = some (.ok a) → P a s' := by
  obtain ⟨hnone, hsome⟩ := hrun.safe h
  cases o with
  | none => exact ⟨hnone rfl, nofun⟩
  | some r =>
    obtain ⟨hI, hP⟩ := hsome r rfl
    exact ⟨hI, fun a ha => hP a (Option.some.inj ha)⟩

theorem Ensures.mono {p : Prog Op Resp ε α} {P P' : α → σ → Prop} (h : Ensures step I p P s)
    (hP : ∀ a s', I s' → P a s' → P' a s') : Ensures step I p P' s :=
  Safe.mono h fun _ _ hr => ⟨hr.1, fun a ha => hP a _ hr.1 (hr.2 a ha)⟩

theorem ensures_pure {a : α} {P : α → σ → Prop} (hI : I s) (hP : P a s) :
    Ensures step I (pure a) P s :=
  ⟨hI, fun _ ha => Except.ok.inj ha ▸ hP⟩

theorem ensures_throw {e : ε} {P : α → σ → Prop} (hI : I s) :
    Ensures step I (throw e : Prog Op Resp ε α) P s :=
  ⟨hI, nofun⟩

theorem ensures_ofExcept {x : Except ε α} {P : α → σ → Prop} (hI : I s)
    (hP : ∀ a, x = .ok a → P a s) : Ensures step I (Prog.ofExcept x) P s :=
  safe_ofExcept.2 ⟨hI, hP⟩

theorem ensures_perform {op : Op} {P : Resp op → σ → Prop} (hI : I s)
    (h : ∀ r s', step op s r s' → I s' ∧ ∀ a, r = .ok a → P a s') :
    Ensures step I (Prog.perform op) P s :=
  safe_perform.2 ⟨hI, h⟩

/-- **The rule of a sequence.** -/
theorem Ensures.bind {p : Prog Op Resp ε α} {f : α → Prog Op Resp ε β} {P : α → σ → Prop}
    {Q : β → σ → Prop} (h : Ensures step I p P s)
    (hf : ∀ a s', I s' → P a s' → Ensures step I (f a) Q s') : Ensures step I (p >>= f) Q s := by
  refine safe_bind.2 (Safe.mono h fun r s' hr => ?_)
  cases r with
  | ok a => exact hf a s' hr.1 (hr.2 a rfl)
  | error e => exact ⟨hr.1, nofun⟩

/-- **The rule of an exception.** A handler starts where the program threw. -/
theorem Ensures.orElse {p : Prog Op Resp ε α} {handler : ε → Prog Op Resp ε α}
    {P : α → σ → Prop} (h : Ensures step I p P s)
    (hhandler : ∀ e s', I s' → Ensures step I (handler e) P s') :
    Ensures step I (tryCatch p handler) P s := by
  refine safe_catch.2 (Safe.mono h fun r s' hr => ?_)
  cases r with
  | ok a => exact hr
  | error e => exact hhandler e s' hr.1

/-- Where only the outcome matters, a stronger property may hold all the way. -/
theorem Ensures.outcome {I' : σ → Prop} {p : Prog Op Resp ε α} {P : α → σ → Prop}
    (h : Ensures step I' p P s) (hI : ∀ s, I' s → I s) :
    Ensures step I p.outcome (fun r s' => I' s' ∧ ∀ a, r = .ok a → P a s') s := by
  refine safe_outcome.2 ((Safe.weaken h hI).mono fun r s' hr => ⟨hI s' hr.1, fun a ha => ?_⟩)
  cases ha
  exact hr

/-- **The rule of a loop.** The invariant knows which items are left. -/
theorem ensures_each {p : β → Prog Op Resp ε Unit} (inv : List β → σ → Prop)
    (hitem : ∀ item items s, I s → inv (item :: items) s →
      Ensures step I (p item) (fun _ s' => inv items s') s)
    {items : List β} (hI : I s) (h : inv items s) :
    Ensures step I (Prog.each p items) (fun _ s' => inv [] s') s := by
  induction items generalizing s with
  | nil => exact ensures_pure hI h
  | cons item items ih => exact (hitem item items s hI h).bind fun _ _ hI' h' => ih hI' h'

end CrashProgram
