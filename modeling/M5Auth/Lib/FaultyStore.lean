import Mathlib.Tactic.Common

/-!
# Programs over a store whose calls may fail

A store holds a content of type `α`. Every call of a program consults the next outcome of an
oracle: it works, or it fails with a fault of type `φ`. A failing write may still have reached the
store. Programs (`Prog`) stop at the first status of type `χ` they throw.

* `Reads p`: `p` never changes the content; a result that it returns despite possible faults is
  the one it would return without faults (`value`), and without faults it returns that one. The
  rules `Reads.pure` … `Reads.bind` prove it along the structure of a program.
* `Throws S p`: `p` stops with statuses of `S` only.
* `write_cases`, `change_cases`: what a write can do.
* `Keeps I p`: `p` keeps the property `I` of the content, whatever fails.
* `KeepsOracle p`: `p` leaves the oracle, so an `Untorn` or `Steady` store stays one.
* `Triple I p Q E`: from a content with `I`, results satisfy `Q` and failures `E`.
* `Atomic I p Q E`: the same without torn writes.
* `Settles I p Q E`: the same without faults; `Works I p Q`: then `p` returns a result with `Q`.
-/

namespace FaultyStore

/-- The outcome of one call. `written` tells whether a failing write reached the store. -/
inductive Outcome (φ : Type) where
  | ok
  | failed (fault : φ) (written : Bool)

/-- A store and the oracle of its calls. -/
structure World (α φ : Type) where
  content : α
  calls : Nat := 0
  outcome : Nat → Outcome φ := fun _ => .ok

namespace World

variable {α φ : Type}

/-- The store whose calls all work. -/
def reliable (content : α) : World α φ := { content }

/-- All calls from now on work. -/
def Reliable (w : World α φ) : Prop := ∀ n, w.calls ≤ n → w.outcome n = .ok

/-- After one more call. -/
def next (w : World α φ) : World α φ := { w with calls := w.calls + 1 }

/-- A write made now would store its change and still fail. -/
def torn (w : World α φ) : Bool :=
  match w.outcome w.calls with
  | .failed _ written => written
  | .ok =>
    match w.outcome (w.calls + 1) with
    | .failed _ written => written
    | .ok => false

/-- After `n` more calls. -/
def skip (w : World α φ) (n : Nat) : World α φ := { w with calls := w.calls + n }

/-- The next `n` calls all work. -/
def Smooth (w : World α φ) (n : Nat) : Prop := ∀ k, k < n → w.outcome (w.calls + k) = .ok

/-- The store whose calls do nothing any more from the call number `n` on. -/
def cut (w : World α φ) (fault : φ) (n : Nat) : World α φ :=
  { w with outcome := fun k => if k < n then w.outcome k else .failed fault false }

/-- A failing write leaves the content as it was. -/
def Untorn (w : World α φ) : Prop := ∀ n fault, w.outcome n ≠ .failed fault true

/-- All calls ever work. -/
def Steady (w : World α φ) : Prop := ∀ n, w.outcome n = .ok

theorem Steady.reliable {w : World α φ} (h : w.Steady) : w.Reliable := fun n _ => h n

theorem Steady.untorn {w : World α φ} (h : w.Steady) : w.Untorn := fun n _ => by simp [h n]

theorem steady_reliable (content : α) : (reliable content : World α φ).Steady := fun _ => rfl

/-- A store that worked and does nothing any more tears no write. -/
theorem Steady.cut {w : World α φ} (h : w.Steady) (fault : φ) (n : Nat) :
    (w.cut fault n).Untorn := by
  intro k fault' he
  simp only [World.cut] at he
  split at he
  · rw [h k] at he
    cases he
  · cases he

theorem Untorn.torn {w : World α φ} (h : w.Untorn) : w.torn = false := by
  unfold World.torn
  split
  · rename_i fault written he
    cases written
    · rfl
    · exact absurd he (h _ fault)
  · split
    · rename_i fault written he
      cases written
      · rfl
      · exact absurd he (h _ fault)
    · rfl

theorem untorn_reliable {content : α} : (reliable content : World α φ).Untorn :=
  fun _ _ => by simp [reliable]

theorem reliable_reliable (content : α) : (reliable content : World α φ).Reliable :=
  fun _ _ => rfl

theorem Reliable.next {w : World α φ} (h : w.Reliable) : w.next.Reliable :=
  fun n hn => h n (Nat.le_of_succ_le hn)

@[simp] theorem next_content (w : World α φ) : w.next.content = w.content := rfl

@[simp] theorem skip_content (w : World α φ) (n : Nat) : (w.skip n).content = w.content := rfl

theorem smooth_zero (w : World α φ) : w.Smooth 0 := fun _ h => absurd h (Nat.not_lt_zero _)

theorem smooth_succ {w : World α φ} {n : Nat} :
    w.Smooth (n + 1) ↔ w.outcome w.calls = .ok ∧ w.next.Smooth n := by
  constructor
  · intro h
    refine ⟨h 0 (Nat.succ_pos n), fun k hk => ?_⟩
    have := h (k + 1) (by omega)
    rwa [show w.calls + (k + 1) = w.next.calls + k from by simp only [next]; omega] at this
  · rintro ⟨h0, h⟩ k hk
    cases k with
    | zero => exact h0
    | succ k =>
      have := h k (by omega)
      rwa [show w.next.calls + k = w.calls + (k + 1) from by simp only [next]; omega] at this

end World

/-- A program over the store: a result or the status it stopped with. -/
def Prog (α φ χ β : Type) := World α φ → Except χ β × World α φ

namespace Prog

variable {α φ χ β γ : Type}

def throw (status : χ) : Prog α φ χ β := fun w => (.error status, w)

instance : Monad (Prog α φ χ) where
  pure b := fun w => (.ok b, w)
  bind p f := fun w =>
    match p w with
    | (.ok b, w) => f b w
    | (.error status, w) => (.error status, w)

/-- A call that reads `f` of the content. -/
def call (onFault : φ → χ) (f : α → β) : Prog α φ χ β := fun w =>
  match w.outcome w.calls with
  | .ok => (.ok (f w.content), w.next)
  | .failed fault _ => (.error (onFault fault), w.next)

/-- A call that changes the content and is committed by a second call. Each of the two may fail,
having stored the change or not; the second is made only if the first works. -/
def write (onFault : φ → χ) (f : α → α) : Prog α φ χ Unit := fun w =>
  match w.outcome w.calls with
  | .failed fault written =>
    (.error (onFault fault), { w.next with content := if written then f w.content else w.content })
  | .ok =>
    match w.outcome (w.calls + 1) with
    | .failed fault written =>
      (.error (onFault fault),
        { w.next.next with content := if written then f w.content else w.content })
    | .ok => (.ok (), { w.next.next with content := f w.content })

/-- A call that changes the content at once, such as an erase of the medium. -/
def change (onFault : φ → χ) (f : α → α) : Prog α φ χ Unit := fun w =>
  match w.outcome w.calls with
  | .failed fault written =>
    (.error (onFault fault), { w.next with content := if written then f w.content else w.content })
  | .ok => (.ok (), { w.next with content := f w.content })

/-- A call whose result is not looked at. -/
def ignore : Prog α φ χ Unit := fun w => (.ok (), w.next)

/-- The result on a reliable store. -/
def value (p : Prog α φ χ β) (content : α) : Except χ β := (p (World.reliable content)).1

/-! ## Equations -/

theorem pure_apply (b : β) (w : World α φ) : (Pure.pure b : Prog α φ χ β) w = (.ok b, w) := rfl

theorem throw_apply (status : χ) (w : World α φ) :
    (throw status : Prog α φ χ β) w = (.error status, w) := rfl

theorem bind_apply (p : Prog α φ χ β) (f : β → Prog α φ χ γ) (w : World α φ) :
    (p >>= f) w = match p w with
      | (.ok b, w) => f b w
      | (.error status, w) => (.error status, w) := rfl

theorem bind_of_ok {p : Prog α φ χ β} {f : β → Prog α φ χ γ} {w w' : World α φ} {b : β}
    (h : p w = (.ok b, w')) : (p >>= f) w = f b w' := by
  rw [bind_apply, h]

theorem bind_of_error {p : Prog α φ χ β} {f : β → Prog α φ χ γ} {w w' : World α φ} {status : χ}
    (h : p w = (.error status, w')) : (p >>= f) w = (.error status, w') := by
  rw [bind_apply, h]

/-- A result of a sequence comes from results of its parts. -/
theorem bind_eq_ok {p : Prog α φ χ β} {f : β → Prog α φ χ γ} {w w' : World α φ} {c : γ} :
    (p >>= f) w = (.ok c, w') ↔ ∃ b w₁, p w = (.ok b, w₁) ∧ f b w₁ = (.ok c, w') := by
  rw [bind_apply]
  rcases p w with ⟨_ | b, w₁⟩ <;> simp

theorem call_of_reliable {onFault : φ → χ} {f : α → β} {w : World α φ} (h : w.Reliable) :
    call onFault f w = (.ok (f w.content), w.next) := by
  simp [call, h w.calls (Nat.le_refl _)]

/-- A call works and hands on what it read, or it ends the program. -/
theorem call_bind_cases (onFault : φ → χ) (f : α → β) (g : β → Prog α φ χ γ) (w : World α φ) :
    (w.outcome w.calls = .ok ∧ (call onFault f >>= g) w = g (f w.content) w.next) ∨
    (w.outcome w.calls ≠ .ok ∧ ∃ fault,
      (call onFault f >>= g) w = (.error (onFault fault), w.next)) := by
  cases h : w.outcome w.calls with
  | ok => exact .inl ⟨rfl, by simp [bind_apply, call, h]⟩
  | failed fault written => exact .inr ⟨by simp, fault, by simp [bind_apply, call, h]⟩

theorem write_of_reliable {onFault : φ → χ} {f : α → α} {w : World α φ} (h : w.Reliable) :
    write onFault f w = (.ok (), { w.next.next with content := f w.content }) := by
  simp [write, h w.calls (Nat.le_refl _), h (w.calls + 1) (Nat.le_succ _)]

theorem change_of_reliable {onFault : φ → χ} {f : α → α} {w : World α φ} (h : w.Reliable) :
    change onFault f w = (.ok (), { w.next with content := f w.content }) := by
  simp [change, h w.calls (Nat.le_refl _)]

/-! ## Programs that read -/

/-- The program changes nothing, and faults can only make it fail, not return something else. -/
structure Reads (p : Prog α φ χ β) : Prop where
  content : ∀ w, (p w).2.content = w.content
  sound : ∀ w b w', p w = (.ok b, w') → p.value w.content = .ok b
  reliable : ∀ w, w.Reliable → (p w).1 = p.value w.content ∧ (p w).2.Reliable

theorem Reads.pure (b : β) : Reads (Pure.pure b : Prog α φ χ β) :=
  ⟨fun _ => rfl, fun _ _ _ h => (Prod.mk.inj h).1, fun _ h => ⟨rfl, h⟩⟩

theorem Reads.throw (status : χ) : Reads (throw status : Prog α φ χ β) :=
  ⟨fun _ => rfl, fun _ _ _ h => (Prod.mk.inj h).1, fun _ h => ⟨rfl, h⟩⟩

theorem Reads.ignore : Reads (ignore : Prog α φ χ Unit) :=
  ⟨fun _ => rfl, fun _ _ _ h => (Prod.mk.inj h).1, fun _ h => ⟨rfl, h.next⟩⟩

theorem Reads.call (onFault : φ → χ) (f : α → β) : Reads (call onFault f) := by
  refine ⟨fun w => ?_, fun w b w' h => ?_, fun w h => ?_⟩
  · unfold Prog.call
    split <;> rfl
  · unfold Prog.call at h
    split at h
    · exact (Prod.mk.inj h).1
    · simp at h
  · rw [call_of_reliable h]
    exact ⟨rfl, h.next⟩

/-- Without faults a sequence of reads returns what its parts return. -/
theorem value_bind {p : Prog α φ χ β} (hp : Reads p) (f : β → Prog α φ χ γ)
    (hf : ∀ b, Reads (f b)) (content : α) :
    (p >>= f).value content = (p.value content).bind fun b => (f b).value content := by
  have hr := (hp.reliable (World.reliable content) (World.reliable_reliable content)).2
  have hc := hp.content (World.reliable content)
  rcases h : p (World.reliable content) with ⟨status | b, w⟩
  · have hv : p.value content = .error status := congrArg Prod.fst h
    rw [hv, value, bind_of_error h]
    rfl
  · rw [h] at hr hc
    have hv : p.value content = .ok b := congrArg Prod.fst h
    have hc' : w.content = content := hc
    have hf' : (f b w).1 = (f b).value content := by
      rw [((hf b).reliable w hr).1, hc']
    rw [hv, value, bind_of_ok h]
    exact hf'

theorem Reads.bind {p : Prog α φ χ β} {f : β → Prog α φ χ γ} (hp : Reads p)
    (hf : ∀ b, Reads (f b)) : Reads (p >>= f) := by
  refine ⟨fun w => ?_, fun w c w' h => ?_, fun w hw => ?_⟩
  · rw [bind_apply]
    have hc := hp.content w
    rcases h : p w with ⟨status | b, w'⟩
    · rwa [h] at hc
    · rw [h] at hc
      exact ((hf b).content w').trans hc
  · obtain ⟨b, w₁, h₁, h₂⟩ := bind_eq_ok.1 h
    have hc := hp.content w
    rw [h₁] at hc
    have hv := (hf b).sound w₁ c w' h₂
    rw [hc] at hv
    rw [value_bind hp f hf, hp.sound w b w₁ h₁]
    exact hv
  · have hr := hp.reliable w hw
    have hc := hp.content w
    rw [value_bind hp f hf, ← hr.1]
    rcases h : p w with ⟨status | b, w'⟩
    · rw [h] at hr
      rw [bind_of_error h]
      exact ⟨rfl, hr.2⟩
    · rw [h] at hr hc
      have hb := (hf b).reliable w' hr.2
      rw [bind_of_ok h]
      rw [hc] at hb
      exact hb

/-- A program that chooses between two reads. -/
theorem Reads.ite {c : Prop} [Decidable c] {p q : Prog α φ χ β} (hp : Reads p) (hq : Reads q) :
    Reads (if c then p else q) := by
  split
  · exact hp
  · exact hq

@[simp] theorem value_pure (b : β) (content : α) :
    (Pure.pure b : Prog α φ χ β).value content = .ok b := rfl

@[simp] theorem value_throw (status : χ) (content : α) :
    (Prog.throw status : Prog α φ χ β).value content = .error status := rfl

@[simp] theorem value_call (onFault : φ → χ) (f : α → β) (content : α) :
    (Prog.call onFault f).value content = .ok (f content) := rfl

@[simp] theorem value_ignore (content : α) :
    (Prog.ignore : Prog α φ χ Unit).value content = .ok () := rfl

/-- A call before a read hands it what the content holds. -/
theorem value_call_bind {onFault : φ → χ} {f : α → β} {g : β → Prog α φ χ γ} {content : α}
    (hg : Reads (g (f content))) :
    (Prog.call onFault f >>= g).value content = (g (f content)).value content :=
  (hg.reliable (World.reliable content).next (World.reliable_reliable content).next).1

/-! ## The statuses a program stops with -/

/-- Every status the program stops with satisfies `S`. -/
def Throws (S : χ → Prop) (p : Prog α φ χ β) : Prop :=
  ∀ w status w', p w = (.error status, w') → S status

section
variable {S : χ → Prop} {onFault : φ → χ}

theorem Throws.pure (b : β) : Throws S (Pure.pure b : Prog α φ χ β) :=
  fun _ _ _ h => by simp [pure_apply] at h

theorem Throws.throw {status : χ} (h : S status) : Throws S (throw status : Prog α φ χ β) :=
  fun _ _ _ h' => by
    rw [throw_apply, Prod.mk.injEq, Except.error.injEq] at h'
    exact h'.1 ▸ h

theorem Throws.call (h : ∀ fault, S (onFault fault)) (f : α → β) :
    Throws S (call onFault f) := by
  intro w status w' h'
  unfold Prog.call at h'
  split at h'
  · simp at h'
  · rw [Prod.mk.injEq, Except.error.injEq] at h'
    exact h'.1 ▸ h _

theorem Throws.bind {p : Prog α φ χ β} {f : β → Prog α φ χ γ} (hp : Throws S p)
    (hf : ∀ b, Throws S (f b)) : Throws S (p >>= f) := by
  intro w status w' h
  rcases hr : p w with ⟨status' | b, w₁⟩
  · rw [bind_of_error hr, Prod.mk.injEq, Except.error.injEq] at h
    exact h.1 ▸ hp w status' w₁ hr
  · rw [bind_of_ok hr] at h
    exact hf b w₁ status w' h

theorem Throws.ite {c : Prop} [Decidable c] {p q : Prog α φ χ β} (hp : Throws S p)
    (hq : Throws S q) : Throws S (if c then p else q) := by
  split
  · exact hp
  · exact hq

end

/-! ## Writes -/

section
variable {S : χ → Prop} {onFault : φ → χ}

theorem Throws.write (h : ∀ fault, S (onFault fault)) (f : α → α) :
    Throws S (write onFault f) := by
  intro w status w' h'
  unfold Prog.write at h'
  split at h'
  · rw [Prod.mk.injEq, Except.error.injEq] at h'
    exact h'.1 ▸ h _
  · split at h'
    · rw [Prod.mk.injEq, Except.error.injEq] at h'
      exact h'.1 ▸ h _
    · simp at h'

theorem Throws.change (h : ∀ fault, S (onFault fault)) (f : α → α) :
    Throws S (change onFault f) := by
  intro w status w' h'
  unfold Prog.change at h'
  split at h'
  · rw [Prod.mk.injEq, Except.error.injEq] at h'
    exact h'.1 ▸ h _
  · simp at h'

end

/-- A write that works stores the change; one that fails stores it if it is torn, and otherwise
leaves the content. -/
theorem write_cases (onFault : φ → χ) (f : α → α) (w : World α φ) :
    ∃ res w', write onFault f w = (res, w') ∧
      ((res = .ok () ∧ w.torn = false ∧ w'.content = f w.content) ∨
      ∃ fault, res = .error (onFault fault) ∧
        w'.content = if w.torn then f w.content else w.content) := by
  unfold write World.torn
  split
  · rename_i fault written _
    exact ⟨_, _, rfl, .inr ⟨fault, rfl, rfl⟩⟩
  · split
    · rename_i fault written _
      exact ⟨_, _, rfl, .inr ⟨fault, rfl, rfl⟩⟩
    · exact ⟨_, _, rfl, .inl ⟨rfl, rfl, rfl⟩⟩

theorem change_cases (onFault : φ → χ) (f : α → α) (w : World α φ) :
    (∃ w', change onFault f w = (.ok (), w') ∧ w'.content = f w.content) ∨
    ∃ fault w', change onFault f w = (.error (onFault fault), w') ∧
      (w'.content = w.content ∨ w'.content = f w.content) := by
  unfold change
  split
  · rename_i fault written _
    exact .inr ⟨fault, _, rfl, by cases written <;> simp⟩
  · exact .inl ⟨_, rfl, rfl⟩

/-! ## What every run of a program keeps -/

/-- The program keeps the property `I` of the content, whatever fails. -/
def Keeps (I : α → Prop) (p : Prog α φ χ β) : Prop := ∀ w, I w.content → I (p w).2.content

section
variable {I : α → Prop} {onFault : φ → χ}

theorem Reads.keeps {p : Prog α φ χ β} (hp : Reads p) : Keeps I p :=
  fun w h => (hp.content w).symm ▸ h

theorem Keeps.bind {p : Prog α φ χ β} {f : β → Prog α φ χ γ} (hp : Keeps I p)
    (hf : ∀ b, Keeps I (f b)) : Keeps I (p >>= f) := by
  intro w h
  have hw := hp w h
  rcases hr : p w with ⟨status | b, w'⟩
  · rw [bind_of_error hr]
    simpa [hr] using hw
  · rw [bind_of_ok hr]
    exact hf b w' (by simpa [hr] using hw)

/-- What follows a read may rely on what a content with `I` shows. -/
theorem Keeps.bind_reads {p : Prog α φ χ β} {f : β → Prog α φ χ γ} (hp : Reads p)
    (hf : ∀ b, (∃ c, I c ∧ p.value c = .ok b) → Keeps I (f b)) : Keeps I (p >>= f) := by
  intro w h
  rcases hr : p w with ⟨status | b, w'⟩
  · rw [bind_of_error hr]
    simpa [hr] using hp.keeps w h
  · rw [bind_of_ok hr]
    exact hf b ⟨w.content, h, hp.sound w b w' hr⟩ w' (by simpa [hr] using hp.keeps w h)

theorem Keeps.write {f : α → α} (h : ∀ c, I c → I (f c)) : Keeps I (write onFault f) := by
  intro w hw
  obtain ⟨res, w', he, ⟨_, _, hc⟩ | ⟨_, _, hc⟩⟩ := write_cases onFault f w
  · rw [he, hc]
    exact h _ hw
  · rw [he, hc]
    split
    · exact h _ hw
    · exact hw

theorem Keeps.change {f : α → α} (h : ∀ c, I c → I (f c)) : Keeps I (change onFault f) := by
  intro w hw
  rcases change_cases onFault f w with ⟨w', he, hc⟩ | ⟨_, w', he, hc | hc⟩ <;> rw [he, hc]
  · exact h _ hw
  · exact hw
  · exact h _ hw

theorem Keeps.ite {c : Prop} [Decidable c] {p q : Prog α φ χ β} (hp : Keeps I p)
    (hq : Keeps I q) : Keeps I (if c then p else q) := by
  split
  · exact hp
  · exact hq

end

/-! ## The oracle -/

/-- The program only consults the oracle. -/
def KeepsOracle (p : Prog α φ χ β) : Prop := ∀ w, (p w).2.outcome = w.outcome

theorem KeepsOracle.untorn {p : Prog α φ χ β} (hp : KeepsOracle p) {w : World α φ}
    (hw : w.Untorn) : (p w).2.Untorn := by
  unfold World.Untorn
  rw [hp w]
  exact hw

theorem KeepsOracle.steady {p : Prog α φ χ β} (hp : KeepsOracle p) {w : World α φ}
    (hw : w.Steady) : (p w).2.Steady := by
  unfold World.Steady
  rw [hp w]
  exact hw

section
variable {onFault : φ → χ}

theorem KeepsOracle.pure (b : β) : KeepsOracle (Pure.pure b : Prog α φ χ β) := fun _ => rfl

theorem KeepsOracle.throw (status : χ) : KeepsOracle (throw status : Prog α φ χ β) := fun _ => rfl

theorem KeepsOracle.ignore : KeepsOracle (ignore : Prog α φ χ Unit) := fun _ => rfl

theorem KeepsOracle.call (f : α → β) : KeepsOracle (call onFault f) := by
  intro w
  unfold Prog.call
  split <;> rfl

theorem KeepsOracle.write (f : α → α) : KeepsOracle (write onFault f) := by
  intro w
  unfold Prog.write
  split
  · rfl
  · split <;> rfl

theorem KeepsOracle.change (f : α → α) : KeepsOracle (change onFault f) := by
  intro w
  unfold Prog.change
  split <;> rfl

theorem KeepsOracle.bind {p : Prog α φ χ β} {f : β → Prog α φ χ γ} (hp : KeepsOracle p)
    (hf : ∀ b, KeepsOracle (f b)) : KeepsOracle (p >>= f) := by
  intro w
  have hw := hp w
  rcases hr : p w with ⟨status | b, w'⟩ <;> rw [hr] at hw
  · rw [bind_of_error hr]
    exact hw
  · rw [bind_of_ok hr]
    exact (hf b w').trans hw

theorem KeepsOracle.ite {c : Prop} [Decidable c] {p q : Prog α φ χ β} (hp : KeepsOracle p)
    (hq : KeepsOracle q) : KeepsOracle (if c then p else q) := by
  split
  · exact hp
  · exact hq

end

/-! ## Triples -/

/-- From a content with `I`, whatever fails: `Q` holds of a result and the content left with it,
and `E` of a status and the content left with it. -/
def Triple (I : α → Prop) (p : Prog α φ χ β) (Q : β → α → Prop) (E : χ → α → Prop) : Prop :=
  ∀ w, I w.content → ∀ res w', p w = (res, w') →
    match res with
    | .ok b => Q b w'.content
    | .error status => E status w'.content

section
variable {I : α → Prop} {onFault : φ → χ} {Q : β → α → Prop} {E : χ → α → Prop}

theorem Triple.pure {b : β} (h : ∀ c, I c → Q b c) :
    Triple I (Pure.pure b : Prog α φ χ β) Q E := by
  rintro w hw _ _ ⟨⟩
  exact h _ hw

theorem Triple.throw {status : χ} (h : ∀ c, I c → E status c) :
    Triple I (throw status : Prog α φ χ β) Q E := by
  rintro w hw _ _ ⟨⟩
  exact h _ hw

theorem Triple.call {f : α → β} (h : ∀ c, I c → Q (f c) c)
    (hE : ∀ fault c, I c → E (onFault fault) c) : Triple I (call onFault f) Q E := by
  intro w hw res w' he
  unfold Prog.call at he
  split at he <;> obtain ⟨rfl, rfl⟩ := Prod.mk.inj he
  · exact h _ hw
  · exact hE _ _ hw

theorem Triple.write {f : α → α} {Q : Unit → α → Prop} (h : ∀ c, I c → Q () (f c))
    (hE : ∀ fault c, I c → E (onFault fault) c ∧ E (onFault fault) (f c)) :
    Triple I (write onFault f) Q E := by
  intro w hw res w' he
  obtain ⟨res', w'', he', ⟨rfl, _, hc⟩ | ⟨fault, rfl, hc⟩⟩ := write_cases onFault f w <;>
    rw [he'] at he <;> obtain ⟨rfl, rfl⟩ := Prod.mk.inj he <;> simp only [hc]
  · exact h _ hw
  · split
    · exact (hE _ _ hw).2
    · exact (hE _ _ hw).1

theorem Triple.change {f : α → α} {Q : Unit → α → Prop} (h : ∀ c, I c → Q () (f c))
    (hE : ∀ fault c, I c → E (onFault fault) c ∧ E (onFault fault) (f c)) :
    Triple I (change onFault f) Q E := by
  intro w hw res w' he
  rcases change_cases onFault f w with ⟨w'', he', hc⟩ | ⟨fault, w'', he', hc | hc⟩ <;>
    rw [he'] at he <;> obtain ⟨rfl, rfl⟩ := Prod.mk.inj he <;> simp only [hc]
  · exact h _ hw
  · exact (hE _ _ hw).1
  · exact (hE _ _ hw).2

theorem Triple.bind {p : Prog α φ χ β} {f : β → Prog α φ χ γ} {R : γ → α → Prop}
    (hp : Triple I p Q E) (hf : ∀ b, Triple (Q b) (f b) R E) : Triple I (p >>= f) R E := by
  intro w hw res w' he
  rcases hr : p w with ⟨status | b, w₁⟩
  · rw [bind_of_error hr] at he
    obtain ⟨rfl, rfl⟩ := Prod.mk.inj he
    exact hp w hw _ _ hr
  · rw [bind_of_ok hr] at he
    exact hf b w₁ (hp w hw _ _ hr) res w' he

theorem Triple.ite {c : Prop} [Decidable c] {p q : Prog α φ χ β} (hp : c → Triple I p Q E)
    (hq : ¬ c → Triple I q Q E) : Triple I (if c then p else q) Q E := by
  split
  · exact hp ‹_›
  · exact hq ‹_›

/-- A read leaves the content, and returns what the content shows. -/
theorem Triple.reads {p : Prog α φ χ β} (hp : Reads p) :
    Triple I p (fun b c => I c ∧ p.value c = .ok b) fun _ => I := by
  intro w hw res w' he
  have hc : w'.content = w.content := by
    rw [← hp.content w, he]
  rw [hc]
  cases res with
  | ok b => exact ⟨hw, hp.sound w b w' he⟩
  | error status => exact hw

theorem Triple.keeps {p : Prog α φ χ β} (hp : Triple I p (fun _ => I) fun _ => I) :
    Keeps I p := by
  intro w hw
  rcases he : p w with ⟨_ | b, w'⟩
  · exact hp w hw _ _ he
  · exact hp w hw _ _ he

theorem Triple.weaken {p : Prog α φ χ β} {E' : χ → α → Prop} (hp : Triple I p Q E)
    (h : ∀ status c, E status c → E' status c) : Triple I p Q E' := by
  intro w hw res w' he
  have hq := hp w hw res w' he
  cases res with
  | ok b => exact hq
  | error status => exact h status _ hq

theorem Keeps.triple {p : Prog α φ χ β} (hp : Keeps I p) :
    Triple I p (fun _ => I) fun _ => I := by
  intro w hw res w' he
  have hi := hp w hw
  rw [he] at hi
  cases res <;> exact hi

end

/-! ## On a store without torn writes -/

/-- From a content with `I`, on a store where a failing write stores nothing: `Q` holds of a result
and the content left with it, and `E` of a status and the content left with it. -/
def Atomic (I : α → Prop) (p : Prog α φ χ β) (Q : β → α → Prop) (E : χ → α → Prop) : Prop :=
  ∀ w, w.Untorn → I w.content → ∀ res w', p w = (res, w') → w'.Untorn ∧
    match res with
    | .ok b => Q b w'.content
    | .error status => E status w'.content

section
variable {I : α → Prop} {onFault : φ → χ} {Q : β → α → Prop} {E : χ → α → Prop}

theorem Atomic.pure {b : β} (h : ∀ c, I c → Q b c) :
    Atomic I (Pure.pure b : Prog α φ χ β) Q E := by
  rintro w hw hi _ _ ⟨⟩
  exact ⟨hw, h _ hi⟩

theorem Atomic.throw {status : χ} (h : ∀ c, I c → E status c) :
    Atomic I (throw status : Prog α φ χ β) Q E := by
  rintro w hw hi _ _ ⟨⟩
  exact ⟨hw, h _ hi⟩

theorem Atomic.call {f : α → β} (h : ∀ c, I c → Q (f c) c)
    (hE : ∀ fault c, I c → E (onFault fault) c) : Atomic I (call onFault f) Q E := by
  intro w hw hi res w' he
  unfold Prog.call at he
  split at he <;> obtain ⟨rfl, rfl⟩ := Prod.mk.inj he
  · exact ⟨hw, h _ hi⟩
  · exact ⟨hw, hE _ _ hi⟩

theorem Atomic.write {f : α → α} {Q : Unit → α → Prop} (h : ∀ c, I c → Q () (f c))
    (hE : ∀ fault c, I c → E (onFault fault) c) : Atomic I (write onFault f) Q E := by
  intro w hw hi res w' he
  have hkeeps : KeepsOracle (Prog.write onFault f) := .write f
  have hw' := hkeeps.untorn hw
  obtain ⟨res', w'', he', ⟨rfl, _, hc⟩ | ⟨fault, rfl, hc⟩⟩ := write_cases onFault f w <;>
    rw [he'] at he hw' <;> obtain ⟨rfl, rfl⟩ := Prod.mk.inj he
  · exact ⟨hw', by simpa only [hc] using h _ hi⟩
  · rw [hw.torn, if_neg (by simp)] at hc
    exact ⟨hw', by simpa only [hc] using hE _ _ hi⟩

theorem Atomic.change {f : α → α} {Q : Unit → α → Prop} (h : ∀ c, I c → Q () (f c))
    (hE : ∀ fault c, I c → E (onFault fault) c) : Atomic I (change onFault f) Q E := by
  intro w hw hi res w' he
  unfold Prog.change at he
  split at he
  · rename_i fault written hfault
    obtain ⟨rfl, rfl⟩ := Prod.mk.inj he
    cases written
    · exact ⟨hw, hE _ _ hi⟩
    · exact absurd hfault (hw _ _)
  · obtain ⟨rfl, rfl⟩ := Prod.mk.inj he
    exact ⟨hw, h _ hi⟩

theorem Atomic.bind {p : Prog α φ χ β} {f : β → Prog α φ χ γ} {R : γ → α → Prop}
    (hp : Atomic I p Q E) (hf : ∀ b, Atomic (Q b) (f b) R E) : Atomic I (p >>= f) R E := by
  intro w hw hi res w' he
  rcases hr : p w with ⟨status | b, w₁⟩
  · rw [bind_of_error hr] at he
    obtain ⟨rfl, rfl⟩ := Prod.mk.inj he
    exact hp w hw hi _ _ hr
  · rw [bind_of_ok hr] at he
    obtain ⟨hw₁, hq⟩ := hp w hw hi _ _ hr
    exact hf b w₁ hw₁ hq res w' he

theorem Atomic.ite {c : Prop} [Decidable c] {p q : Prog α φ χ β} (hp : c → Atomic I p Q E)
    (hq : ¬ c → Atomic I q Q E) : Atomic I (if c then p else q) Q E := by
  split
  · exact hp ‹_›
  · exact hq ‹_›

end

/-! ## On a reliable store -/

/-- From a content with `I`, on a store whose calls all work: `Q` holds of a result and the content
left with it, and `E` of a status and the content left with it. -/
def Settles (I : α → Prop) (p : Prog α φ χ β) (Q : β → α → Prop) (E : χ → α → Prop) : Prop :=
  ∀ w, w.Reliable → I w.content → ∃ res w', p w = (res, w') ∧ w'.Reliable ∧
    match res with
    | .ok b => Q b w'.content
    | .error status => E status w'.content

/-- The program returns a result. -/
abbrev Works (I : α → Prop) (p : Prog α φ χ β) (Q : β → α → Prop) : Prop :=
  Settles I p Q fun _ _ => False

section
variable {I : α → Prop} {onFault : φ → χ} {Q : β → α → Prop} {E : χ → α → Prop}

theorem Works.run {p : Prog α φ χ β} (h : Works I p Q) {w : World α φ} (hw : w.Reliable)
    (hi : I w.content) : ∃ b w', p w = (.ok b, w') ∧ w'.Reliable ∧ Q b w'.content := by
  obtain ⟨_ | b, w', he, hw', hq⟩ := h w hw hi
  · exact hq.elim
  · exact ⟨b, w', he, hw', hq⟩

theorem Settles.pure {b : β} (h : ∀ c, I c → Q b c) :
    Settles I (Pure.pure b : Prog α φ χ β) Q E :=
  fun w hw hi => ⟨_, w, rfl, hw, h _ hi⟩

theorem Settles.throw {status : χ} (h : ∀ c, I c → E status c) :
    Settles I (throw status : Prog α φ χ β) Q E :=
  fun w hw hi => ⟨_, w, rfl, hw, h _ hi⟩

theorem Settles.call {f : α → β} (h : ∀ c, I c → Q (f c) c) : Settles I (call onFault f) Q E :=
  fun _ hw hi => ⟨_, _, call_of_reliable hw, hw.next, h _ hi⟩

theorem Settles.ignore {Q : Unit → α → Prop} (h : ∀ c, I c → Q () c) :
    Settles I (ignore : Prog α φ χ Unit) Q E :=
  fun _ hw hi => ⟨_, _, rfl, hw.next, h _ hi⟩

theorem Settles.write {f : α → α} {Q : Unit → α → Prop} (h : ∀ c, I c → Q () (f c)) :
    Settles I (write onFault f) Q E :=
  fun _ hw hi => ⟨_, _, write_of_reliable hw, hw.next.next, h _ hi⟩

theorem Settles.change {f : α → α} {Q : Unit → α → Prop} (h : ∀ c, I c → Q () (f c)) :
    Settles I (change onFault f) Q E :=
  fun _ hw hi => ⟨_, _, change_of_reliable hw, hw.next, h _ hi⟩

/-- A read settles on what it returns without faults. -/
theorem Settles.reads {p : Prog α φ χ β} (hp : Reads p)
    (h : ∀ c, I c → match p.value c with
      | .ok b => Q b c
      | .error status => E status c) : Settles I p Q E := by
  intro w hw hi
  have hr := hp.reliable w hw
  have hc := hp.content w
  have hq := h _ hi
  rcases he : p w with ⟨res, w'⟩
  rw [he] at hr hc
  obtain ⟨hv, hrel⟩ := hr
  refine ⟨res, w', rfl, hrel, ?_⟩
  rw [← hv] at hq
  rwa [show w'.content = w.content from hc]

theorem Settles.bind {p : Prog α φ χ β} {f : β → Prog α φ χ γ} {R : γ → α → Prop}
    (hp : Settles I p Q E) (hf : ∀ b, Settles (Q b) (f b) R E) : Settles I (p >>= f) R E := by
  intro w hw hi
  obtain ⟨_ | b, w₁, he, hw₁, hq⟩ := hp w hw hi
  · exact ⟨_, w₁, bind_of_error he, hw₁, hq⟩
  · obtain ⟨res, w₂, he', hw₂, hr⟩ := hf b w₁ hw₁ hq
    exact ⟨res, w₂, (bind_of_ok he).trans he', hw₂, hr⟩

theorem Settles.ite {c : Prop} [Decidable c] {p q : Prog α φ χ β} (hp : c → Settles I p Q E)
    (hq : ¬ c → Settles I q Q E) : Settles I (if c then p else q) Q E := by
  split
  · exact hp ‹_›
  · exact hq ‹_›

end

end Prog

end FaultyStore
