import Mathlib.Tactic.Common

/-!
# Lines of a stream

A stream of symbols is a sequence of lines, each ended by a separator, and a tail that no separator
has ended yet. `cut` takes the first line off; `split` takes the whole stream apart. The rules say
what `split` makes of a stream whose first lines are known (`split_ended`), so a reader that holds
back the tail and cuts lines off as the stream grows can be compared with the split of the whole.
-/

namespace Lines

variable {α : Type} (sep : α)

/-- The lines, each with its separator behind it. -/
def ended (lines : List (List α)) : List α := lines.flatMap (· ++ [sep])

@[simp] theorem ended_nil : ended sep [] = [] := rfl

theorem ended_concat (lines : List (List α)) (line : List α) :
    ended sep (lines ++ [line]) = ended sep lines ++ (line ++ [sep]) := by
  simp [ended]

variable [DecidableEq α]

/-- The first line and what follows its separator. -/
def cut : List α → Option (List α × List α)
  | [] => none
  | x :: xs => if x = sep then some ([], xs) else (cut xs).map fun (line, rest) => (x :: line, rest)

/-- The lines that have ended, and the tail. -/
def split : List α → List (List α) × List α
  | [] => ([], [])
  | x :: xs =>
    match split xs with
    | (lines, tail) =>
      if x = sep then ([] :: lines, tail)
      else
        match lines with
        | [] => ([], x :: tail)
        | line :: lines => ((x :: line) :: lines, tail)

variable {sep} {xs line rest tail : List α} {lines : List (List α)}

theorem cut_eq_none : cut sep xs = none ↔ sep ∉ xs := by
  induction xs with
  | nil => simp [cut]
  | cons x xs ih =>
    by_cases hx : x = sep
    · simp [cut, hx]
    · have hne : sep ≠ x := fun h => hx h.symm
      simp [cut, hx, hne, ih]

theorem cut_ended (h : sep ∉ line) (rest : List α) :
    cut sep (line ++ sep :: rest) = some (line, rest) := by
  induction line with
  | nil => simp [cut]
  | cons x line ih =>
    obtain ⟨hx, hline⟩ : ¬sep = x ∧ sep ∉ line := by simpa using h
    have hne : ¬x = sep := fun h => hx h.symm
    simp [cut, hne, ih hline]

theorem cut_eq_some : cut sep xs = some (line, rest) ↔ sep ∉ line ∧ xs = line ++ sep :: rest := by
  constructor
  · intro h
    induction xs generalizing line with
    | nil => cases h
    | cons x xs ih =>
      unfold cut at h
      split at h
      · rename_i hx
        cases h
        exact ⟨List.not_mem_nil, by rw [hx]; rfl⟩
      · rename_i hx
        obtain ⟨⟨line', rest'⟩, hcut, hpair⟩ := Option.map_eq_some_iff.1 h
        cases hpair
        obtain ⟨hmem, heq⟩ := ih hcut
        refine ⟨?_, by rw [heq]; rfl⟩
        rintro (_ | ⟨_, hin⟩)
        · exact hx rfl
        · exact hmem hin
  · rintro ⟨h, rfl⟩
    exact cut_ended h rest

/-! ## The split -/

theorem split_open (h : sep ∉ xs) : split sep xs = ([], xs) := by
  induction xs with
  | nil => rfl
  | cons x xs ih =>
    obtain ⟨hx, hxs⟩ : ¬sep = x ∧ sep ∉ xs := by simpa using h
    have hne : ¬x = sep := fun h => hx h.symm
    simp [split, ih hxs, hne]

theorem split_line (h : sep ∉ line) (rest : List α) :
    split sep (line ++ sep :: rest) = (line :: (split sep rest).1, (split sep rest).2) := by
  induction line with
  | nil => simp [split]
  | cons x line ih =>
    obtain ⟨hx, hline⟩ : ¬sep = x ∧ sep ∉ line := by simpa using h
    have hne : ¬x = sep := fun h => hx h.symm
    simp [split, ih hline, hne]

/-- **Known lines split off.** -/
theorem split_ended (h : ∀ line ∈ lines, sep ∉ line) (rest : List α) :
    split sep (ended sep lines ++ rest) = (lines ++ (split sep rest).1, (split sep rest).2) := by
  induction lines with
  | nil => simp
  | cons line lines ih =>
    have hline := h line List.mem_cons_self
    have ih := ih fun l hl => h l (List.mem_cons_of_mem line hl)
    have hassoc : ended sep (line :: lines) ++ rest = line ++ sep :: (ended sep lines ++ rest) := by
      simp [ended]
    rw [hassoc, split_line hline, ih]
    rfl

/-- The first symbols of a line before the rest of the stream. -/
theorem split_append {front : List α} (h : sep ∉ front) (xs : List α) :
    (split sep (front ++ xs)).2 =
      if sep ∈ xs then (split sep xs).2 else front ++ (split sep xs).2 := by
  split
  · rename_i hmem
    obtain ⟨⟨line, rest⟩, hcut⟩ := Option.ne_none_iff_exists'.1 fun hn => cut_eq_none.1 hn hmem
    obtain ⟨hline, rfl⟩ := cut_eq_some.1 hcut
    have hfront : sep ∉ front ++ line := by
      rw [List.mem_append]
      exact fun hm => hm.elim h hline
    rw [← List.append_assoc, split_line hfront, split_line hline]
  · rename_i hmem
    have hall : sep ∉ front ++ xs := by
      rw [List.mem_append]
      exact fun hm => hm.elim h hmem
    rw [split_open hall, split_open hmem]

/-! ## Encodings -/

section
variable {β : Type} {mark : β} {f : α → List β}

/-- An encoding keeps the separators apart. -/
structure Keeps (sep : α) (mark : β) (f : α → List β) : Prop where
  ends : f sep = [mark]
  other : ∀ x, x ≠ sep → mark ∉ f x

theorem mem_flatMap_iff (h : Keeps sep mark f) : mark ∈ xs.flatMap f ↔ sep ∈ xs := by
  rw [List.mem_flatMap]
  constructor
  · rintro ⟨x, hx, hmem⟩
    by_cases hs : x = sep
    · rwa [← hs]
    · exact absurd hmem (h.other x hs)
  · intro hs
    exact ⟨sep, hs, by rw [h.ends]; exact List.mem_singleton_self mark⟩

variable [DecidableEq β]

theorem cut_flatMap (h : Keeps sep mark f) (xs : List α) :
    Lines.cut mark (xs.flatMap f) =
      (Lines.cut sep xs).map fun (line, rest) => (line.flatMap f, rest.flatMap f) := by
  cases hcut : Lines.cut sep xs with
  | none => exact cut_eq_none.2 fun hm => cut_eq_none.1 hcut ((mem_flatMap_iff h).1 hm)
  | some pair =>
    obtain ⟨hline, rfl⟩ := cut_eq_some.1 hcut
    rw [List.flatMap_append, List.flatMap_cons, h.ends]
    exact cut_ended (fun hm => hline ((mem_flatMap_iff h).1 hm)) _

/-- **The tail of an encoding**, with symbols behind it that hold no separator. -/
theorem tail_flatMap (h : Keeps sep mark f) {behind : List β} (hb : mark ∉ behind) (xs : List α) :
    (split mark (xs.flatMap f ++ behind)).2 = (split sep xs).2.flatMap f ++ behind := by
  induction hn : xs.length using Nat.strongRecOn generalizing xs with
  | ind n ih =>
    cases hcut : Lines.cut sep xs with
    | none =>
      have hopen := cut_eq_none.1 hcut
      have hmark : mark ∉ xs.flatMap f ++ behind := by
        rw [List.mem_append]
        exact fun hm => hm.elim (fun hm => hopen ((mem_flatMap_iff h).1 hm)) hb
      rw [split_open hmark, split_open hopen]
    | some pair =>
      obtain ⟨hline, rfl⟩ := cut_eq_some.1 hcut
      have hmark : mark ∉ pair.1.flatMap f := fun hm => hline ((mem_flatMap_iff h).1 hm)
      have hlen : pair.2.length < n := by
        rw [List.length_append, List.length_cons] at hn
        omega
      have hassoc : (pair.1 ++ sep :: pair.2).flatMap f ++ behind =
          pair.1.flatMap f ++ mark :: (pair.2.flatMap f ++ behind) := by
        rw [List.flatMap_append, List.flatMap_cons, h.ends]
        simp
      rw [hassoc, split_line hmark, split_line hline]
      exact ih _ hlen pair.2 rfl

end

end Lines
