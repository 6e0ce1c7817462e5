import Mathlib.Data.List.TakeDrop
import Mathlib.Tactic.Common
import Mathlib.Tactic.Ring

/-!
# Groups of bits

A number as a string of `w` bits, the most significant first, and a string of bits cut into groups
of `w` bits, the last one filled with zeros. This is how the encodings of bytes by letters are
defined.

* `bits_add`: a number of `v + w` bits is its upper `v` bits and its lower `w` bits.
* `eq_groups`: the groups are the only numbers of `w` bits that spell the string, up to fewer than
  `w` zeros at its end.
-/

namespace BitGroups

/-! ## The bits of a number -/

/-- The low `w` bits of a number, the most significant first. -/
def bits : Nat → Nat → List Bool
  | 0, _ => []
  | w + 1, n => n.testBit w :: bits w n

/-- The number that the bits spell. -/
def ofBits : List Bool → Nat
  | [] => 0
  | bit :: rest => bit.toNat * 2 ^ rest.length + ofBits rest

@[simp] theorem length_bits (w n : Nat) : (bits w n).length = w := by
  induction w with
  | zero => rfl
  | succ w ih => rw [bits, List.length_cons, ih]

/-- Only the bits below the `w`th count. -/
theorem bits_congr {w m n : Nat} (h : ∀ i < w, m.testBit i = n.testBit i) :
    bits w m = bits w n := by
  induction w with
  | zero => rfl
  | succ w ih => rw [bits, bits, h w (Nat.lt_succ_self w), ih fun i hi => h i (by omega)]

/-- **A number is its upper bits and its lower bits.** -/
theorem bits_add (v w n : Nat) : bits (v + w) n = bits v (n / 2 ^ w) ++ bits w n := by
  induction v with
  | zero => rw [Nat.zero_add, bits, List.nil_append]
  | succ v ih =>
    rw [Nat.succ_add, bits, ih, bits, Nat.testBit_div_two_pow, List.cons_append, Nat.add_comm v w]

theorem bits_mod (w n : Nat) : bits w (n % 2 ^ w) = bits w n :=
  bits_congr fun i hi => by simp [Nat.testBit_mod_two_pow, hi]

/-- Bits that are appended to a number. -/
theorem bits_append (v : Nat) {w low : Nat} (high : Nat) (h : low < 2 ^ w) :
    bits (v + w) (high * 2 ^ w + low) = bits v high ++ bits w low := by
  have hdiv : (high * 2 ^ w + low) / 2 ^ w = high := by
    rw [Nat.add_comm, Nat.add_mul_div_right _ _ (Nat.two_pow_pos w), Nat.div_eq_of_lt h,
      Nat.zero_add]
  have hmod : (high * 2 ^ w + low) % 2 ^ w = low := by
    rw [Nat.add_comm, Nat.add_mul_mod_self_right, Nat.mod_eq_of_lt h]
  rw [bits_add, hdiv, ← bits_mod w (high * 2 ^ w + low), hmod]

@[simp] theorem bits_zero (w : Nat) : bits w 0 = List.replicate w false := by
  induction w with
  | zero => rfl
  | succ w ih => rw [bits, ih, Nat.zero_testBit, List.replicate_succ]

/-- Zeros that are appended to a number. -/
theorem bits_shift (v w n : Nat) :
    bits (v + w) (n * 2 ^ w) = bits v n ++ List.replicate w false := by
  have h := bits_append v n (Nat.two_pow_pos w)
  rwa [Nat.add_zero, bits_zero] at h

theorem ofBits_bits (w n : Nat) : ofBits (bits w n) = n % 2 ^ w := by
  induction w with
  | zero => rw [bits, ofBits, Nat.pow_zero, Nat.mod_one]
  | succ w ih =>
    rw [bits, ofBits, ih, length_bits, Nat.toNat_testBit, Nat.pow_succ, Nat.mod_mul]
    ring

theorem ofBits_lt (string : List Bool) : ofBits string < 2 ^ string.length := by
  induction string with
  | nil => exact Nat.one_pos
  | cons bit rest ih =>
    have hbit : bit.toNat ≤ 1 := Bool.toNat_le bit
    have hhigh : bit.toNat * 2 ^ rest.length ≤ 1 * 2 ^ rest.length :=
      Nat.mul_le_mul_right _ hbit
    rw [ofBits, List.length_cons, Nat.pow_succ]
    omega

theorem bits_ofBits {string : List Bool} {w : Nat} (h : string.length = w) :
    bits w (ofBits string) = string := by
  induction string generalizing w with
  | nil =>
    obtain rfl := h
    rfl
  | cons bit rest ih =>
    obtain rfl := h
    have hlt := ofBits_lt rest
    rw [ofBits, List.length_cons, Nat.add_comm _ 1, bits_append 1 _ hlt, ih rfl]
    cases bit <;> rfl

/-- A number of `w` bits is known from them. -/
theorem bits_inj {w m n : Nat} (hm : m < 2 ^ w) (hn : n < 2 ^ w) (h : bits w m = bits w n) :
    m = n := by
  have hsame := congrArg ofBits h
  rwa [ofBits_bits, ofBits_bits, Nat.mod_eq_of_lt hm, Nat.mod_eq_of_lt hn] at hsame

theorem eq_zero_of_bits {w n zeros : Nat} (hn : n < 2 ^ w)
    (h : bits w n = List.replicate zeros false) : n = 0 := by
  have hlength := congrArg List.length h
  rw [length_bits, List.length_replicate] at hlength
  exact bits_inj hn (Nat.two_pow_pos w) (by rw [h, bits_zero, hlength])

/-! ## The bits of several numbers -/

@[simp] theorem length_flatMap_bits (w : Nat) (numbers : List Nat) :
    (numbers.flatMap (bits w)).length = w * numbers.length := by
  induction numbers with
  | nil => simp
  | cons n numbers ih =>
    rw [List.flatMap_cons, List.length_append, length_bits, ih, List.length_cons, Nat.mul_succ,
      Nat.add_comm]

theorem flatMap_bits_inj {w : Nat} {xs ys : List Nat} (hlength : xs.length = ys.length)
    (hx : ∀ x ∈ xs, x < 2 ^ w) (hy : ∀ y ∈ ys, y < 2 ^ w)
    (h : xs.flatMap (bits w) = ys.flatMap (bits w)) : xs = ys := by
  induction xs generalizing ys with
  | nil => exact (List.eq_nil_of_length_eq_zero hlength.symm).symm
  | cons x xs ih =>
    cases ys with
    | nil => cases hlength
    | cons y ys =>
      rw [List.flatMap_cons, List.flatMap_cons] at h
      obtain ⟨hhead, htail⟩ := List.append_inj h (by simp)
      rw [bits_inj (hx x List.mem_cons_self) (hy y List.mem_cons_self) hhead,
        ih (Nat.succ.inj hlength) (fun z hz => hx z (List.mem_cons_of_mem x hz))
          (fun z hz => hy z (List.mem_cons_of_mem y hz)) htail]

/-! ## Groups -/

/-- The groups of `w` bits, the last one filled with zeros. -/
def groups (w : Nat) (string : List Bool) : List Nat :=
  (List.range ((string.length + (w - 1)) / w)).map fun i =>
    ofBits ((string.drop (w * i)).takeD w false)

theorem length_groups (w : Nat) (string : List Bool) :
    (groups w string).length = (string.length + (w - 1)) / w := by
  rw [groups, List.length_map, List.length_range]

theorem groups_lt {w v : Nat} {string : List Bool} (h : v ∈ groups w string) : v < 2 ^ w := by
  obtain ⟨i, -, rfl⟩ := List.mem_map.1 h
  have hlt := ofBits_lt ((string.drop (w * i)).takeD w false)
  rwa [List.takeD_length] at hlt

theorem takeD_add {α : Type} (m n : Nat) (list : List α) (a : α) :
    list.takeD (m + n) a = list.takeD m a ++ (list.drop m).takeD n a := by
  induction m generalizing list with
  | zero => rw [Nat.zero_add, List.takeD_zero, List.drop_zero, List.nil_append]
  | succ m ih =>
    rw [Nat.succ_add, List.takeD_succ, List.takeD_succ, ih, List.cons_append, List.drop_tail]

/-- The first groups spell the beginning of the string. -/
theorem flatMap_range_groups (w count : Nat) (string : List Bool) :
    ((List.range count).map fun i => ofBits ((string.drop (w * i)).takeD w false)).flatMap
      (bits w) = string.takeD (w * count) false := by
  induction count with
  | zero => simp
  | succ count ih =>
    rw [List.range_succ, List.map_append, List.flatMap_append, ih, Nat.mul_succ, takeD_add,
      List.map_singleton, List.flatMap_singleton, bits_ofBits (List.takeD_length ..)]

/-- The number of zeros that fill the last group. -/
def filling (w length : Nat) : Nat := w * ((length + (w - 1)) / w) - length

theorem filling_lt {w : Nat} (length : Nat) (hw : 0 < w) : filling w length < w := by
  have hdiv := Nat.div_add_mod (length + (w - 1)) w
  rw [filling]
  omega

/-- **The groups spell the string**, and the zeros that fill the last group. -/
theorem flatMap_groups {w : Nat} (string : List Bool) (hw : 0 < w) :
    (groups w string).flatMap (bits w) =
      string ++ List.replicate (filling w string.length) false := by
  have hmod : (string.length + (w - 1)) % w < w := Nat.mod_lt _ hw
  have hdiv := Nat.div_add_mod (string.length + (w - 1)) w
  have hle : string.length ≤ w * ((string.length + (w - 1)) / w) := by omega
  have hlength : w * ((string.length + (w - 1)) / w) =
      string.length + filling w string.length := by
    rw [filling]
    omega
  rw [groups, flatMap_range_groups, hlength, takeD_add, List.drop_length, List.takeD_nil,
    List.takeD_eq_take _ (Nat.le_refl _), List.take_length]

/-- **Nothing else spells it** with fewer zeros than a group has. -/
theorem eq_groups {w zeros : Nat} {numbers : List Nat} {string : List Bool} (hzeros : zeros < w)
    (hlt : ∀ v ∈ numbers, v < 2 ^ w)
    (h : numbers.flatMap (bits w) = string ++ List.replicate zeros false) :
    numbers = groups w string := by
  have hw : 0 < w := by omega
  have hnumbers : w * numbers.length = string.length + zeros := by
    have hsame := congrArg List.length h
    rwa [length_flatMap_bits, List.length_append, List.length_replicate] at hsame
  have hcount : (string.length + (w - 1)) / w = numbers.length := by
    rw [Nat.div_eq_iff hw]
    rw [Nat.mul_comm w] at hnumbers
    omega
  have hfilling : filling w string.length = zeros := by
    rw [filling, hcount]
    omega
  refine flatMap_bits_inj (by rw [length_groups, hcount]) hlt (fun v hv => groups_lt hv) ?_
  rw [flatMap_groups _ hw, hfilling, h]

end BitGroups
