import M5Auth.Core.Bytes
import Mathlib.Tactic.Ring

/-!
# Fixed-width integers as bytes

The append and read loops of the source, for both byte orders: `appendLE n` writes the `n` low
bytes of a number, least significant first, and `valueLE` is the number the reader's shifts and
ors assemble from them. `valueLE_appendLE` and `valueBE_appendBE` are the round trips.
-/

namespace M5Auth

def appendLE : Nat → Nat → List UInt8
  | 0, _ => []
  | n + 1, value => UInt8.ofNat value :: appendLE n (value / 256)

def valueLE : List UInt8 → Nat
  | [] => 0
  | byte :: bytes => byte.toNat + 256 * valueLE bytes

def appendBE (n value : Nat) : List UInt8 := (appendLE n value).reverse

def valueBE (bytes : List UInt8) : Nat := valueLE bytes.reverse

/-- A reader's `read_exact`: the next `n` bytes and the input after them. -/
def readExact (n : Nat) (input : List UInt8) : Option (Bytes n × List UInt8) :=
  if h : n ≤ input.length then some (⟨input.take n, by simp [h]⟩, input.drop n) else none

@[simp] theorem length_appendLE : ∀ (n value : Nat), (appendLE n value).length = n
  | 0, _ => rfl
  | n + 1, value => by simp [appendLE, length_appendLE n]

@[simp] theorem length_appendBE (n value : Nat) : (appendBE n value).length = n := by
  simp [appendBE]

theorem valueLE_appendLE : ∀ (n value : Nat), value < 256 ^ n → valueLE (appendLE n value) = value
  | 0, value, h => by
    simp only [Nat.pow_zero, Nat.lt_one_iff] at h
    simp [appendLE, valueLE, h]
  | n + 1, value, h => by
    have hdiv : value / 256 < 256 ^ n := by
      rw [Nat.div_lt_iff_lt_mul (by decide), ← Nat.pow_succ]
      exact h
    simp only [appendLE, valueLE, valueLE_appendLE n _ hdiv, UInt8.toNat_ofNat']
    omega

theorem valueLE_lt : ∀ bytes : List UInt8, valueLE bytes < 256 ^ bytes.length
  | [] => by decide
  | byte :: bytes => by
    have hbyte : byte.toNat < 256 := byte.toNat_lt
    have ih := valueLE_lt bytes
    simp only [valueLE, List.length_cons, Nat.pow_succ]
    omega

theorem valueLE_append : ∀ bytes more : List UInt8,
    valueLE (bytes ++ more) = valueLE bytes + 256 ^ bytes.length * valueLE more
  | [], more => by simp [valueLE]
  | byte :: bytes, more => by
    rw [List.cons_append, valueLE, valueLE, valueLE_append bytes more, List.length_cons,
      Nat.pow_succ]
    ring

/-- The bytes of a number that was read. -/
theorem appendLE_valueLE : ∀ bytes : List UInt8, appendLE bytes.length (valueLE bytes) = bytes
  | [] => rfl
  | byte :: bytes => by
    have hbyte : byte.toNat < 256 := byte.toNat_lt
    have hlow : UInt8.ofNat (byte.toNat + 256 * valueLE bytes) = byte := by
      apply UInt8.toNat_inj.1
      rw [UInt8.toNat_ofNat']
      omega
    have hhigh : (byte.toNat + 256 * valueLE bytes) / 256 = valueLE bytes := by omega
    rw [List.length_cons, appendLE, valueLE, hlow, hhigh, appendLE_valueLE bytes]

theorem valueBE_appendBE (n value : Nat) (h : value < 256 ^ n) :
    valueBE (appendBE n value) = value := by
  simp [valueBE, appendBE, valueLE_appendLE n value h]

/-- Reading back what was appended. -/
theorem readExact_append {n : Nat} (b : Bytes n) (rest : List UInt8) :
    readExact n (b.1 ++ rest) = some (b, rest) := by
  have hlen : n ≤ (b.1 ++ rest).length := by simp [b.2]
  simp only [readExact, hlen, dite_true]
  congr 2
  · exact Subtype.ext (by simp [b.2])
  · simp [b.2]

end M5Auth
