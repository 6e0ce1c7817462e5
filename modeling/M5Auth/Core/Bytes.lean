import Mathlib.Data.List.Basic

/-!
# Fixed-size byte arrays

`Bytes n` is the source's `std::array<std::uint8_t, n>`: a byte list that carries its length. The
three comparisons the firmware makes on such arrays are here: against zero (`allZero`), by value
(`=`), and without an early exit (`sameBytes`), which `sameBytes_iff` shows to be the same as `=`.
A C string is the list of its bytes (`Text`); `ascii` spells the literals of the source.
-/

namespace M5Auth

/-- A byte array of `n` bytes. -/
abbrev Bytes (n : Nat) := { bytes : List UInt8 // bytes.length = n }

/-- The bytes of a C string or a `std::string`. -/
abbrev Text := List UInt8

/-- The bytes of an ASCII literal of the source. -/
def ascii (s : String) : Text := s.toList.map fun c => UInt8.ofNat c.toNat

namespace Bytes

variable {n : Nat}

/-- `fill(0)`, and the value of a `{}`-initialised array. -/
def zero (n : Nat) : Bytes n := ⟨List.replicate n 0, List.length_replicate⟩

instance : Inhabited (Bytes n) := ⟨zero n⟩

/-- `all_zero` of the source. -/
def allZero (b : Bytes n) : Bool := b.1.all (· == 0)

/-- A `Bytes n` from bytes read from the wire or from flash, if the length is right. -/
def ofList? (n : Nat) (bytes : List UInt8) : Option (Bytes n) :=
  if h : bytes.length = n then some ⟨bytes, h⟩ else none

/-- The constant-time comparison (`same_bytes`, `same_attempt`, `constant_time_equal`): the
differences of all byte pairs are or-ed together. -/
def sameBytes (left right : Bytes n) : Bool :=
  (List.zipWith (· ^^^ ·) left.1 right.1).foldl (· ||| ·) 0 == 0

@[simp] theorem allZero_zero : (zero n).allZero = true := by
  simp [allZero, zero]

theorem ofList?_eq_some {bytes : List UInt8} {b : Bytes n} :
    ofList? n bytes = some b ↔ bytes = b.1 := by
  unfold ofList?
  split
  · rename_i h
    simp [Subtype.ext_iff]
  · rename_i h
    refine ⟨fun hn => by simp at hn, fun hb => absurd (hb ▸ b.2) h⟩

@[simp] theorem ofList?_self (b : Bytes n) : ofList? n b.1 = some b :=
  ofList?_eq_some.2 rfl

/-! ## The constant-time comparison is equality -/

theorem foldl_or_eq_zero : ∀ (xs : List UInt8) (d : UInt8),
    xs.foldl (· ||| ·) d = 0 ↔ d = 0 ∧ ∀ x ∈ xs, x = 0
  | [], d => by simp
  | x :: xs, d => by
    rw [List.foldl_cons, foldl_or_eq_zero xs, UInt8.or_eq_zero_iff]
    simp [and_assoc]

theorem zipWith_xor_zero : ∀ {xs ys : List UInt8}, xs.length = ys.length →
    ((∀ d ∈ List.zipWith (· ^^^ ·) xs ys, d = 0) ↔ xs = ys)
  | [], [], _ => by simp
  | x :: xs, y :: ys, h => by
    have hl : xs.length = ys.length := by simpa using h
    simp [zipWith_xor_zero hl]

theorem sameBytes_iff {left right : Bytes n} : left.sameBytes right = true ↔ left = right := by
  have hl : left.1.length = right.1.length := left.2.trans right.2.symm
  rw [sameBytes, beq_iff_eq, foldl_or_eq_zero, zipWith_xor_zero hl, ← Subtype.ext_iff]
  simp

end Bytes

end M5Auth
