import M5Auth.Core.Bytes
import M5Auth.Lib.Unicode

/-!
# Values of the Web application

JavaScript strings, numbers and thrown errors, and the two text codecs the application uses:
`textEncode` is `new TextEncoder().encode` and `textDecode` is the `decode` of
`new TextDecoder("utf-8", { fatal: true })`, which drops a leading byte order mark.
-/

namespace M5Auth.Web

open Unicode

/-- A string is the list of its UTF-16 code units. -/
abbrev JsString := List UInt16

/-- A string literal of the source. -/
def literal (s : String) : JsString := encodeUtf16 s.toList

/-- A number. `other` stands for the fractions, the infinities and NaN. -/
inductive Number where
  | integer (value : Int)
  | other
  deriving DecidableEq

/-- What is thrown: an `Error` with its message, or a `TypeError` of the platform. -/
inductive Thrown where
  | error (message : String)
  | typeError
  deriving DecidableEq

/-- `assert` of the source, and `if (!condition) throw new Error(message)`. -/
def require (condition : Bool) (message : String) : Except Thrown Unit :=
  if condition then .ok () else .error (.error message)

namespace Number

/-- `Number.isInteger(value) && value >= min && value <= max`. -/
def inRange (value : Number) (min max : Int) : Bool :=
  match value with
  | integer n => decide (min ≤ n) && decide (n ≤ max)
  | other => false

/-- `Number.isSafeInteger`. -/
def isSafeInteger (value : Number) : Bool :=
  value.inRange (-9007199254740991) 9007199254740991

/-- The integer that is meant, where a check has passed. -/
def toNat : Number → Nat
  | integer n => n.toNat
  | other => 0

end Number

/-- `TextEncoder.encode`: each lone surrogate is encoded as U+FFFD. -/
def textEncode (s : JsString) : List UInt8 := encodeUtf8 (scalars s)

/-- The byte order mark. -/
def bom : Char := Char.ofNat 0xfeff

/-- The decoder drops one leading byte order mark. -/
def dropBom : List Char → List Char
  | [] => []
  | c :: text => if c = bom then text else c :: text

/-- `TextDecoder.decode`, fatal. -/
def textDecode (bytes : List UInt8) : Except Thrown JsString :=
  match decodeUtf8 bytes with
  | some text => .ok (encodeUtf16 (dropBom text))
  | none => .error .typeError

/-! ## Checks -/

theorem require_ok {condition : Bool} {message : String} :
    require condition message = .ok () ↔ condition = true := by
  cases condition <;> simp [require]

/-- A step and what follows it. -/
theorem bind_ok {α β : Type} {x : Except Thrown α} {f : α → Except Thrown β} {b : β} :
    x >>= f = .ok b ↔ ∃ a, x = .ok a ∧ f a = .ok b := by
  cases x with
  | error e => simp [bind, Except.bind]
  | ok a => simp [bind, Except.bind]

theorem ok_of_isOk {α : Type} {x : Except Thrown α} (h : x.isOk = true) : ∃ a, x = .ok a := by
  cases x with
  | ok a => exact ⟨a, rfl⟩
  | error thrown => cases h

theorem toOption_some {α : Type} {x : Except Thrown α} {a : α} (h : x.toOption = some a) :
    x = .ok a := by
  cases x with
  | error e => cases h
  | ok b =>
    cases h
    rfl

/-- A check and what follows it. -/
theorem require_bind {α : Type} {condition : Bool} {message : String} {rest : Except Thrown α}
    {result : α} : (do require condition message; rest) = Except.ok result ↔
      condition = true ∧ rest = .ok result := by
  cases condition with
  | false => simp [require, bind, Except.bind]
  | true => simp [require, bind, Except.bind]

@[simp] theorem require_true (message : String) : require true message = .ok () := rfl

namespace Number

theorem inRange_iff {value : Number} {min max : Int} :
    value.inRange min max = true ↔ ∃ n, value = integer n ∧ min ≤ n ∧ n ≤ max := by
  cases value with
  | integer n => simp [inRange]
  | other => simp [inRange]

end Number

/-! ## The text codecs -/

@[simp] theorem textEncode_encodeUtf16 (text : List Char) :
    textEncode (encodeUtf16 text) = encodeUtf8 text := by
  rw [textEncode, scalars_encodeUtf16]

/-- The decoder gives back the text that was encoded, up to a leading byte order mark. -/
theorem textDecode_encodeUtf8 (text : List Char) :
    textDecode (encodeUtf8 text) = .ok (encodeUtf16 (dropBom text)) := by
  rw [textDecode, decodeUtf8_encodeUtf8]

/-! ## ASCII -/

theorem bytesOf_ascii (byte : UInt8) (h : byte < 128) :
    String.utf8EncodeChar (Char.ofNat byte.toNat) = [byte] ∧
      unitsOf (Char.ofNat byte.toNat) = [byte.toUInt16] := by
  have hall : ∀ n < 128, String.utf8EncodeChar (Char.ofNat n) = [UInt8.ofNat n] ∧
      unitsOf (Char.ofNat n) = [(UInt8.ofNat n).toUInt16] := by decide +kernel
  simpa using hall byte.toNat (UInt8.lt_iff_toNat_lt.1 h)

/-- ASCII bytes are the characters they spell, in both encodings. -/
theorem spell_ascii {bytes : List UInt8} (h : ∀ byte ∈ bytes, byte < 128) :
    encodeUtf8 (bytes.map fun byte => Char.ofNat byte.toNat) = bytes ∧
      encodeUtf16 (bytes.map fun byte => Char.ofNat byte.toNat) = bytes.map (·.toUInt16) := by
  induction bytes with
  | nil => exact ⟨rfl, rfl⟩
  | cons byte bytes ih =>
    obtain ⟨h8, h16⟩ := bytesOf_ascii byte (h byte (by simp))
    obtain ⟨ih8, ih16⟩ := ih fun b hb => h b (by simp [hb])
    simp only [List.map_cons, encodeUtf8_cons, encodeUtf16_cons, h8, h16, ih8, ih16,
      List.singleton_append, and_self]

/-! ## The place of a character in an alphabet -/

theorem idxOf?_map_ofNat {codes : List Nat} {n : Nat} (hcodes : ∀ code ∈ codes, code < 65536)
    (hn : n < 65536) : (codes.map UInt16.ofNat).idxOf? (UInt16.ofNat n) = codes.idxOf? n := by
  induction codes with
  | nil => rfl
  | cons code codes ih =>
    have hcode := hcodes code List.mem_cons_self
    have hbeq : (UInt16.ofNat code == UInt16.ofNat n) = (code == n) := by
      rw [Bool.eq_iff_iff, beq_iff_eq, beq_iff_eq, ← UInt16.toNat_inj, UInt16.toNat_ofNat',
        UInt16.toNat_ofNat', Nat.mod_eq_of_lt hcode, Nat.mod_eq_of_lt hn]
    rw [List.map_cons, List.idxOf?_cons, List.idxOf?_cons, hbeq,
      ih fun code h => hcodes code (List.mem_cons_of_mem _ h)]

theorem idxOf?_range' (n first length : Nat) :
    (List.range' first length).idxOf? n =
      if first ≤ n ∧ n < first + length then some (n - first) else none := by
  induction length generalizing first with
  | zero => rw [if_neg (by omega)]; rfl
  | succ length ih =>
    rw [List.range'_succ, List.idxOf?_cons, ih]
    by_cases hfirst : first = n
    · rw [if_pos (beq_iff_eq.2 hfirst), if_pos (by omega), hfirst, Nat.sub_self]
    · rw [if_neg (by simpa using hfirst)]
      by_cases hin : first + 1 ≤ n ∧ n < first + 1 + length
      · rw [if_pos hin, if_pos (by omega), Option.map_some, ← Nat.sub_sub]
        congr 1
        omega
      · rw [if_neg hin, if_neg (by omega)]
        rfl

theorem idxOf?_append (xs ys : List Nat) (n : Nat) :
    (xs ++ ys).idxOf? n = (xs.idxOf? n).or ((ys.idxOf? n).map (· + xs.length)) :=
  List.findIdx?_append

end M5Auth.Web
