import Mathlib.Tactic.Common

/-!
# UTF-8 and UTF-16

A text is a list of scalar values (`Char`); its encodings are lists of bytes and of 16-bit code
units.

* `decodeUtf8` is the strict UTF-8 decoder of the Encoding Standard, one byte at a time.
  `decodeUtf8_encodeUtf8` and `encodeUtf8_of_decode`: it accepts the encodings of texts, and gives
  the text back.
* `scalars` reads code units, with U+FFFD for each lone surrogate. `scalars_encodeUtf16` is the
  round trip, and `WellFormed` the code units that have no lone surrogate.
-/

namespace Unicode

/-! ## UTF-8 -/

/-- `UTF-8 encode`. -/
def encodeUtf8 (text : List Char) : List UInt8 := text.flatMap String.utf8EncodeChar

/-- Between two bytes: the code point so far, the bytes it still needs, and the bounds of the next
one. -/
structure Pending where
  codePoint : Nat := 0
  needed : Nat := 0
  lower : UInt8 := 0x80
  upper : UInt8 := 0xbf
  deriving DecidableEq

/-- The first byte of a character. -/
def Pending.lead (byte : UInt8) : Option Pending :=
  if byte ≤ 0x7f then some { codePoint := byte.toNat }
  else if 0xc2 ≤ byte ∧ byte ≤ 0xdf then some { codePoint := byte.toNat % 32, needed := 1 }
  else if 0xe0 ≤ byte ∧ byte ≤ 0xef then
    some { codePoint := byte.toNat % 16, needed := 2
           lower := if byte = 0xe0 then 0xa0 else 0x80, upper := if byte = 0xed then 0x9f else 0xbf }
  else if 0xf0 ≤ byte ∧ byte ≤ 0xf4 then
    some { codePoint := byte.toNat % 8, needed := 3
           lower := if byte = 0xf0 then 0x90 else 0x80, upper := if byte = 0xf4 then 0x8f else 0xbf }
  else none

/-- A further byte. -/
def Pending.continue (p : Pending) (byte : UInt8) : Option Pending :=
  if p.lower ≤ byte ∧ byte ≤ p.upper then
    some { codePoint := p.codePoint * 64 + byte.toNat % 64, needed := p.needed - 1 }
  else none

/-- The decoder's handler for one byte. -/
def Pending.next (p : Pending) (byte : UInt8) : Option Pending :=
  if p.needed = 0 then lead byte else p.continue byte

/-- The character is complete: it is put before the characters after it. -/
def Pending.emit (p : Pending) (text : List Char) : List Char :=
  if p.needed = 0 then Char.ofNat p.codePoint :: text else text

/-- The decoder from between two bytes on. `none` is its error. -/
def decodeFrom (p : Pending) : List UInt8 → Option (List Char)
  | [] => if p.needed = 0 then some [] else none
  | byte :: bytes =>
    match p.next byte with
    | none => none
    | some p => (decodeFrom p bytes).map p.emit

/-- `UTF-8 decode without BOM or fail`. -/
def decodeUtf8 : List UInt8 → Option (List Char) := decodeFrom {}

/-- `lower ≤ byte ≤ upper`. -/
def Between (lower upper byte : UInt8) : Prop := lower ≤ byte ∧ byte ≤ upper

instance (lower upper byte : UInt8) : Decidable (Between lower upper byte) := by
  unfold Between
  infer_instance

/-- The bytes of one character, and its code point. -/
inductive Spells : List UInt8 → Nat → Prop where
  | one {a : UInt8} : a ≤ 0x7f → Spells [a] a.toNat
  | two {a b : UInt8} : Between 0xc2 0xdf a → Between 0x80 0xbf b →
    Spells [a, b] (a.toNat % 32 * 64 + b.toNat % 64)
  | three {a b c : UInt8} : Between 0xe0 0xef a →
    Between (if a = 0xe0 then 0xa0 else 0x80) (if a = 0xed then 0x9f else 0xbf) b →
    Between 0x80 0xbf c →
    Spells [a, b, c] ((a.toNat % 16 * 64 + b.toNat % 64) * 64 + c.toNat % 64)
  | four {a b c d : UInt8} : Between 0xf0 0xf4 a →
    Between (if a = 0xf0 then 0x90 else 0x80) (if a = 0xf4 then 0x8f else 0xbf) b →
    Between 0x80 0xbf c → Between 0x80 0xbf d →
    Spells [a, b, c, d]
      (((a.toNat % 8 * 64 + b.toNat % 64) * 64 + c.toNat % 64) * 64 + d.toNat % 64)

/-! ### The decoder reads one character after the other -/

/-- The state after a further byte that leaves `needed` to come. -/
def Pending.push (p : Pending) (byte : UInt8) (needed : Nat) : Pending :=
  { codePoint := p.codePoint * 64 + byte.toNat % 64, needed }

@[simp] theorem Pending.push_lower (p : Pending) (byte : UInt8) (n : Nat) :
    (p.push byte n).lower = 0x80 := rfl

@[simp] theorem Pending.push_upper (p : Pending) (byte : UInt8) (n : Nat) :
    (p.push byte n).upper = 0xbf := rfl

theorem decodeFrom_more {p : Pending} {n : Nat} (hp : p.needed = n + 1) (byte : UInt8)
    (bytes : List UInt8) :
    decodeFrom p (byte :: bytes) =
      if Between p.lower p.upper byte then
        (decodeFrom (p.push byte n) bytes).map (p.push byte n).emit
      else none := by
  have hn : p.needed ≠ 0 := by omega
  have hnext : p.needed - 1 = n := by omega
  by_cases hb : Between p.lower p.upper byte
  · have hb' : p.lower ≤ byte ∧ byte ≤ p.upper := hb
    simp [decodeFrom, Pending.next, Pending.continue, Pending.push, hn, hb, hb', hnext]
  · have hb' : ¬(p.lower ≤ byte ∧ byte ≤ p.upper) := hb
    simp [decodeFrom, Pending.next, Pending.continue, hn, hb, hb']

theorem decodeFrom_end {p : Pending} {n : Nat} (hp : p.needed = n + 1) : decodeFrom p [] = none := by
  simp [decodeFrom, hp]

/-- Between two characters the code point and the bounds do not matter. -/
theorem decodeFrom_between {p : Pending} (hp : p.needed = 0) (bytes : List UInt8) :
    decodeFrom p bytes = decodeUtf8 bytes := by
  cases bytes with
  | nil => simp [decodeUtf8, decodeFrom, hp]
  | cons byte bytes => simp [decodeUtf8, decodeFrom, Pending.next, hp]

theorem Between.not_le {lower upper byte bound : UInt8} (h : Between lower upper byte)
    (hbound : bound < lower) : ¬byte ≤ bound := fun hle =>
  UInt8.lt_irrefl bound (UInt8.lt_of_lt_of_le hbound (UInt8.le_trans h.1 hle))

theorem lead_one {a : UInt8} (h : a ≤ 0x7f) :
    Pending.lead a = some { codePoint := a.toNat } := by
  simp [Pending.lead, h]

theorem lead_two {a : UInt8} (h : Between 0xc2 0xdf a) :
    Pending.lead a = some { codePoint := a.toNat % 32, needed := 1 } := by
  have h' : 0xc2 ≤ a ∧ a ≤ 0xdf := h
  simp [Pending.lead, h.not_le (by decide : (0x7f : UInt8) < 0xc2), h']

theorem lead_three {a : UInt8} (h : Between 0xe0 0xef a) :
    Pending.lead a = some
      { codePoint := a.toNat % 16, needed := 2, lower := if a = 0xe0 then 0xa0 else 0x80
        upper := if a = 0xed then 0x9f else 0xbf } := by
  have h' : 0xe0 ≤ a ∧ a ≤ 0xef := h
  simp [Pending.lead, h.not_le (by decide : (0x7f : UInt8) < 0xe0),
    h.not_le (by decide : (0xdf : UInt8) < 0xe0), h']

theorem lead_four {a : UInt8} (h : Between 0xf0 0xf4 a) :
    Pending.lead a = some
      { codePoint := a.toNat % 8, needed := 3, lower := if a = 0xf0 then 0x90 else 0x80
        upper := if a = 0xf4 then 0x8f else 0xbf } := by
  have h' : 0xf0 ≤ a ∧ a ≤ 0xf4 := h
  simp [Pending.lead, h.not_le (by decide : (0x7f : UInt8) < 0xf0),
    h.not_le (by decide : (0xdf : UInt8) < 0xf0), h.not_le (by decide : (0xef : UInt8) < 0xf0), h']

/-- The four kinds of first bytes, and the others. -/
theorem lead_cases (a : UInt8) :
    a ≤ 0x7f ∨ Between 0xc2 0xdf a ∨ Between 0xe0 0xef a ∨ Between 0xf0 0xf4 a ∨
      Pending.lead a = none := by
  by_cases h1 : a ≤ 0x7f
  · exact .inl h1
  by_cases h2 : 0xc2 ≤ a ∧ a ≤ 0xdf
  · exact .inr (.inl h2)
  by_cases h3 : 0xe0 ≤ a ∧ a ≤ 0xef
  · exact .inr (.inr (.inl h3))
  by_cases h4 : 0xf0 ≤ a ∧ a ≤ 0xf4
  · exact .inr (.inr (.inr (.inl h4)))
  · exact .inr (.inr (.inr (.inr (by simp [Pending.lead, h1, h2, h3, h4]))))

theorem decodeUtf8_cons (a : UInt8) (bytes : List UInt8) :
    decodeUtf8 (a :: bytes) =
      match Pending.lead a with
      | none => none
      | some p => (decodeFrom p bytes).map p.emit := rfl

/-- **A character is decoded to its code point.** -/
theorem Spells.decode {bytes : List UInt8} {v : Nat} (h : Spells bytes v) (rest : List UInt8) :
    decodeUtf8 (bytes ++ rest) = (decodeUtf8 rest).map (Char.ofNat v :: ·) := by
  cases h with
  | one ha =>
    simp only [List.cons_append, List.nil_append, decodeUtf8_cons, lead_one ha]
    rw [decodeFrom_between rfl]
    rfl
  | two ha hb =>
    simp only [List.cons_append, List.nil_append, decodeUtf8_cons, lead_two ha]
    rw [decodeFrom_more rfl, if_pos hb, decodeFrom_between rfl, Option.map_map]
    rfl
  | three ha hb hc =>
    simp only [List.cons_append, List.nil_append, decodeUtf8_cons, lead_three ha]
    rw [decodeFrom_more rfl, if_pos hb, decodeFrom_more rfl, Pending.push_lower,
      Pending.push_upper, if_pos hc, decodeFrom_between rfl, Option.map_map, Option.map_map]
    rfl
  | four ha hb hc hd =>
    simp only [List.cons_append, List.nil_append, decodeUtf8_cons, lead_four ha]
    rw [decodeFrom_more rfl, if_pos hb, decodeFrom_more rfl, Pending.push_lower,
      Pending.push_upper, if_pos hc, decodeFrom_more rfl, Pending.push_lower, Pending.push_upper,
      if_pos hd, decodeFrom_between rfl, Option.map_map, Option.map_map, Option.map_map]
    rfl

/-- The decoder needs one more byte between the bounds. -/
theorem decodeFrom_isSome {p : Pending} {n : Nat} {bytes : List UInt8} (hp : p.needed = n + 1)
    (h : (decodeFrom p bytes).isSome) :
    ∃ byte rest, bytes = byte :: rest ∧ Between p.lower p.upper byte ∧
      (decodeFrom (p.push byte n) rest).isSome := by
  cases bytes with
  | nil => simp [decodeFrom_end hp] at h
  | cons byte rest =>
    rw [decodeFrom_more hp] at h
    split at h
    · rename_i hb
      exact ⟨byte, rest, rfl, hb, by simpa using h⟩
    · cases h

/-- **What the decoder accepts begins with a character.** -/
theorem decodeUtf8_isSome {bytes : List UInt8} (h : (decodeUtf8 bytes).isSome) :
    bytes = [] ∨ ∃ char v rest, bytes = char ++ rest ∧ Spells char v ∧ (decodeUtf8 rest).isSome := by
  cases bytes with
  | nil => exact .inl rfl
  | cons a bytes =>
    right
    rw [decodeUtf8_cons] at h
    rcases lead_cases a with ha | ha | ha | ha | ha
    · simp only [lead_one ha, Option.isSome_map] at h
      rw [decodeFrom_between (by rfl)] at h
      exact ⟨[a], _, bytes, rfl, .one ha, h⟩
    · simp only [lead_two ha, Option.isSome_map] at h
      obtain ⟨b, rest, rfl, hb, h⟩ := decodeFrom_isSome rfl h
      rw [decodeFrom_between (by rfl)] at h
      exact ⟨[a, b], _, rest, rfl, .two ha hb, h⟩
    · simp only [lead_three ha, Option.isSome_map] at h
      obtain ⟨b, rest, rfl, hb, h⟩ := decodeFrom_isSome rfl h
      obtain ⟨c, rest, rfl, hc, h⟩ := decodeFrom_isSome rfl h
      rw [decodeFrom_between (by rfl)] at h
      exact ⟨[a, b, c], _, rest, rfl, .three ha hb hc, h⟩
    · simp only [lead_four ha, Option.isSome_map] at h
      obtain ⟨b, rest, rfl, hb, h⟩ := decodeFrom_isSome rfl h
      obtain ⟨c, rest, rfl, hc, h⟩ := decodeFrom_isSome rfl h
      obtain ⟨d, rest, rfl, hd, h⟩ := decodeFrom_isSome rfl h
      rw [decodeFrom_between (by rfl)] at h
      exact ⟨[a, b, c, d], _, rest, rfl, .four ha hb hc hd, h⟩
    · simp [ha] at h

/-! ### Characters and their encodings -/

theorem between_iff {lower upper byte : UInt8} :
    Between lower upper byte ↔ lower.toNat ≤ byte.toNat ∧ byte.toNat ≤ upper.toNat := by
  simp [Between, UInt8.le_iff_toNat_le]

/-- The bytes of a character, from its code point. -/
def bytesOf (v : Nat) : List UInt8 :=
  if v ≤ 0x7f then [UInt8.ofNat v]
  else if v ≤ 0x7ff then [UInt8.ofNat (v / 64 % 32 + 0xc0), UInt8.ofNat (v % 64 + 0x80)]
  else if v ≤ 0xffff then
    [UInt8.ofNat (v / 4096 % 16 + 0xe0), UInt8.ofNat (v / 64 % 64 + 0x80),
      UInt8.ofNat (v % 64 + 0x80)]
  else
    [UInt8.ofNat (v / 262144 % 8 + 0xf0), UInt8.ofNat (v / 4096 % 64 + 0x80),
      UInt8.ofNat (v / 64 % 64 + 0x80), UInt8.ofNat (v % 64 + 0x80)]

theorem utf8EncodeChar_eq (c : Char) : String.utf8EncodeChar c = bytesOf c.toNat := rfl

theorem toNat_ofNat_of_lt {n : Nat} (h : n < 256) : (UInt8.ofNat n).toNat = n := by
  simp
  omega

/-- The bounds of a second byte, which depend on the first one. -/
theorem between_second {a b x y lo hi : UInt8} :
    Between (if a = x then lo else 0x80) (if a = y then hi else 0xbf) b ↔
      (a.toNat = x.toNat → lo.toNat ≤ b.toNat) ∧ (a.toNat ≠ x.toNat → 0x80 ≤ b.toNat) ∧
        (a.toNat = y.toNat → b.toNat ≤ hi.toNat) ∧ (a.toNat ≠ y.toNat → b.toNat ≤ 0xbf) := by
  rw [between_iff]
  simp only [UInt8.toNat_inj, ne_eq]
  by_cases hx : a = x
  · by_cases hy : a = y
    · simp only [if_pos hx, if_pos hy]
      simp [hx, hx ▸ hy]
    · simp only [if_pos hx, if_neg hy]
      simp [hx, hx ▸ hy]
  · by_cases hy : a = y
    · subst hy
      simp [hx]
    · simp [hx, hy]

/-- The encoding of a character spells it. -/
theorem spells_encode (c : Char) : Spells (String.utf8EncodeChar c) c.toNat := by
  have hvalid : c.toNat < 0xd800 ∨ 0xdfff < c.toNat ∧ c.toNat < 0x110000 := c.valid
  rw [utf8EncodeChar_eq]
  generalize c.toNat = v at hvalid
  unfold bytesOf
  have hlast := toNat_ofNat_of_lt (n := v % 64 + 0x80) (by omega)
  have hmid := toNat_ofNat_of_lt (n := v / 64 % 64 + 0x80) (by omega)
  have hcont : ∀ b : UInt8, ∀ n, b.toNat = n % 64 + 0x80 → Between 0x80 0xbf b := by
    intro b n hb
    rw [between_iff, hb]
    refine ⟨by simp, ?_⟩
    have : n % 64 < 64 := Nat.mod_lt _ (by decide)
    simp
    omega
  split
  · rename_i h
    have hv := toNat_ofNat_of_lt (n := v) (by omega)
    have hle : UInt8.ofNat v ≤ 0x7f := by
      rw [UInt8.le_iff_toNat_le, hv]
      exact h
    have hs := Spells.one hle
    rwa [hv] at hs
  · split
    · have hlead := toNat_ofNat_of_lt (n := v / 64 % 32 + 0xc0) (by omega)
      have ha : Between 0xc2 0xdf (UInt8.ofNat (v / 64 % 32 + 0xc0)) := by
        rw [between_iff, hlead]
        simp
        omega
      have hs := Spells.two ha (hcont _ _ hlast)
      rw [hlead, hlast] at hs
      have hv : (v / 64 % 32 + 0xc0) % 32 * 64 + (v % 64 + 0x80) % 64 = v := by omega
      rwa [hv] at hs
    · split
      · have hlead := toNat_ofNat_of_lt (n := v / 4096 % 16 + 0xe0) (by omega)
        have ha : Between 0xe0 0xef (UInt8.ofNat (v / 4096 % 16 + 0xe0)) := by
          rw [between_iff, hlead]
          simp
          omega
        have hb : Between (if UInt8.ofNat (v / 4096 % 16 + 0xe0) = 0xe0 then 0xa0 else 0x80)
            (if UInt8.ofNat (v / 4096 % 16 + 0xe0) = 0xed then 0x9f else 0xbf)
            (UInt8.ofNat (v / 64 % 64 + 0x80)) := by
          rw [between_second, hlead, hmid]
          simp
          omega
        have hs := Spells.three ha hb (hcont _ _ hlast)
        rw [hlead, hmid, hlast] at hs
        have hv : ((v / 4096 % 16 + 0xe0) % 16 * 64 + (v / 64 % 64 + 0x80) % 64) * 64 +
            (v % 64 + 0x80) % 64 = v := by omega
        rwa [hv] at hs
      · have hlead := toNat_ofNat_of_lt (n := v / 262144 % 8 + 0xf0) (by omega)
        have hsecond := toNat_ofNat_of_lt (n := v / 4096 % 64 + 0x80) (by omega)
        have ha : Between 0xf0 0xf4 (UInt8.ofNat (v / 262144 % 8 + 0xf0)) := by
          rw [between_iff, hlead]
          simp
          omega
        have hb : Between (if UInt8.ofNat (v / 262144 % 8 + 0xf0) = 0xf0 then 0x90 else 0x80)
            (if UInt8.ofNat (v / 262144 % 8 + 0xf0) = 0xf4 then 0x8f else 0xbf)
            (UInt8.ofNat (v / 4096 % 64 + 0x80)) := by
          rw [between_second, hlead, hsecond]
          simp
          omega
        have hs := Spells.four ha hb (hcont _ _ hmid) (hcont _ _ hlast)
        rw [hlead, hsecond, hmid, hlast] at hs
        have hv : (((v / 262144 % 8 + 0xf0) % 8 * 64 + (v / 4096 % 64 + 0x80) % 64) * 64 +
            (v / 64 % 64 + 0x80) % 64) * 64 + (v % 64 + 0x80) % 64 = v := by omega
        rwa [hv] at hs

theorem toNat_ofNat_char {v : Nat} (h : v < 0xd800 ∨ 0xdfff < v ∧ v < 0x110000) :
    (Char.ofNat v).toNat = v := by
  have hv : v.isValidChar := h
  rw [Char.ofNat, dif_pos hv]
  rfl

/-- What spells a code point is the encoding of its character. -/
theorem Spells.encode {bytes : List UInt8} {v : Nat} (h : Spells bytes v) :
    String.utf8EncodeChar (Char.ofNat v) = bytes := by
  rw [utf8EncodeChar_eq]
  cases h with
  | one ha =>
    rename_i a
    have ha' : a.toNat ≤ 0x7f := UInt8.le_iff_toNat_le.1 ha
    rw [toNat_ofNat_char (by omega), bytesOf, if_pos ha', UInt8.ofNat_toNat]
  | two ha hb =>
    rename_i a b
    rw [between_iff] at ha hb
    simp at ha hb
    rw [toNat_ofNat_char (by omega), bytesOf, if_neg (by omega), if_pos (by omega)]
    have h1 : (a.toNat % 32 * 64 + b.toNat % 64) / 64 % 32 + 0xc0 = a.toNat := by omega
    have h2 : (a.toNat % 32 * 64 + b.toNat % 64) % 64 + 0x80 = b.toNat := by omega
    rw [h1, h2, UInt8.ofNat_toNat, UInt8.ofNat_toNat]
  | three ha hb hc =>
    rename_i a b c
    rw [between_second] at hb
    rw [between_iff] at ha hc
    simp at ha hb hc
    generalize hv : (a.toNat % 16 * 64 + b.toNat % 64) * 64 + c.toNat % 64 = v
    rw [toNat_ofNat_char (by omega), bytesOf, if_neg (by omega), if_neg (by omega),
      if_pos (by omega)]
    have h1 : v / 4096 % 16 + 0xe0 = a.toNat := by omega
    have h2 : v / 64 % 64 + 0x80 = b.toNat := by omega
    have h3 : v % 64 + 0x80 = c.toNat := by omega
    rw [h1, h2, h3, UInt8.ofNat_toNat, UInt8.ofNat_toNat, UInt8.ofNat_toNat]
  | four ha hb hc hd =>
    rename_i a b c d
    rw [between_second] at hb
    rw [between_iff] at ha hc hd
    simp at ha hb hc hd
    generalize hv : ((a.toNat % 8 * 64 + b.toNat % 64) * 64 + c.toNat % 64) * 64 + d.toNat % 64 = v
    rw [toNat_ofNat_char (by omega), bytesOf, if_neg (by omega), if_neg (by omega),
      if_neg (by omega)]
    have h1 : v / 262144 % 8 + 0xf0 = a.toNat := by omega
    have h2 : v / 4096 % 64 + 0x80 = b.toNat := by omega
    have h3 : v / 64 % 64 + 0x80 = c.toNat := by omega
    have h4 : v % 64 + 0x80 = d.toNat := by omega
    rw [h1, h2, h3, h4, UInt8.ofNat_toNat, UInt8.ofNat_toNat, UInt8.ofNat_toNat, UInt8.ofNat_toNat]

/-! ### The round trip -/

theorem Spells.length_pos {bytes : List UInt8} {v : Nat} (h : Spells bytes v) :
    0 < bytes.length := by
  cases h <;> simp

@[simp] theorem encodeUtf8_nil : encodeUtf8 [] = [] := rfl

@[simp] theorem encodeUtf8_cons (c : Char) (text : List Char) :
    encodeUtf8 (c :: text) = String.utf8EncodeChar c ++ encodeUtf8 text := List.flatMap_cons

@[simp] theorem encodeUtf8_append (text more : List Char) :
    encodeUtf8 (text ++ more) = encodeUtf8 text ++ encodeUtf8 more := List.flatMap_append

/-- **Decoding an encoding gives the text back.** -/
@[simp] theorem decodeUtf8_encodeUtf8 (text : List Char) :
    decodeUtf8 (encodeUtf8 text) = some text := by
  induction text with
  | nil => rfl
  | cons c text ih =>
    rw [encodeUtf8_cons, (spells_encode c).decode, ih, Option.map_some, Char.ofNat_toNat]

/-- **The decoder accepts encodings only.** -/
theorem encodeUtf8_of_decode {bytes : List UInt8} {text : List Char}
    (h : decodeUtf8 bytes = some text) : encodeUtf8 text = bytes := by
  induction hn : bytes.length using Nat.strongRecOn generalizing bytes text with
  | ind n ih =>
    rcases decodeUtf8_isSome (by rw [h]; rfl) with rfl | ⟨char, v, rest, rfl, hspells, hrest⟩
    · cases h
      rfl
    · obtain ⟨tail, htail⟩ := Option.isSome_iff_exists.1 hrest
      rw [hspells.decode, htail] at h
      cases h
      have hlen : rest.length < n := by
        have hpos := hspells.length_pos
        rw [List.length_append] at hn
        omega
      rw [encodeUtf8_cons, hspells.encode, ih _ hlen htail rfl]

theorem encodeUtf8_injective {text more : List Char} (h : encodeUtf8 text = encodeUtf8 more) :
    text = more := by
  have hd := congrArg decodeUtf8 h
  simpa using hd

/-! ## UTF-16 -/

def isLead (unit : UInt16) : Bool := 0xd800 ≤ unit && unit ≤ 0xdbff

def isTrail (unit : UInt16) : Bool := 0xdc00 ≤ unit && unit ≤ 0xdfff

/-- The code units of a character. -/
def unitsOf (c : Char) : List UInt16 :=
  if c.toNat < 0x10000 then [UInt16.ofNat c.toNat]
  else [UInt16.ofNat (0xd800 + (c.toNat - 0x10000) / 1024),
        UInt16.ofNat (0xdc00 + (c.toNat - 0x10000) % 1024)]

def encodeUtf16 (text : List Char) : List UInt16 := text.flatMap unitsOf

/-- The character of a surrogate pair. -/
def pairChar (lead trail : UInt16) : Char :=
  Char.ofNat (0x10000 + (lead.toNat - 0xd800) * 1024 + (trail.toNat - 0xdc00))

/-- The character of a unit that is not part of a pair: a lone surrogate is U+FFFD. -/
def unitChar (unit : UInt16) : Char :=
  if isLead unit || isTrail unit then Char.ofNat 0xfffd else Char.ofNat unit.toNat

/-- The characters of a text of code units. -/
def scalars : List UInt16 → List Char
  | [] => []
  | [unit] => [unitChar unit]
  | unit :: second :: rest =>
    if isLead unit && isTrail second then pairChar unit second :: scalars rest
    else unitChar unit :: scalars (second :: rest)

/-- No surrogate stands alone. -/
def WellFormed : List UInt16 → Bool
  | [] => true
  | [unit] => !isLead unit && !isTrail unit
  | unit :: second :: rest =>
    if isLead unit && isTrail second then WellFormed rest
    else !isLead unit && !isTrail unit && WellFormed (second :: rest)

@[simp] theorem encodeUtf16_nil : encodeUtf16 [] = [] := rfl

@[simp] theorem encodeUtf16_cons (c : Char) (text : List Char) :
    encodeUtf16 (c :: text) = unitsOf c ++ encodeUtf16 text := List.flatMap_cons

theorem isLead_iff {unit : UInt16} :
    isLead unit = true ↔ 0xd800 ≤ unit.toNat ∧ unit.toNat ≤ 0xdbff := by
  simp [isLead, UInt16.le_iff_toNat_le]

theorem isTrail_iff {unit : UInt16} :
    isTrail unit = true ↔ 0xdc00 ≤ unit.toNat ∧ unit.toNat ≤ 0xdfff := by
  simp [isTrail, UInt16.le_iff_toNat_le]

theorem toNat_ofNat16 {n : Nat} (h : n < 65536) : (UInt16.ofNat n).toNat = n := by
  simp
  omega

/-- A unit that is no surrogate is read on its own. -/
theorem scalars_eq_nil {s : List UInt16} : scalars s = [] ↔ s = [] := by
  fun_induction scalars s with
  | case1 => simp
  | case2 unit => simp
  | case3 unit second rest => simp
  | case4 unit second rest => simp

theorem scalars_cons {unit : UInt16} (hl : isLead unit = false) (ht : isTrail unit = false)
    (rest : List UInt16) : scalars (unit :: rest) = Char.ofNat unit.toNat :: scalars rest := by
  cases rest with
  | nil => simp [scalars, unitChar, hl, ht]
  | cons second rest => simp [scalars, unitChar, hl, ht]

/-- A character is one unit that is no surrogate, or a surrogate pair. -/
theorem unitsOf_cases (c : Char) :
    (∃ unit, unitsOf c = [unit] ∧ isLead unit = false ∧ isTrail unit = false ∧
      Char.ofNat unit.toNat = c) ∨
    (∃ lead trail, unitsOf c = [lead, trail] ∧ isLead lead = true ∧ isTrail trail = true ∧
      pairChar lead trail = c) := by
  have hvalid : c.toNat < 0xd800 ∨ 0xdfff < c.toNat ∧ c.toNat < 0x110000 := c.valid
  unfold unitsOf
  split
  · rename_i hc
    have hn := toNat_ofNat16 (n := c.toNat) hc
    refine .inl ⟨_, rfl, ?_, ?_, ?_⟩
    · rw [Bool.eq_false_iff, Ne, isLead_iff, hn]
      omega
    · rw [Bool.eq_false_iff, Ne, isTrail_iff, hn]
      omega
    · rw [hn, Char.ofNat_toNat]
  · have hlead := toNat_ofNat16 (n := 0xd800 + (c.toNat - 0x10000) / 1024) (by omega)
    have htrail := toNat_ofNat16 (n := 0xdc00 + (c.toNat - 0x10000) % 1024) (by omega)
    refine .inr ⟨_, _, rfl, ?_, ?_, ?_⟩
    · rw [isLead_iff, hlead]
      omega
    · rw [isTrail_iff, htrail]
      omega
    · have hv : 0x10000 + (0xd800 + (c.toNat - 0x10000) / 1024 - 0xd800) * 1024 +
          (0xdc00 + (c.toNat - 0x10000) % 1024 - 0xdc00) = c.toNat := by omega
      rw [pairChar, hlead, htrail, hv, Char.ofNat_toNat]

/-- **Reading the code units of a text gives the text back.** -/
@[simp] theorem scalars_encodeUtf16 (text : List Char) : scalars (encodeUtf16 text) = text := by
  induction text with
  | nil => rfl
  | cons c text ih =>
    rw [encodeUtf16_cons]
    rcases unitsOf_cases c with ⟨unit, hu, hl, ht, hc⟩ | ⟨lead, trail, hu, hl, ht, hc⟩
    · rw [hu, List.singleton_append, scalars_cons hl ht, hc, ih]
    · simp [hu, scalars, hl, ht, hc, ih]

theorem unitsOf_unit {unit : UInt16} (hl : isLead unit = false) (ht : isTrail unit = false) :
    unitsOf (Char.ofNat unit.toNat) = [unit] := by
  have hsize : unit.toNat < 65536 := unit.toNat_lt
  have hv : unit.toNat < 0xd800 ∨ 0xdfff < unit.toNat ∧ unit.toNat < 0x110000 := by
    rw [Bool.eq_false_iff, Ne, isLead_iff] at hl
    rw [Bool.eq_false_iff, Ne, isTrail_iff] at ht
    omega
  simp [unitsOf, toNat_ofNat_char hv, hsize]

theorem unitsOf_pair {lead trail : UInt16} (hl : isLead lead = true) (ht : isTrail trail = true) :
    unitsOf (pairChar lead trail) = [lead, trail] := by
  rw [isLead_iff] at hl
  rw [isTrail_iff] at ht
  rw [unitsOf, pairChar, toNat_ofNat_char (by omega), if_neg (by omega)]
  have h1 : 0xd800 + (0x10000 + (lead.toNat - 0xd800) * 1024 + (trail.toNat - 0xdc00) -
      0x10000) / 1024 = lead.toNat := by omega
  have h2 : 0xdc00 + (0x10000 + (lead.toNat - 0xd800) * 1024 + (trail.toNat - 0xdc00) -
      0x10000) % 1024 = trail.toNat := by omega
  rw [h1, h2, UInt16.ofNat_toNat, UInt16.ofNat_toNat]

/-- **Well-formed code units are those of the text that is read from them.** -/
theorem encodeUtf16_scalars {units : List UInt16} (h : WellFormed units = true) :
    encodeUtf16 (scalars units) = units := by
  induction units using scalars.induct with
  | case1 => rfl
  | case2 unit =>
    simp only [WellFormed, Bool.and_eq_true, Bool.not_eq_true'] at h
    rw [scalars_cons h.1 h.2, encodeUtf16_cons, unitsOf_unit h.1 h.2]
    rfl
  | case3 unit second rest hpair ih =>
    rw [WellFormed, if_pos hpair] at h
    rw [scalars, if_pos hpair, encodeUtf16_cons, ih h]
    simp only [Bool.and_eq_true] at hpair
    rw [unitsOf_pair hpair.1 hpair.2]
    rfl
  | case4 unit second rest hpair ih =>
    rw [WellFormed, if_neg hpair] at h
    simp only [Bool.and_eq_true, Bool.not_eq_true'] at h
    rw [scalars_cons h.1.1 h.1.2, encodeUtf16_cons, ih h.2, unitsOf_unit h.1.1 h.1.2]
    rfl

end Unicode
