import Mathlib.Algebra.Group.Nat.Defs
import M5Auth.Core.Base64Url
import M5Auth.Web.Text

/-!
# Canonical base64url in the Web application

`encodeBase64UrlCanonical` and `decodeBase64UrlCanonical` of `session-protocol-v2.ts`. The decoder
gives back what was encoded (`decode_encodeBase64Url`), and the encoder is the firmware's
(`encodeBase64Url_eq`).
-/

namespace M5Auth.Web

open Unicode

/-- `BASE64URL_ALPHABET`. -/
def base64UrlAlphabet : JsString :=
  literal "ABCDEFGHIJKLMNOPQRSTUVWXYZabcdefghijklmnopqrstuvwxyz0123456789-_"

/-- `BASE64URL_ALPHABET[(bits >>> shift) & 0x3f]`. -/
def base64UrlChar (bits shift : UInt32) : UInt16 :=
  base64UrlAlphabet.getD ((bits >>> shift) &&& 0x3f).toNat 0

/-- `encodeBase64UrlCanonical`. -/
def encodeBase64UrlCanonical : List UInt8 → JsString
  | a :: b :: c :: rest =>
    let bits := (a.toUInt32 <<< 16) ||| (b.toUInt32 <<< 8) ||| c.toUInt32
    [base64UrlChar bits 18, base64UrlChar bits 12, base64UrlChar bits 6, base64UrlChar bits 0] ++
      encodeBase64UrlCanonical rest
  | [a, b] =>
    let bits := (a.toUInt32 <<< 16) ||| (b.toUInt32 <<< 8)
    [base64UrlChar bits 18, base64UrlChar bits 12, base64UrlChar bits 6]
  | [a] =>
    let bits := a.toUInt32 <<< 16
    [base64UrlChar bits 18, base64UrlChar bits 12]
  | [] => []

/-- The loop of `decodeBase64UrlCanonical`: `accumulator`, the number of its `bits` that are not yet
written, and the output. -/
def decodeBase64UrlLoop : JsString → UInt32 → Nat → List UInt8 →
    Except Thrown (UInt32 × Nat × List UInt8)
  | [], accumulator, bits, output => .ok (accumulator, bits, output)
  | char :: value, accumulator, bits, output =>
    match base64UrlAlphabet.idxOf? char with
    | none => .error (.error "Invalid base64url character")
    | some decoded =>
      let accumulator := (accumulator <<< 6) ||| UInt32.ofNat decoded
      let bits := bits + 6
      if 8 ≤ bits then
        decodeBase64UrlLoop value accumulator (bits - 8)
          (output ++ [(accumulator >>> UInt32.ofNat (bits - 8)).toUInt8])
      else decodeBase64UrlLoop value accumulator bits output

/-- `decodeBase64UrlCanonical`. -/
def decodeBase64UrlCanonical (value : JsString) (expectedLength : Option Nat) :
    Except Thrown (List UInt8) := do
  require (value.length % 4 != 1) "Invalid base64url length"
  let (accumulator, bits, decoded) ← decodeBase64UrlLoop value 0 0 []
  require (bits == 0 || accumulator &&& ((1 <<< UInt32.ofNat bits) - 1) == 0)
    "Non-canonical base64url trailing bits"
  require (encodeBase64UrlCanonical decoded == value) "Non-canonical base64url encoding"
  match expectedLength with
  | none => .ok decoded
  | some length =>
    require (decoded.length == length) s!"decoded base64url field must be {length} bytes"
    .ok decoded

/-! ## The firmware's encoder -/

/-- The capitals, the small letters, the digits, `-` and `_`. -/
def alphabetCodes : List Nat :=
  List.range' 65 26 ++ List.range' 97 26 ++ List.range' 48 10 ++ [45, 95]

theorem alphabet_codes : alphabet = alphabetCodes.map UInt8.ofNat := by
  rw [alphabet, ascii, String.toList_ofList]
  rfl

theorem base64UrlAlphabet_codes : base64UrlAlphabet = alphabetCodes.map UInt16.ofNat := by
  rw [base64UrlAlphabet, literal, String.toList_ofList]
  rfl

theorem alphabet_eq : base64UrlAlphabet = alphabet.map (·.toUInt16) := by
  rw [alphabet_codes, base64UrlAlphabet_codes]
  rfl

theorem base64UrlChar_eq (bits shift : UInt32) :
    base64UrlChar bits shift = (alphabetAt bits shift).toUInt16 := by
  have hzero : (0 : UInt16) = (0 : UInt8).toUInt16 := rfl
  rw [base64UrlChar, alphabetAt, alphabet_eq, hzero]
  simp only [List.getD_eq_getElem?_getD, List.getElem?_map, Option.getD_map]

/-- **Both sides encode alike.** -/
theorem encodeBase64Url_eq (bytes : List UInt8) :
    encodeBase64UrlCanonical bytes = (base64urlEncode bytes).map (·.toUInt16) := by
  fun_induction encodeBase64UrlCanonical bytes with
  | case1 a b c rest bits ih => simp [base64urlEncode, ih, base64UrlChar_eq, bits]
  | case2 a b bits => simp [base64urlEncode, base64UrlChar_eq, bits]
  | case3 a bits => simp [base64urlEncode, base64UrlChar_eq, bits]
  | case4 => rfl

/-! ## ASCII -/

theorem alphabetAt_mem (bits shift : UInt32) : alphabetAt bits shift ∈ alphabet := by
  have hlength : alphabet.length = 64 := by rw [alphabet_codes]; rfl
  have hlt : ((bits >>> shift) &&& 0x3f).toNat < alphabet.length := by
    rw [UInt32.toNat_and, hlength]
    exact Nat.lt_of_le_of_lt Nat.and_le_right (by decide)
  rw [alphabetAt, List.getD_eq_getElem?_getD, List.getElem?_eq_getElem hlt]
  exact List.getElem_mem hlt

theorem base64urlEncode_mem (bytes : List UInt8) :
    ∀ byte ∈ base64urlEncode bytes, byte ∈ alphabet := by
  fun_induction base64urlEncode bytes with
  | case1 a b c rest bits ih =>
    simp only [List.cons_append, List.nil_append, List.forall_mem_cons, alphabetAt_mem, true_and]
    exact ih
  | case2 a b bits => simp [alphabetAt_mem]
  | case3 a bits => simp [alphabetAt_mem]
  | case4 => simp

theorem base64urlEncode_ascii (bytes : List UInt8) :
    ∀ byte ∈ base64urlEncode bytes, byte < 128 := by
  intro byte hbyte
  have hmem := base64urlEncode_mem bytes byte hbyte
  rw [alphabet_codes, List.mem_map] at hmem
  obtain ⟨code, hcode, rfl⟩ := hmem
  have hall : ∀ code ∈ alphabetCodes, code < 128 := by decide
  have hlt := hall code hcode
  rw [UInt8.lt_iff_toNat_lt, UInt8.toNat_ofNat', Nat.mod_eq_of_lt (by omega)]
  exact hlt

theorem base64urlEncode_length (bytes : List UInt8) :
    (base64urlEncode bytes).length = (4 * bytes.length + 2) / 3 := by
  fun_induction base64urlEncode bytes with
  | case1 a b c rest bits ih =>
    simp only [List.length_append, List.length_cons, List.length_nil, ih]
    omega
  | case2 a b bits => simp
  | case3 a bits => simp
  | case4 => rfl

/-- The bytes that are sent for an encoding. -/
theorem textEncode_base64Url (bytes : List UInt8) :
    textEncode (encodeBase64UrlCanonical bytes) = base64urlEncode bytes := by
  obtain ⟨h8, h16⟩ := spell_ascii (base64urlEncode_ascii bytes)
  rw [encodeBase64Url_eq, ← h16, textEncode_encodeUtf16, h8]

/-! ## Decoding an encoding -/

theorem alphabet_length : base64UrlAlphabet.length = 64 := by
  rw [base64UrlAlphabet_codes]
  rfl

theorem idxOf_alphabet : ∀ n < 64, base64UrlAlphabet.idxOf? (base64UrlAlphabet.getD n 0) = some n := by
  rw [base64UrlAlphabet_codes]
  decide

theorem toNat_six_bits (bits : UInt32) {shift : Nat} (h : shift < 32) :
    ((bits >>> UInt32.ofNat shift) &&& 0x3f).toNat = bits.toNat / 2 ^ shift % 64 := by
  have hshift : (UInt32.ofNat shift).toNat % 32 = shift := by
    rw [UInt32.toNat_ofNat']
    omega
  rw [UInt32.toNat_and, UInt32.toNat_shiftRight, hshift, Nat.shiftRight_eq_div_pow]
  exact Nat.and_two_pow_sub_one_eq_mod _ 6

theorem toNat_push (accumulator : UInt32) {decoded : Nat} (h : decoded < 64) :
    ((accumulator <<< 6) ||| UInt32.ofNat decoded).toNat =
      accumulator.toNat * 64 % 4294967296 + decoded := by
  have hdecoded : (UInt32.ofNat decoded).toNat = decoded := by
    rw [UInt32.toNat_ofNat']
    omega
  rw [UInt32.toNat_or, UInt32.toNat_shiftLeft, hdecoded]
  have hs : accumulator.toNat <<< (UInt32.toNat 6 % 32) % 2 ^ 32 =
      (accumulator.toNat % 2 ^ 26) <<< 6 := by
    show accumulator.toNat <<< 6 % 2 ^ 32 = _
    rw [Nat.shiftLeft_eq, Nat.shiftLeft_eq]
    omega
  rw [hs, ← Nat.shiftLeft_add_eq_or_of_lt (by omega), Nat.shiftLeft_eq]
  omega

/-- The accumulator after a character. -/
def push (accumulator : UInt32) (decoded : Nat) : UInt32 :=
  (accumulator <<< 6) ||| UInt32.ofNat decoded

/-- A character of the alphabet that completes no byte. -/
theorem loop_keep {decoded : Nat} (h : decoded < 64) (value : JsString) (accumulator : UInt32)
    (output : List UInt8) :
    decodeBase64UrlLoop (base64UrlAlphabet.getD decoded 0 :: value) accumulator 0 output =
      decodeBase64UrlLoop value (push accumulator decoded) 6 output := by
  rw [decodeBase64UrlLoop, idxOf_alphabet decoded h]
  rfl

/-- A character of the alphabet that completes a byte. -/
theorem loop_write {decoded : Nat} (h : decoded < 64) (value : JsString) (accumulator : UInt32)
    (bits : Nat) (output : List UInt8) :
    decodeBase64UrlLoop (base64UrlAlphabet.getD decoded 0 :: value) accumulator (bits + 2) output =
      decodeBase64UrlLoop value (push accumulator decoded) bits
        (output ++ [(push accumulator decoded >>> UInt32.ofNat bits).toUInt8]) := by
  have hle : 8 ≤ bits + 2 + 6 := by omega
  have hbits : bits + 2 + 6 - 8 = bits := by omega
  rw [decodeBase64UrlLoop, idxOf_alphabet decoded h]
  simp only [if_pos hle, hbits]
  rfl

theorem toNat_byte (accumulator : UInt32) {shift : Nat} (h : shift < 32) :
    (accumulator >>> UInt32.ofNat shift).toUInt8.toNat = accumulator.toNat / 2 ^ shift % 256 := by
  have hshift : (UInt32.ofNat shift).toNat % 32 = shift := by
    rw [UInt32.toNat_ofNat']
    omega
  rw [UInt32.toNat_toUInt8, UInt32.toNat_shiftRight, hshift, Nat.shiftRight_eq_div_pow]

theorem toNat_three (a b c : UInt8) :
    ((a.toUInt32 <<< 16) ||| (b.toUInt32 <<< 8) ||| c.toUInt32).toNat =
      a.toNat * 65536 + b.toNat * 256 + c.toNat := by
  have ha : a.toNat < 256 := a.toNat_lt
  have hb : b.toNat < 256 := b.toNat_lt
  have hc : c.toNat < 256 := c.toNat_lt
  rw [UInt32.toNat_or, UInt32.toNat_or, UInt32.toNat_shiftLeft, UInt32.toNat_shiftLeft,
    UInt8.toNat_toUInt32, UInt8.toNat_toUInt32, UInt8.toNat_toUInt32]
  have h1 : a.toNat <<< (UInt32.toNat 16 % 32) % 2 ^ 32 = a.toNat <<< 16 := by
    show a.toNat <<< 16 % 2 ^ 32 = _
    rw [Nat.shiftLeft_eq]
    omega
  have h2 : b.toNat <<< (UInt32.toNat 8 % 32) % 2 ^ 32 = b.toNat <<< 8 := by
    show b.toNat <<< 8 % 2 ^ 32 = _
    rw [Nat.shiftLeft_eq]
    omega
  have h3 : a.toNat <<< 16 ||| b.toNat <<< 8 = (a.toNat * 256 + b.toNat) <<< 8 := by
    rw [← Nat.shiftLeft_add_eq_or_of_lt (by rw [Nat.shiftLeft_eq]; omega)]
    simp only [Nat.shiftLeft_eq]
    omega
  rw [h1, h2, h3, ← Nat.shiftLeft_add_eq_or_of_lt (by omega), Nat.shiftLeft_eq]
  omega

theorem base64UrlChar_index (bits : UInt32) {shift : Nat} (h : shift < 32) :
    base64UrlChar bits (UInt32.ofNat shift) =
      base64UrlAlphabet.getD (bits.toNat / 2 ^ shift % 64) 0 := by
  rw [base64UrlChar, toNat_six_bits bits h]

theorem toUInt8_eq {accumulator : UInt32} {shift : Nat} {byte : UInt8} (hshift : shift < 32)
    (h : accumulator.toNat / 2 ^ shift % 256 = byte.toNat) :
    (accumulator >>> UInt32.ofNat shift).toUInt8 = byte := by
  apply UInt8.toNat_inj.1
  rw [toNat_byte accumulator hshift, h]

/-- Four characters that leave three bytes. -/
theorem loop_four {d0 d1 d2 d3 : Nat} (h0 : d0 < 64) (h1 : d1 < 64) (h2 : d2 < 64) (h3 : d3 < 64)
    {a b c : UInt8} (ha : d0 * 4 + d1 / 16 = a.toNat) (hb : d1 % 16 * 16 + d2 / 4 = b.toNat)
    (hc : d2 % 4 * 64 + d3 = c.toNat) (value : JsString) (accumulator : UInt32)
    (output : List UInt8) :
    ∃ accumulator', decodeBase64UrlLoop
        (base64UrlAlphabet.getD d0 0 :: base64UrlAlphabet.getD d1 0 ::
          base64UrlAlphabet.getD d2 0 :: base64UrlAlphabet.getD d3 0 :: value) accumulator 0 output =
      decodeBase64UrlLoop value accumulator' 0 (output ++ [a, b, c]) := by
  have hp0 : (push accumulator d0).toNat = _ := toNat_push accumulator h0
  have hp1 : (push (push accumulator d0) d1).toNat = _ := toNat_push (push accumulator d0) h1
  have hp2 : (push (push (push accumulator d0) d1) d2).toNat = _ :=
    toNat_push (push (push accumulator d0) d1) h2
  have hp3 : (push (push (push (push accumulator d0) d1) d2) d3).toNat = _ :=
    toNat_push (push (push (push accumulator d0) d1) d2) h3
  have hbyte1 : (push (push accumulator d0) d1 >>> UInt32.ofNat 4).toUInt8 = a :=
    toUInt8_eq (by decide) (by omega)
  have hbyte2 : (push (push (push accumulator d0) d1) d2 >>> UInt32.ofNat 2).toUInt8 = b :=
    toUInt8_eq (by decide) (by omega)
  have hbyte3 : (push (push (push (push accumulator d0) d1) d2) d3 >>>
      UInt32.ofNat 0).toUInt8 = c := toUInt8_eq (by decide) (by omega)
  refine ⟨push (push (push (push accumulator d0) d1) d2) d3, ?_⟩
  rw [loop_keep h0, loop_write h1, loop_write h2, loop_write h3, hbyte1, hbyte2, hbyte3]
  simp

/-- The loop gives back the encoded bytes, and what is left of the accumulator is zero. -/
theorem loop_encode (bytes : List UInt8) (accumulator : UInt32) (output : List UInt8) :
    ∃ accumulator' bits, decodeBase64UrlLoop (encodeBase64UrlCanonical bytes) accumulator 0 output =
      .ok (accumulator', bits, output ++ bytes) ∧ bits < 8 ∧
        accumulator'.toNat % 2 ^ bits = 0 := by
  fun_induction encodeBase64UrlCanonical bytes generalizing accumulator output with
  | case1 a b c rest bits ih =>
    have ha : a.toNat < 256 := a.toNat_lt
    have hb : b.toNat < 256 := b.toNat_lt
    have hc : c.toNat < 256 := c.toNat_lt
    have hbits : bits.toNat = a.toNat * 65536 + b.toNat * 256 + c.toNat := toNat_three a b c
    have h18 : base64UrlChar bits 18 = base64UrlAlphabet.getD (bits.toNat / 2 ^ 18 % 64) 0 :=
      base64UrlChar_index bits (by decide)
    have h12 : base64UrlChar bits 12 = base64UrlAlphabet.getD (bits.toNat / 2 ^ 12 % 64) 0 :=
      base64UrlChar_index bits (by decide)
    have h6 : base64UrlChar bits 6 = base64UrlAlphabet.getD (bits.toNat / 2 ^ 6 % 64) 0 :=
      base64UrlChar_index bits (by decide)
    have h0 : base64UrlChar bits 0 = base64UrlAlphabet.getD (bits.toNat / 2 ^ 0 % 64) 0 :=
      base64UrlChar_index bits (by decide)
    have hfirst : bits.toNat / 2 ^ 18 % 64 * 4 + bits.toNat / 2 ^ 12 % 64 / 16 = a.toNat := by omega
    have hsecond : bits.toNat / 2 ^ 12 % 64 % 16 * 16 + bits.toNat / 2 ^ 6 % 64 / 4 = b.toNat := by
      omega
    have hthird : bits.toNat / 2 ^ 6 % 64 % 4 * 64 + bits.toNat / 2 ^ 0 % 64 = c.toNat := by omega
    obtain ⟨accumulator₁, hfour⟩ := loop_four (by omega) (by omega) (by omega) (by omega)
      hfirst hsecond hthird (encodeBase64UrlCanonical rest) accumulator output
    obtain ⟨accumulator₂, left, hrest, hleft⟩ := ih accumulator₁ (output ++ [a, b, c])
    refine ⟨accumulator₂, left, ?_, hleft⟩
    rw [h18, h12, h6, h0]
    show decodeBase64UrlLoop (_ :: _ :: _ :: _ :: encodeBase64UrlCanonical rest) _ _ _ = _
    rw [hfour, hrest, List.append_assoc]
    rfl
  | case2 a b bits =>
    have ha : a.toNat < 256 := a.toNat_lt
    have hb : b.toNat < 256 := b.toNat_lt
    have hbits : bits.toNat = a.toNat * 65536 + b.toNat * 256 := by
      have h := toNat_three a b 0
      simpa [bits] using h
    have h18 : base64UrlChar bits 18 = base64UrlAlphabet.getD (bits.toNat / 2 ^ 18 % 64) 0 :=
      base64UrlChar_index bits (by decide)
    have h12 : base64UrlChar bits 12 = base64UrlAlphabet.getD (bits.toNat / 2 ^ 12 % 64) 0 :=
      base64UrlChar_index bits (by decide)
    have h6 : base64UrlChar bits 6 = base64UrlAlphabet.getD (bits.toNat / 2 ^ 6 % 64) 0 :=
      base64UrlChar_index bits (by decide)
    have hp0 : (push accumulator (bits.toNat / 2 ^ 18 % 64)).toNat = _ :=
      toNat_push accumulator (by omega)
    have hp1 : (push (push accumulator (bits.toNat / 2 ^ 18 % 64))
      (bits.toNat / 2 ^ 12 % 64)).toNat = _ := toNat_push _ (by omega)
    have hp2 : (push (push (push accumulator (bits.toNat / 2 ^ 18 % 64))
      (bits.toNat / 2 ^ 12 % 64)) (bits.toNat / 2 ^ 6 % 64)).toNat = _ := toNat_push _ (by omega)
    have hbyte1 : (push (push accumulator (bits.toNat / 2 ^ 18 % 64))
        (bits.toNat / 2 ^ 12 % 64) >>> UInt32.ofNat 4).toUInt8 = a :=
      toUInt8_eq (by decide) (by omega)
    have hbyte2 : (push (push (push accumulator (bits.toNat / 2 ^ 18 % 64))
        (bits.toNat / 2 ^ 12 % 64)) (bits.toNat / 2 ^ 6 % 64) >>> UInt32.ofNat 2).toUInt8 = b :=
      toUInt8_eq (by decide) (by omega)
    refine ⟨push (push (push accumulator (bits.toNat / 2 ^ 18 % 64)) (bits.toNat / 2 ^ 12 % 64))
      (bits.toNat / 2 ^ 6 % 64), 2, ?_, by decide, ?_⟩
    · rw [h18, h12, h6, loop_keep (by omega), loop_write (by omega), loop_write (by omega), hbyte1,
        hbyte2, decodeBase64UrlLoop, List.append_assoc]
      rfl
    · rw [hp2]
      omega
  | case3 a bits =>
    have ha : a.toNat < 256 := a.toNat_lt
    have hbits : bits.toNat = a.toNat * 65536 := by
      have h := toNat_three a 0 0
      simpa [bits] using h
    have h18 : base64UrlChar bits 18 = base64UrlAlphabet.getD (bits.toNat / 2 ^ 18 % 64) 0 :=
      base64UrlChar_index bits (by decide)
    have h12 : base64UrlChar bits 12 = base64UrlAlphabet.getD (bits.toNat / 2 ^ 12 % 64) 0 :=
      base64UrlChar_index bits (by decide)
    have hp0 : (push accumulator (bits.toNat / 2 ^ 18 % 64)).toNat = _ :=
      toNat_push accumulator (by omega)
    have hp1 : (push (push accumulator (bits.toNat / 2 ^ 18 % 64))
      (bits.toNat / 2 ^ 12 % 64)).toNat = _ := toNat_push _ (by omega)
    have hbyte1 : (push (push accumulator (bits.toNat / 2 ^ 18 % 64))
        (bits.toNat / 2 ^ 12 % 64) >>> UInt32.ofNat 4).toUInt8 = a :=
      toUInt8_eq (by decide) (by omega)
    refine ⟨push (push accumulator (bits.toNat / 2 ^ 18 % 64)) (bits.toNat / 2 ^ 12 % 64), 4, ?_,
      by decide, ?_⟩
    · rw [h18, h12, loop_keep (by omega), loop_write (by omega), hbyte1, decodeBase64UrlLoop]
    · rw [hp1]
      omega
  | case4 => exact ⟨accumulator, 0, by simp [decodeBase64UrlLoop], by decide, by simp [Nat.mod_one]⟩

theorem encode_length_mod (bytes : List UInt8) :
    (encodeBase64UrlCanonical bytes).length % 4 ≠ 1 := by
  fun_induction encodeBase64UrlCanonical bytes with
  | case1 a b c rest bits ih =>
    simp only [List.length_append, List.length_cons, List.length_nil]
    omega
  | case2 => simp
  | case3 => simp
  | case4 => simp

theorem toNat_mask : ∀ bits < 8, ((1 <<< UInt32.ofNat bits) - 1 : UInt32).toNat = 2 ^ bits - 1 := by
  decide

/-- The bits that are left over are checked against a mask. -/
theorem trailing_zero {accumulator : UInt32} {bits : Nat} (hbits : bits < 8)
    (h : accumulator.toNat % 2 ^ bits = 0) :
    accumulator &&& ((1 <<< UInt32.ofNat bits) - 1) = 0 := by
  apply UInt32.toNat_inj.1
  rw [UInt32.toNat_and, toNat_mask bits hbits, Nat.and_two_pow_sub_one_eq_mod, h]
  rfl

/-- **Decoding gives back what was encoded.** -/
theorem decode_encodeBase64Url (bytes : List UInt8) {expectedLength : Option Nat}
    (h : ∀ length, expectedLength = some length → bytes.length = length) :
    decodeBase64UrlCanonical (encodeBase64UrlCanonical bytes) expectedLength = .ok bytes := by
  obtain ⟨accumulator, bits, hloop, hbits, hzero⟩ := loop_encode bytes 0 []
  rw [decodeBase64UrlCanonical, require_bind]
  refine ⟨by simpa using encode_length_mod bytes, ?_⟩
  rw [hloop, List.nil_append]
  refine require_bind.2 ⟨by simp [trailing_zero hbits hzero], ?_⟩
  refine require_bind.2 ⟨by simp, ?_⟩
  cases expectedLength with
  | none => rfl
  | some length => exact require_bind.2 ⟨by simp [h length rfl], rfl⟩

/-- **Different bytes have different encodings.** -/
theorem encodeBase64Url_injective {bytes bytes' : List UInt8}
    (h : encodeBase64UrlCanonical bytes = encodeBase64UrlCanonical bytes') : bytes = bytes' := by
  have hdecode : decodeBase64UrlCanonical (encodeBase64UrlCanonical bytes) none = .ok bytes :=
    decode_encodeBase64Url bytes (by simp)
  rw [h, decode_encodeBase64Url bytes' (by simp)] at hdecode
  exact (Except.ok.inj hdecode).symm

end M5Auth.Web
