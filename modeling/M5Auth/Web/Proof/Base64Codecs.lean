import M5Auth.Web.Base64Url
import Mathlib.Data.Nat.Digits.Defs
import Mathlib.Tactic.IntervalCases

/-!
# Both base64url codecs

`base64url_codecs_agree`: the firmware and the Web application encode alike, and each decoder accepts
exactly the encodings, and gives back the encoded bytes. The accumulator of the decoders keeps the
bits it has written, and loses them at its upper end; `loop_written` says that the bytes written so
far and the bits that are left are the text, read as a number, whatever its length.
-/

namespace M5Auth.Web

open Unicode

/-! ## Texts as numbers -/

/-- A text as the digits of a number; characters outside the alphabet count as 0. -/
def textDigits (value : JsString) : List Nat :=
  value.map fun char => (base64UrlAlphabet.idxOf? char).getD 0

/-- The number that the digits spell, the most significant digit first. -/
def numberOfDigits (base : Nat) (digits : List Nat) : Nat := Nat.ofDigits base digits.reverse

theorem numberOfDigits_concat (base : Nat) (digits : List Nat) (d : Nat) :
    numberOfDigits base (digits ++ [d]) = numberOfDigits base digits * base + d := by
  rw [numberOfDigits, List.reverse_append, List.reverse_singleton, List.singleton_append,
    Nat.ofDigits_cons, numberOfDigits, Nat.mul_comm, Nat.add_comm]

/-- The output of a decoder and the bits that are left in its accumulator are the text. -/
structure Written (value : JsString) (accumulator : UInt32) (bits : Nat) (output : List UInt8) :
    Prop where
  short : bits < 8
  length : 8 * output.length + bits = 6 * value.length
  number : numberOfDigits 64 (textDigits value) =
    numberOfDigits 256 (output.map (·.toNat)) * 2 ^ bits + accumulator.toNat % 2 ^ bits
  alphabet : ∀ char ∈ value, char ∈ base64UrlAlphabet

theorem idxOf_alphabet_some {char : UInt16} {decoded : Nat}
    (h : base64UrlAlphabet.idxOf? char = some decoded) :
    decoded < 64 ∧ char ∈ base64UrlAlphabet := by
  obtain ⟨hlt, hget, -⟩ := List.idxOf?_eq_some_iff.1 h
  refine ⟨by rwa [alphabet_length] at hlt, ?_⟩
  rw [← hget]
  exact List.getElem_mem hlt

/-! ## The loop -/

/-- One character: a digit is pushed, and a byte is written when eight bits are there. -/
theorem Written.push {seen : JsString} {accumulator : UInt32} {bits : Nat} {output : List UInt8}
    (h : Written seen accumulator bits output) {char : UInt16} {decoded : Nat}
    (hchar : base64UrlAlphabet.idxOf? char = some decoded) :
    if 8 ≤ bits + 6 then
      Written (seen ++ [char]) (push accumulator decoded) (bits + 6 - 8)
        (output ++ [(Web.push accumulator decoded >>> UInt32.ofNat (bits + 6 - 8)).toUInt8])
    else Written (seen ++ [char]) (Web.push accumulator decoded) (bits + 6) output := by
  obtain ⟨hshort, hlength, hnumber, hmem⟩ := h
  obtain ⟨hdecoded, hin⟩ := idxOf_alphabet_some hchar
  have hall : ∀ c ∈ seen ++ [char], c ∈ base64UrlAlphabet := by
    intro c hc
    rcases List.mem_append.1 hc with hc | hc
    · exact hmem c hc
    · rwa [List.mem_singleton.1 hc]
  have hdigits : numberOfDigits 64 (textDigits (seen ++ [char])) =
      numberOfDigits 64 (textDigits seen) * 64 + decoded := by
    have hmap : textDigits (seen ++ [char]) = textDigits seen ++ [decoded] := by
      simp [textDigits, hchar]
    rw [hmap, numberOfDigits_concat]
  have hpush : (Web.push accumulator decoded).toNat =
      accumulator.toNat * 64 % 4294967296 + decoded := toNat_push accumulator hdecoded
  split
  · rename_i hfull
    refine ⟨by omega, ?_, ?_, hall⟩
    · simp only [List.length_append, List.length_singleton]
      omega
    · rw [hdigits, hnumber, List.map_append, List.map_singleton, numberOfDigits_concat,
        toNat_byte _ (by omega), hpush]
      generalize numberOfDigits 256 (output.map (·.toNat)) = written
      interval_cases bits <;> omega
  · rename_i hfull
    refine ⟨by omega, ?_, ?_, hall⟩
    · simp only [List.length_append, List.length_singleton]
      omega
    · rw [hdigits, hnumber, hpush]
      generalize numberOfDigits 256 (output.map (·.toNat)) = written
      interval_cases bits <;> omega

/-- **No output byte is corrupted**, however long the text is. -/
theorem loop_written {value seen : JsString} {accumulator accumulator' : UInt32} {bits bits' : Nat}
    {output output' : List UInt8} (h : Written seen accumulator bits output)
    (hloop : decodeBase64UrlLoop value accumulator bits output = .ok (accumulator', bits', output')) :
    Written (seen ++ value) accumulator' bits' output' := by
  induction value generalizing seen accumulator bits output with
  | nil =>
    cases hloop
    rwa [List.append_nil]
  | cons char value ih =>
    unfold decodeBase64UrlLoop at hloop
    cases hchar : base64UrlAlphabet.idxOf? char with
    | none =>
      rw [hchar] at hloop
      cases hloop
    | some decoded =>
      rw [hchar] at hloop
      have hpush := h.push hchar
      rw [← List.singleton_append, ← List.append_assoc]
      dsimp only at hloop
      split at hloop
      · rename_i hfull
        rw [if_pos hfull] at hpush
        exact ih hpush hloop
      · rename_i hfull
        rw [if_neg hfull] at hpush
        exact ih hpush hloop

theorem written_nil : Written [] 0 0 [] :=
  ⟨by decide, rfl, rfl, fun _ h => by cases h⟩

/-! ## The firmware's loop -/

/-- The number of an ASCII character in the alphabet. -/
theorem idxOf_alphabetCodes (n : Nat) : alphabetCodes.idxOf? n =
    if 65 ≤ n ∧ n ≤ 90 then some (n - 65)
    else if 97 ≤ n ∧ n ≤ 122 then some (n - 97 + 26)
    else if 48 ≤ n ∧ n ≤ 57 then some (n - 48 + 52)
    else if n = 45 then some 62
    else if n = 95 then some 63
    else none := by
  rw [alphabetCodes, idxOf?_append, idxOf?_append, idxOf?_append, idxOf?_range', idxOf?_range',
    idxOf?_range']
  simp only [List.idxOf?_cons, List.idxOf?_nil, List.length_append, List.length_range', beq_iff_eq]
  grind

theorem decodeChar_eq (ch : UInt8) :
    decodeChar ch = (base64UrlAlphabet.idxOf? ch.toUInt16).map UInt32.ofNat := by
  have hcodes : ∀ code ∈ alphabetCodes, code < 65536 := by decide
  have hlt := ch.toNat_lt
  have hindex : base64UrlAlphabet.idxOf? ch.toUInt16 = alphabetCodes.idxOf? ch.toNat := by
    rw [base64UrlAlphabet_codes, ← idxOf?_map_ofNat hcodes (by omega),
      UInt16.ofNat_uInt8ToNat]
  have hsub {first : Nat} (h : first ≤ ch.toNat) :
      UInt32.ofNat (ch.toNat - first) = ch.toUInt32 - UInt32.ofNat first := by
    rw [UInt32.ofNat_sub h, UInt32.ofNat_uInt8ToNat]
  rw [hindex, idxOf_alphabetCodes, decodeChar]
  simp only [UInt8.le_iff_toNat_le, ← UInt8.toNat_inj, UInt8.reduceToNat]
  split_ifs with hcapital hsmall hdigit <;>
    simp only [Option.map_some, Option.map_none, UInt32.ofNat_add]
  · rw [hsub hcapital.1]
    rfl
  · rw [hsub hsmall.1]
    rfl
  · rw [hsub hdigit.1]
    rfl
  · rfl
  · rfl

/-- Both loops do the same. -/
theorem decodeLoop_eq (value : Text) (accumulator : UInt32) {bits : Nat} (hbits : bits < 8)
    (output : List UInt8) :
    decodeLoop value accumulator (UInt32.ofNat bits) output =
      (decodeBase64UrlLoop (value.map (·.toUInt16)) accumulator bits output).toOption.map
        fun (accumulator, bits, output) => (accumulator, UInt32.ofNat bits, output) := by
  induction value generalizing accumulator bits output with
  | nil => rfl
  | cons ch value ih =>
    rw [List.map_cons, decodeLoop, decodeBase64UrlLoop, decodeChar_eq]
    cases base64UrlAlphabet.idxOf? ch.toUInt16 with
    | none => rfl
    | some decoded =>
      dsimp only [Option.map_some]
      have hadd : UInt32.ofNat bits + 6 = UInt32.ofNat (bits + 6) := (UInt32.ofNat_add bits 6).symm
      have hle : (8 : UInt32) ≤ UInt32.ofNat (bits + 6) ↔ 8 ≤ bits + 6 := by
        rw [UInt32.le_iff_toNat_le, UInt32.toNat_ofNat', Nat.mod_eq_of_lt (by omega)]
        rfl
      rw [hadd]
      by_cases hfull : 8 ≤ bits + 6
      · have hsub : UInt32.ofNat (bits + 6) - 8 = UInt32.ofNat (bits + 6 - 8) :=
          (UInt32.ofNat_sub hfull).symm
        rw [if_pos hfull, if_pos (hle.2 hfull), hsub]
        exact ih _ (by omega) _
      · rw [if_neg hfull, if_neg fun h => hfull (hle.1 h)]
        exact ih _ (by omega) _

/-- The firmware's accumulator keeps its bits as well. -/
theorem decodeLoop_written {value : Text} {accumulator bits : UInt32} {output : List UInt8}
    (h : decodeLoop value 0 0 [] = some (accumulator, bits, output)) :
    Written (value.map (·.toUInt16)) accumulator bits.toNat output := by
  have hboth := decodeLoop_eq value 0 (show 0 < 8 by decide) []
  rw [show UInt32.ofNat 0 = 0 from rfl, h] at hboth
  cases hloop : decodeBase64UrlLoop (value.map (·.toUInt16)) 0 0 [] with
  | error e =>
    rw [hloop] at hboth
    cases hboth
  | ok r =>
    obtain ⟨accumulator', bits', output'⟩ := r
    rw [hloop] at hboth
    obtain ⟨rfl, rfl, rfl⟩ : accumulator = accumulator' ∧ bits = UInt32.ofNat bits' ∧
        output = output' := by
      simpa [Except.toOption] using hboth
    have hwritten := loop_written written_nil hloop
    rw [List.nil_append] at hwritten
    have hbits : (UInt32.ofNat bits').toNat = bits' := by
      rw [UInt32.toNat_ofNat']
      have hshort := hwritten.short
      omega
    rwa [hbits]

/-! ## The decoders -/

/-- The Web application accepts the encodings. -/
theorem decodeBase64Url_iff {value : JsString} {bytes : List UInt8} :
    decodeBase64UrlCanonical value none = .ok bytes ↔ value = encodeBase64UrlCanonical bytes := by
  constructor
  · intro h
    rw [decodeBase64UrlCanonical, require_bind] at h
    obtain ⟨⟨accumulator, bits, decoded⟩, -, h⟩ := bind_ok.1 h.2
    obtain ⟨-, h⟩ := require_bind.1 h
    obtain ⟨hsame, h⟩ := require_bind.1 h
    cases h
    exact (beq_iff_eq.1 hsame).symm
  · intro h
    rw [h]
    exact decode_encodeBase64Url bytes (by simp)

/-- The firmware accepts the encodings. -/
theorem base64urlDecode_encode (bytes : List UInt8) :
    base64urlDecode (base64urlEncode bytes) = some bytes := by
  obtain ⟨accumulator, bits, hweb, hbits, hzero⟩ := loop_encode bytes 0 []
  have hlength : (base64urlEncode bytes).length % 4 ≠ 1 := by
    have h := encode_length_mod bytes
    rwa [encodeBase64Url_eq, List.length_map] at h
  have hloop : decodeLoop (base64urlEncode bytes) 0 0 [] =
      some (accumulator, UInt32.ofNat bits, bytes) := by
    have h := decodeLoop_eq (base64urlEncode bytes) 0 (show 0 < 8 by decide) []
    rw [← encodeBase64Url_eq, hweb] at h
    exact h
  unfold base64urlDecode
  rw [if_neg hlength, hloop]
  dsimp only
  rw [if_neg, if_neg fun h => h rfl]
  exact fun h => h.2 (trailing_zero hbits hzero)

theorem base64urlDecode_iff {value : Text} {bytes : List UInt8} :
    base64urlDecode value = some bytes ↔ value = base64urlEncode bytes := by
  constructor
  · exact fun h => (base64urlDecode_canonical h).symm
  · intro h
    rw [h, base64urlDecode_encode]

/-- A text that both sides are given, in their own encodings. -/
theorem decoders_agree_on (text : List Char) :
    base64urlDecode (encodeUtf8 text) =
      (decodeBase64UrlCanonical (encodeUtf16 text) none).toOption := by
  have hspell : ∀ bytes, encodeUtf8 text = base64urlEncode bytes ↔
      encodeUtf16 text = encodeBase64UrlCanonical bytes := by
    intro bytes
    obtain ⟨h8, h16⟩ := spell_ascii (base64urlEncode_ascii bytes)
    rw [encodeBase64Url_eq, ← h16]
    constructor
    · intro h
      rw [encodeUtf8_injective (h.trans h8.symm)]
    · intro h
      have hscalars := congrArg scalars h
      rw [scalars_encodeUtf16, scalars_encodeUtf16] at hscalars
      rw [hscalars, h8]
  cases hweb : decodeBase64UrlCanonical (encodeUtf16 text) none with
  | ok bytes => exact base64urlDecode_iff.2 ((hspell bytes).2 (decodeBase64Url_iff.1 hweb))
  | error e =>
    cases hfirmware : base64urlDecode (encodeUtf8 text) with
    | none => rfl
    | some bytes =>
      have hok := decodeBase64Url_iff.2 ((hspell bytes).1 (base64urlDecode_iff.1 hfirmware))
      rw [hweb] at hok
      cases hok

/-! ## Refused texts -/

/-- A text that encodes nothing: of an impossible length, with a character that is not in the
alphabet (the padding is not), or with bits behind the last byte. -/
inductive Malformed (value : JsString) : Prop where
  | length (h : value.length % 4 = 1)
  | foreign (char : UInt16) (hmem : char ∈ value) (h : char ∉ base64UrlAlphabet)
  | trailing (h : numberOfDigits 64 (textDigits value) % 2 ^ (6 * value.length % 8) ≠ 0)

/-- What the loop makes of an encoding. -/
theorem written_encode (bytes : List UInt8) :
    ∃ accumulator bits, Written (encodeBase64UrlCanonical bytes) accumulator bits bytes ∧
      accumulator.toNat % 2 ^ bits = 0 := by
  obtain ⟨accumulator, bits, hloop, -, hzero⟩ := loop_encode bytes 0 []
  refine ⟨accumulator, bits, ?_, hzero⟩
  have hwritten := loop_written written_nil hloop
  simpa using hwritten

theorem Malformed.ne_encode {value : JsString} (h : Malformed value) (bytes : List UInt8) :
    value ≠ encodeBase64UrlCanonical bytes := by
  rintro rfl
  obtain ⟨accumulator, bits, hwritten, hzero⟩ := written_encode bytes
  cases h with
  | length h => exact encode_length_mod bytes h
  | foreign char hmem h => exact h (hwritten.alphabet char hmem)
  | trailing h =>
    have hbits : 6 * (encodeBase64UrlCanonical bytes).length % 8 = bits := by
      have hshort := hwritten.short
      have hlength := hwritten.length
      omega
    rw [hbits, hwritten.number, hzero, Nat.add_zero] at h
    exact h (Nat.mul_mod_left _ _)

/-- The padding is no character of the alphabet. -/
example : (literal "=").all (· ∉ base64UrlAlphabet) := by
  rw [base64UrlAlphabet_codes]
  decide

/-! ## Both codecs -/

/-- What the two codecs do for every text and every byte string. -/
structure CodecsAgree : Prop where
  encode : ∀ bytes, encodeBase64UrlCanonical bytes = (base64urlEncode bytes).map (·.toUInt16)
  firmwareInverse : ∀ bytes, base64urlDecode (base64urlEncode bytes) = some bytes
  webInverse : ∀ bytes, decodeBase64UrlCanonical (encodeBase64UrlCanonical bytes) none = .ok bytes
  firmwareAccepts : ∀ value bytes, base64urlDecode value = some bytes ↔
    value = base64urlEncode bytes
  webAccepts : ∀ value bytes, decodeBase64UrlCanonical value none = .ok bytes ↔
    value = encodeBase64UrlCanonical bytes
  sameText : ∀ text, base64urlDecode (encodeUtf8 text) =
    (decodeBase64UrlCanonical (encodeUtf16 text) none).toOption
  firmwareRefuses : ∀ value : Text, Malformed (value.map (·.toUInt16)) →
    base64urlDecode value = none
  webRefuses : ∀ value, Malformed value → (decodeBase64UrlCanonical value none).toOption = none
  firmwareLoop : ∀ value accumulator bits output,
    decodeLoop value 0 0 [] = some (accumulator, bits, output) →
      Written (value.map (·.toUInt16)) accumulator bits.toNat output
  webLoop : ∀ value accumulator bits output,
    decodeBase64UrlLoop value 0 0 [] = .ok (accumulator, bits, output) →
      Written value accumulator bits output

/-- **The codecs are canonical, and they are the same.** -/
theorem base64url_codecs_agree : CodecsAgree where
  encode := encodeBase64Url_eq
  firmwareInverse := base64urlDecode_encode
  webInverse := fun bytes => decode_encodeBase64Url bytes (by simp)
  firmwareAccepts := fun _ _ => base64urlDecode_iff
  webAccepts := fun _ _ => decodeBase64Url_iff
  sameText := decoders_agree_on
  firmwareRefuses := by
    intro value h
    cases hdecode : base64urlDecode value with
    | none => rfl
    | some bytes =>
      refine absurd ?_ (h.ne_encode bytes)
      rw [base64urlDecode_iff.1 hdecode, encodeBase64Url_eq]
  webRefuses := by
    intro value h
    cases hdecode : decodeBase64UrlCanonical value none with
    | error e => rfl
    | ok bytes => exact absurd (decodeBase64Url_iff.1 hdecode) (h.ne_encode bytes)
  firmwareLoop := fun _ _ _ _ h => decodeLoop_written h
  webLoop := by
    intro value accumulator bits output h
    have hwritten := loop_written written_nil h
    rwa [List.nil_append] at hwritten

end M5Auth.Web
