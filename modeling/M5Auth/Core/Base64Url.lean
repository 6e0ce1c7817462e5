import M5Auth.Core.Bytes

/-!
# Canonical base64url (RFC 4648, no padding)

`base64urlEncode` and `base64urlDecode` of the session component. Decoding keeps a 32-bit
accumulator, rejects non-zero trailing bits, and finally re-encodes its output and compares: what
it accepts is exactly the encoding of what it returns (`base64urlDecode_canonical`).
-/

namespace M5Auth

/-- `kAlphabet`. -/
def alphabet : Text := ascii "ABCDEFGHIJKLMNOPQRSTUVWXYZabcdefghijklmnopqrstuvwxyz0123456789-_"

/-- The alphabet character of the six low bits of `bits >> shift`. -/
def alphabetAt (bits : UInt32) (shift : UInt32) : UInt8 :=
  alphabet.getD ((bits >>> shift) &&& 0x3f).toNat 0

/-- `decode_char`: the six bits of an alphabet character. -/
def decodeChar (value : UInt8) : Option UInt32 :=
  if 65 ≤ value ∧ value ≤ 90 then some (value.toUInt32 - 65)
  else if 97 ≤ value ∧ value ≤ 122 then some (value.toUInt32 - 97 + 26)
  else if 48 ≤ value ∧ value ≤ 57 then some (value.toUInt32 - 48 + 52)
  else if value = 45 then some 62
  else if value = 95 then some 63
  else none

def base64urlEncode : List UInt8 → Text
  | a :: b :: c :: rest =>
    let bits := (a.toUInt32 <<< 16) ||| (b.toUInt32 <<< 8) ||| c.toUInt32
    [alphabetAt bits 18, alphabetAt bits 12, alphabetAt bits 6, alphabetAt bits 0] ++
      base64urlEncode rest
  | [a, b] =>
    let bits := (a.toUInt32 <<< 16) ||| (b.toUInt32 <<< 8)
    [alphabetAt bits 18, alphabetAt bits 12, alphabetAt bits 6]
  | [a] =>
    let bits := a.toUInt32 <<< 16
    [alphabetAt bits 18, alphabetAt bits 12]
  | [] => []

/-- The decoding loop: `accumulator`, the number of its `bits` not yet written, and the output. -/
def decodeLoop : Text → UInt32 → UInt32 → List UInt8 → Option (UInt32 × UInt32 × List UInt8)
  | [], accumulator, bits, output => some (accumulator, bits, output)
  | ch :: value, accumulator, bits, output =>
    match decodeChar ch with
    | none => none
    | some decoded =>
      let accumulator := (accumulator <<< 6) ||| decoded
      let bits := bits + 6
      if 8 ≤ bits then
        let bits := bits - 8
        decodeLoop value accumulator bits (output ++ [(accumulator >>> bits).toUInt8])
      else
        decodeLoop value accumulator bits output

def base64urlDecode (value : Text) : Option (List UInt8) :=
  if value.length % 4 = 1 then none
  else
    match decodeLoop value 0 0 [] with
    | none => none
    | some (accumulator, bits, output) =>
      if 0 < bits ∧ accumulator &&& ((1 <<< bits) - 1) ≠ 0 then none
      else if base64urlEncode output ≠ value then none
      else some output

/-- An accepted text is the encoding of the bytes it decodes to. -/
theorem base64urlDecode_canonical {value : Text} {bytes : List UInt8}
    (h : base64urlDecode value = some bytes) : base64urlEncode bytes = value := by
  unfold base64urlDecode at h
  split at h
  · simp at h
  · split at h
    · simp at h
    · split at h
      · simp at h
      · split at h
        · simp at h
        · rename_i hcanon
          cases h
          exact not_not.1 hcanon

end M5Auth
