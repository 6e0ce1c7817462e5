import M5Auth.Lib.BitGroups
import M5Auth.Lib.UpperCase
import M5Auth.Web.Import.Otpauth
import M5Auth.Web.Passphrase

/-!
# Base32 secrets

`encodeBase32Secret`, the case mapping that `decodeBase32Secret` runs first, and what both are for:
`base32` is the encoding that RFC 4648 defines, by bits.
-/

namespace M5Auth.Web.Import

open BitGroups

/-! ## Case mapping -/

/-- The number of a code point. -/
def codePointAt : JsString → Nat
  | [lead, trail] => 0x10000 + (lead.toNat - 0xd800) * 0x400 + (trail.toNat - 0xdc00)
  | point => (point.headD 0).toNat

/-- `String.fromCodePoint`. -/
def fromCodePoint (c : Nat) : JsString :=
  if c < 0x10000 then [UInt16.ofNat c]
  else [UInt16.ofNat (0xd800 + (c - 0x10000) / 0x400), UInt16.ofNat (0xdc00 + (c - 0x10000) % 0x400)]

/-- `String.prototype.toUpperCase`. A lone surrogate is mapped to itself. -/
def toUpperCase (value : JsString) : JsString :=
  (codePoints value).flatMap fun point =>
    (Unicode.upperCase (codePointAt point)).flatMap fromCodePoint

/-! ## The encoder -/

/-- The letter of a group of five bits. -/
def base32Letter (index : Nat) : UInt16 := base32Alphabet.getD index 0

/-- `while (bits >= 5)`: the output, and the buffer with its number of bits. -/
def drainBase32 (output : JsString) (buffer : Nat) : Nat → JsString × Nat × Nat
  | bits + 5 =>
    drainBase32 (output ++ [base32Letter ((buffer >>> bits) &&& 0x1f)])
      (buffer &&& ((1 <<< bits) - 1)) bits
  | bits => (output, buffer, bits)

/-- The loop over the bytes. -/
def encodeBase32Loop : List UInt8 → JsString → Nat → Nat → JsString × Nat × Nat
  | [], output, buffer, bits => (output, buffer, bits)
  | byte :: rest, output, buffer, bits =>
    let (output, buffer, bits) := drainBase32 output ((buffer <<< 8) ||| byte.toNat) (bits + 8)
    encodeBase32Loop rest output buffer bits

/-- `encodeBase32Secret`. -/
def encodeBase32Secret (value : List UInt8) : Except ImportError JsString :=
  if value.length = 0 then .error ⟨"The imported TOTP secret is empty."⟩
  else
    let (output, buffer, bits) := encodeBase32Loop value [] 0 0
    if bits > 0 then .ok (output ++ [base32Letter ((buffer <<< (5 - bits)) &&& 0x1f)])
    else .ok output

/-! ## The encoding of RFC 4648 -/

/-- The bits of the bytes. -/
def byteBits (bytes : List UInt8) : List Bool := bytes.flatMap fun byte => bits 8 byte.toNat

/-- The encoding without padding: the bits in groups of five, the last one filled with zeros. -/
def base32 (bytes : List UInt8) : JsString := (groups 5 (byteBits bytes)).map base32Letter

/-- The padding to a multiple of eight characters. -/
def base32Padding (bytes : List UInt8) : JsString :=
  List.replicate ((8 - (base32 bytes).length % 8) % 8) 0x3d

/-- The text is the encoding, without padding or with all of it. -/
def IsBase32 (text : JsString) (bytes : List UInt8) : Prop :=
  text = base32 bytes ∨ text = base32 bytes ++ base32Padding bytes

/-- The ASCII letters as capitals, every other character as it is. -/
def asciiUpper (value : JsString) : JsString :=
  value.map fun unit => if 97 ≤ unit && unit ≤ 122 then unit - 32 else unit

/-- The ASCII letters that a character outside ASCII has as its upper case; any other character
stands for itself. -/
def asciiForm (unit : UInt16) : JsString :=
  match Unicode.asciiForms.lookup unit.toNat with
  | some letters => letters.map UInt16.ofNat
  | none => [unit]

/-- The character is outside ASCII and has ASCII letters as its upper case. -/
def isAsciiForm (unit : UInt16) : Bool := (Unicode.asciiForms.lookup unit.toNat).isSome

/-- What `decodeBase32Secret` reads: capitals in the place of all those characters. -/
def asciiLetters (value : JsString) : JsString := asciiUpper (value.flatMap asciiForm)

end M5Auth.Web.Import
