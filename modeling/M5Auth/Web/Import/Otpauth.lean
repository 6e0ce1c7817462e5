import M5Auth.Web.Import.Accounts

/-!
# Standard TOTP URIs

`parseStandardTotpUri` and the Base32 decoder of its secret.
-/

namespace M5Auth.Web.Import

/-! ## Base32 -/

def base32Alphabet : JsString := literal "ABCDEFGHIJKLMNOPQRSTUVWXYZ234567"

/-- The padding that a number of characters over the last group of eight needs. -/
def requiredPaddingByRemainder : Nat → Option Nat
  | 0 => some 0
  | 2 => some 6
  | 4 => some 4
  | 5 => some 3
  | 7 => some 1
  | _ => none

/-- The loop over the characters: the bytes written, the bits kept and their number. -/
def decodeBase32Loop : JsString → List UInt8 → Nat → Nat → Option (List UInt8 × Nat × Nat)
  | [], output, buffer, bits => some (output, buffer, bits)
  | character :: rest, output, buffer, bits => do
    let valueIndex ← base32Alphabet.idxOf? character
    let buffer := buffer * 32 + valueIndex
    let bits := bits + 5
    -- At most 12 bits are held, so the inner loop writes one byte at most.
    if bits ≥ 8 then
      decodeBase32Loop rest (output ++ [UInt8.ofNat (buffer / 2 ^ (bits - 8))])
        (buffer % 2 ^ (bits - 8)) (bits - 8)
    else decodeBase32Loop rest output buffer bits

/-- `decodeBase32Secret`. -/
def decodeBase32Secret (toUpperCase : JsString → JsString) (value : JsString) :
    Except ImportError (List UInt8) :=
  let invalid := ⟨"The QR code contains an invalid TOTP secret encoding."⟩
  let normalized := toUpperCase value
  let data := normalized.takeWhile (· != 0x3d)
  let padding := normalized.dropWhile (· != 0x3d)
  if data.length = 0 ∨ data.any (fun unit => !base32Alphabet.contains unit) ∨
      padding.any (· != 0x3d) ∨ requiredPaddingByRemainder (data.length % 8) = none ∨
      (padding.length > 0 ∧ requiredPaddingByRemainder (data.length % 8) ≠ some padding.length) then
    .error invalid
  else
    match decodeBase32Loop data [] 0 0 with
    | none => .error invalid
    | some (output, buffer, bits) =>
      if bits > 0 ∧ buffer ≠ 0 then .error invalid
      else if output.length = 0 then .error invalid
      else .ok output

/-! ## The URI -/

/-- `getSingleParameter`. -/
def getSingleParameter (url : Url) (name : String) (required : Bool) :
    Except ImportError (Option JsString) :=
  match url.getAll (literal name) with
  | [] =>
    if required then .error ⟨"The TOTP QR code is missing required " ++ name ++ " metadata."⟩
    else .ok none
  | [value] =>
    if required && value.isEmpty then
      .error ⟨"The TOTP QR code is missing required " ++ name ++ " metadata."⟩
    else .ok (some value)
  | _ => .error ⟨"The TOTP QR code contains duplicate " ++ name ++ " metadata."⟩

/-- `if (!condition) throw new ImportError(message)`. -/
def demand (condition : Bool) (message : String) : Except ImportError Unit :=
  if condition then .ok () else .error ⟨message⟩

/-- `parseStandardTotpUri`. The caller puts the secret into a new buffer. -/
def parseStandardTotpUri {ρ : Type} (platform : Platform ρ) (source : JsString) :
    Except ImportError Content := do
  let url ←
    match platform.newUrl source with
    | none => .error ⟨"The QR code is not a valid TOTP URI."⟩
    | some url => .ok url
  demand (url.protocol == literal "otpauth:" &&
      platform.toLowerCase url.hostname == literal "totp")
    "Only standard TOTP QR codes are supported."
  let secretValue ← getSingleParameter url "secret" true
  let issuerParameter ← getSingleParameter url "issuer" false
  let algorithmValue ← getSingleParameter url "algorithm" false
  let digitsValue ← getSingleParameter url "digits" false
  let periodValue ← getSingleParameter url "period" false
  let algorithm := platform.toUpperCase
    ((algorithmValue.getD (literal "SHA1")).filter (· != 0x2d))
  demand (algorithm == literal "SHA1") "This TOTP algorithm is not supported by V1."
  demand (digitsValue.getD (literal "6") == literal "6")
    "Only 6-digit TOTP accounts are supported by V1."
  demand (periodValue.getD (literal "30") == literal "30")
    "Only a 30-second TOTP period is supported by V1."
  let pathname :=
    if url.pathname.head? = some 0x2f then url.pathname.tail else url.pathname
  let label ←
    match platform.decodeURIComponent pathname with
    | none => .error ⟨"The TOTP account label is invalid."⟩
    | some label => .ok label
  let labelIssuer := if label.contains 0x3a then trim (label.takeWhile (· != 0x3a)) else []
  let account :=
    trim (if label.contains 0x3a then (label.dropWhile (· != 0x3a)).tail else label)
  let parameterIssuer := trim (issuerParameter.getD [])
  demand (!account.isEmpty) "The TOTP QR code does not contain an account name."
  demand (labelIssuer.isEmpty || parameterIssuer.isEmpty || labelIssuer == parameterIssuer)
    "The TOTP issuer metadata is inconsistent."
  let secret ← decodeBase32Secret platform.toUpperCase (secretValue.getD [])
  .ok ⟨if parameterIssuer.isEmpty then labelIssuer else parameterIssuer, account, secret⟩

end M5Auth.Web.Import
