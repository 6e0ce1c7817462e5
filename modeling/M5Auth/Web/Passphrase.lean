import M5Auth.Web.Text

/-!
# Recovery Passphrases

The policy of `recovery-passphrase-policy.ts` and the bounds of `vault-crypto.ts`. A Passphrase is
normalized first; `String.prototype.normalize` for NFC is the parameter `normalize`.
-/

namespace M5Auth.Web

open Unicode

/-- `Array.from` of a string: its code points, a lone surrogate being one of its own. -/
def codePoints : JsString → List JsString
  | [] => []
  | [unit] => [[unit]]
  | lead :: trail :: rest =>
    if isLead lead && isTrail trail then [lead, trail] :: codePoints rest
    else [lead] :: codePoints (trail :: rest)

/-! ## The policy -/

def weakRecoveryPassphraseError : String :=
  "Recovery Passphrase is obviously weak, repetitive, sequential, or common. Choose a long " ++
    "unique Passphrase."

/-- `RECOVERY_PASSPHRASE_DENYLIST_V1`. -/
def recoveryPassphraseDenylistV1 : List String :=
  ["correcthorsebatterystaple", "thisisapassword", "password1234567890", "passwordqwerty123",
    "letmein123456789", "letmeinpassword123"]

/-- `ASCII_SEQUENCE_CYCLES`. -/
def asciiSequenceCycles : List String :=
  ["0123456789", "1234567890", "abcdefghijklmnopqrstuvwxyz", "qwertyuiop", "asdfghjkl", "zxcvbnm"]

def isAscii (value : JsString) : Bool := value.all fun unit => unit ≤ 0x7f

/-- `toLowerCase` of an ASCII string. -/
def asciiLower (value : JsString) : JsString :=
  value.map fun unit => if 65 ≤ unit && unit ≤ 90 then unit + 32 else unit

def isSingleCodePointRepetition (points : List JsString) : Bool :=
  decide (2 ≤ points.length) && points.all fun point => points.head? == some point

/-- A block of this length is repeated. -/
def isRepeatedBlock (points : List JsString) (blockLength : Nat) : Bool :=
  points.length % blockLength == 0 &&
    (List.range points.length).all fun index => points[index]? == points[index % blockLength]?

def isRepeatedShortPrimitiveBlock (points : List JsString) : Bool :=
  ((List.range (min 8 (points.length / 2))).map (· + 1)).any (isRepeatedBlock points)

def isCyclicWalk (value cycle : JsString) : Bool :=
  (List.range cycle.length).any fun start =>
    (List.range value.length).all fun index =>
      value[index]? == cycle[(start + index) % cycle.length]?

def isObviousAsciiSequence (normalized : JsString) : Bool :=
  let comparison := (asciiLower normalized).filter fun unit =>
    !(unit == 32 || unit == 9 || unit == 46 || unit == 95 || unit == 45)
  isAscii normalized && decide (15 ≤ comparison.length) &&
    asciiSequenceCycles.any fun cycle =>
      isCyclicWalk comparison (literal cycle) || isCyclicWalk comparison (literal cycle).reverse

def isBundledDenylistMatch (normalized : JsString) : Bool :=
  let isSpace : UInt16 → Bool := fun unit => (9 ≤ unit && unit ≤ 13) || unit == 32
  let comparison := ((((asciiLower normalized).dropWhile isSpace).reverse).dropWhile isSpace).reverse
  isAscii normalized && (recoveryPassphraseDenylistV1.map literal).contains comparison

def isObviouslyWeakRecoveryPassphrase (normalized : JsString) : Bool :=
  let points := codePoints normalized
  isSingleCodePointRepetition points || isRepeatedShortPrimitiveBlock points ||
    isObviousAsciiSequence normalized || isBundledDenylistMatch normalized

def assertRecoveryPassphraseNotObviouslyWeak (normalized : JsString) : Except Thrown Unit :=
  require (!isObviouslyWeakRecoveryPassphrase normalized) weakRecoveryPassphraseError

/-! ## The bounds -/

/-- `normalizeAndEncodePassphrase`: the normalized Passphrase and its bytes. -/
def normalizeAndEncodePassphrase (normalize : JsString → JsString) (passphrase : JsString) :
    Except Thrown (JsString × List UInt8) := do
  let normalized := normalize passphrase
  let points := (codePoints normalized).length
  require (decide (15 ≤ points) && decide (points ≤ 128))
    "Passphrase must contain 15 to 128 Unicode code points after NFC normalization"
  let encoded := textEncode normalized
  require (decide (encoded.length ≤ 512))
    "Passphrase exceeds the 512-byte UTF-8 limit after NFC normalization"
  .ok (normalized, encoded)

/-- `normalizeAndValidatePassphrase`. -/
def normalizeAndValidatePassphrase (normalize : JsString → JsString) (passphrase : JsString) :
    Except Thrown (List UInt8) := do
  let (_, encoded) ← normalizeAndEncodePassphrase normalize passphrase
  .ok encoded

/-- `normalizeAndValidateNewRecoveryPassphrase`. -/
def normalizeAndValidateNewRecoveryPassphrase (normalize : JsString → JsString)
    (passphrase : JsString) : Except Thrown (List UInt8) := do
  let (normalized, encoded) ← normalizeAndEncodePassphrase normalize passphrase
  assertRecoveryPassphraseNotObviouslyWeak normalized
  .ok encoded

end M5Auth.Web
