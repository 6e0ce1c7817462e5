import M5Auth.Core.Base64Url

/-!
# Request fields

The request objects the firmware reads with cJSON. Parsing the text of a line is the library's
(`Json` is what it returns); the field readers below are the firmware's own, the same in the
canonical router and in the session handler. Every reader returns `none` where the source returns
`false`.
-/

namespace M5Auth

/-- A parsed JSON value. A number is cJSON's `valuedouble`: a finite double is a rational, and
`none` stands for the infinities and NaN. -/
inductive Json where
  | null
  | bool (value : Bool)
  | number (value : Option Rat)
  | string (value : Text)
  | array (items : List Json)
  | object (fields : List (Text × Json))

namespace Json

/-- `cJSON_GetObjectItemCaseSensitive`: the first field of that name. -/
def getItem (object : Json) (key : String) : Option Json :=
  match object with
  | .object fields => fields.lookup (ascii key)
  | _ => none

/-- `cJSON_IsObject`. -/
def isObject : Json → Bool
  | .object _ => true
  | _ => false

/-- The `valuestring` of a string item. -/
def string? : Option Json → Option Text
  | some (.string value) => some value
  | _ => none

/-- The value of a number item that is a whole number in `0 … maximum`. -/
def readNumber (maximum : Nat) : Option Json → Option Nat
  | some (.number (some value)) =>
    if 0 ≤ value ∧ value ≤ maximum ∧ value.den = 1 then some value.num.toNat else none
  | _ => none

end Json

/-- `read_nonnegative_int`: `std::numeric_limits<int>::max()` is 2^31 - 1. -/
def readNonnegativeInt (item : Option Json) : Option Nat :=
  Json.readNumber 2147483647 item

/-- `read_u32_allow_zero`. -/
def readU32AllowZero (item : Option Json) : Option UInt32 :=
  (Json.readNumber 4294967295 item).map UInt32.ofNat

/-- The digit loop of `parse_u64_decimal`, with its overflow test. -/
def decimalLoop : Text → Nat → Option Nat
  | [], parsed => some parsed
  | ch :: rest, parsed =>
    if ch < 48 ∨ 57 < ch then none
    else
      let digit := ch.toNat - 48
      if parsed > (18446744073709551615 - digit) / 10 then none
      else decimalLoop rest (parsed * 10 + digit)

/-- `parse_u64_decimal`: decimal digits without a leading zero, below 2^64. -/
def parseU64Decimal (text : Text) : Option UInt64 :=
  match text with
  | [] => none
  | first :: rest =>
    if first = 48 ∧ rest ≠ [] then none
    else (decimalLoop text 0).map UInt64.ofNat

/-- `read_u64_decimal`. -/
def readU64Decimal (item : Option Json) : Option UInt64 :=
  (Json.string? item).bind parseU64Decimal

/-- `read_string`: a non-empty string of at most `maximum` bytes. -/
def readString (object : Json) (key : String) (maximum : Nat) : Option Text :=
  match Json.string? (object.getItem key) with
  | none => none
  | some value => if value.length = 0 ∨ maximum < value.length then none else some value

/-- `read_binary`: a base64url string of exactly `n` bytes. -/
def readBinary (n : Nat) (object : Json) (key : String) : Option (Bytes n) :=
  ((Json.string? (object.getItem key)).bind base64urlDecode).bind (Bytes.ofList? n)

/-- The parsed decimal is below 2^64: its digits never wrap. -/
theorem decimalLoop_lt : ∀ {text : Text} {parsed n : Nat}, parsed ≤ 18446744073709551615 →
    decimalLoop text parsed = some n → n ≤ 18446744073709551615
  | [], parsed, n, hp, h => by
    cases h
    exact hp
  | ch :: rest, parsed, n, hp, h => by
    rw [decimalLoop] at h
    split at h
    · simp at h
    · rename_i hch
      simp only at h
      split at h
      · simp at h
      · rename_i hle
        refine decimalLoop_lt ?_ h
        have := ch.toNat_lt
        omega

end M5Auth
