import M5Auth.Core.Json
import M5Auth.Web.Text

/-!
# JSON in the Web application

The values of `JSON.parse`, their members, and what a printed cJSON value is parsed to
(`JsonValue.received`).
-/

namespace M5Auth.Web

open Unicode

/-- A value of `JSON.parse`. The members of an object have different names. -/
inductive JsonValue where
  | null
  | bool (value : Bool)
  | number (value : Number)
  | string (value : JsString)
  | array (items : List JsonValue)
  | object (members : List (JsString × JsonValue))

namespace JsonValue

/-- `value.name` of an object; `none` is `undefined`. -/
def get (value : JsonValue) (name : String) : Option JsonValue :=
  match value with
  | object members => members.lookup (literal name)
  | _ => none

/-- `isRecord`. -/
def isRecord : JsonValue → Bool
  | object _ => true
  | _ => false

/-- The value of a member that is a string. -/
def string? : Option JsonValue → Option JsString
  | some (string value) => some value
  | _ => none

/-- The value of a member that is a number. -/
def number? : Option JsonValue → Option Number
  | some (number value) => some value
  | _ => none

/-- The value of a member that is a boolean. -/
def bool? : Option JsonValue → Option Bool
  | some (bool value) => some value
  | _ => none

/-- The value of a member that is a boolean or `undefined`. -/
def optionalBool? : Option JsonValue → Option (Option Bool)
  | none => some none
  | value => (bool? value).map some

/-! ## Printed and parsed -/

/-- The text that the bytes spell. -/
def textOf (bytes : Text) : JsString := ((decodeUtf8 bytes).map encodeUtf16).getD []

def numberOf (value : Option Rat) : Number :=
  match value with
  | some value => if value.den = 1 then .integer value.num else .other
  | none => .other

mutual

/-- What the text of a printed cJSON value is parsed to. -/
def received : Json → JsonValue
  | .null => .null
  | .bool value => .bool value
  | .number value => .number (numberOf value)
  | .string value => .string (textOf value)
  | .array items => .array (receivedItems items)
  | .object fields => .object (receivedFields fields)

def receivedItems : List Json → List JsonValue
  | [] => []
  | item :: items => received item :: receivedItems items

def receivedFields : List (Text × Json) → List (JsString × JsonValue)
  | [] => []
  | (name, value) :: fields => (textOf name, received value) :: receivedFields fields

end

@[simp] theorem textOf_encodeUtf8 (text : List Char) :
    textOf (encodeUtf8 text) = encodeUtf16 text := by
  simp [textOf]

theorem numberOf_natCast (n : Nat) : numberOf (some (n : Rat)) = .integer n := by
  simp [numberOf]

end JsonValue

theorem literal_injective {a b : String} (h : literal a = literal b) : a = b := by
  have hlist : a.toList = b.toList := by
    rw [← scalars_encodeUtf16 a.toList, ← scalars_encodeUtf16 b.toList]
    exact congrArg scalars h
  exact String.toList_inj.1 hlist

theorem literal_beq (a b : String) : (literal a == literal b) = (a == b) := by
  by_cases h : a = b
  · simp [h]
  · rw [beq_eq_false_iff_ne.2 h, beq_eq_false_iff_ne.2 fun he => h (literal_injective he)]

end M5Auth.Web
