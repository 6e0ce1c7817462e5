import M5Auth.Web.CanonicalProtocol
import M5Auth.Web.VaultRequest

/-!
# JSON texts

`JSON.parse` over UTF-16 code units (`jsonParse`) and `JSON.stringify` with an indentation of two
spaces (`jsonStringify`) of the values that the application prints with it (`Printable`). The
parser takes fuel for its nesting; the length of the text is enough.
-/

namespace M5Auth.Web

/-! ## Scanning -/

/-- White space between tokens. -/
def isJsonSpace (unit : UInt16) : Bool := unit == 9 || unit == 10 || unit == 13 || unit == 32

def skipSpace (text : JsString) : JsString := text.dropWhile isJsonSpace

/-- The next token is the unit. -/
def expectUnit (unit : UInt16) (text : JsString) : Option JsString :=
  match skipSpace text with
  | next :: rest => if next = unit then some rest else none
  | [] => none

/-- The text starts with the word. -/
def expectWord (word : JsString) (text : JsString) : Option JsString :=
  if word.isPrefixOf text then some (text.drop word.length) else none

/-! ## Strings -/

def hexValue? (unit : UInt16) : Option UInt16 :=
  if isDigit unit then some (unit - 48)
  else if 97 ≤ unit && unit ≤ 102 then some (unit - 87)
  else if 65 ≤ unit && unit ≤ 70 then some (unit - 55)
  else none

/-- The unit of the four digits of a `\u` escape. -/
def hexUnits? (a b c d : UInt16) : Option UInt16 := do
  let a ← hexValue? a
  let b ← hexValue? b
  let c ← hexValue? c
  let d ← hexValue? d
  some (a * 4096 + b * 256 + c * 16 + d)

/-- The unit that a backslash and this unit stand for. -/
def escaped? (unit : UInt16) : Option UInt16 :=
  if unit = 34 || unit = 92 || unit = 47 then some unit
  else if unit = 98 then some 8
  else if unit = 102 then some 12
  else if unit = 110 then some 10
  else if unit = 114 then some 13
  else if unit = 116 then some 9
  else none

/-- The rest of a string after its opening quote, and the text after its closing one. -/
def parseString : JsString → Option (JsString × JsString)
  | [] => none
  | unit :: rest =>
    if unit = 34 then some ([], rest)
    else if unit = 92 then
      match rest with
      | [] => none
      | kind :: rest =>
        if kind = 117 then
          match rest with
          | a :: b :: c :: d :: rest => do
            let unit ← hexUnits? a b c d
            let (units, rest) ← parseString rest
            some (unit :: units, rest)
          | _ => none
        else do
          let unit ← escaped? kind
          let (units, rest) ← parseString rest
          some (unit :: units, rest)
    else if unit < 32 then none
    else do
      let (units, rest) ← parseString rest
      some (unit :: units, rest)

/-! ## Numbers -/

/-- A quotient rounded to the nearest natural number, a tie to the even one. -/
def roundHalfEven (numerator denominator : Nat) : Nat :=
  let quotient := numerator / denominator
  let twice := 2 * (numerator % denominator)
  if twice < denominator ∨ (twice = denominator ∧ quotient % 2 = 0) then quotient
  else quotient + 1

/-- The double nearest to a quotient. Its unit in the last place is `ulp` times 2^-1074. -/
def nearestDouble (negative : Bool) (numerator denominator : Nat) : Number :=
  let sign : Int := if negative then -1 else 1
  if numerator % denominator = 0 ∧ numerator / denominator ≤ 9007199254740992 then
    .integer (sign * (numerator / denominator : Nat))
  else
    let scaled := numerator * 2 ^ 1074
    let ulp := 2 ^ (Nat.log2 (scaled / denominator) - 52)
    let rounded := roundHalfEven scaled (denominator * ulp) * ulp
    if 2 ^ (1074 + 1024) ≤ rounded then .other
    else if rounded % 2 ^ 1074 = 0 then .integer (sign * (rounded / 2 ^ 1074 : Nat))
    else .other

/-- The sign and value of an exponent part; none at all is an exponent of zero. -/
def parseExponent : JsString → Option (Bool × Nat × JsString)
  | [] => some (false, 0, [])
  | unit :: rest =>
    if unit = 101 || unit = 69 then
      let (negative, rest) := match rest with
        | sign :: after =>
          if sign = 45 then (true, after) else if sign = 43 then (false, after) else (false, rest)
        | [] => (false, rest)
      let (digits, rest) := rest.span isDigit
      if digits.isEmpty then none else some (negative, bigInt digits, rest)
    else some (false, 0, unit :: rest)

/-- The digits of a fraction part. -/
def parseFraction : JsString → Option (JsString × JsString)
  | [] => some ([], [])
  | unit :: rest =>
    if unit = 46 then
      let (digits, rest) := rest.span isDigit
      if digits.isEmpty then none else some (digits, rest)
    else some ([], unit :: rest)

/-- A number, unsigned: its whole part has no leading zero. -/
def parseUnsigned (negative : Bool) (text : JsString) : Option (Number × JsString) := do
  let (whole, rest) := text.span isDigit
  if whole.isEmpty || (whole.head? == some 48 && decide (1 < whole.length)) then none
  else do
    let (fraction, rest) ← parseFraction rest
    let (below, exponent, rest) ← parseExponent rest
    let digits := bigInt (whole ++ fraction)
    if below then some (nearestDouble negative digits (10 ^ (fraction.length + exponent)), rest)
    else some (nearestDouble negative (digits * 10 ^ exponent) (10 ^ fraction.length), rest)

def parseNumber (text : JsString) : Option (Number × JsString) :=
  match text with
  | unit :: rest => if unit = 45 then parseUnsigned true rest else parseUnsigned false text
  | [] => none

/-! ## Values -/

/-- A member is added to an object; the last value of a name counts. -/
def setMember (name : JsString) (value : JsonValue) :
    List (JsString × JsonValue) → List (JsString × JsonValue)
  | [] => [(name, value)]
  | member :: members =>
    if member.1 = name then (name, value) :: members else member :: setMember name value members

mutual

def parseValue : Nat → JsString → Option (JsonValue × JsString)
  | 0, _ => none
  | fuel + 1, text =>
    match skipSpace text with
    | [] => none
    | unit :: rest =>
      if unit = 34 then (parseString rest).map fun (value, rest) => (.string value, rest)
      else if unit = 123 then
        match expectUnit 125 rest with
        | some rest => some (.object [], rest)
        | none => parseMembers fuel [] rest
      else if unit = 91 then
        match expectUnit 93 rest with
        | some rest => some (.array [], rest)
        | none => parseItems fuel [] rest
      else if unit = 110 then (expectWord (literal "ull") rest).map fun rest => (.null, rest)
      else if unit = 116 then (expectWord (literal "rue") rest).map fun rest => (.bool true, rest)
      else if unit = 102 then (expectWord (literal "alse") rest).map fun rest => (.bool false, rest)
      else (parseNumber (unit :: rest)).map fun (value, rest) => (.number value, rest)

/-- The members of an object after `members`, and its closing brace. -/
def parseMembers : Nat → List (JsString × JsonValue) → JsString → Option (JsonValue × JsString)
  | 0, _, _ => none
  | fuel + 1, members, text => do
    let rest ← expectUnit 34 text
    let (name, rest) ← parseString rest
    let rest ← expectUnit 58 rest
    let (value, rest) ← parseValue fuel rest
    let members := setMember name value members
    match expectUnit 44 rest with
    | some rest => parseMembers fuel members rest
    | none => do
      let rest ← expectUnit 125 rest
      some (.object members, rest)

/-- The items of an array after `items`, and its closing bracket. -/
def parseItems : Nat → List JsonValue → JsString → Option (JsonValue × JsString)
  | 0, _, _ => none
  | fuel + 1, items, text => do
    let (value, rest) ← parseValue fuel text
    let items := items ++ [value]
    match expectUnit 44 rest with
    | some rest => parseItems fuel items rest
    | none => do
      let rest ← expectUnit 93 rest
      some (.array items, rest)

end

/-- `JSON.parse`; `none` is a `SyntaxError`. -/
def jsonParse (text : JsString) : Option JsonValue := do
  let (value, rest) ← parseValue (text.length + 1) text
  if (skipSpace rest).isEmpty then some value else none

/-! ## Printing -/

/-- A value that the application prints: its numbers are natural. -/
inductive Printable where
  | null
  | integer (value : Nat)
  | string (value : JsString)
  | object (members : List (String × Printable))

/-- A new line, indented. -/
def newline (indent : Nat) : JsString := 10 :: List.replicate indent 32

mutual

def printIndented (indent : Nat) : Printable → JsString
  | .null => literal "null"
  | .integer value => literal (toString value)
  | .string value => quote value
  | .object [] => [123, 125]
  | .object (member :: members) =>
    123 :: (printMembers (indent + 2) (member :: members) ++ newline indent ++ [125])

def printMembers (indent : Nat) : List (String × Printable) → JsString
  | [] => []
  | [(name, value)] =>
    newline indent ++ quote (literal name) ++ [58, 32] ++ printIndented indent value
  | (name, value) :: member :: members =>
    newline indent ++ quote (literal name) ++ [58, 32] ++ printIndented indent value ++
      44 :: printMembers indent (member :: members)

end

/-- `JSON.stringify(value, null, 2)`. -/
def jsonStringify (value : Printable) : JsString := printIndented 0 value

end M5Auth.Web
