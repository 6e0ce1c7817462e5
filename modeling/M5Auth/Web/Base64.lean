import M5Auth.Web.Text

/-!
# The platform's Base64

`btoa` and `atob`. A binary string is the list of its bytes.
-/

namespace M5Auth.Web

def base64Alphabet : JsString :=
  literal "ABCDEFGHIJKLMNOPQRSTUVWXYZabcdefghijklmnopqrstuvwxyz0123456789+/"

def equalsSign : UInt16 := 0x3d

def base64Char (sextet : Nat) : UInt16 := base64Alphabet.getD sextet 0

/-- `btoa`. -/
def btoa : List UInt8 → JsString
  | a :: b :: c :: rest =>
    let group := a.toNat * 65536 + b.toNat * 256 + c.toNat
    base64Char (group / 262144) :: base64Char (group / 4096 % 64) ::
      base64Char (group / 64 % 64) :: base64Char (group % 64) :: btoa rest
  | [a, b] =>
    let group := a.toNat * 1024 + b.toNat * 4
    [base64Char (group / 4096), base64Char (group / 64 % 64), base64Char (group % 64), equalsSign]
  | [a] =>
    [base64Char (a.toNat / 4), base64Char (a.toNat * 16 % 64), equalsSign, equalsSign]
  | [] => []

/-- The bytes of sextets. The last bits that fill no byte are dropped. -/
def fromSextets : List Nat → List UInt8
  | a :: b :: c :: d :: rest =>
    UInt8.ofNat (a * 4 + b / 16) :: UInt8.ofNat (b * 16 + c / 4) :: UInt8.ofNat (c * 64 + d) ::
      fromSextets rest
  | [a, b, c] => [UInt8.ofNat (a * 4 + b / 16), UInt8.ofNat (b * 16 + c / 4)]
  | [a, b] => [UInt8.ofNat (a * 4 + b / 16)]
  | _ => []

/-- ASCII white space. -/
def isAsciiSpace (unit : UInt16) : Bool :=
  unit == 9 || unit == 10 || unit == 12 || unit == 13 || unit == 0x20

/-- One or two equals signs are removed from the end. -/
def dropPadding (value : JsString) : JsString :=
  if value.length % 4 ≠ 0 then value
  else if value.getLast? ≠ some equalsSign then value
  else if value.dropLast.getLast? ≠ some equalsSign then value.dropLast
  else value.dropLast.dropLast

/-- `atob`. -/
def atob (value : JsString) : Option (List UInt8) :=
  let data := dropPadding (value.filter fun unit => !isAsciiSpace unit)
  if data.length % 4 = 1 then none
  else (data.mapM fun unit => base64Alphabet.idxOf? unit).map fromSextets

end M5Auth.Web
