import M5Auth.Lib.Buffers
import M5Auth.Web.Serial

/-!
# Imported accounts

The accounts of a QR code and the platform that its URI is read with. A secret is a reference to a
buffer; clearing an account fills the buffer with zeros. The algorithm, the digits and the period
have one value each.
-/

namespace M5Auth.Web.Import

open Buffers (Memory)

def v1MaxAccounts : Nat := 32

/-- `ImportedTotpAccount`. -/
structure ImportedTotpAccount where
  issuer : JsString
  account : JsString
  secret : Nat
  deriving DecidableEq

/-- `ImportedAccountPreview`. -/
structure ImportedAccountPreview where
  issuer : JsString
  account : JsString
  deriving DecidableEq

structure ImportError where
  message : String
  deriving DecidableEq

def previewAccount (account : ImportedTotpAccount) : ImportedAccountPreview :=
  ⟨account.issuer, account.account⟩

/-- The references of the secrets. -/
def secrets (accounts : List ImportedTotpAccount) : List Nat := accounts.map (·.secret)

def clearSensitiveAccounts (m : Memory) (accounts : List ImportedTotpAccount) : Memory :=
  m.wipe (secrets accounts)

/-- What an account is: its texts and the bytes of its secret. -/
structure Content where
  issuer : JsString
  account : JsString
  secret : List UInt8
  deriving DecidableEq

/-- The account in a memory. -/
def ImportedTotpAccount.content (m : Memory) (account : ImportedTotpAccount) : Content :=
  ⟨account.issuer, account.account, m.read account.secret⟩

/-! ## The platform -/

/-- A URL, as far as it is read. -/
structure Url where
  protocol : JsString
  hostname : JsString
  pathname : JsString
  searchParams : List (JsString × JsString)

/-- `searchParams.getAll`. -/
def Url.getAll (url : Url) (name : JsString) : List JsString :=
  (url.searchParams.filter fun parameter => parameter.1 == name).map Prod.snd

/-- The reader of the protocol buffer library. Reading fails at the end of its bytes. -/
structure Reader (ρ : Type) where
  create : List UInt8 → ρ
  pos : ρ → Nat
  len : ρ → Nat
  uint32 : ρ → Option (UInt32 × ρ)
  int32 : ρ → Option (Int32 × ρ)
  uint64 : ρ → Option (UInt64 × ρ)
  bytes : ρ → Option (List UInt8 × ρ)
  string : ρ → Option (JsString × ρ)
  skipType : UInt32 → ρ → Option ρ

/-- What the parsers use of the platform. -/
structure Platform (ρ : Type) where
  newUrl : JsString → Option Url
  toLowerCase : JsString → JsString
  toUpperCase : JsString → JsString
  decodeURIComponent : JsString → Option JsString
  reader : Reader ρ

/-- `trim`. -/
def trim (s : JsString) : JsString :=
  ((s.dropWhile isSpace).reverse.dropWhile isSpace).reverse

end M5Auth.Web.Import
