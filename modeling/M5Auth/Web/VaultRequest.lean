import M5Auth.Core.Json
import M5Auth.Web.Base64Url
import M5Auth.Web.VaultCrypto

/-!
# The requests that carry a Vault

`encryptedVaultParams`, and the line that `buildCanonicalV2Request` makes of `vault.install`,
`vault.update` and `vault.rekey`. `sentParams` is what the Device's parser reads from the printed
parameters.
-/

namespace M5Auth.Web

open Unicode

/-! ## Printing -/

/-- A value among the parameters of these requests. -/
inductive RequestParam where
  | integer (value : Nat)
  | string (value : JsString)

def hexUnit (n : UInt16) : UInt16 := if n < 10 then 48 + n else 87 + n

/-- The `\u` escape of a code unit. -/
def unicodeEscape (unit : UInt16) : JsString :=
  [92, 117, hexUnit (unit / 4096), hexUnit (unit / 256 % 16), hexUnit (unit / 16 % 16),
    hexUnit (unit % 16)]

/-- A code unit in a string of `JSON.stringify`, where it is not half of a surrogate pair. -/
def escapeUnit (unit : UInt16) : JsString :=
  if unit = 8 then [92, 98]
  else if unit = 9 then [92, 116]
  else if unit = 10 then [92, 110]
  else if unit = 12 then [92, 102]
  else if unit = 13 then [92, 114]
  else if unit = 34 then [92, 34]
  else if unit = 92 then [92, 92]
  else if unit < 32 || isLead unit || isTrail unit then unicodeEscape unit
  else [unit]

def escapeUnits : JsString → JsString
  | [] => []
  | [unit] => escapeUnit unit
  | unit :: second :: rest =>
    if isLead unit && isTrail second then unit :: second :: escapeUnits rest
    else escapeUnit unit ++ escapeUnits (second :: rest)

/-- `JSON.stringify` of a string. -/
def quote (s : JsString) : JsString := 34 :: (escapeUnits s ++ [34])

def RequestParam.print : RequestParam → JsString
  | integer value => literal (toString value)
  | string value => quote value

def printMember (member : String × RequestParam) : JsString :=
  quote (literal member.1) ++ [58] ++ member.2.print

/-- The line of a request, without its newline. -/
def requestLine (id : Nat) (op : String) (params : List (String × RequestParam)) : JsString :=
  literal "\x7b\"v\":2,\"id\":" ++ literal (toString id) ++ literal ",\"op\":" ++
    quote (literal op) ++ literal ",\"params\":\x7b" ++ [44].intercalate (params.map printMember) ++
    literal "\x7d\x7d"

/-- `buildCanonicalV2Request`. -/
def buildCanonicalV2Request (id : Nat) (op : String) (params : List (String × RequestParam)) :
    Except Thrown JsString := do
  require (decide (id ≤ 9007199254740991)) "Invalid request id"
  .ok (requestLine id op params ++ [10])

/-! ## Parameters -/

/-- The object that `encryptedVaultParams` returns. -/
def vaultMembers (envelope : EncryptedVaultEnvelope) : List (String × RequestParam) :=
  [("vault_format_version", .integer envelope.vaultFormatVersion.number),
    ("storage_schema_version", .integer envelope.storageSchemaVersion),
    ("vault_id", .string (encodeBase64UrlCanonical envelope.vaultId)),
    ("generation", .string (literal (toString envelope.generation))),
    ("nonce", .string (encodeBase64UrlCanonical envelope.nonce)),
    ("ciphertext", .string (encodeBase64UrlCanonical envelope.ciphertext)),
    ("tag", .string (encodeBase64UrlCanonical envelope.tag)),
    ("ciphertext_length", .integer envelope.ciphertextLength)]

/-- `encryptedVaultParams`. -/
def encryptedVaultParams (envelope : EncryptedVaultEnvelope) :
    Except Thrown (List (String × RequestParam)) := do
  require
    (envelope.storageSchemaVersion == vaultTargetStorageSchemaVersion &&
      envelope.vaultId.length == vaultIdBytes && envelope.nonce.length == 12 &&
      envelope.tag.length == 16 && envelope.ciphertext.length != 0 &&
      envelope.ciphertextLength == envelope.ciphertext.length &&
      decide (1 ≤ envelope.generation) && decide (envelope.generation ≤ 0xffffffffffffffff))
    "Invalid canonical encrypted Vault envelope"
  .ok (vaultMembers envelope)

/-- The operations that carry a Vault. -/
inductive VaultOperation where
  | install | update | rekey
  deriving DecidableEq, Repr

def VaultOperation.op : VaultOperation → String
  | install => "vault.install"
  | update => "vault.update"
  | rekey => "vault.rekey"

/-- The parameters of an operation. A replacement names the generation it replaces. -/
def VaultOperation.params (operation : VaultOperation) (expectedGeneration : Nat)
    (envelope : EncryptedVaultEnvelope) : Except Thrown (List (String × RequestParam)) :=
  match operation with
  | install => encryptedVaultParams envelope
  | _ => do
    let params ← encryptedVaultParams envelope
    .ok (("expected_generation", .string (literal (toString expectedGeneration))) :: params)

/-- The request that carries a Vault: its line and its parameters. -/
def VaultOperation.request (operation : VaultOperation) (id expectedGeneration : Nat)
    (envelope : EncryptedVaultEnvelope) :
    Except Thrown (JsString × List (String × RequestParam)) := do
  let params ← operation.params expectedGeneration envelope
  let line ← buildCanonicalV2Request id operation.op params
  .ok (line, params)

/-! ## On the Device -/

/-- What the Device's parser reads from a printed value. -/
def RequestParam.sent : RequestParam → Json
  | integer value => .number (some value)
  | string value => .string (textEncode value)

def sentParams (params : List (String × RequestParam)) : Json :=
  .object (params.map fun member => (ascii member.1, member.2.sent))

end M5Auth.Web
