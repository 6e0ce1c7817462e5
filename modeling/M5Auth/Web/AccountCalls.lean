import Mathlib.Data.List.Dedup
import M5Auth.Web.DeviceManagement

/-!
# The calls on the account list

`importAccounts`, `renameAccount`, `deleteAccount`, `reorderAccounts`, `setWifi`, `clearWifi` and
`setAutoLockDays` of `CanonicalDeviceManagement`, each by its mutator of the decoded plaintext, and
`readBrowserVaultView`, the list that the page shows. `VaultCall` collects the calls that write the
Vault. The orders of a decoded Vault are integers.
-/

namespace M5Auth.Web

namespace Number

/-- `Math.max` of integers. -/
def mathMax : Number → Number → Number
  | integer a, integer b => integer (max a b)
  | _, _ => other

/-- `value + n`. -/
def add (value : Number) (n : Nat) : Number :=
  match value with
  | integer a => integer (a + n)
  | other => other

/-- `left - right <= 0`, with NaN as zero: the comparison of a sort. -/
def le : Number → Number → Bool
  | integer a, integer b => decide (a ≤ b)
  | _, _ => true

end Number

namespace CanonicalDeviceManagement

/-- `credentialViewId`. -/
def credentialViewId (value : List UInt8) : JsString := encodeBase64UrlCanonical value

/-! ## Mutators -/

/-- The order of the first account that `importAccounts` appends. -/
def nextOrder (credentials : List VaultCredentialRecord) : Number :=
  (credentials.foldl (fun (maximum : Number) item => maximum.mathMax item.manualOrder)
    (.integer (-1))).add 1

/-- An account that `importAccounts` appends. -/
def importedRecord (credentialId : List UInt8) (account : ImportedCredential) (order : Number) :
    VaultCredentialRecord where
  credentialId := credentialId
  secret := account.secret
  issuer := account.issuer
  account := account.account
  displayName := []
  digits := .integer 6
  periodSeconds := .integer 30
  manualOrder := order

/-- The mutator of `importAccounts`; `credentialId` gives the identifiers that it draws, in the
accounts' order. -/
def importMutator (imported : List ImportedCredential) (credentialId : Nat → Bytes 16)
    (plaintext : VaultPlaintext) : Except Thrown VaultPlaintext := do
  require (decide (plaintext.credentials.length + imported.length ≤ maxVaultCredentials))
    "Vault supports at most 32 accounts"
  let order := nextOrder plaintext.credentials
  .ok { plaintext with
    credentials := plaintext.credentials ++ imported.mapIdx fun index account =>
      importedRecord (credentialId index).1 account (order.add index) }

/-- The place of the first account with a view identifier. -/
def findCredential (credentials : List VaultCredentialRecord) (id : JsString) : Option Nat :=
  credentials.findIdx? fun credential => credentialViewId credential.credentialId == id

/-- The mutator of `renameAccount`. -/
def renameMutator (id displayName : JsString) (plaintext : VaultPlaintext) :
    Except Thrown VaultPlaintext :=
  match findCredential plaintext.credentials id with
  | none => .error (.error "Account no longer exists in canonical Vault")
  | some index =>
    .ok { plaintext with
      credentials := plaintext.credentials.modify index fun credential =>
        { credential with displayName } }

/-- The accounts with their places as orders. -/
def renumber (credentials : List VaultCredentialRecord) : List VaultCredentialRecord :=
  credentials.mapIdx fun order credential => { credential with manualOrder := .integer order }

/-- The mutator of `deleteAccount`. -/
def deleteMutator (id : JsString) (plaintext : VaultPlaintext) : Except Thrown VaultPlaintext :=
  match findCredential plaintext.credentials id with
  | none => .error (.error "Account no longer exists in canonical Vault")
  | some index =>
    .ok { plaintext with credentials := renumber (plaintext.credentials.eraseIdx index) }

/-- `byId.get`: a `Map` keeps the last entry of a key. -/
def credentialById (credentials : List VaultCredentialRecord) (id : JsString) :
    Option VaultCredentialRecord :=
  credentials.reverse.find? fun credential => credentialViewId credential.credentialId == id

/-- The loop of `reorderAccounts` from the place `order` on. -/
def reorderFrom (credentials : List VaultCredentialRecord) (order : Nat) :
    List JsString → Except Thrown (List VaultCredentialRecord)
  | [] => .ok []
  | id :: ids =>
    match credentialById credentials id with
    | none => .error (.error "Account reorder set is stale")
    | some credential => do
      let rest ← reorderFrom credentials (order + 1) ids
      .ok ({ credential with manualOrder := .integer order } :: rest)

/-- The mutator of `reorderAccounts`. -/
def reorderMutator (ids : List JsString) (plaintext : VaultPlaintext) :
    Except Thrown VaultPlaintext := do
  require (ids.length == plaintext.credentials.length && ids.dedup.length == ids.length)
    "Account reorder set is inconsistent"
  let reordered ← reorderFrom plaintext.credentials 0 ids
  .ok { plaintext with credentials := reordered }

/-! ## Calls -/

/-- A call that writes the Vault, with its arguments. -/
inductive VaultCall where
  | importAccounts (imported : List ImportedCredential) (credentialId : Nat → Bytes 16)
  | renameAccount (id displayName : JsString)
  | deleteAccount (id : JsString)
  | reorderAccounts (ids : List JsString)
  | setWifi (ssid password : JsString)
  | clearWifi
  | setAutoLockDays (days : Option Number)
  | rotateVmk (recoveryPassphrase : JsString)

section
variable (platform : Platform) (nonce : List UInt8) (hello : CanonicalHelloData)
  (state : BrowserCanonicalState)

/-- `importAccounts` on a Device that has a Vault. -/
def importAccounts (imported : List ImportedCredential) (credentialId : Nat → Bytes 16) :
    Except Thrown BrowserCanonicalState :=
  mutateVault platform nonce hello (importMutator imported credentialId) false state

/-- `renameAccount`. -/
def renameAccount (id displayName : JsString) : Except Thrown BrowserCanonicalState :=
  mutateVault platform nonce hello (renameMutator id displayName) false state

/-- `deleteAccount`. -/
def deleteAccount (id : JsString) : Except Thrown BrowserCanonicalState :=
  mutateVault platform nonce hello (deleteMutator id) false state

/-- `reorderAccounts`. -/
def reorderAccounts (ids : List JsString) : Except Thrown BrowserCanonicalState :=
  mutateVault platform nonce hello (reorderMutator ids) false state

/-- `setWifi`. -/
def setWifi (ssid password : JsString) : Except Thrown BrowserCanonicalState := do
  require (!(ssid.length == 0 || decide (ssid.length > 32) || password.length == 0 ||
    decide (password.length > 64))) "Invalid Wi-Fi credentials"
  mutateVault platform nonce hello (fun plaintext =>
    .ok { plaintext with wifi := some ⟨ssid, password⟩ }) false state

/-- `clearWifi`. -/
def clearWifi : Except Thrown BrowserCanonicalState :=
  mutateVault platform nonce hello (fun plaintext => .ok { plaintext with wifi := none }) false
    state

/-- `setAutoLockDays`. -/
def setAutoLockDays (days : Option Number) : Except Thrown BrowserCanonicalState := do
  let normalized ← normalizeAutoLockDays days
  mutateVault platform nonce hello (fun plaintext =>
    .ok { plaintext with autoLockDays := normalized }) true state

end

/-- The candidate of a call; a mutation draws the nonce of the Vault only. -/
def VaultCall.candidate (platform : Platform) (draw : RekeyDraw) (hello : CanonicalHelloData)
    (state : BrowserCanonicalState) : VaultCall → Except Thrown BrowserCanonicalState
  | .importAccounts imported credentialId =>
    CanonicalDeviceManagement.importAccounts platform draw.vaultNonce.1 hello state imported
      credentialId
  | .renameAccount id displayName =>
    CanonicalDeviceManagement.renameAccount platform draw.vaultNonce.1 hello state id displayName
  | .deleteAccount id =>
    CanonicalDeviceManagement.deleteAccount platform draw.vaultNonce.1 hello state id
  | .reorderAccounts ids =>
    CanonicalDeviceManagement.reorderAccounts platform draw.vaultNonce.1 hello state ids
  | .setWifi ssid password =>
    CanonicalDeviceManagement.setWifi platform draw.vaultNonce.1 hello state ssid password
  | .clearWifi => CanonicalDeviceManagement.clearWifi platform draw.vaultNonce.1 hello state
  | .setAutoLockDays days =>
    CanonicalDeviceManagement.setAutoLockDays platform draw.vaultNonce.1 hello state days
  | .rotateVmk recoveryPassphrase =>
    CanonicalDeviceManagement.rotateVmk platform draw hello recoveryPassphrase state

/-! ## The page's list -/

/-- `CanonicalAccountView`. -/
structure CanonicalAccountView where
  id : JsString
  issuer : JsString
  account : JsString
  displayName : JsString
  order : Number
  deriving DecidableEq

/-- What `readBrowserVaultView` returns. -/
structure BrowserVaultView where
  accounts : List CanonicalAccountView
  wifiConfigured : Bool
  wifiSsid : JsString
  autoLockDays : Option Number
  deriving DecidableEq

/-- An account as the page shows it. -/
def accountView (credential : VaultCredentialRecord) : CanonicalAccountView where
  id := credentialViewId credential.credentialId
  issuer := credential.issuer
  account := credential.account
  displayName := credential.displayName
  order := credential.manualOrder

/-- The view of a plaintext. -/
def vaultView (plaintext : VaultPlaintext) : BrowserVaultView where
  accounts := (plaintext.credentials.map accountView).mergeSort fun left right =>
    left.order.le right.order
  wifiConfigured := plaintext.wifi.isSome
  wifiSsid := (plaintext.wifi.map (·.ssid)).getD []
  autoLockDays := plaintext.autoLockDays

/-- `readBrowserVaultView`. -/
def readBrowserVaultView (platform : Platform) (state : BrowserCanonicalState) :
    Except Thrown BrowserVaultView := do
  let vmk ← unwrapVmkForTrustedBrowser platform state
  let decrypted ← decryptVault platform state.vault vmk
  let plaintext ← decodeVaultPlaintext decrypted (some state.vault.vaultFormatVersion)
  .ok (vaultView plaintext)

end CanonicalDeviceManagement

end M5Auth.Web
