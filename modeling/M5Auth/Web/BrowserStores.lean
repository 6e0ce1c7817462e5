import Mathlib.Data.List.Lex
import M5Auth.Lib.ObjectStore
import M5Auth.Web.DeviceManagement

/-!
# The browser's stores

`IndexedDbBrowserVaultStore`, `IndexedDbBrowserTransactionJournal` and
`IndexedDbBrowserResetIntentStore`: three object stores. Each of their methods is one transaction,
which takes place as a whole or not at all; `StoreCall.apply` is what it does and gives.
-/

namespace M5Auth.Web

/-! ## Records -/

/-- `BrowserTransactionKind`. -/
inductive BrowserTransactionKind where
  | initialProvisioning | recoveryProvisioning | vaultUpdate | vmkRekey | factoryReset
  deriving DecidableEq

/-- `BrowserPendingTransaction`. -/
structure BrowserPendingTransaction where
  kind : BrowserTransactionKind
  expectedGeneration : Nat
  candidate : BrowserCanonicalState
  deriving DecidableEq

/-- `BrowserResetAffectedVault`. -/
structure BrowserResetAffectedVault where
  vaultId : List UInt8
  generation : Nat
  deriving DecidableEq

/-- `BrowserResetIntent`. -/
structure BrowserResetIntent where
  deviceId : JsString
  affectedVaults : List BrowserResetAffectedVault
  deriving DecidableEq

/-- IndexedDB compares strings by their code units. -/
def storeKey (key : JsString) : List Nat := key.map (·.toNat)

/-- `displayVaultId`. -/
def displayVaultId (vaultId : List UInt8) : JsString := toHex vaultId

/-- The key of a Vault's record. -/
def vaultKey (vaultId : List UInt8) : List Nat := storeKey (displayVaultId vaultId)

abbrev VaultRecords := ObjectStore fun state : BrowserCanonicalState =>
  vaultKey state.vault.vaultId

abbrev JournalRecords := ObjectStore fun pending : BrowserPendingTransaction =>
  vaultKey pending.candidate.vault.vaultId

abbrev ResetRecords := ObjectStore fun intent : BrowserResetIntent => storeKey intent.deviceId

/-- The databases of the browser. -/
structure BrowserStores where
  vaults : VaultRecords
  journal : JournalRecords
  resets : ResetRecords

namespace BrowserStores

def empty : BrowserStores := ⟨.empty, .empty, .empty⟩

variable (stores : BrowserStores)

def withVaults (vaults : VaultRecords) : BrowserStores := { stores with vaults }

def withJournal (journal : JournalRecords) : BrowserStores := { stores with journal }

def withResets (resets : ResetRecords) : BrowserStores := { stores with resets }

/-- The record of a Vault. -/
def vault (vaultId : List UInt8) : Option BrowserCanonicalState := stores.vaults.get (vaultKey vaultId)

/-- The journal's entry of a Vault. -/
def pending (vaultId : List UInt8) : Option BrowserPendingTransaction :=
  stores.journal.get (vaultKey vaultId)

/-- The reset intent of a Device. -/
def intent (deviceId : JsString) : Option BrowserResetIntent :=
  stores.resets.get (storeKey deviceId)

end BrowserStores

/-! ## Transactions -/

/-- `GenerationConflictError` with its own message. -/
def generationConflict : Thrown :=
  .error ("Canonical Vault generation conflict; recovery or explicit conflict resolution is " ++
    "required")

/-- `PendingBrowserTransactionError` with its own message. -/
def pendingTransaction : Thrown :=
  .error "A canonical browser transaction is already pending reconciliation"

/-- `cloneTransaction`. -/
def cloneTransaction (value : BrowserPendingTransaction) :
    Except Thrown BrowserPendingTransaction := do
  let candidate ← sanitizeBrowserCanonicalState value.candidate
  .ok { value with candidate }

/-- A record that a getter copies with `clone`. -/
def cloned {α : Type} (clone : α → Except Thrown α) : Option α → Except Thrown (Option α)
  | none => .ok none
  | some record => do
    let record ← clone record
    .ok (some record)

/-- `put` of the Vault store. -/
def putVault (vaults : VaultRecords) (state : BrowserCanonicalState)
    (expectedGeneration : Option Nat) : Except Thrown VaultRecords := do
  let safe ← sanitizeBrowserCanonicalState state
  match expectedGeneration, vaults.get (vaultKey safe.vault.vaultId) with
  | some _, none => .error generationConflict
  | some expected, some current => do
    if current.vault.generation ≠ expected then .error generationConflict
    else do
      let next ← mergeVaultAdvanceWithCurrentBrowserState current safe expected
      .ok (vaults.put next)
  | none, some _ =>
    .error (.error "Canonical browser Vault already exists; explicit replacement is required")
  | none, none => .ok (vaults.put safe)

/-- `delete` of the Vault store. -/
def deleteVault (vaults : VaultRecords) (vaultId : List UInt8) (expectedGeneration : Option Nat) :
    Except Thrown VaultRecords := do
  assertLength vaultId vaultIdBytes "vaultId"
  match expectedGeneration, vaults.get (vaultKey vaultId) with
  | some _, none => .error generationConflict
  | some expected, some current =>
    if current.vault.generation ≠ expected then .error generationConflict
    else .ok (vaults.delete (vaultKey vaultId))
  | none, _ => .ok (vaults.delete (vaultKey vaultId))

/-- `stage` of the journal. -/
def stageTransaction (journal : JournalRecords) (value : BrowserPendingTransaction) :
    Except Thrown JournalRecords := do
  let safe ← cloneTransaction value
  match journal.get (vaultKey safe.candidate.vault.vaultId) with
  | some _ => .error pendingTransaction
  | none => .ok (journal.put safe)

/-- The loop of `validateIntent`; `seen` are the keys so far. -/
def validateAffected (seen : List JsString) : List BrowserResetAffectedVault → Except Thrown Unit
  | [] => .ok ()
  | item :: items => do
    require (!(item.vaultId.length != 16 || item.generation == 0 ||
      decide (0xffffffffffffffff < item.generation))) "Invalid reset Vault identity"
    require (!seen.contains (displayVaultId item.vaultId)) "Duplicate reset Vault identity"
    validateAffected (displayVaultId item.vaultId :: seen) items

/-- `validateIntent`. -/
def validateIntent (value : BrowserResetIntent) : Except Thrown Unit := do
  require (!(value.deviceId.length == 0 || decide (256 < value.deviceId.length)))
    "Invalid reset Device ID"
  validateAffected [] value.affectedVaults

/-- `stage` of the reset intents. -/
def stageIntent (resets : ResetRecords) (value : BrowserResetIntent) :
    Except Thrown ResetRecords := do
  validateIntent value
  match resets.get (storeKey value.deviceId) with
  | some _ => .error (.error "A Device reset intent is already pending reconciliation")
  | none => .ok (resets.put value)

/-! ## Calls -/

/-- A method of a store, with its arguments. -/
inductive StoreCall where
  | vaultGet (vaultId : List UInt8)
  | vaultList
  | vaultPut (state : BrowserCanonicalState) (expectedGeneration : Option Nat)
  | vaultDelete (vaultId : List UInt8) (expectedGeneration : Option Nat)
  | journalGet (vaultId : List UInt8)
  | journalListForDevice (deviceId : JsString)
  | journalStage (value : BrowserPendingTransaction)
  | journalDelete (vaultId : List UInt8)
  | resetGet (deviceId : JsString)
  | resetList
  | resetStage (value : BrowserResetIntent)
  | resetDelete (deviceId : JsString)

/-- What the method gives. -/
def StoreCall.Result : StoreCall → Type
  | vaultGet _ => Option BrowserCanonicalState
  | vaultList => List BrowserCanonicalState
  | journalGet _ => Option BrowserPendingTransaction
  | journalListForDevice _ => List BrowserPendingTransaction
  | resetGet _ => Option BrowserResetIntent
  | resetList => List BrowserResetIntent
  | _ => Unit

/-- What the method gives and leaves. Where it throws, the stores stay as they are. -/
def StoreCall.apply (stores : BrowserStores) :
    (call : StoreCall) → Except Thrown (call.Result × BrowserStores)
  | vaultGet vaultId => do
    assertLength vaultId vaultIdBytes "vaultId"
    let record ← cloned sanitizeBrowserCanonicalState (stores.vault vaultId)
    .ok (record, stores)
  | vaultList => do
    let records ← stores.vaults.records.mapM sanitizeBrowserCanonicalState
    .ok (records, stores)
  | vaultPut state expectedGeneration => do
    let vaults ← putVault stores.vaults state expectedGeneration
    .ok ((), stores.withVaults vaults)
  | vaultDelete vaultId expectedGeneration => do
    let vaults ← deleteVault stores.vaults vaultId expectedGeneration
    .ok ((), stores.withVaults vaults)
  | journalGet vaultId => do
    let record ← cloned cloneTransaction (stores.pending vaultId)
    .ok (record, stores)
  | journalListForDevice deviceId => do
    let records ← stores.journal.records.mapM cloneTransaction
    .ok (records.filter (·.candidate.belongsTo deviceId), stores)
  | journalStage value => do
    let journal ← stageTransaction stores.journal value
    .ok ((), stores.withJournal journal)
  | journalDelete vaultId =>
    .ok ((), stores.withJournal (stores.journal.delete (vaultKey vaultId)))
  | resetGet deviceId => .ok (stores.intent deviceId, stores)
  | resetList => .ok (stores.resets.records, stores)
  | resetStage value => do
    let resets ← stageIntent stores.resets value
    .ok ((), stores.withResets resets)
  | resetDelete deviceId =>
    .ok ((), stores.withResets (stores.resets.delete (storeKey deviceId)))

end M5Auth.Web
