import M5Auth.Core.Nvs
import M5Auth.VaultRuntime.Envelope

/-!
# The Vault partition

`NvsPersistence` keeps the Vault in the NVS partition `auth_nvs`: a schema number, two envelope
slots, the active-slot pointer and the last used credential. `CompatibleNvsPersistence` adds the
probe for the superseded, encrypted Schema 1 layout. Both are programs over a store whose calls may
fail (`FaultyStore`): every `nvs_*` call consults the oracle, and a failing write may have stored
its value or not. A missing namespace or key is what the content says, never a fault.
-/

namespace M5Auth.VaultRuntime

open Vault FaultyStore

/-- The keys of the namespace `vault2`, each absent or with a value of its own type. -/
structure VaultNamespace where
  schema : Option UInt32 := none
  active : Option UInt8 := none
  slot0 : Option (List UInt8) := none
  slot1 : Option (List UInt8) := none
  lastUsed : Option (List UInt8) := none
  deriving DecidableEq

/-- The partition `auth_nvs`: the namespace `vault2`, the key `schema` of the namespace `state`
(`none` without the namespace), and that key as the partition shows it under the Schema 1 keys
(`none` also where the partition does not open under them). -/
structure Partition where
  vault2 : Option VaultNamespace := none
  state : Option (Option UInt32) := none
  secureStateSchema : Option UInt32 := none
  deriving DecidableEq

/-- `map_error` of a failing call. -/
def mapError : NvsFault → Status
  | .invalidArg => .invalidArgument
  | .noFreePages => .corrupt
  | .newVersionFound => .unsupportedSchema
  | .other => .io

abbrev AuthNvs := World Partition NvsFault

abbrev NvsProg (β : Type) := Prog Partition NvsFault Status β

namespace Partition

/-- The namespace `vault2` as opened read-write: created if it is missing. -/
def opened (p : Partition) : Partition := { p with vault2 := some (p.vault2.getD {}) }

def setVault2 (p : Partition) (f : VaultNamespace → VaultNamespace) : Partition :=
  { p with vault2 := p.vault2.map f }

/-- The blob of slot `slot`. -/
def slot (p : Partition) (slot : UInt8) : Option (List UInt8) :=
  p.vault2.bind fun ns => if slot = 0 then ns.slot0 else ns.slot1

def setSlot (p : Partition) (slot : UInt8) (encoded : List UInt8) : Partition :=
  p.setVault2 fun ns =>
    if slot = 0 then { ns with slot0 := some encoded } else { ns with slot1 := some encoded }

/-- The active-slot pointer. -/
def active (p : Partition) : Option UInt8 := p.vault2.bind (·.active)

def setActive (p : Partition) (slot : UInt8) : Partition :=
  p.setVault2 fun ns => { ns with active := some slot }

end Partition

namespace NvsPersistence

/-- A call that reads the partition. -/
def get {β : Type} (f : Partition → β) : NvsProg β := Prog.call mapError f

/-- `ensure_partition_initialized`. -/
def ensurePartitionInitialized : NvsProg Unit := get fun _ => ()

/-- `read_blob`: the length first, then the bytes. -/
def readBlob (key : Partition → Option (List UInt8)) : NvsProg (List UInt8) := do
  match ← get fun p => (key p).map List.length with
  | none => Prog.throw .notFound
  | some size =>
    if size = 0 ∨ size > maxPersistedCiphertextBytes + 128 then Prog.throw .corrupt
    else get fun p => (key p).getD []

/-- `read_active`: the active slot and its envelope. -/
def readActive : NvsProg (Option (UInt8 × VaultEnvelope)) := do
  match ← get Partition.active with
  | none => pure none
  | some slot =>
    if slot > 1 then Prog.throw .corrupt
    else do
      let encoded ← readBlob fun p => p.slot slot
      match decodeEnvelope encoded with
      | .error status => Prog.throw status
      | .ok envelope => pure (some (slot, envelope))

/-- `detect_legacy_schema`: it never finds a readable Schema 2. -/
def detectLegacySchema {β : Type} : NvsProg β := do
  match ← get Partition.state with
  | none => Prog.throw .unprovisioned
  | some _ =>
    match ← get fun p => p.state.join with
    | none => Prog.throw .unprovisioned
    | some schema =>
      if schema = 1 then Prog.throw .reprovisionRequired
      else if schema > storageSchemaVersion then Prog.throw .unsupportedSchema
      else Prog.throw .corrupt

/-- The last used credential, as `load` reads it. -/
def readLastUsed : NvsProg (Option CredentialId) := do
  match ← get fun p => (p.vault2.bind (·.lastUsed)).map List.length with
  | none => pure none
  | some size =>
    if size ≠ 16 then Prog.throw .corrupt
    else get fun p => (p.vault2.bind (·.lastUsed)).bind (Bytes.ofList? 16)

/-- The snapshot of the active slot and the last used credential. -/
def snapshotOf (active : Option (UInt8 × VaultEnvelope)) (lastUsed : Option CredentialId) :
    PersistedSnapshot :=
  { schemaReady := true
    hasVault := active.isSome
    envelope := (active.map (·.2)).getD {}
    lastUsed }

/-- The part of `load` after the namespace `vault2` was found. -/
def loadNamespace : NvsProg PersistedSnapshot := do
  match ← get fun p => p.vault2.bind (·.schema) with
  | none => Prog.throw .corrupt
  | some schema =>
    if schema = 1 then Prog.throw .reprovisionRequired
    else if schema > storageSchemaVersion then Prog.throw .unsupportedSchema
    else if schema ≠ storageSchemaVersion then Prog.throw .corrupt
    else do
      let active ← readActive
      let lastUsed ← readLastUsed
      pure (snapshotOf active lastUsed)

def load : NvsProg PersistedSnapshot := do
  ensurePartitionInitialized
  match ← get Partition.vault2 with
  | none => detectLegacySchema
  | some _ => loadNamespace

/-- `format_schema2`: erase the partition, then write the schema number. -/
def formatSchema2 : NvsProg Unit := do
  Prog.ignore
  Prog.change mapError fun _ => {}
  ensurePartitionInitialized
  Prog.change mapError Partition.opened
  Prog.write mapError fun p =>
    p.setVault2 fun ns => { ns with schema := some storageSchemaVersion }

/-- `open_namespace(NVS_READWRITE)` and the schema check of `replace_envelope` and
`set_last_used`. -/
def openForWrite : NvsProg Unit := do
  ensurePartitionInitialized
  Prog.change mapError Partition.opened
  match ← get fun p => p.vault2.bind (·.schema) with
  | none => Prog.throw .notFound
  | some schema => if schema ≠ storageSchemaVersion then Prog.throw .unsupportedSchema else pure ()

/-- The generation check of `replace_envelope` against the active envelope. -/
def acceptsGeneration (expectedGeneration : UInt64) (envelope : VaultEnvelope) :
    Option (UInt8 × VaultEnvelope) → Bool
  | none => expectedGeneration == 0
  | some (_, current) =>
    expectedGeneration != 0 && current.generation == expectedGeneration &&
      expectedGeneration != 18446744073709551615 &&
      envelope.generation == expectedGeneration + 1 && envelope.vaultId == current.vaultId

/-- The slot that `replace_envelope` stages into. -/
def inactiveSlot : Option (UInt8 × VaultEnvelope) → UInt8
  | none => 0
  | some (slot, _) => 1 - slot

/-- Phase 1 of `replace_envelope`: check the candidate, stage and commit it in the inactive slot
and read it back. -/
def stageEnvelope (expectedGeneration : UInt64) (envelope : VaultEnvelope) : NvsProg UInt8 := do
  if !validEnvelope envelope then Prog.throw .invalidArgument
  else
    openForWrite
    let active ← readActive
    if !acceptsGeneration expectedGeneration envelope active then Prog.throw .generationMismatch
    else
      match encodeEnvelope envelope with
      | .error status => Prog.throw status
      | .ok encoded =>
        Prog.write mapError fun p => p.setSlot (inactiveSlot active) encoded
        let stagedBytes ← readBlob fun p => p.slot (inactiveSlot active)
        match decodeEnvelope stagedBytes with
        | .error status => Prog.throw status
        | .ok staged =>
          if !sameEnvelope staged envelope then Prog.throw .corrupt
          else pure (inactiveSlot active)

/-- `replace_envelope`: Phase 2 flips the pointer to the staged slot. -/
def replaceEnvelope (expectedGeneration : UInt64) (envelope : VaultEnvelope) : NvsProg Unit := do
  let slot ← stageEnvelope expectedGeneration envelope
  Prog.write mapError fun p => p.setActive slot

/-- `set_last_used`. -/
def setLastUsed (credentialId : Option CredentialId) : NvsProg Unit := do
  openForWrite
  Prog.write mapError fun p =>
    p.setVault2 fun ns => { ns with lastUsed := credentialId.map Subtype.val }

/-- `erase_all`. -/
def eraseAll : NvsProg Unit := do
  Prog.ignore
  Prog.change mapError fun _ => {}

end NvsPersistence

namespace CompatibleNvsPersistence

/-- The reads of `legacy_schema1_present`: deinitialize, initialize with the Schema 1 keys, open
the namespace and read its schema. -/
def readSecureSchema : NvsProg (Option UInt32) := do
  Prog.ignore
  NvsPersistence.get fun _ => ()
  NvsPersistence.get fun _ => ()
  NvsPersistence.get Partition.secureStateSchema

/-- `legacy_schema1_present`: any failure counts as absent. -/
def legacySchema1Present (nvs : AuthNvs) : Bool × AuthNvs :=
  match readSecureSchema nvs with
  | (.ok schema, nvs) => (schema == some 1, nvs)
  | (.error _, nvs) => (false, nvs)

def load : NvsProg PersistedSnapshot := fun nvs =>
  match NvsPersistence.load nvs with
  | (.ok snapshot, nvs) => (.ok snapshot, nvs)
  | (.error primary, nvs) =>
    if primary = .reprovisionRequired then (.error primary, nvs)
    else
      match legacySchema1Present nvs with
      | (true, nvs) => (.error .reprovisionRequired, nvs)
      | (false, nvs) => (.error primary, nvs)

end CompatibleNvsPersistence

/-- The status of a program. -/
def statusOf {β : Type} : Except Status β × AuthNvs → Status × AuthNvs
  | (.ok _, nvs) => (.ok, nvs)
  | (.error status, nvs) => (status, nvs)

/-- The firmware's persistence. A failing `load` leaves its output unspecified; no caller looks at
it. -/
def compatibleNvsPersistence : Persistence AuthNvs where
  load nvs :=
    match CompatibleNvsPersistence.load nvs with
    | (.ok snapshot, nvs) => ((.ok, snapshot), nvs)
    | (.error status, nvs) => ((status, {}), nvs)
  formatSchema2 nvs := statusOf (NvsPersistence.formatSchema2 nvs)
  replaceEnvelope expected envelope nvs :=
    statusOf (NvsPersistence.replaceEnvelope expected envelope nvs)
  setLastUsed credentialId nvs := statusOf (NvsPersistence.setLastUsed credentialId nvs)
  eraseAll nvs := statusOf (NvsPersistence.eraseAll nvs)

end M5Auth.VaultRuntime
