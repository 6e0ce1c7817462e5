import M5Auth.Core.Endian
import M5Auth.Core.Nvs

/-!
# The registration store

The stable Device ID and the active Trusted Browser registration, kept in the namespace
`m5auth_reg2` of the ordinary NVS partition, and `Store`'s RAM snapshot of both. Every `nvs_*` call
may fail (`FaultyStore`).

The import of a public key by the PSA library is the parameter `importKey`; the random Device ID
that an `initialize` may draw is its argument `candidate`. The field `clears` is
history: how often a registration clear was asked for. No operation reads it.
-/

namespace M5Auth.Registration

open FaultyStore

/-! ## Types -/

abbrev DeviceId := Bytes 16
/-- What `generate_device_id_candidate` draws. -/
abbrev DeviceIdCandidate := { id : DeviceId // id.allZero = false }

abbrev RegistrationId := Bytes 16
abbrev VaultId := Bytes 16
abbrev P256PublicKey := Bytes 65

inductive Status where
  | ok | notFound | invalidArgument | conflict | corrupt | io
  deriving DecidableEq, Repr

/-- `status_code`. -/
def statusCode : Status → String
  | .ok => "ok"
  | .notFound => "not_found"
  | .invalidArgument => "invalid_argument"
  | .conflict => "registration_conflict"
  | .corrupt => "registration_corrupt"
  | .io => "registration_io_error"

/-- The registration fields of a snapshot. -/
structure Record where
  vaultId : VaultId := Bytes.zero 16
  registrationId : RegistrationId := Bytes.zero 16
  epoch : UInt32 := 0
  brkPublicKey : P256PublicKey := Bytes.zero 65
  deriving DecidableEq

/-- `Snapshot`. -/
structure Snapshot extends Record where
  deviceId : DeviceId := Bytes.zero 16
  registrationPresent : Bool := false
  deriving DecidableEq

/-- `device_id_text`: two lower-case hexadecimal digits for each byte. -/
def deviceIdText (deviceId : DeviceId) : Text :=
  deviceId.1.flatMap fun byte => [hexDigit (byte / 16), hexDigit (byte % 16)]
where
  hexDigit (n : UInt8) : UInt8 := if n < 10 then 48 + n else 87 + n

/-! ## The stored record -/

/-- `kRegistrationMagic`. -/
def registrationMagic : List UInt8 := ascii "M5AREG1" ++ [0]

/-- `kEncodedRegistrationBytes`. -/
def encodedRegistrationBytes : Nat := 8 + 16 + 16 + 4 + 65

/-- `valid_p256_public_key`. -/
def validP256PublicKey (importKey : P256PublicKey → Bool) (key : P256PublicKey) : Bool :=
  key.1.head? == some 0x04 && importKey key

/-- The field checks that `load_registration` and `persist_registration` share. -/
def Record.valid (importKey : P256PublicKey → Bool) (r : Record) : Bool :=
  !r.vaultId.allZero && !r.registrationId.allZero && r.epoch != 0 &&
    validP256PublicKey importKey r.brkPublicKey

def encodeRegistration (r : Record) : List UInt8 :=
  registrationMagic ++ (r.vaultId.1 ++ (r.registrationId.1 ++
    (appendBE 4 r.epoch.toNat ++ r.brkPublicKey.1)))

/-- The fields behind the magic. -/
def readRecord (encoded : List UInt8) : Option Record := do
  let (magic, input) ← readExact 8 encoded
  if magic.1 ≠ registrationMagic then none
  let (vaultId, input) ← readExact 16 input
  let (registrationId, input) ← readExact 16 input
  let (epoch, input) ← readExact 4 input
  let (brkPublicKey, _) ← readExact 65 input
  some { vaultId, registrationId, epoch := UInt32.ofNat (valueBE epoch.1), brkPublicKey }

/-- The record of `load_registration`, `none` if it is structurally corrupt. -/
def decodeRegistration (importKey : P256PublicKey → Bool) (encoded : List UInt8) :
    Option Record :=
  if encoded.length ≠ encodedRegistrationBytes then none
  else (readRecord encoded).filter (·.valid importKey)

/-! ## NVS -/

/-- The keys of `m5auth_reg2`, each absent or with a blob. -/
structure RegistrationNamespace where
  deviceId : Option (List UInt8) := none
  active : Option (List UInt8) := none
  deriving DecidableEq

/-- The ordinary NVS partition, as far as the store uses it. -/
structure NvsContent where
  reg2 : Option RegistrationNamespace := none
  deriving DecidableEq

namespace NvsContent

/-- The namespace as opened read-write: created if it is missing. -/
def opened (c : NvsContent) : NvsContent := { reg2 := some (c.reg2.getD {}) }

def setReg2 (c : NvsContent) (f : RegistrationNamespace → RegistrationNamespace) : NvsContent :=
  { reg2 := c.reg2.map f }

def deviceId (c : NvsContent) : Option (List UInt8) := c.reg2.bind (·.deviceId)

def active (c : NvsContent) : Option (List UInt8) := c.reg2.bind (·.active)

end NvsContent

/-- `map_error` of a failing call. -/
def mapError : NvsFault → Status
  | .invalidArg => .invalidArgument
  | _ => .io

abbrev Nvs := World NvsContent NvsFault

abbrev NvsProg (β : Type) := Prog NvsContent NvsFault Status β

/-- A call that reads the partition. -/
def get {β : Type} (f : NvsContent → β) : NvsProg β := Prog.call mapError f

/-- `nvs_flash_init` and `load_or_create_device_id`. -/
def loadOrCreateDeviceId (candidate : DeviceIdCandidate) : NvsProg DeviceId := do
  get fun _ => ()
  Prog.change mapError NvsContent.opened
  match ← get fun c => c.deviceId.map List.length with
  | some size =>
    if size ≠ 16 then Prog.throw .corrupt
    else
      match ← get fun c => c.deviceId.bind (Bytes.ofList? 16) with
      | none => Prog.throw .corrupt
      | some deviceId => if deviceId.allZero then Prog.throw .corrupt else pure deviceId
  | none =>
    Prog.write mapError fun c => c.setReg2 fun ns => { ns with deviceId := some candidate.1.1 }
    pure candidate.1

/-- The reads of `load_registration`. -/
def readRegistration (importKey : P256PublicKey → Bool) : NvsProg Record := do
  match ← get (·.reg2) with
  | none => Prog.throw .notFound
  | some _ =>
    match ← get fun c => c.active.map List.length with
    | none => Prog.throw .notFound
    | some size =>
      if size ≠ encodedRegistrationBytes then Prog.throw .corrupt
      else
        match ← get fun c => c.active.bind (decodeRegistration importKey) with
        | none => Prog.throw .corrupt
        | some r => pure r

/-- The writes of `persist_registration`. -/
def writeRegistration (r : Record) : NvsProg Unit := do
  Prog.change mapError NvsContent.opened
  Prog.write mapError fun c =>
    c.setReg2 fun ns => { ns with active := some (encodeRegistration r) }

/-- The writes of `clear_registration`. -/
def eraseRegistration : NvsProg Unit := do
  Prog.change mapError NvsContent.opened
  Prog.write mapError fun c => c.setReg2 fun ns => { ns with active := none }

/-- The writes of a recovery from a corrupt Device ID: erase the namespace, then store the
candidate that the host has seen. -/
def recoverDeviceId (deviceId : DeviceId) : NvsProg Unit := do
  Prog.change mapError NvsContent.opened
  Prog.change mapError fun c => c.setReg2 fun _ => {}
  Prog.write mapError fun c => c.setReg2 fun ns => { ns with deviceId := some deviceId.1 }

/-! ## The store -/

structure Store where
  nvs : Nvs
  ready : Bool := false
  recoveryResetAvailable : Bool := false
  deviceIdRecoveryRequired : Bool := false
  snapshot : Snapshot := {}
  clears : Nat := 0

namespace Store

variable (importKey : P256PublicKey → Bool)

/-- The snapshot of a Device without a registration. -/
def bare (deviceId : DeviceId) : Snapshot := { deviceId }

/-- The snapshot of a Device with the registration `r`. -/
def registered (deviceId : DeviceId) (r : Record) : Snapshot :=
  { r with deviceId, registrationPresent := true }

def withNvs (st : Store) (nvs : Nvs) : Store := { st with nvs }

def withSnapshot (st : Store) (snapshot : Snapshot) : Store := { st with snapshot }

/-- The status of a program, and the store after it. -/
def run {β : Type} (st : Store) (p : NvsProg β) : Except Status β × Store :=
  match p st.nvs with
  | (result, nvs) => (result, st.withNvs nvs)

/-- `load_registration`: the snapshot is emptied before the first read. -/
def loadRegistration (st : Store) : Status × Store :=
  let st := st.withSnapshot (bare st.snapshot.deviceId)
  match st.run (readRegistration importKey) with
  | (.ok r, st) => (.ok, st.withSnapshot (registered st.snapshot.deviceId r))
  | (.error status, st) => (status, st)

/-- `persist_registration`. -/
def persistRegistration (st : Store) (r : Record) : Status × Store :=
  if !r.valid importKey then (.invalidArgument, st)
  else
    match st.run (writeRegistration r) with
    | (.error status, st) => (status, st)
    | (.ok _, st) => (.ok, st.withSnapshot (registered st.snapshot.deviceId r))

/-- The store as `initialize` clears it first. -/
def blank (st : Store) : Store :=
  { st with
    ready := false, recoveryResetAvailable := false, deviceIdRecoveryRequired := false,
    snapshot := {} }

/-- `initialize`. -/
def initializeStore (st : Store) (candidate : DeviceIdCandidate) : Status × Store :=
  match st.blank.run (loadOrCreateDeviceId candidate) with
  | (.error status, st) =>
    if status = .corrupt then
      (status, { st with
        snapshot := bare candidate.1, recoveryResetAvailable := true,
        deviceIdRecoveryRequired := true })
    else (status, st)
  | (.ok deviceId, st) =>
    match (st.withSnapshot (bare deviceId)).loadRegistration importKey with
    | (status, st) =>
      if status = .corrupt then
        (status, { st with snapshot := bare deviceId, recoveryResetAvailable := true })
      else if status ≠ .ok ∧ status ≠ .notFound then (status, st.withSnapshot {})
      else (.ok, { st with ready := true })

/-- `snapshot`: the status and what is written to a fresh output. -/
def readSnapshot (st : Store) : Status × Snapshot :=
  if !st.ready then
    if st.recoveryResetAvailable then (.corrupt, st.snapshot) else (.io, {})
  else (.ok, st.snapshot)

/-- `install_initial`. -/
def installInitial (st : Store) (r : Record) : Status × Store :=
  if !st.ready then (.io, st)
  else
    match st.loadRegistration importKey with
    | (refresh, st) =>
      if refresh ≠ .notFound then (if refresh = .ok then .conflict else refresh, st)
      else if r.epoch ≠ 1 then (.invalidArgument, st)
      else st.persistRegistration importKey r

/-- `replace`. -/
def replace (st : Store) (expectedEpoch : UInt32) (r : Record) : Status × Store :=
  if !st.ready ∨ expectedEpoch = 0 ∨ expectedEpoch = 4294967295 ∨ r.epoch ≠ expectedEpoch + 1 then
    (.invalidArgument, st)
  else
    match st.loadRegistration importKey with
    | (refresh, st) =>
      if refresh ≠ .ok then (refresh, st)
      else if !st.snapshot.registrationPresent ∨ st.snapshot.vaultId ≠ r.vaultId ∨
          st.snapshot.epoch ≠ expectedEpoch then (.conflict, st)
      else st.persistRegistration importKey r

/-- The writes of a clear, and the store once they worked. -/
def cleared (st : Store) (p : NvsProg Unit) : Status × Store :=
  match st.run p with
  | (.error status, st) => (status, st)
  | (.ok _, st) =>
    (.ok, { st with
      snapshot := bare st.snapshot.deviceId, recoveryResetAvailable := false,
      deviceIdRecoveryRequired := false, ready := true })

/-- `clear_registration`. -/
def clearRegistration (st : Store) : Status × Store :=
  let st := { st with clears := st.clears + 1 }
  if !st.ready then (.io, st) else st.cleared eraseRegistration

/-- `clear_corrupt_registration_for_recovery`. -/
def clearCorruptRegistrationForRecovery (st : Store) : Status × Store :=
  if st.ready then st.clearRegistration
  else
    let st := { st with clears := st.clears + 1 }
    if !st.recoveryResetAvailable ∨ st.snapshot.deviceId.allZero then (.io, st)
    else if st.deviceIdRecoveryRequired then st.cleared (recoverDeviceId st.snapshot.deviceId)
    else st.cleared eraseRegistration

end Store

end M5Auth.Registration
