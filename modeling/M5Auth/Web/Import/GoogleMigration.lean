import M5Auth.Web.Base64
import M5Auth.Web.Import.Accounts

/-!
# Google Authenticator migrations

`parseGoogleMigrationUri` reads one QR code of a migration, and `MigrationBatchAssembler.add` puts
the parts of a batch together.
-/

namespace M5Auth.Web.Import

open Buffers (Memory)

variable {ρ : Type}

def googleAlgorithmSha1 : Int := 1
def googleDigitsSix : Int := 1
def googleTypeTotp : Int := 2
def googleMigrationMaxBatchParts : Int := 100

/-! ## The payload -/

/-- `GoogleMigrationOtpParameters`. -/
structure GoogleMigrationOtpParameters where
  secret : List UInt8 := []
  name : JsString := []
  issuer : JsString := []
  algorithm : Int := 0
  digits : Int := 0
  type : Int := 0

/-- `GoogleMigrationPayload`. -/
structure GoogleMigrationPayload where
  otpParameters : List GoogleMigrationOtpParameters := []
  version : Int := 0
  batchSize : Int := 0
  batchIndex : Int := 0
  batchId : Int := 0

/-- `reader.int32()`, as a number. -/
def Reader.number (reader : Reader ρ) (state : ρ) : Option (Int × ρ) :=
  (reader.int32 state).map fun (value, state) => (value.toInt, state)

/-- One field of `decodeOtpParameters`, after its tag. -/
def readOtpField (reader : Reader ρ) (tag : UInt32) (parameters : GoogleMigrationOtpParameters)
    (state : ρ) : Option (GoogleMigrationOtpParameters × ρ) :=
  match (tag >>> 3).toNat with
  | 1 => (reader.bytes state).map fun (secret, state) => ({ parameters with secret }, state)
  | 2 => (reader.string state).map fun (name, state) => ({ parameters with name }, state)
  | 3 => (reader.string state).map fun (issuer, state) => ({ parameters with issuer }, state)
  | 4 => (reader.number state).map fun (algorithm, state) => ({ parameters with algorithm }, state)
  | 5 => (reader.number state).map fun (digits, state) => ({ parameters with digits }, state)
  | 6 => (reader.number state).map fun (type, state) => ({ parameters with type }, state)
  | 7 => (reader.uint64 state).map fun (_, state) => (parameters, state)
  | _ => (reader.skipType (tag &&& 7) state).map fun state => (parameters, state)

/-- The loop of `decodeOtpParameters`. Each round reads a byte at least, so `fuel` above the length
of the input is enough. -/
def decodeOtpLoop (reader : Reader ρ) (stop : Nat) :
    Nat → GoogleMigrationOtpParameters → ρ → Option (GoogleMigrationOtpParameters × ρ)
  | 0, _, _ => none
  | fuel + 1, parameters, state =>
    if reader.pos state < stop then do
      let (tag, state) ← reader.uint32 state
      let (parameters, state) ← readOtpField reader tag parameters state
      decodeOtpLoop reader stop fuel parameters state
    else some (parameters, state)

/-- `decodeOtpParameters`. -/
def decodeOtpParameters (reader : Reader ρ) (state : ρ) (length : UInt32) :
    Option (GoogleMigrationOtpParameters × ρ) :=
  decodeOtpLoop reader (reader.pos state + length.toNat) (reader.len state + 1) {} state

/-- One field of `decodeGoogleMigrationPayload`, after its tag. -/
def readPayloadField (reader : Reader ρ) (tag : UInt32) (payload : GoogleMigrationPayload)
    (state : ρ) : Option (GoogleMigrationPayload × ρ) :=
  match (tag >>> 3).toNat with
  | 1 => do
    let (length, state) ← reader.uint32 state
    let (parameters, state) ← decodeOtpParameters reader state length
    some ({ payload with otpParameters := payload.otpParameters ++ [parameters] }, state)
  | 2 => (reader.number state).map fun (version, state) => ({ payload with version }, state)
  | 3 => (reader.number state).map fun (batchSize, state) => ({ payload with batchSize }, state)
  | 4 => (reader.number state).map fun (batchIndex, state) => ({ payload with batchIndex }, state)
  | 5 => (reader.number state).map fun (batchId, state) => ({ payload with batchId }, state)
  | _ => (reader.skipType (tag &&& 7) state).map fun state => (payload, state)

/-- The loop of `decodeGoogleMigrationPayload`. -/
def decodePayloadLoop (reader : Reader ρ) :
    Nat → GoogleMigrationPayload → ρ → Option GoogleMigrationPayload
  | 0, _, _ => none
  | fuel + 1, payload, state =>
    if reader.pos state < reader.len state then do
      let (tag, state) ← reader.uint32 state
      let (payload, state) ← readPayloadField reader tag payload state
      decodePayloadLoop reader fuel payload state
    else some payload

/-- `decodeGoogleMigrationPayload`. -/
def decodeGoogleMigrationPayload (reader : Reader ρ) (input : List UInt8) :
    Option GoogleMigrationPayload :=
  decodePayloadLoop reader (input.length + 1) {} (reader.create input)

/-! ## A part -/

/-- `GoogleMigrationPart`. -/
structure GoogleMigrationPart where
  version : Int
  batchSize : Int
  batchIndex : Int
  batchId : Int
  accounts : List ImportedTotpAccount
  deriving DecidableEq

/-- `decodeBase64`. -/
def decodeBase64 (value : JsString) : Except ImportError (List UInt8) :=
  let invalid := ⟨"The Google Authenticator migration payload encoding is invalid."⟩
  let normalized := value.map fun unit => if unit = 0x20 then 0x2b else unit
  let data := normalized.takeWhile base64Alphabet.contains
  let padding := normalized.dropWhile base64Alphabet.contains
  if padding.any (· != equalsSign) ∨ padding.length > 2 ∨ normalized.length % 4 = 1 then
    .error invalid
  else
    let padded := data ++ padding ++ List.replicate ((4 - normalized.length % 4) % 4) equalsSign
    match atob padded with
    | none => .error invalid
    | some bytes => .ok bytes

def metadataSummary (decoded : GoogleMigrationPayload) : String :=
  "version=" ++ toString decoded.version ++ ", batchSize=" ++ toString decoded.batchSize ++
    ", batchIndex=" ++ toString decoded.batchIndex

/-- `assertSupportedMetadata`. -/
def assertSupportedMetadata (decoded : GoogleMigrationPayload) : Except ImportError Unit :=
  if decoded.version ≠ 1 ∧ decoded.version ≠ 2 then
    .error ⟨"Unsupported Google Authenticator migration metadata: " ++ metadataSummary decoded ++
      "."⟩
  else if decoded.batchSize < 1 ∨ decoded.batchSize > googleMigrationMaxBatchParts ∨
      decoded.batchIndex < 0 ∨ decoded.batchIndex ≥ decoded.batchSize then
    .error ⟨"Invalid Google Authenticator migration metadata: " ++ metadataSummary decoded ++ "."⟩
  else .ok ()

/-- The loop over the parameters of a payload. What is thrown clears the accounts read so far. -/
def readAccounts : List GoogleMigrationOtpParameters → List ImportedTotpAccount → Memory →
    Except ImportError (List ImportedTotpAccount) × Memory
  | [], accounts, m => (.ok accounts, m)
  | parameters :: rest, accounts, m =>
    if parameters.type ≠ googleTypeTotp ∨ parameters.algorithm ≠ googleAlgorithmSha1 ∨
        parameters.digits ≠ googleDigitsSix ∨ parameters.secret.length = 0 then
      (.error ⟨"The Google Authenticator migration contains an account unsupported by V1."⟩,
        clearSensitiveAccounts m accounts)
    else
      let account := trim parameters.name
      if account.isEmpty then
        (.error ⟨"The Google Authenticator migration contains an account without a name."⟩,
          clearSensitiveAccounts m accounts)
      else
        readAccounts rest (accounts ++ [⟨trim parameters.issuer, account, m.size⟩])
          (m.alloc parameters.secret)

/-- The accounts of a payload. -/
def payloadAccounts (decoded : GoogleMigrationPayload) (m : Memory) :
    Except ImportError (List ImportedTotpAccount) × Memory :=
  match assertSupportedMetadata decoded with
  | .error error => (.error error, m)
  | .ok () =>
    if decoded.otpParameters.length = 0 then
      (.error ⟨"The Google Authenticator migration QR code contains no accounts."⟩, m)
    else readAccounts decoded.otpParameters [] m

/-- The bytes of the payload in a URI. -/
def migrationBytes (platform : Platform ρ) (source : JsString) :
    Except ImportError (List UInt8) :=
  match platform.newUrl source with
  | none => .error ⟨"The QR code is not a valid Google Authenticator migration URI."⟩
  | some url =>
    if url.protocol ≠ literal "otpauth-migration:" ∨
        platform.toLowerCase url.hostname ≠ literal "offline" then
      .error ⟨"The QR code is not a Google Authenticator migration export."⟩
    else
      match url.getAll (literal "data") with
      | [value] =>
        if value.isEmpty then
          .error ⟨"The Google Authenticator migration QR code is missing its payload."⟩
        else decodeBase64 value
      | _ => .error ⟨"The Google Authenticator migration QR code is missing its payload."⟩

/-- `parseGoogleMigrationUri`. The secrets of the payload are views of its bytes, so filling the
bytes with zeros clears them too. -/
def parseGoogleMigrationUri (platform : Platform ρ) (source : JsString) (m : Memory) :
    Except ImportError GoogleMigrationPart × Memory :=
  match migrationBytes platform source with
  | .error error => (.error error, m)
  | .ok bytes =>
    let bytesRef := m.size
    let m := m.alloc bytes
    match decodeGoogleMigrationPayload platform.reader bytes with
    | none =>
      (.error ⟨"The Google Authenticator migration payload is invalid."⟩, m.fill bytesRef)
    | some decoded =>
      match payloadAccounts decoded m with
      | (.error error, m) => (.error error, m.fill bytesRef)
      | (.ok accounts, m) =>
        (.ok { version := decoded.version, batchSize := decoded.batchSize
               batchIndex := decoded.batchIndex, batchId := decoded.batchId, accounts },
          m.fill bytesRef)

/-! ## A batch -/

/-- `MigrationBatchUpdate`. -/
structure MigrationBatchUpdate where
  complete : Bool
  received : Nat
  total : Int
  accounts : Option (List ImportedTotpAccount)
  deriving DecidableEq

/-- `ActiveBatch`. The parts are a map in the order of insertion. -/
structure ActiveBatch where
  id : Int
  size : Int
  parts : List (Int × List ImportedTotpAccount)
  deriving DecidableEq

/-- `MigrationBatchAssembler`. -/
structure MigrationBatchAssembler where
  active : Option ActiveBatch := none
  deriving DecidableEq

namespace ActiveBatch

/-- The accounts that the parts hold. -/
def held (batch : ActiveBatch) : List ImportedTotpAccount := batch.parts.flatMap Prod.snd

def pendingCount (batch : ActiveBatch) : Nat := (batch.parts.map fun part => part.2.length).sum

/-- The loop over the indices: the accounts of their parts, or nothing if a part is missing. -/
def collectParts (batch : ActiveBatch) : List Nat → Option (List ImportedTotpAccount)
  | [] => some []
  | index :: rest =>
    match batch.parts.lookup (Int.ofNat index) with
    | none => none
    | some batchAccounts => (batch.collectParts rest).map (batchAccounts ++ ·)

/-- The accounts in the order of their parts' indices. -/
def collect (batch : ActiveBatch) : Option (List ImportedTotpAccount) :=
  batch.collectParts (List.range batch.size.toNat)

end ActiveBatch

namespace MigrationBatchAssembler

def hasPending (assembler : MigrationBatchAssembler) : Bool := assembler.active.isSome

/-- `clear`. -/
def clear (assembler : MigrationBatchAssembler) (m : Memory) : MigrationBatchAssembler × Memory :=
  match assembler.active with
  | none => ({}, m)
  | some batch => ({}, clearSensitiveAccounts m batch.held)

/-- The end of `add`: the part is in the batch. -/
def finish (batch : ActiveBatch) (m : Memory) :
    (Except ImportError MigrationBatchUpdate × MigrationBatchAssembler) × Memory :=
  if batch.parts.length ≠ batch.size then
    ((.ok ⟨false, batch.parts.length, batch.size, none⟩, ⟨some batch⟩), m)
  else
    match batch.collect with
    | none =>
      ((.error ⟨"The Google Authenticator migration batch is incomplete."⟩, {}),
        clearSensitiveAccounts m batch.held)
    | some accounts => ((.ok ⟨true, batch.size.toNat, batch.size, some accounts⟩, {}), m)

/-- The part of `add` for a part of the active batch, or of a new one. -/
def insert (batch : ActiveBatch) (part : GoogleMigrationPart) (capacity : Int) (m : Memory) :
    (Except ImportError MigrationBatchUpdate × MigrationBatchAssembler) × Memory :=
  if (batch.parts.lookup part.batchIndex).isSome then
    ((.ok ⟨false, batch.parts.length, batch.size, none⟩, ⟨some batch⟩),
      clearSensitiveAccounts m part.accounts)
  else if batch.pendingCount + part.accounts.length > capacity then
    ((.error ⟨"The migration exceeds the V1 account limit."⟩, {}),
      clearSensitiveAccounts (clearSensitiveAccounts m part.accounts) batch.held)
  else finish { batch with parts := batch.parts ++ [(part.batchIndex, part.accounts)] } m

/-- `add`. -/
def add (assembler : MigrationBatchAssembler) (part : GoogleMigrationPart) (capacity : Int)
    (m : Memory) : (Except ImportError MigrationBatchUpdate × MigrationBatchAssembler) × Memory :=
  if capacity < 1 ∨ part.accounts.length > capacity then
    match assembler.clear (clearSensitiveAccounts m part.accounts) with
    | (assembler, m) => ((.error ⟨"The migration exceeds the V1 account limit."⟩, assembler), m)
  else if assembler.active.any fun batch =>
      batch.id != part.batchId || batch.size != part.batchSize then
    match assembler.clear m with
    | (assembler, m) =>
      ((.error ⟨"This QR code does not belong to the active Google Authenticator migration " ++
        "batch."⟩, assembler), clearSensitiveAccounts m part.accounts)
  else if part.batchSize = 1 then
    if part.batchIndex ≠ 0 then
      ((.error ⟨"The Google Authenticator migration batch metadata is invalid."⟩, assembler),
        clearSensitiveAccounts m part.accounts)
    else ((.ok ⟨true, 1, 1, some part.accounts⟩, assembler), m)
  else insert (assembler.active.getD ⟨part.batchId, part.batchSize, []⟩) part capacity m

end MigrationBatchAssembler

end M5Auth.Web.Import
