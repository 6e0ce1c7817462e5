import M5Auth.VaultRuntime.Envelope

/-!
# The envelope codec in memory

`encode_envelope` and `decode_envelope` as the persistence runs them: the integers are appended and
read by shifts, the input is read by a `BlobReader` with an offset, and the output is a place in
memory that may be null. `Envelope` has the same codec over the rest of the input.
-/

namespace M5Auth.VaultRuntime

open Vault

/-! ## Appending -/

/-- `append_u16`. -/
def appendU16 (output : List UInt8) (value : UInt16) : List UInt8 :=
  output ++ [(value &&& 0xff).toUInt8] ++ [((value >>> 8) &&& 0xff).toUInt8]

/-- `append_u32`. -/
def appendU32 (output : List UInt8) (value : UInt32) : List UInt8 :=
  ([0, 8, 16, 24] : List UInt32).foldl
    (fun output shift => output ++ [((value >>> shift) &&& 0xff).toUInt8]) output

/-- `append_u64`. -/
def appendU64 (output : List UInt8) (value : UInt64) : List UInt8 :=
  ([0, 8, 16, 24, 32, 40, 48, 56] : List UInt64).foldl
    (fun output shift => output ++ [((value >>> shift) &&& 0xff).toUInt8]) output

/-! ## Reading -/

/-- `Reader` of the persistence. -/
structure BlobReader where
  input : List UInt8
  offset : Nat := 0

namespace BlobReader

/-- `read_exact`. -/
def readExact (reader : BlobReader) (length : Nat) : Option (Bytes length × BlobReader) :=
  if h : reader.offset > reader.input.length ∨ length > reader.input.length - reader.offset then
    none
  else
    some (⟨(reader.input.drop reader.offset).take length, by
      rw [List.length_take, List.length_drop]
      omega⟩, { reader with offset := reader.offset + length })

/-- `read_u16`. -/
def readU16 (reader : BlobReader) : Option (UInt16 × BlobReader) := do
  let (bytes, reader) ← reader.readExact 2
  some ((bytes.1.getD 0 0).toUInt16 ||| (bytes.1.getD 1 0).toUInt16 <<< 8, reader)

/-- `read_u32`. -/
def readU32 (reader : BlobReader) : Option (UInt32 × BlobReader) := do
  let (bytes, reader) ← reader.readExact 4
  some ((bytes.1.getD 0 0).toUInt32 ||| (bytes.1.getD 1 0).toUInt32 <<< 8 |||
    (bytes.1.getD 2 0).toUInt32 <<< 16 ||| (bytes.1.getD 3 0).toUInt32 <<< 24, reader)

/-- `read_u64`. -/
def readU64 (reader : BlobReader) : Option (UInt64 × BlobReader) := do
  let (bytes, reader) ← reader.readExact 8
  some ((List.range 8).foldl (fun result index =>
    result ||| (bytes.1.getD index 0).toUInt64 <<< UInt64.ofNat (index * 8)) 0, reader)

/-- `finished`. -/
def finished (reader : BlobReader) : Bool := reader.offset == reader.input.length

end BlobReader

/-! ## The codec -/

/-- What `encode_envelope` writes. -/
def envelopeBytes (envelope : VaultEnvelope) : List UInt8 :=
  let output := envelopeMagic
  let output := appendU16 output envelope.storageSchemaVersion
  let output := appendU16 output envelope.vaultFormatVersion
  let output := output ++ envelope.vaultId.1
  let output := appendU64 output envelope.generation
  let output := output ++ envelope.nonce.1
  let output := output ++ envelope.tag.1
  let output := appendU32 output (UInt32.ofNat envelope.ciphertext.length)
  output ++ envelope.ciphertext

/-- `encode_envelope`, with the output after it. -/
def encodeEnvelopeInto (envelope : VaultEnvelope) (output : Option (List UInt8)) :
    Status × Option (List UInt8) :=
  if output.isNone || !validEnvelope envelope then (.invalidArgument, output)
  else (.ok, some (envelopeBytes envelope))

/-- The reads of `decode_envelope` before the ciphertext. -/
def readCandidate (reader : BlobReader) : Option (VaultEnvelope × UInt32 × BlobReader) := do
  let (magic, reader) ← reader.readExact 8
  if magic.1 ≠ envelopeMagic then none
  let (storageSchemaVersion, reader) ← reader.readU16
  let (vaultFormatVersion, reader) ← reader.readU16
  let (vaultId, reader) ← reader.readExact 16
  let (generation, reader) ← reader.readU64
  let (nonce, reader) ← reader.readExact 12
  let (tag, reader) ← reader.readExact 16
  let (ciphertextSize, reader) ← reader.readU32
  some ({ storageSchemaVersion, vaultFormatVersion, vaultId, generation, nonce, tag },
    ciphertextSize, reader)

/-- The rest of `decode_envelope`: the envelope, or the status of the failure. -/
def finishCandidate (candidate : VaultEnvelope) (ciphertextSize : UInt32) (reader : BlobReader) :
    Except Status VaultEnvelope :=
  if ciphertextSize = 0 ∨ ciphertextSize.toNat > maxPersistedCiphertextBytes then .error .corrupt
  else if candidate.storageSchemaVersion ≠ targetStorageSchemaVersion then .error .corrupt
  else if !isSupportedVaultFormat candidate.vaultFormatVersion then .error .unsupportedVaultFormat
  else
    match reader.readExact ciphertextSize.toNat with
    | none => .error .corrupt
    | some (ciphertext, reader) =>
      let candidate := { candidate with ciphertext := ciphertext.1 }
      if !reader.finished || !validEnvelope candidate then .error .corrupt else .ok candidate

/-- `decode_envelope`, with the output after it. -/
def decodeEnvelopeInto (encoded : List UInt8) (envelope : Option VaultEnvelope) :
    Status × Option VaultEnvelope :=
  if envelope.isNone || encoded.isEmpty then (.corrupt, envelope)
  else
    match readCandidate { input := encoded } with
    | none => (.corrupt, envelope)
    | some (candidate, ciphertextSize, reader) =>
      match finishCandidate candidate ciphertextSize reader with
      | .error status => (status, envelope)
      | .ok candidate => (.ok, some candidate)

end M5Auth.VaultRuntime
