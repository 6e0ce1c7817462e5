import M5Auth.Vault.Proof.RoundTrip

/-!
# The plaintext codec

`plaintext_codec`: in each format, what `encode_plaintext` accepts is decoded to itself, what
`decode_plaintext` accepts is encoded to itself, and a call that fails leaves its output alone.
`encodePlaintextInto` and `decodePlaintextInto` are the two functions with their output parameters.
-/

namespace M5Auth.Vault

/-! ## Output parameters -/

/-- What `wipe_plaintext_candidate` leaves. -/
def wipedPlaintext : VaultPlaintext := { credentials := [], wifi := none, autoLockDays := none }

/-- `encode_plaintext`. The output is swapped with the candidate when that is complete. -/
def encodePlaintextInto (value : VaultPlaintext) (format : UInt16) :
    OptionT (StateM (List UInt8)) Unit := do
  let candidate ← (encodePlaintext value format).getM
  set candidate

/-- The output parameters of `decode_plaintext`; no format is given out through a null pointer. -/
structure DecodeOutput where
  value : VaultPlaintext
  vaultFormatVersion : Option UInt16

/-- `decode_plaintext`. The output is wiped and assigned after the last check of the candidate. -/
def decodePlaintextInto (encoded : List UInt8) : OptionT (StateM DecodeOutput) Unit := do
  let (candidate, detectedFormat) ← (decodePlaintext encoded).getM
  modify fun out => { out with value := wipedPlaintext }
  modify fun out => { out with value := candidate }
  modify fun out =>
    { out with vaultFormatVersion := out.vaultFormatVersion.map fun _ => detectedFormat }

theorem run_encodePlaintextInto (value : VaultPlaintext) (format : UInt16) (out : List UInt8) :
    (encodePlaintextInto value format).run out =
      match encodePlaintext value format with
      | some encoded => (some (), encoded)
      | none => (none, out) := by
  unfold encodePlaintextInto
  cases encodePlaintext value format <;> rfl

theorem run_decodePlaintextInto (encoded : List UInt8) (out : DecodeOutput) :
    (decodePlaintextInto encoded).run out =
      match decodePlaintext encoded with
      | some (value, format) =>
        (some (), { value, vaultFormatVersion := out.vaultFormatVersion.map fun _ => format })
      | none => (none, out) := by
  unfold decodePlaintextInto
  cases decodePlaintext encoded <;> rfl

/-! ## The codec -/

/-- What holds of the two functions, for every plaintext and every byte string. -/
structure PlaintextCodec : Prop where
  decodeEncoded : ∀ value format encoded, encodePlaintext value format = some encoded →
    decodePlaintext encoded = some (value, format)
  encodeDecoded : ∀ value format encoded, decodePlaintext encoded = some (value, format) →
    encodePlaintext value format = some encoded
  oneEncoding : ∀ value format encoded encoded', decodePlaintext encoded = some (value, format) →
    decodePlaintext encoded' = some (value, format) → encoded = encoded'
  oneFormat : ∀ value value' encoded, encodePlaintext value vaultFormatVersion1 = some encoded →
    encodePlaintext value' vaultFormatVersion2 ≠ some encoded
  supported : ∀ value format encoded, decodePlaintext encoded = some (value, format) →
    format = vaultFormatVersion1 ∨ format = vaultFormatVersion2
  encodeSucceeds : ∀ value format out encoded,
    (encodePlaintextInto value format).run out = (some (), encoded) ↔
      encodePlaintext value format = some encoded
  encodeFails : ∀ value format out out',
    (encodePlaintextInto value format).run out = (none, out') → out' = out
  decodeSucceeds : ∀ encoded value₀ format₀ value format,
    (decodePlaintextInto encoded).run { value := value₀, vaultFormatVersion := some format₀ } =
        (some (), { value, vaultFormatVersion := some format }) ↔
      decodePlaintext encoded = some (value, format)
  decodeFails : ∀ encoded out out',
    (decodePlaintextInto encoded).run out = (none, out') → out' = out

/-- **The codec is a bijection** between the plaintexts that are encoded in a format and the byte
strings that are decoded in it. -/
theorem plaintext_codec : PlaintextCodec where
  decodeEncoded := fun _ _ _ h => decodePlaintext_iff.2 h
  encodeDecoded := fun _ _ _ h => decodePlaintext_iff.1 h
  oneEncoding := by
    intro value format encoded encoded' h h'
    have hsame := (decodePlaintext_iff.1 h).symm.trans (decodePlaintext_iff.1 h')
    exact Option.some.inj hsame
  oneFormat := by
    intro value value' encoded h h'
    have hboth := (decodePlaintext_iff.2 h).symm.trans (decodePlaintext_iff.2 h')
    have hformat : vaultFormatVersion1 = vaultFormatVersion2 :=
      congrArg Prod.snd (Option.some.inj hboth)
    exact absurd hformat (by decide)
  supported := by
    intro value format encoded h
    obtain ⟨_, _, _, -, -, -, hformat, -⟩ :=
      encodePlaintext_iff.1 (decodePlaintext_iff.1 h)
    exact hformat.imp (·.1) (·.1)
  encodeSucceeds := by
    intro value format out encoded
    rw [run_encodePlaintextInto]
    cases encodePlaintext value format with
    | none =>
      constructor
      · intro h
        cases h
      · intro h
        cases h
    | some encoded' =>
      constructor
      · intro h
        cases h
        rfl
      · intro h
        cases h
        rfl
  encodeFails := by
    intro value format out out' h
    rw [run_encodePlaintextInto] at h
    cases hencode : encodePlaintext value format with
    | none =>
      rw [hencode] at h
      exact (congrArg Prod.snd h).symm
    | some encoded =>
      rw [hencode] at h
      cases h
  decodeSucceeds := by
    intro encoded value₀ format₀ value format
    rw [run_decodePlaintextInto]
    cases decodePlaintext encoded with
    | none =>
      constructor
      · intro h
        cases h
      · intro h
        cases h
    | some decoded =>
      constructor
      · intro h
        cases h
        rfl
      · intro h
        cases h
        rfl
  decodeFails := by
    intro encoded out out' h
    rw [run_decodePlaintextInto] at h
    cases hdecode : decodePlaintext encoded with
    | none =>
      rw [hdecode] at h
      exact (congrArg Prod.snd h).symm
    | some decoded =>
      rw [hdecode] at h
      cases h

end M5Auth.Vault
