import M5Auth.Vault.Proof.RoundTrip
import M5Auth.VaultRuntime.EnvelopeBlob
import M5Auth.VaultRuntime.NvsPersistence

/-!
# The envelope codec

`envelope_codec`: an envelope that is valid is decoded from its encoding, a blob that is decoded is
the encoding of a valid envelope, a decoding that fails leaves its output alone, and `read_blob`
accepts every encoding.

The reader is followed by the input it has read and the input it has left (`BlobReader.within`).
Each reader inverts its writer (`Inverts`), so that `decode_iff` has both directions at once.
`decodeEnvelopeInto_eq`: the codec that the slots are read with is this one.
-/

namespace M5Auth.VaultRuntime

open Vault FaultyStore

/-! ## Appending -/

/-- The low byte of a number. -/
theorem ofNat_low (n : Nat) : UInt8.ofNat (n &&& 0xff) = UInt8.ofNat n := by
  apply UInt8.toNat_inj.1
  rw [UInt8.toNat_ofNat', UInt8.toNat_ofNat', Nat.and_two_pow_sub_one_eq_mod n 8, Nat.mod_mod]

theorem appendU16_eq (output : List UInt8) (value : UInt16) :
    appendU16 output value = output ++ appendLE 2 value.toNat := by
  have hlow : (value &&& 0xff).toUInt8 = UInt8.ofNat value.toNat := by
    rw [← ofNat_low]
    rfl
  have hhigh : ((value >>> 8) &&& 0xff).toUInt8 = UInt8.ofNat (value.toNat / 256) := by
    rw [← ofNat_low, ← Nat.shiftRight_eq_div_pow _ 8]
    rfl
  rw [appendU16, hlow, hhigh, List.append_assoc]
  rfl

theorem appendU32_eq (output : List UInt8) (value : UInt32) :
    appendU32 output value = output ++ appendLE 4 value.toNat := by
  have hbyte (shift : UInt32) : ((value >>> shift) &&& 0xff).toUInt8 =
      UInt8.ofNat (value.toNat / 2 ^ (shift.toNat % 32)) := by
    rw [← ofNat_low, ← Nat.shiftRight_eq_div_pow]
    rfl
  simp only [appendU32, List.foldl_cons, List.foldl_nil, hbyte, List.append_assoc]
  simp [appendLE, Nat.div_div_eq_div_mul]

theorem appendU64_eq (output : List UInt8) (value : UInt64) :
    appendU64 output value = output ++ appendLE 8 value.toNat := by
  have hbyte (shift : UInt64) : ((value >>> shift) &&& 0xff).toUInt8 =
      UInt8.ofNat (value.toNat / 2 ^ (shift.toNat % 64)) := by
    rw [← ofNat_low, ← Nat.shiftRight_eq_div_pow]
    rfl
  simp only [appendU64, List.foldl_cons, List.foldl_nil, hbyte, List.append_assoc]
  simp [appendLE, Nat.div_div_eq_div_mul]

/-! ## Shifts and ors -/

/-- A number above the bits of another is added to it. -/
theorem or_above {low shift : Nat} (high : Nat) (h : low < 2 ^ shift) :
    low ||| high <<< shift = low + high * 2 ^ shift := by
  rw [Nat.or_comm, ← Nat.shiftLeft_add_eq_or_of_lt h, Nat.shiftLeft_eq, Nat.add_comm]

/-- The next byte of a number that is read into `width` bits. -/
theorem or_next (bytes : List UInt8) {shift width : Nat} (byte : UInt8)
    (hshift : shift = bytes.length * 8) (hwidth : shift + 8 ≤ width) :
    valueLE bytes ||| byte.toNat <<< shift % 2 ^ width = valueLE (bytes ++ [byte]) := by
  have hbyte : byte.toNat < 256 := byte.toNat_lt
  have hpow : 256 ^ bytes.length = 2 ^ shift := by
    rw [hshift, Nat.mul_comm, Nat.pow_mul]
  have hlow : valueLE bytes < 2 ^ shift := by
    rw [← hpow]
    exact valueLE_lt bytes
  have hfits : byte.toNat <<< shift < 2 ^ width := by
    rw [Nat.shiftLeft_eq]
    calc byte.toNat * 2 ^ shift < 2 ^ 8 * 2 ^ shift :=
          Nat.mul_lt_mul_of_pos_right hbyte (Nat.two_pow_pos _)
      _ = 2 ^ (8 + shift) := (Nat.pow_add 2 8 _).symm
      _ ≤ 2 ^ width := Nat.pow_le_pow_right (by decide) (by omega)
  rw [Nat.mod_eq_of_lt hfits, or_above _ hlow, valueLE_append, hpow]
  rw [valueLE, valueLE, Nat.mul_zero, Nat.add_zero, Nat.mul_comm]

theorem valueLE_singleton (byte : UInt8) : valueLE [byte] = byte.toNat := by simp [valueLE]

theorem toNat_two (a b : UInt8) :
    (a.toUInt16 ||| b.toUInt16 <<< 8).toNat = valueLE [a, b] := by
  rw [UInt16.toNat_or, UInt16.toNat_shiftLeft, UInt8.toNat_toUInt16, UInt8.toNat_toUInt16,
    ← valueLE_singleton a]
  exact or_next [a] b rfl (by decide)

theorem toNat_four (a b c d : UInt8) :
    (a.toUInt32 ||| b.toUInt32 <<< 8 ||| c.toUInt32 <<< 16 ||| d.toUInt32 <<< 24).toNat =
      valueLE [a, b, c, d] := by
  have h8 : UInt32.toNat 8 % 32 = 8 := rfl
  have h16 : UInt32.toNat 16 % 32 = 16 := rfl
  have h24 : UInt32.toNat 24 % 32 = 24 := rfl
  simp only [UInt32.toNat_or, UInt32.toNat_shiftLeft, UInt8.toNat_toUInt32, h8, h16, h24]
  have hsecond : valueLE [a] ||| b.toNat <<< 8 % 2 ^ 32 = valueLE [a, b] :=
    or_next [a] b rfl (by decide)
  have hthird : valueLE [a, b] ||| c.toNat <<< 16 % 2 ^ 32 = valueLE [a, b, c] :=
    or_next [a, b] c rfl (by decide)
  rw [← valueLE_singleton a, hsecond, hthird]
  exact or_next [a, b, c] d rfl (by decide)

/-- The loop of `read_u64`. -/
theorem toNat_loop (bytes : List UInt8) {n : Nat} (hn : n ≤ bytes.length) (hle : n ≤ 8) :
    ((List.range n).foldl (fun result index =>
      result ||| (bytes.getD index 0).toUInt64 <<< UInt64.ofNat (index * 8)) 0).toNat =
      valueLE (bytes.take n) := by
  induction n with
  | zero => rfl
  | succ n ih =>
    have hlength : (bytes.take n).length = n := by
      rw [List.length_take]
      omega
    have hshift : (UInt64.ofNat (n * 8)).toNat % 64 = n * 8 := by
      rw [UInt64.toNat_ofNat']
      omega
    have hget : bytes[n]? = some (bytes.getD n 0) := by
      rw [List.getD_eq_getElem?_getD, List.getElem?_eq_getElem (by omega), Option.getD_some]
    rw [List.range_succ, List.foldl_append, List.foldl_cons, List.foldl_nil, UInt64.toNat_or,
      UInt64.toNat_shiftLeft, UInt8.toNat_toUInt64, hshift, ih (by omega) (by omega),
      or_next _ _ (by rw [hlength]) (by omega), List.take_add_one, hget]
    rfl

/-! ## Reading -/

namespace BlobReader

/-- The reader between the input it has read and the input it has left. -/
def within (before rest : List UInt8) : BlobReader where
  input := before ++ rest
  offset := before.length

/-- The reader reads what the writer writes, and nothing else. -/
def Inverts {α : Type} (read : BlobReader → Option (α × BlobReader)) (write : α → List UInt8) :
    Prop :=
  ∀ before rest a reader, read (within before rest) = some (a, reader) ↔
    ∃ rest', rest = write a ++ rest' ∧ reader = within (before ++ write a) rest'

theorem finished_within (before rest : List UInt8) :
    (within before rest).finished = true ↔ rest = [] := by
  simp [finished, within]

theorem readExact_iff {length : Nat} {before rest : List UInt8} {bytes : Bytes length}
    {reader : BlobReader} : (within before rest).readExact length = some (bytes, reader) ↔
      ∃ rest', rest = bytes.1 ++ rest' ∧ reader = within (before ++ bytes.1) rest' := by
  unfold readExact
  constructor
  · intro h
    split at h
    · cases h
    · rename_i hfits
      simp only [within, List.length_append, not_or, Nat.not_lt] at hfits
      have hlength : min length rest.length = length := by omega
      cases h
      exact ⟨rest.drop length, by simp [within], by simp [within, hlength]⟩
  · rintro ⟨rest', rfl, rfl⟩
    have hlength := bytes.2
    rw [dif_neg]
    · refine congrArg some (Prod.ext (Subtype.ext ?_) ?_)
      · simp [within, hlength]
      · simp [within, hlength]
    · simp only [within, List.length_append, not_or, Nat.not_lt]
      omega

/-- A reader that makes a value of the bytes it reads. -/
theorem Inverts.value {α : Type} {length : Nat} {read : BlobReader → Option (α × BlobReader)}
    {write : α → List UInt8} (value : Bytes length → α)
    (hread : ∀ reader, read reader =
      (reader.readExact length).map fun read => (value read.1, read.2))
    (hwrite : ∀ a, (write a).length = length)
    (hvalue : ∀ bytes a, value bytes = a ↔ write a = bytes.1) : Inverts read write := by
  intro before rest a reader
  rw [hread, Option.map_eq_some_iff]
  constructor
  · rintro ⟨⟨bytes, reader'⟩, hbytes, hsame⟩
    obtain ⟨rest', hrest, hreader⟩ := readExact_iff.1 hbytes
    cases hsame
    rw [← (hvalue bytes _).1 rfl] at hrest hreader
    exact ⟨rest', hrest, hreader⟩
  · rintro ⟨rest', hrest, hreader⟩
    refine ⟨(⟨write a, hwrite a⟩, reader), readExact_iff.2 ⟨rest', hrest, hreader⟩, ?_⟩
    exact Prod.ext ((hvalue ⟨write a, hwrite a⟩ a).2 rfl) rfl

/-- The number that a reader makes of its bytes, and the bytes that the writer makes of it. -/
theorem number_iff {length value : Nat} {bytes : Bytes length} (hlt : value < 256 ^ length) :
    valueLE bytes.1 = value ↔ appendLE length value = bytes.1 := by
  constructor
  · rintro rfl
    have h := appendLE_valueLE bytes.1
    rwa [bytes.2] at h
  · intro h
    rw [← h, valueLE_appendLE length value hlt]

theorem readExact_inverts (length : Nat) :
    Inverts (fun reader => reader.readExact length) (fun bytes : Bytes length => bytes.1) :=
  fun _ _ _ _ => readExact_iff

theorem readU16_inverts : Inverts readU16 fun value => appendLE 2 value.toNat := by
  refine .value (fun bytes : Bytes 2 =>
    (bytes.1.getD 0 0).toUInt16 ||| (bytes.1.getD 1 0).toUInt16 <<< 8) (fun reader => ?_)
    (fun a => length_appendLE 2 a.toNat) ?_
  · cases h : reader.readExact 2 <;> simp [readU16, h]
  · rintro ⟨bytes, hlength⟩ a
    match bytes, hlength with
    | [x, y], hlength =>
      rw [← number_iff a.toNat_lt, ← UInt16.toNat_inj]
      exact iff_of_eq (congrArg (· = a.toNat) (toNat_two x y))

theorem readU32_inverts : Inverts readU32 fun value => appendLE 4 value.toNat := by
  refine .value (fun bytes : Bytes 4 =>
    (bytes.1.getD 0 0).toUInt32 ||| (bytes.1.getD 1 0).toUInt32 <<< 8 |||
      (bytes.1.getD 2 0).toUInt32 <<< 16 ||| (bytes.1.getD 3 0).toUInt32 <<< 24) (fun reader => ?_)
    (fun a => length_appendLE 4 a.toNat) ?_
  · cases h : reader.readExact 4 <;> simp [readU32, h]
  · rintro ⟨bytes, hlength⟩ a
    match bytes, hlength with
    | [x, y, z, w], hlength =>
      rw [← number_iff a.toNat_lt, ← UInt32.toNat_inj]
      exact iff_of_eq (congrArg (· = a.toNat) (toNat_four x y z w))

theorem readU64_inverts : Inverts readU64 fun value => appendLE 8 value.toNat := by
  refine .value (fun bytes : Bytes 8 => (List.range 8).foldl (fun result index =>
    result ||| (bytes.1.getD index 0).toUInt64 <<< UInt64.ofNat (index * 8)) 0) (fun reader => ?_)
    (fun a => length_appendLE 8 a.toNat) ?_
  · cases h : reader.readExact 8 <;> simp [readU64, h]
  · intro bytes a
    have hloop := toNat_loop bytes.1 (Nat.le_of_eq bytes.2.symm) (Nat.le_refl 8)
    rw [List.take_of_length_le (Nat.le_of_eq bytes.2)] at hloop
    rw [← number_iff a.toNat_lt, ← UInt64.toNat_inj, hloop]

/-- A read and what follows it. -/
theorem Inverts.bind_iff {α β : Type} {read : BlobReader → Option (α × BlobReader)}
    {write : α → List UInt8} (h : Inverts read write) {before rest : List UInt8}
    {next : α × BlobReader → Option β} {b : β} :
    (read (within before rest) >>= next) = some b ↔
      ∃ a rest', rest = write a ++ rest' ∧
        next (a, within (before ++ write a) rest') = some b := by
  rw [Option.bind_eq_bind, Option.bind_eq_some_iff]
  constructor
  · rintro ⟨⟨a, reader⟩, hread, hnext⟩
    obtain ⟨rest', hrest, rfl⟩ := (h before rest a reader).1 hread
    exact ⟨a, rest', hrest, hnext⟩
  · rintro ⟨a, rest', hrest, hnext⟩
    exact ⟨(a, _), (h before rest a _).2 ⟨rest', hrest, rfl⟩, hnext⟩

end BlobReader

open BlobReader

/-! ## The codec -/

/-- The bytes before the ciphertext. -/
def headerBytes (envelope : VaultEnvelope) (ciphertextSize : UInt32) : List UInt8 :=
  envelopeMagic ++ appendLE 2 envelope.storageSchemaVersion.toNat ++
    appendLE 2 envelope.vaultFormatVersion.toNat ++ envelope.vaultId.1 ++
    appendLE 8 envelope.generation.toNat ++ envelope.nonce.1 ++ envelope.tag.1 ++
    appendLE 4 ciphertextSize.toNat

theorem length_headerBytes (envelope : VaultEnvelope) (ciphertextSize : UInt32) :
    (headerBytes envelope ciphertextSize).length = 68 := by
  have hmagic : envelopeMagic.length = 8 := by decide
  simp [headerBytes, hmagic, envelope.vaultId.2, envelope.nonce.2, envelope.tag.2]

theorem envelopeBytes_eq (envelope : VaultEnvelope) :
    envelopeBytes envelope =
      headerBytes envelope (UInt32.ofNat envelope.ciphertext.length) ++ envelope.ciphertext := by
  simp only [envelopeBytes, headerBytes, appendU16_eq, appendU32_eq, appendU64_eq]

theorem length_envelopeBytes (envelope : VaultEnvelope) :
    (envelopeBytes envelope).length = 68 + envelope.ciphertext.length := by
  rw [envelopeBytes_eq, List.length_append, length_headerBytes]

/-- **The fields are read from the header**, and from nothing else. -/
theorem readCandidate_iff {encoded : List UInt8} {candidate : VaultEnvelope}
    {ciphertextSize : UInt32} {reader : BlobReader} :
    readCandidate { input := encoded } = some (candidate, ciphertextSize, reader) ↔
      candidate.ciphertext = [] ∧ ∃ rest, encoded = headerBytes candidate ciphertextSize ++ rest ∧
        reader = within (headerBytes candidate ciphertextSize) rest := by
  have hstart : ({ input := encoded } : BlobReader) = within [] encoded := rfl
  rw [hstart]
  constructor
  · intro h
    obtain ⟨magic, rest, rfl, hnext⟩ := (readExact_inverts 8).bind_iff.1 h
    dsimp only at hnext
    split at hnext
    · cases hnext
    rename_i hmagic
    obtain ⟨schema, rest, rfl, hschema⟩ := readU16_inverts.bind_iff.1 hnext
    obtain ⟨format, rest, rfl, hformat⟩ := readU16_inverts.bind_iff.1 hschema
    obtain ⟨vaultId, rest, rfl, hvaultId⟩ := (readExact_inverts 16).bind_iff.1 hformat
    obtain ⟨generation, rest, rfl, hgeneration⟩ := readU64_inverts.bind_iff.1 hvaultId
    obtain ⟨nonce, rest, rfl, hnonce⟩ := (readExact_inverts 12).bind_iff.1 hgeneration
    obtain ⟨tag, rest, rfl, htag⟩ := (readExact_inverts 16).bind_iff.1 hnonce
    obtain ⟨size, rest, rfl, hsize⟩ := readU32_inverts.bind_iff.1 htag
    cases hsize
    rw [not_not] at hmagic
    exact ⟨rfl, rest, by simp [headerBytes, hmagic], by simp [headerBytes, hmagic]⟩
  · rintro ⟨hempty, rest, rfl, rfl⟩
    have hright : headerBytes candidate ciphertextSize ++ rest = envelopeMagic ++
        (appendLE 2 candidate.storageSchemaVersion.toNat ++
        (appendLE 2 candidate.vaultFormatVersion.toNat ++ (candidate.vaultId.1 ++
        (appendLE 8 candidate.generation.toNat ++ (candidate.nonce.1 ++ (candidate.tag.1 ++
        (appendLE 4 ciphertextSize.toNat ++ rest))))))) := by
      simp [headerBytes]
    rw [hright]
    refine (readExact_inverts 8).bind_iff.2 ⟨⟨envelopeMagic, by decide⟩, _, rfl, ?_⟩
    dsimp only
    rw [if_neg (by simp)]
    refine readU16_inverts.bind_iff.2 ⟨candidate.storageSchemaVersion, _, rfl, ?_⟩
    refine readU16_inverts.bind_iff.2 ⟨candidate.vaultFormatVersion, _, rfl, ?_⟩
    refine (readExact_inverts 16).bind_iff.2 ⟨candidate.vaultId, _, rfl, ?_⟩
    refine readU64_inverts.bind_iff.2 ⟨candidate.generation, _, rfl, ?_⟩
    refine (readExact_inverts 12).bind_iff.2 ⟨candidate.nonce, _, rfl, ?_⟩
    refine (readExact_inverts 16).bind_iff.2 ⟨candidate.tag, _, rfl, ?_⟩
    refine readU32_inverts.bind_iff.2 ⟨ciphertextSize, rest, rfl, ?_⟩
    have hcandidate : { candidate with ciphertext := [] } = candidate := by rw [← hempty]
    refine congrArg some (Prod.ext hcandidate (Prod.ext rfl ?_))
    simp [headerBytes]

/-- **What is left after the header** is a ciphertext of the size that it gives. -/
theorem finishCandidate_iff {candidate envelope : VaultEnvelope} {ciphertextSize : UInt32}
    {before rest : List UInt8} :
    finishCandidate candidate ciphertextSize (within before rest) = .ok envelope ↔
      validEnvelope envelope = true ∧ envelope = { candidate with ciphertext := rest } ∧
        rest.length = ciphertextSize.toNat := by
  constructor
  · intro h
    unfold finishCandidate at h
    split at h
    · cases h
    split at h
    · cases h
    split at h
    · cases h
    split at h
    · cases h
    rename_i ciphertext reader hread
    obtain ⟨rest', rfl, rfl⟩ := readExact_iff.1 hread
    dsimp only at h
    split at h
    · cases h
    rename_i hchecks
    simp only [Bool.or_eq_true, Bool.not_eq_true', not_or, Bool.not_eq_false,
      finished_within] at hchecks
    obtain ⟨rfl, hvalid⟩ := hchecks
    cases h
    exact ⟨hvalid, by rw [List.append_nil], by rw [List.append_nil, ciphertext.2]⟩
  · rintro ⟨hvalid, rfl, hlength⟩
    have hfields := hvalid
    simp only [validEnvelope, Bool.and_eq_true, beq_iff_eq, bne_iff_ne, ne_eq, Bool.not_eq_true',
      List.isEmpty_eq_false_iff, decide_eq_true_eq] at hfields
    obtain ⟨⟨⟨⟨⟨hschema, hformat⟩, -⟩, hne⟩, hmax⟩, -⟩ := hfields
    have hsize : ciphertextSize ≠ 0 := by
      rintro rfl
      exact hne (List.eq_nil_of_length_eq_zero hlength)
    have hread : (within before rest).readExact ciphertextSize.toNat =
        some (⟨rest, hlength⟩, within (before ++ rest) []) :=
      readExact_iff.2 ⟨[], (List.append_nil rest).symm, rfl⟩
    unfold finishCandidate
    rw [if_neg, if_neg (by simp [hschema]), if_neg (by simp [hformat]), hread]
    · dsimp only
      rw [if_neg]
      have hfinished : (within (before ++ rest) []).finished = true := (finished_within _ _).2 rfl
      simp [hfinished, hvalid]
    · rw [not_or]
      exact ⟨hsize, Nat.not_lt.2 (hlength ▸ hmax)⟩

/-- No branch fails with success. -/
theorem finishCandidate_error {candidate : VaultEnvelope} {ciphertextSize : UInt32}
    {reader : BlobReader} {status : Status}
    (h : finishCandidate candidate ciphertextSize reader = .error status) : status ≠ .ok := by
  rintro rfl
  unfold finishCandidate at h
  split at h
  · cases h
  split at h
  · cases h
  split at h
  · cases h
  split at h
  · cases h
  dsimp only at h
  split at h <;> cases h

/-- A decoding fails and leaves the output as it was, or it stores an envelope. -/
theorem decode_cases (encoded : List UInt8) (target : Option VaultEnvelope) :
    (∃ status, status ≠ .ok ∧ decodeEnvelopeInto encoded target = (status, target)) ∨
      ∃ envelope, decodeEnvelopeInto encoded target = (.ok, some envelope) ∧
        target.isSome = true := by
  unfold decodeEnvelopeInto
  split
  · exact .inl ⟨.corrupt, by decide, rfl⟩
  rename_i hplace
  split
  · exact .inl ⟨.corrupt, by decide, rfl⟩
  rename_i candidate ciphertextSize reader hread
  cases hfinish : finishCandidate candidate ciphertextSize reader with
  | error status => exact .inl ⟨status, finishCandidate_error hfinish, rfl⟩
  | ok envelope =>
    refine .inr ⟨envelope, rfl, ?_⟩
    cases target with
    | none => simp at hplace
    | some _ => rfl

/-- **A blob is decoded to an envelope exactly if it is the encoding of that envelope**, which is
valid. -/
theorem decode_iff {encoded : List UInt8} {target envelope : VaultEnvelope} :
    decodeEnvelopeInto encoded (some target) = (.ok, some envelope) ↔
      validEnvelope envelope = true ∧ envelopeBytes envelope = encoded := by
  constructor
  · intro h
    unfold decodeEnvelopeInto at h
    split at h
    · cases h
    split at h
    · cases h
    rename_i candidate ciphertextSize reader hread
    obtain ⟨-, rest, rfl, rfl⟩ := readCandidate_iff.1 hread
    split at h
    · rename_i status hfinish
      exact absurd (congrArg Prod.fst h) (finishCandidate_error hfinish)
    · rename_i decoded hfinish
      cases h
      obtain ⟨hvalid, rfl, hlength⟩ := finishCandidate_iff.1 hfinish
      refine ⟨hvalid, ?_⟩
      rw [envelopeBytes_eq]
      dsimp only
      rw [hlength, UInt32.ofNat_toNat]
      rfl
  · rintro ⟨hvalid, rfl⟩
    have hmax : envelope.ciphertext.length ≤ 4294967295 := by
      simp only [validEnvelope, Bool.and_eq_true, decide_eq_true_eq] at hvalid
      exact hvalid.2
    have hsize : (UInt32.ofNat envelope.ciphertext.length).toNat = envelope.ciphertext.length := by
      rw [UInt32.toNat_ofNat']
      omega
    have hread : readCandidate { input := envelopeBytes envelope } =
        some ({ envelope with ciphertext := [] }, UInt32.ofNat envelope.ciphertext.length,
          within (headerBytes envelope (UInt32.ofNat envelope.ciphertext.length))
            envelope.ciphertext) :=
      readCandidate_iff.2 ⟨rfl, envelope.ciphertext, envelopeBytes_eq envelope, rfl⟩
    have hfinish : finishCandidate { envelope with ciphertext := [] }
        (UInt32.ofNat envelope.ciphertext.length)
        (within (headerBytes envelope (UInt32.ofNat envelope.ciphertext.length))
          envelope.ciphertext) = .ok envelope :=
      finishCandidate_iff.2 ⟨hvalid, rfl, hsize.symm⟩
    have hsome : ¬((some target).isNone || (envelopeBytes envelope).isEmpty) = true := by
      have hlength := length_envelopeBytes envelope
      intro h
      simp only [Option.isNone_some, Bool.false_or, List.isEmpty_iff] at h
      rw [h] at hlength
      simp at hlength
      omega
    rw [decodeEnvelopeInto, if_neg hsome, hread]
    simp only [hfinish]

/-- An encoding is made of the valid envelopes only. -/
theorem encode_iff {envelope : VaultEnvelope} {output encoded : List UInt8} :
    encodeEnvelopeInto envelope (some output) = (.ok, some encoded) ↔
      validEnvelope envelope = true ∧ envelopeBytes envelope = encoded := by
  unfold encodeEnvelopeInto
  cases hvalid : validEnvelope envelope
  · simp
  · simp

/-! ## The codec over the rest of the input -/

/-- The bytes of a field that was read as a number. -/
theorem appendLE_of_read {n : Nat} (bytes : Bytes n) : appendLE n (valueLE bytes.1) = bytes.1 := by
  have h := appendLE_valueLE bytes.1
  rwa [bytes.2] at h

theorem valueLE_lt_of_read {n : Nat} (bytes : Bytes n) : valueLE bytes.1 < 256 ^ n := by
  have h := valueLE_lt bytes.1
  rwa [bytes.2] at h

/-- The header of the stored form is the header of the blob. -/
theorem readEnvelopeHeader_iff {encoded rest : List UInt8} {candidate : VaultEnvelope} {n : Nat} :
    readEnvelopeHeader encoded = some (candidate, n, rest) ↔
      candidate.ciphertext = [] ∧ ∃ ciphertextSize : UInt32, ciphertextSize.toNat = n ∧
        encoded = headerBytes candidate ciphertextSize ++ rest := by
  constructor
  · intro h
    obtain ⟨⟨magic, input₁⟩, hmagic, h⟩ := Option.bind_eq_some_iff.1 h
    dsimp only at h
    split at h
    · cases h
    rename_i hsame
    obtain ⟨⟨schema, input₂⟩, hschema, h⟩ := Option.bind_eq_some_iff.1 h
    obtain ⟨⟨format, input₃⟩, hformat, h⟩ := Option.bind_eq_some_iff.1 h
    obtain ⟨⟨vaultId, input₄⟩, hvaultId, h⟩ := Option.bind_eq_some_iff.1 h
    obtain ⟨⟨generation, input₅⟩, hgeneration, h⟩ := Option.bind_eq_some_iff.1 h
    obtain ⟨⟨nonce, input₆⟩, hnonce, h⟩ := Option.bind_eq_some_iff.1 h
    obtain ⟨⟨tag, input₇⟩, htag, h⟩ := Option.bind_eq_some_iff.1 h
    obtain ⟨⟨size, input₈⟩, hsize, h⟩ := Option.bind_eq_some_iff.1 h
    rw [Vault.readExact_iff] at hmagic hschema hformat hvaultId hgeneration hnonce htag hsize
    dsimp only at hschema hformat hvaultId hgeneration hnonce htag hsize
    simp only [Option.some.injEq, Prod.mk.injEq] at h
    obtain ⟨rfl, rfl, rfl⟩ := h
    have hschemaLt : (UInt16.ofNat (valueLE schema.1)).toNat = valueLE schema.1 :=
      UInt16.toNat_ofNat_of_lt' (valueLE_lt_of_read schema)
    have hformatLt : (UInt16.ofNat (valueLE format.1)).toNat = valueLE format.1 :=
      UInt16.toNat_ofNat_of_lt' (valueLE_lt_of_read format)
    have hgenerationLt : (UInt64.ofNat (valueLE generation.1)).toNat = valueLE generation.1 :=
      UInt64.toNat_ofNat_of_lt' (valueLE_lt_of_read generation)
    have hsizeLt : (UInt32.ofNat (valueLE size.1)).toNat = valueLE size.1 :=
      UInt32.toNat_ofNat_of_lt' (valueLE_lt_of_read size)
    refine ⟨rfl, UInt32.ofNat (valueLE size.1), hsizeLt, ?_⟩
    rw [hmagic, hschema, hformat, hvaultId, hgeneration, hnonce, htag, hsize, not_not.1 hsame]
    simp only [headerBytes, hschemaLt, hformatLt, hgenerationLt, hsizeLt, appendLE_of_read,
      List.append_assoc]
  · rintro ⟨hempty, ciphertextSize, rfl, rfl⟩
    have hmagic := readExact_append (⟨envelopeMagic, by decide⟩ : Bytes 8)
    have hle {n : Nat} (value : Nat) := readExact_append (⟨appendLE n value, by simp⟩ : Bytes n)
    have hschema := valueLE_appendLE 2 _ candidate.storageSchemaVersion.toNat_lt
    have hformat := valueLE_appendLE 2 _ candidate.vaultFormatVersion.toNat_lt
    have hgeneration := valueLE_appendLE 8 _ candidate.generation.toNat_lt
    have hsize := valueLE_appendLE 4 _ ciphertextSize.toNat_lt
    have hcandidate : { candidate with ciphertext := [] } = candidate := by rw [← hempty]
    simp [readEnvelopeHeader, headerBytes, hmagic, hle, readExact_append, hschema, hformat,
      hgeneration, hsize, hcandidate]

/-- What is decoded after the header is decided by the length of the rest. -/
theorem finishCandidate_within (candidate : VaultEnvelope) (ciphertextSize : UInt32)
    (before rest : List UInt8) :
    finishCandidate candidate ciphertextSize (within before rest) =
      if ciphertextSize.toNat = 0 ∨ ciphertextSize.toNat > maxPersistedCiphertextBytes then
        .error .corrupt
      else if candidate.storageSchemaVersion ≠ targetStorageSchemaVersion then .error .corrupt
      else if !isSupportedVaultFormat candidate.vaultFormatVersion then
        .error .unsupportedVaultFormat
      else if rest.length ≠ ciphertextSize.toNat ∨ !validEnvelope
        { candidate with ciphertext := rest.take ciphertextSize.toNat } then .error .corrupt
      else .ok { candidate with ciphertext := rest.take ciphertextSize.toNat } := by
  have hzero : (ciphertextSize = 0) = (ciphertextSize.toNat = 0) :=
    propext UInt32.toNat_inj.symm
  unfold finishCandidate
  refine ite_congr (by rw [hzero]) (fun _ => rfl) fun _ => ?_
  refine ite_congr rfl (fun _ => rfl) fun _ => ite_congr rfl (fun _ => rfl) fun _ => ?_
  cases hread : (within before rest).readExact ciphertextSize.toNat with
  | none =>
    -- The input ends before the ciphertext does.
    have hshort : rest.length ≠ ciphertextSize.toNat := by
      intro hlength
      have hfits : (within before rest).readExact ciphertextSize.toNat =
          some (⟨rest, hlength⟩, within (before ++ rest) []) :=
        readExact_iff.2 ⟨[], (List.append_nil rest).symm, rfl⟩
      rw [hread] at hfits
      cases hfits
    rw [if_pos (.inl hshort)]
  | some read =>
    obtain ⟨ciphertext, reader⟩ := read
    obtain ⟨rest', rfl, rfl⟩ := readExact_iff.1 hread
    have htake : (ciphertext.1 ++ rest').take ciphertextSize.toNat = ciphertext.1 :=
      List.take_left' ciphertext.2
    have hfinished : (within (before ++ ciphertext.1) rest').finished = false ↔
        (ciphertext.1 ++ rest').length ≠ ciphertextSize.toNat := by
      rw [← Bool.not_eq_true, finished_within, List.length_append, ciphertext.2]
      simp
    dsimp only
    rw [htake]
    refine ite_congr (propext ?_) (fun _ => rfl) fun _ => rfl
    rw [← hfinished, Bool.or_eq_true, Bool.not_eq_true', Bool.not_eq_true']

/-- **`decode_envelope` over the rest of the input is the one with the offset**. -/
theorem decodeEnvelopeInto_eq (encoded : List UInt8) (target : VaultEnvelope) :
    decodeEnvelopeInto encoded (some target) =
      match decodeEnvelope encoded with
      | .ok envelope => (.ok, some envelope)
      | .error status => (status, some target) := by
  cases hcandidate : readCandidate { input := encoded } with
  | none =>
    have hheader : readEnvelopeHeader encoded = none := by
      rw [Option.eq_none_iff_forall_ne_some]
      rintro ⟨candidate, n, rest⟩ hheader
      obtain ⟨hempty, ciphertextSize, -, hbytes⟩ := readEnvelopeHeader_iff.1 hheader
      rw [readCandidate_iff.2 ⟨hempty, rest, hbytes, rfl⟩] at hcandidate
      cases hcandidate
    rw [decodeEnvelope, hheader, decodeEnvelopeInto, hcandidate]
    split <;> rfl
  | some read =>
    obtain ⟨candidate, ciphertextSize, reader⟩ := read
    obtain ⟨hempty, rest, hbytes, rfl⟩ := readCandidate_iff.1 hcandidate
    have hheader : readEnvelopeHeader encoded = some (candidate, ciphertextSize.toNat, rest) :=
      readEnvelopeHeader_iff.2 ⟨hempty, ciphertextSize, rfl, hbytes⟩
    have hsome : ¬((some target).isNone || encoded.isEmpty) = true := by
      have hlength := length_headerBytes candidate ciphertextSize
      intro h
      simp only [Option.isNone_some, Bool.false_or, List.isEmpty_iff] at h
      rw [h, eq_comm, List.append_eq_nil_iff] at hbytes
      simp [hbytes.1] at hlength
    have hfinish : decodeEnvelope encoded = finishCandidate candidate ciphertextSize
        (within (headerBytes candidate ciphertextSize) rest) := by
      rw [decodeEnvelope, hheader, finishCandidate_within]
    rw [decodeEnvelopeInto, if_neg hsome, hcandidate, hfinish]
    dsimp only
    cases finishCandidate candidate ciphertextSize _ <;> rfl

theorem encodeEnvelopeInto_eq (envelope : VaultEnvelope) (output : List UInt8) :
    encodeEnvelopeInto envelope (some output) =
      match encodeEnvelope envelope with
      | .ok encoded => (.ok, some encoded)
      | .error status => (status, some output) := by
  unfold encodeEnvelopeInto encodeEnvelope
  cases hvalid : validEnvelope envelope
  · rfl
  · have hmax : envelope.ciphertext.length ≤ 4294967295 := by
      simp only [validEnvelope, Bool.and_eq_true, decide_eq_true_eq] at hvalid
      exact hvalid.2
    have hsize : (UInt32.ofNat envelope.ciphertext.length).toNat = envelope.ciphertext.length := by
      rw [UInt32.toNat_ofNat']
      omega
    simp [envelopeBytes_eq, headerBytes, hsize]

/-! ## The blob -/

theorem length_le_of_valid {envelope : VaultEnvelope} (h : validEnvelope envelope = true) :
    (envelopeBytes envelope).length ≤ maxPersistedCiphertextBytes + 128 := by
  simp only [validEnvelope, Bool.and_eq_true, decide_eq_true_eq] at h
  rw [length_envelopeBytes]
  omega

/-- `read_blob` reads a blob of a length that it accepts. -/
theorem readBlob_of_length {key : Partition → Option (List UInt8)} {w : AuthNvs}
    {encoded : List UInt8} (hkey : key w.content = some encoded) (hpos : 0 < encoded.length)
    (hle : encoded.length ≤ maxPersistedCiphertextBytes + 128) (hsmooth : w.Smooth 2) :
    (NvsPersistence.readBlob key w).1 = .ok encoded := by
  obtain ⟨hfirst, hrest⟩ := World.smooth_succ.1 hsmooth
  obtain ⟨hsecond, -⟩ := World.smooth_succ.1 hrest
  have hcheck : ¬(encoded.length = 0 ∨ encoded.length > maxPersistedCiphertextBytes + 128) := by
    omega
  simp only [NvsPersistence.readBlob, NvsPersistence.get, Prog.bind_apply, Prog.call, hfirst,
    hkey, Option.map_some, if_neg hcheck, hsecond, World.next_content, Option.getD_some]

/-- What holds of the codec, for every envelope and every blob. -/
structure EnvelopeCodec : Prop where
  decodeEncoded : ∀ envelope, validEnvelope envelope = true → ∀ output target, ∃ encoded,
    encodeEnvelopeInto envelope (some output) = (.ok, some encoded) ∧
      decodeEnvelopeInto encoded (some target) = (.ok, some envelope)
  encodeDecoded : ∀ encoded target,
    (∃ status, status ≠ .ok ∧ decodeEnvelopeInto encoded target = (status, target)) ∨
      ∃ envelope, decodeEnvelopeInto encoded target = (.ok, some envelope) ∧
        validEnvelope envelope = true ∧
        ∀ output, encodeEnvelopeInto envelope (some output) = (.ok, some encoded)
  encodedLength : ∀ envelope output encoded,
    encodeEnvelopeInto envelope (some output) = (.ok, some encoded) →
      0 < encoded.length ∧ encoded.length ≤ maxPersistedCiphertextBytes + 128
  readEncoded : ∀ envelope output encoded,
    encodeEnvelopeInto envelope (some output) = (.ok, some encoded) →
      ∀ (key : Partition → Option (List UInt8)) (w : AuthNvs), key w.content = some encoded →
        w.Smooth 2 → (NvsPersistence.readBlob key w).1 = .ok encoded
  everyLength : ∀ format, isSupportedVaultFormat format = true → ∀ n, 0 < n →
    n ≤ maxPersistedCiphertextBytes → ∃ envelope : VaultEnvelope,
      envelope.vaultFormatVersion = format ∧ envelope.ciphertext.length = n ∧
        validEnvelope envelope = true

/-- **The codec is a bijection** between the valid envelopes and the blobs that are decoded. -/
theorem envelope_codec : EnvelopeCodec where
  decodeEncoded := fun envelope hvalid _ _ =>
    ⟨envelopeBytes envelope, encode_iff.2 ⟨hvalid, rfl⟩, decode_iff.2 ⟨hvalid, rfl⟩⟩
  encodeDecoded := by
    intro encoded target
    rcases decode_cases encoded target with hfailed | ⟨envelope, hdecode, hplace⟩
    · exact .inl hfailed
    · obtain ⟨place, rfl⟩ := Option.isSome_iff_exists.1 hplace
      obtain ⟨hvalid, hbytes⟩ := decode_iff.1 hdecode
      exact .inr ⟨envelope, hdecode, hvalid, fun _ => encode_iff.2 ⟨hvalid, hbytes⟩⟩
  encodedLength := by
    intro envelope output encoded h
    obtain ⟨hvalid, rfl⟩ := encode_iff.1 h
    have hlength := length_envelopeBytes envelope
    exact ⟨by omega, length_le_of_valid hvalid⟩
  readEncoded := by
    intro envelope output encoded h key w hkey hsmooth
    obtain ⟨hvalid, rfl⟩ := encode_iff.1 h
    have hlength := length_envelopeBytes envelope
    exact readBlob_of_length hkey (by omega) (length_le_of_valid hvalid) hsmooth
  everyLength := by
    intro format hformat n hpos hle
    refine ⟨{ vaultFormatVersion := format, generation := 1, ciphertext := List.replicate n 0 },
      rfl, List.length_replicate, ?_⟩
    have hmax : n ≤ 4294967295 := by
      simp only [maxPersistedCiphertextBytes] at hle
      omega
    simp [validEnvelope, hformat, hle, hmax, Nat.pos_iff_ne_zero.1 hpos]

end M5Auth.VaultRuntime
