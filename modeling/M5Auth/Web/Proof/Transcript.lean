import M5Auth.Web.SessionProtocol

/-!
# The transcript on both sides

The firmware and the Web application write the same bytes (`transcriptBytes`), and the bytes
determine every field (`transcriptBytes_injective`): a length byte precedes the Device ID and every
other field has a fixed length. The main result is `transcript_agrees`.

The bytes of a Device ID do not determine its text: the Web application encodes a lone surrogate as
U+FFFD (`surrogate_shares_transcript`).
-/

namespace M5Auth.Web

open Unicode
open Registration (P256PublicKey validP256PublicKey)
open Session

/-! ## The bytes -/

/-- The transcript of its fields. -/
def transcriptBytes (operation : UInt8) (deviceId vaultId : List UInt8) (generation : Nat)
    (registrationId : List UInt8) (epoch : Nat)
    (attemptId challenge devicePublicKey webPublicKey currentBrk proposedBrk : List UInt8) :
    List UInt8 :=
  [0x4d, 0x35, 0x41, 0x53, 1, 2, operation, UInt8.ofNat deviceId.length] ++
    (deviceId ++ (vaultId ++ (appendBE 8 generation ++ (registrationId ++ (appendBE 4 epoch ++
      (attemptId ++ (challenge ++ (devicePublicKey ++ (webPublicKey ++ (currentBrk ++
        proposedBrk))))))))))

theorem appendBE_injective {n v w : Nat} (hv : v < 256 ^ n) (hw : w < 256 ^ n)
    (h : appendBE n v = appendBE n w) : v = w := by
  have hvalue := congrArg valueBE h
  rwa [valueBE_appendBE n v hv, valueBE_appendBE n w hw] at hvalue

/-- A field of known length is read back from the front. -/
theorem field_injective {a b rest rest' : List UInt8} {n : Nat} (ha : a.length = n)
    (hb : b.length = n) (h : a ++ rest = b ++ rest') : a = b ∧ rest = rest' :=
  List.append_inj h (ha.trans hb.symm)

/-- What both encoders check about the lengths and ranges of the fields. -/
structure TranscriptFields (deviceId vaultId : List UInt8) (generation : Nat)
    (registrationId : List UInt8) (epoch : Nat)
    (attemptId challenge devicePublicKey webPublicKey currentBrk proposedBrk : List UInt8) :
    Prop where
  deviceId : deviceId.length < 256
  vaultId : vaultId.length = 16
  generation : generation < 256 ^ 8
  registrationId : registrationId.length = 16
  epoch : epoch < 256 ^ 4
  attemptId : attemptId.length = 16
  challenge : challenge.length = 32
  devicePublicKey : devicePublicKey.length = 65
  webPublicKey : webPublicKey.length = 65
  currentBrk : currentBrk.length = 65
  proposedBrk : proposedBrk.length = 65

section
variable {op op' : UInt8} {deviceId deviceId' vaultId vaultId' : List UInt8} {gen gen' : Nat}
variable {regId regId' : List UInt8} {epoch epoch' : Nat}
variable {attempt attempt' challenge challenge' devKey devKey' webKey webKey' : List UInt8}
variable {cur cur' prop prop' : List UInt8}

/-- **The transcript determines its fields.** -/
theorem transcriptBytes_injective
    (hf : TranscriptFields deviceId vaultId gen regId epoch attempt challenge devKey webKey cur
      prop)
    (hf' : TranscriptFields deviceId' vaultId' gen' regId' epoch' attempt' challenge' devKey'
      webKey' cur' prop')
    (h : transcriptBytes op deviceId vaultId gen regId epoch attempt challenge devKey webKey cur
        prop =
      transcriptBytes op' deviceId' vaultId' gen' regId' epoch' attempt' challenge' devKey' webKey'
        cur' prop') :
    op = op' ∧ deviceId = deviceId' ∧ vaultId = vaultId' ∧ gen = gen' ∧ regId = regId' ∧
      epoch = epoch' ∧ attempt = attempt' ∧ challenge = challenge' ∧ devKey = devKey' ∧
      webKey = webKey' ∧ cur = cur' ∧ prop = prop' := by
  unfold transcriptBytes at h
  obtain ⟨hheader, h⟩ := List.append_inj h rfl
  simp only [List.cons.injEq, true_and, and_true] at hheader
  obtain ⟨hop, hlength⟩ := hheader
  have hlen : deviceId.length = deviceId'.length := by
    have hnat := congrArg UInt8.toNat hlength
    rwa [toNat_ofNat_of_lt hf.deviceId, toNat_ofNat_of_lt hf'.deviceId] at hnat
  obtain ⟨hdevice, h⟩ := List.append_inj h hlen
  obtain ⟨hvault, h⟩ := field_injective hf.vaultId hf'.vaultId h
  obtain ⟨hgen, h⟩ := field_injective (length_appendBE 8 gen) (length_appendBE 8 gen') h
  obtain ⟨hreg, h⟩ := field_injective hf.registrationId hf'.registrationId h
  obtain ⟨hepoch, h⟩ := field_injective (length_appendBE 4 epoch) (length_appendBE 4 epoch') h
  obtain ⟨hattempt, h⟩ := field_injective hf.attemptId hf'.attemptId h
  obtain ⟨hchallenge, h⟩ := field_injective hf.challenge hf'.challenge h
  obtain ⟨hdev, h⟩ := field_injective hf.devicePublicKey hf'.devicePublicKey h
  obtain ⟨hweb, h⟩ := field_injective hf.webPublicKey hf'.webPublicKey h
  obtain ⟨hcur, hprop⟩ := field_injective hf.currentBrk hf'.currentBrk h
  exact ⟨hop, hdevice, hvault, appendBE_injective hf.generation hf'.generation hgen, hreg,
    appendBE_injective hf.epoch hf'.epoch hepoch, hattempt, hchallenge, hdev, hweb, hcur, hprop⟩

end

/-! ## The firmware's encoder -/

variable {importKey : P256PublicKey → Bool}

/-- What `encode_transcript` has checked. -/
structure Encodes (importKey : P256PublicKey → Bool) (context : BeginContext)
    (descriptor : AttemptDescriptor) (webPublicKey : P256PublicKey) : Prop where
  deviceId : 0 < context.deviceId.length ∧ context.deviceId.length ≤ maxDeviceIdBytes
  ephemeral : validP256PublicKey importKey descriptor.devicePublicKey = true ∧
    validP256PublicKey importKey webPublicKey = true
  identities : validOptionalP256Identity importKey context.currentBrkPublicKey = true ∧
    validOptionalP256Identity importKey context.proposedBrkPublicKey = true
  operation : context.transcriptFields = true

/-- The bytes that `encode_transcript` writes. -/
def contextBytes (context : BeginContext) (descriptor : AttemptDescriptor)
    (webPublicKey : P256PublicKey) : List UInt8 :=
  transcriptBytes context.operation.code context.deviceId context.vaultId.1
    context.expectedGeneration.toNat context.registrationId.1 context.registrationEpoch.toNat
    descriptor.attemptId.1 descriptor.challenge.1 descriptor.devicePublicKey.1 webPublicKey.1
    context.currentBrkPublicKey.1 context.proposedBrkPublicKey.1

theorem magic_eq : ascii "M5AS" = [0x4d, 0x35, 0x41, 0x53] := by decide

theorem encodeTranscript_some {context : BeginContext} {descriptor : AttemptDescriptor}
    {webPublicKey : P256PublicKey} {bytes : List UInt8}
    (h : encodeTranscript importKey context descriptor webPublicKey = some bytes) :
    Encodes importKey context descriptor webPublicKey ∧
      bytes = contextBytes context descriptor webPublicKey := by
  unfold encodeTranscript at h
  split at h
  · cases h
  · rename_i hlength
    split at h
    · cases h
    · rename_i hephemeral
      split at h
      · cases h
      · rename_i hidentities
        split at h
        · cases h
        · rename_i hfields
          simp only [Bool.or_eq_true, Bool.not_eq_true', not_or, Bool.not_eq_false]
            at hephemeral hidentities hfields
          refine ⟨⟨by omega, hephemeral, hidentities, hfields⟩, ?_⟩
          cases h
          rw [magic_eq]
          simp only [contextBytes, transcriptBytes, List.append_assoc, List.cons_append,
            List.nil_append]
          rfl

theorem Encodes.fields {context : BeginContext} {descriptor : AttemptDescriptor}
    {webPublicKey : P256PublicKey} (h : Encodes importKey context descriptor webPublicKey) :
    TranscriptFields context.deviceId context.vaultId.1 context.expectedGeneration.toNat
      context.registrationId.1 context.registrationEpoch.toNat descriptor.attemptId.1
      descriptor.challenge.1 descriptor.devicePublicKey.1 webPublicKey.1
      context.currentBrkPublicKey.1 context.proposedBrkPublicKey.1 where
  deviceId := by
    have hle := h.deviceId.2
    rw [maxDeviceIdBytes] at hle
    omega
  vaultId := context.vaultId.2
  generation := context.expectedGeneration.toNat_lt
  registrationId := context.registrationId.2
  epoch := context.registrationEpoch.toNat_lt
  attemptId := descriptor.attemptId.2
  challenge := descriptor.challenge.2
  devicePublicKey := descriptor.devicePublicKey.2
  webPublicKey := webPublicKey.2
  currentBrk := context.currentBrkPublicKey.2
  proposedBrk := context.proposedBrkPublicKey.2

theorem code_injective {op op' : Operation} (h : op.code = op'.code) : op = op' := by
  cases op <;> cases op' <;> first | rfl | exact absurd h (by decide)

/-- The deadline of an attempt is no part of its transcript. -/
theorem encodeTranscript_injective {context context' : BeginContext}
    {descriptor descriptor' : AttemptDescriptor} {webPublicKey webPublicKey' : P256PublicKey}
    {bytes : List UInt8}
    (h : encodeTranscript importKey context descriptor webPublicKey = some bytes)
    (h' : encodeTranscript importKey context' descriptor' webPublicKey' = some bytes) :
    context = context' ∧
      { descriptor with expiresAtMs := 0 } = { descriptor' with expiresAtMs := 0 } ∧
      webPublicKey = webPublicKey' := by
  obtain ⟨hc, hbytes⟩ := encodeTranscript_some h
  obtain ⟨hc', hbytes'⟩ := encodeTranscript_some h'
  obtain ⟨hop, hdevice, hvault, hgen, hreg, hepoch, hattempt, hchallenge, hdev, hweb, hcur,
    hprop⟩ := transcriptBytes_injective hc.fields hc'.fields (hbytes.symm.trans hbytes')
  refine ⟨?_, ?_, Subtype.ext hweb⟩
  · cases context
    cases context'
    simp only [BeginContext.mk.injEq]
    exact ⟨code_injective hop, hdevice, Subtype.ext hvault, UInt64.toNat_inj.1 hgen,
      Subtype.ext hreg, UInt32.toNat_inj.1 hepoch, Subtype.ext hcur, Subtype.ext hprop⟩
  · simp only [AttemptDescriptor.mk.injEq, and_true]
    exact ⟨Subtype.ext hattempt, Subtype.ext hchallenge, Subtype.ext hdev⟩

/-! ## The Web application's encoder -/

/-- What `encodeSessionTranscript` has checked. -/
structure SessionTranscriptInput.Accepted (input : SessionTranscriptInput) : Prop where
  fields : TranscriptFields (textEncode input.deviceId) input.vaultId
    input.expectedGeneration.toNat input.registrationId input.registrationEpoch.toNat
    input.attemptId input.challenge input.deviceEphemeralPublicKey input.webEphemeralPublicKey
    input.currentBrkPublicKey input.proposedBrkPublicKey
  generation : 0 ≤ input.expectedGeneration
  epoch : input.registrationEpoch = .integer input.registrationEpoch.toNat

/-- The bytes that `encodeSessionTranscript` writes. -/
def inputBytes (input : SessionTranscriptInput) : List UInt8 :=
  transcriptBytes (operationByte input.operation) (textEncode input.deviceId) input.vaultId
    input.expectedGeneration.toNat input.registrationId input.registrationEpoch.toNat
    input.attemptId input.challenge input.deviceEphemeralPublicKey input.webEphemeralPublicKey
    input.currentBrkPublicKey input.proposedBrkPublicKey

theorem unit_bind {α : Type} {first : Except Thrown Unit} {rest : Except Thrown α} {result : α}
    (h : (do first; rest) = Except.ok result) : first = .ok () ∧ rest = .ok result := by
  cases first with
  | error e => cases h
  | ok u => exact ⟨rfl, h⟩

theorem assertBytes_ok {value : List UInt8} {length : Nat} {field : String} :
    assertBytes value length field = .ok () ↔ value.length = length := by
  rw [assertBytes, require_ok, beq_iff_eq]

theorem encodeSessionTranscript_ok {input : SessionTranscriptInput} {bytes : List UInt8}
    (h : encodeSessionTranscript input = .ok bytes) :
    input.Accepted ∧ bytes = inputBytes input := by
  unfold encodeSessionTranscript at h
  dsimp only at h
  obtain ⟨hdevice, h⟩ := require_bind.1 h
  obtain ⟨hvault, h⟩ := unit_bind h
  obtain ⟨hgen, h⟩ := require_bind.1 h
  obtain ⟨hreg, h⟩ := unit_bind h
  obtain ⟨hepoch, h⟩ := require_bind.1 h
  obtain ⟨hattempt, h⟩ := unit_bind h
  obtain ⟨hchallenge, h⟩ := unit_bind h
  obtain ⟨hdev, h⟩ := unit_bind h
  obtain ⟨hweb, h⟩ := unit_bind h
  obtain ⟨-, h⟩ := require_bind.1 h
  obtain ⟨-, h⟩ := require_bind.1 h
  obtain ⟨hcur, h⟩ := unit_bind h
  obtain ⟨hprop, h⟩ := unit_bind h
  obtain ⟨-, h⟩ := unit_bind h
  obtain ⟨hcur, -⟩ := unit_bind hcur
  obtain ⟨hprop, -⟩ := unit_bind hprop
  rw [assertBytes_ok] at hvault hreg hattempt hchallenge hdev hweb hcur hprop
  simp only [Bool.and_eq_true, decide_eq_true_eq] at hdevice hgen hepoch
  have hmax : sessionMaxDeviceIdBytes = 64 := rfl
  obtain ⟨n, hn, hn0, hn1⟩ := Number.inRange_iff.1 hepoch.2
  have hnat : input.registrationEpoch.toNat = n.toNat := by rw [hn, Number.toNat]
  refine ⟨⟨⟨?_, hvault, ?_, hreg, ?_, hattempt, hchallenge, hdev, hweb, hcur, hprop⟩, hgen.1, ?_⟩,
    ?_⟩
  · omega
  · omega
  · omega
  · rw [hnat, hn, Int.toNat_of_nonneg hn0]
  · cases h
    simp only [inputBytes, transcriptBytes, List.append_assoc, List.cons_append, List.nil_append]
    rfl

/-- Two accepted inputs with the same transcript agree in every field; their Device IDs have the
same bytes. -/
theorem encodeSessionTranscript_injective {input input' : SessionTranscriptInput}
    {bytes : List UInt8} (h : encodeSessionTranscript input = .ok bytes)
    (h' : encodeSessionTranscript input' = .ok bytes) :
    textEncode input.deviceId = textEncode input'.deviceId ∧
      { input with deviceId := [] } = { input' with deviceId := [] } := by
  obtain ⟨hc, hbytes⟩ := encodeSessionTranscript_ok h
  obtain ⟨hc', hbytes'⟩ := encodeSessionTranscript_ok h'
  obtain ⟨hop, hdevice, hvault, hgen, hreg, hepoch, hattempt, hchallenge, hdev, hweb, hcur,
    hprop⟩ := transcriptBytes_injective hc.fields hc'.fields (hbytes.symm.trans hbytes')
  refine ⟨hdevice, ?_⟩
  have hcode : input.operation = input'.operation := by
    cases ho : input.operation <;> cases ho' : input'.operation <;>
      first | rfl | (rw [ho, ho'] at hop; exact absurd hop (by decide))
  have hgeneration : input.expectedGeneration = input'.expectedGeneration := by
    have := hc.generation
    have := hc'.generation
    omega
  have hregistration : input.registrationEpoch = input'.registrationEpoch := by
    rw [hc.epoch, hc'.epoch, hepoch]
  simp [hcode, hvault, hgeneration, hreg, hregistration, hattempt, hchallenge, hdev, hweb, hcur,
    hprop]

/-- Device IDs without lone surrogates agree as well. -/
theorem encodeSessionTranscript_inj_of_wellFormed {input input' : SessionTranscriptInput}
    {bytes : List UInt8} (hid : WellFormed input.deviceId = true)
    (hid' : WellFormed input'.deviceId = true) (h : encodeSessionTranscript input = .ok bytes)
    (h' : encodeSessionTranscript input' = .ok bytes) : input = input' := by
  obtain ⟨hbytes, hrest⟩ := encodeSessionTranscript_injective h h'
  have hsame : input.deviceId = input'.deviceId := by
    rw [← encodeUtf16_scalars hid, ← encodeUtf16_scalars hid', encodeUtf8_injective hbytes]
  cases input
  cases input'
  simp only [SessionTranscriptInput.mk.injEq] at hrest ⊢
  exact ⟨hrest.1, hsame, hrest.2.2⟩

/-! ## Agreement -/

/-- The input of the Web application for a firmware input. -/
def sessionTranscriptInput (deviceId : JsString) (context : BeginContext)
    (descriptor : AttemptDescriptor) (webPublicKey : P256PublicKey) : SessionTranscriptInput where
  operation := context.operation
  deviceId := deviceId
  vaultId := context.vaultId.1
  expectedGeneration := context.expectedGeneration.toNat
  registrationId := context.registrationId.1
  registrationEpoch := .integer context.registrationEpoch.toNat
  attemptId := descriptor.attemptId.1
  challenge := descriptor.challenge.1
  deviceEphemeralPublicKey := descriptor.devicePublicKey.1
  webEphemeralPublicKey := webPublicKey.1
  currentBrkPublicKey := context.currentBrkPublicKey.1
  proposedBrkPublicKey := context.proposedBrkPublicKey.1

theorem assertBytes_bytes {n : Nat} (b : Bytes n) (field : String) :
    assertBytes b.1 n field = .ok () := by
  rw [assertBytes_ok]
  exact b.2

theorem head_of_valid {key : P256PublicKey} (h : validP256PublicKey importKey key = true) :
    (key.1.head? == some 0x04) = true := by
  simp only [validP256PublicKey, Bool.and_eq_true] at h
  exact h.1

theorem assertOptional_of_valid {key : P256PublicKey}
    (h : validOptionalP256Identity importKey key = true) (field : String) :
    assertOptionalP256Identity key.1 field = .ok () := by
  have hkey : (isZero key.1 || key.1.head? == some 0x04) = true := by
    simp only [validOptionalP256Identity, Bool.or_eq_true] at h ⊢
    exact h.imp id head_of_valid
  rw [assertOptionalP256Identity, assertBytes_bytes, hkey]
  rfl

theorem epoch_pos_iff {epoch : UInt32} : 0 < epoch.toNat ↔ (epoch != 0) = true := by
  rw [bne_iff_ne, Ne, ← UInt32.toNat_inj]
  exact Nat.pos_iff_ne_zero

theorem assertOperationFields_of {context : BeginContext} (h : context.transcriptFields = true)
    (deviceId : JsString) (descriptor : AttemptDescriptor) (webPublicKey : P256PublicKey) :
    assertOperationFields (sessionTranscriptInput deviceId context descriptor webPublicKey) =
      .ok () := by
  have hzero : ∀ key : P256PublicKey, isZero key.1 = key.allZero := fun _ => rfl
  have htoNat : (Number.integer context.registrationEpoch.toNat).toNat =
      context.registrationEpoch.toNat := by simp [Number.toNat]
  unfold BeginContext.transcriptFields at h
  unfold assertOperationFields sessionTranscriptInput
  dsimp only
  rw [htoNat, hzero, hzero]
  cases ho : context.operation with
  | trustedBrowserUnlock =>
    simp only [ho, Bool.and_eq_true] at h ⊢
    rw [require_ok, Bool.and_eq_true, decide_eq_true_eq, epoch_pos_iff]
    exact h
  | initialProvisioning =>
    simp only [ho, Bool.and_eq_true, beq_iff_eq] at h ⊢
    rw [require_ok, Bool.and_eq_true, Bool.and_eq_true, beq_iff_eq]
    exact ⟨h.1, by rw [h.2]; rfl⟩
  | recovery => simpa only [ho, require_ok] using h
  | browserReplacement => simpa only [ho, require_ok] using h
  | vmkRekey =>
    simp only [ho, Bool.and_eq_true] at h ⊢
    rw [require_ok, Bool.and_eq_true, decide_eq_true_eq, epoch_pos_iff]
    exact h

/-- An input that passes every check is encoded. -/
theorem encodeSessionTranscript_of {input : SessionTranscriptInput}
    (hdevice : 0 < (textEncode input.deviceId).length ∧
      (textEncode input.deviceId).length ≤ sessionMaxDeviceIdBytes)
    (hgen : 0 ≤ input.expectedGeneration ∧ input.expectedGeneration ≤ 0xffffffffffffffff)
    (hepoch : input.registrationEpoch.isSafeInteger = true ∧
      input.registrationEpoch.inRange 0 0xffffffff = true)
    (hids : input.vaultId.length = 16 ∧ input.registrationId.length = 16 ∧
      input.attemptId.length = 16 ∧ input.challenge.length = 32)
    (hkeys : input.deviceEphemeralPublicKey.length = 65 ∧ input.webEphemeralPublicKey.length = 65)
    (huncompressed : (input.deviceEphemeralPublicKey.head? == some 0x04) = true ∧
      (input.webEphemeralPublicKey.head? == some 0x04) = true)
    (hcurrent : ∀ field, assertOptionalP256Identity input.currentBrkPublicKey field = .ok ())
    (hproposed : ∀ field, assertOptionalP256Identity input.proposedBrkPublicKey field = .ok ())
    (hoperation : assertOperationFields input = .ok ()) :
    encodeSessionTranscript input = .ok (inputBytes input) := by
  unfold encodeSessionTranscript
  dsimp only
  rw [decide_eq_true hdevice.1, decide_eq_true hdevice.2, decide_eq_true hgen.1,
    decide_eq_true hgen.2, hepoch.1, hepoch.2, huncompressed.1, huncompressed.2, hcurrent,
    hproposed, hoperation, assertBytes_ok.2 hids.1, assertBytes_ok.2 hids.2.1,
    assertBytes_ok.2 hids.2.2.1, assertBytes_ok.2 hids.2.2.2, assertBytes_ok.2 hkeys.1,
    assertBytes_ok.2 hkeys.2]
  simp only [inputBytes, transcriptBytes, List.append_assoc, List.cons_append, List.nil_append]
  rfl

/-- **The Web application writes the firmware's transcript.** -/
theorem encodeSessionTranscript_agrees {context : BeginContext} {descriptor : AttemptDescriptor}
    {webPublicKey : P256PublicKey} {bytes : List UInt8} {deviceId : JsString}
    (hdevice : textEncode deviceId = context.deviceId)
    (h : encodeTranscript importKey context descriptor webPublicKey = some bytes) :
    encodeSessionTranscript (sessionTranscriptInput deviceId context descriptor webPublicKey) =
      .ok bytes := by
  obtain ⟨hc, rfl⟩ := encodeTranscript_some h
  have hgen : context.expectedGeneration.toNat < 18446744073709551616 :=
    context.expectedGeneration.toNat_lt
  have hepoch : context.registrationEpoch.toNat < 4294967296 := context.registrationEpoch.toNat_lt
  have hbytes : inputBytes (sessionTranscriptInput deviceId context descriptor webPublicKey) =
      contextBytes context descriptor webPublicKey := by
    unfold inputBytes sessionTranscriptInput contextBytes
    dsimp only
    rw [hdevice]
    rfl
  rw [← hbytes]
  refine encodeSessionTranscript_of ?_ ?_ ?_
    ⟨context.vaultId.2, context.registrationId.2, descriptor.attemptId.2, descriptor.challenge.2⟩
    ⟨descriptor.devicePublicKey.2, webPublicKey.2⟩
    ⟨head_of_valid hc.ephemeral.1, head_of_valid hc.ephemeral.2⟩
    (assertOptional_of_valid hc.identities.1) (assertOptional_of_valid hc.identities.2)
    (assertOperationFields_of hc.operation deviceId descriptor webPublicKey)
  · show 0 < (textEncode deviceId).length ∧ (textEncode deviceId).length ≤ maxDeviceIdBytes
    rw [hdevice]
    exact hc.deviceId
  · dsimp only [sessionTranscriptInput]
    omega
  · simp only [sessionTranscriptInput, Number.isSafeInteger, Number.inRange, Bool.and_eq_true,
      decide_eq_true_eq]
    omega

variable (importKey) in
/-- **One transcript for both sides, and one attempt for each transcript.** For every firmware input
that `encode_transcript` accepts, the Web application writes the same bytes for the text with the
bytes of the Device ID. Two accepted firmware inputs with the same transcript are the same input.
Two accepted inputs of the Web application with the same transcript agree in every field but the
Device ID, whose bytes agree; Device IDs without lone surrogates then agree as well. -/
theorem transcript_agrees :
    (∀ context descriptor webPublicKey bytes deviceId, textEncode deviceId = context.deviceId →
      encodeTranscript importKey context descriptor webPublicKey = some bytes →
      encodeSessionTranscript (sessionTranscriptInput deviceId context descriptor webPublicKey) =
        .ok bytes) ∧
    (∀ context descriptor webPublicKey context' descriptor' webPublicKey' bytes,
      encodeTranscript importKey context descriptor webPublicKey = some bytes →
      encodeTranscript importKey context' descriptor' webPublicKey' = some bytes →
      context = context' ∧
        { descriptor with expiresAtMs := 0 } = { descriptor' with expiresAtMs := 0 } ∧
        webPublicKey = webPublicKey') ∧
    (∀ input input' bytes, encodeSessionTranscript input = .ok bytes →
      encodeSessionTranscript input' = .ok bytes →
      textEncode input.deviceId = textEncode input'.deviceId ∧
        { input with deviceId := [] } = { input' with deviceId := [] }) ∧
    (∀ input input' bytes, WellFormed input.deviceId = true → WellFormed input'.deviceId = true →
      encodeSessionTranscript input = .ok bytes → encodeSessionTranscript input' = .ok bytes →
      input = input') :=
  ⟨fun _ _ _ _ _ => encodeSessionTranscript_agrees,
    fun _ _ _ _ _ _ _ => encodeTranscript_injective,
    fun _ _ _ => encodeSessionTranscript_injective,
    fun _ _ _ => encodeSessionTranscript_inj_of_wellFormed⟩

theorem unlockKey_length : (0x04 :: List.replicate 64 (1 : UInt8)).length = 65 := by simp

/-- An unlock. -/
def unlockContext : BeginContext where
  deviceId := ascii "M5-A"
  registrationEpoch := 1
  currentBrkPublicKey := ⟨0x04 :: List.replicate 64 1, unlockKey_length⟩

/-- The attempt of the unlock. -/
def unlockDescriptor : AttemptDescriptor where
  devicePublicKey := ⟨0x04 :: List.replicate 64 2, by simp⟩

/-- The Web application writes the transcript of an unlock. -/
theorem transcript_agrees_unlock :
    encodeSessionTranscript (sessionTranscriptInput (literal "M5-A") unlockContext
      unlockDescriptor unlockDescriptor.devicePublicKey) =
      .ok (contextBytes unlockContext unlockDescriptor unlockDescriptor.devicePublicKey) :=
  (transcript_agrees fun _ => true).1 _ _ _ _ _ (by decide +kernel) (by decide +kernel)

/-! ## Lone surrogates -/

/-- The input of the unlock for a Device ID. -/
def unlockInput (deviceId : JsString) : SessionTranscriptInput :=
  sessionTranscriptInput deviceId unlockContext unlockDescriptor unlockDescriptor.devicePublicKey

/-- A Device ID of one lone surrogate is accepted, and has the transcript of the Device ID U+FFFD:
two accepted inputs that differ in the Device ID may have one transcript. -/
theorem surrogate_shares_transcript :
    ¬ ∀ input input' bytes, encodeSessionTranscript input = .ok bytes →
      encodeSessionTranscript input' = .ok bytes → input.deviceId = input'.deviceId := by
  intro h
  have hsurrogate : encodeSessionTranscript (unlockInput [0xd800]) =
      .ok (inputBytes (unlockInput [0xfffd])) := by decide +kernel
  have hreplacement : encodeSessionTranscript (unlockInput [0xfffd]) =
      .ok (inputBytes (unlockInput [0xfffd])) := by decide +kernel
  exact absurd (h _ _ _ hsurrogate hreplacement) (by decide)

end M5Auth.Web
