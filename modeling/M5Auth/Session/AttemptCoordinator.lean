import M5Auth.Session.Transcript

/-!
# Session attempts

`AttemptCoordinator` runs one attempt at a time: `beginAttempt` draws its identity, `authorize`
binds the browser's key and signature to the transcript and asks for the user's presence,
`complete` uses the presence up and opens the delivered Vault master key.

The cryptographic library and the random source are the parameter `Primitives`. The private half
of an ephemeral key pair is represented by its public half.
-/

namespace M5Auth.Session

open Registration (P256PublicKey)
open Vault (Vmk VaultNonce VaultTag)

def brkSignatureBytes : Nat := 64
def maxHkdfContextBytes : Nat := 4096
def maxTranscriptBytes : Nat := 16384

/-- What `DeviceSession::begin` draws. -/
structure AttemptMaterial where
  attemptId : AttemptId
  challenge : DeviceChallenge
  devicePublicKey : P256PublicKey

structure Primitives where
  importKey : P256PublicKey → Bool
  verifyBrk : P256PublicKey → List UInt8 → List UInt8 → Bool
  openVmk : P256PublicKey → P256PublicKey → List UInt8 → List UInt8 → VaultNonce → Vmk →
    VaultTag → List UInt8 → Option Vmk
  gcm : Vault.GcmOpen
  material : Nat → Option AttemptMaterial

/-! ## The session's key material -/

structure DeviceSession where
  attemptId : AttemptId := Bytes.zero 16
  challenge : DeviceChallenge := Bytes.zero 32
  devicePublicKey : P256PublicKey := Bytes.zero 65
  expiresAtMs : UInt64 := 0
  active : Bool := false
  deriving DecidableEq

/-- `bounded_nonempty`. -/
def boundedNonempty (bytes : List UInt8) (maximum : Nat) : Bool :=
  !bytes.isEmpty && bytes.length ≤ maximum

namespace DeviceSession

/-- `begin`. -/
def beginSession (material : Option AttemptMaterial) (nowMs : UInt64) :
    Option AttemptDescriptor × DeviceSession :=
  match material with
  | none => (none, {})
  | some material =>
    if material.devicePublicKey.1.head? ≠ some 0x04 then (none, {})
    else
      let expiresAtMs := deadlineFrom nowMs
      (some
        { attemptId := material.attemptId, challenge := material.challenge
          devicePublicKey := material.devicePublicKey, expiresAtMs },
        { attemptId := material.attemptId, challenge := material.challenge
          devicePublicKey := material.devicePublicKey, expiresAtMs, active := true })

/-- `active`. -/
def isActive (s : DeviceSession) (nowMs : UInt64) : Bool := s.active && nowMs < s.expiresAtMs

/-- `matches_attempt`. A mismatch also resets the session, as every caller then does. -/
def matchesAttempt (s : DeviceSession) (attemptId : AttemptId) (nowMs : UInt64) : Bool :=
  s.isActive nowMs && attemptId.sameBytes s.attemptId

/-- `verify_brk_signature`. A failure also resets the session, as every caller then does. -/
def verifyBrkSignature (prims : Primitives) (s : DeviceSession) (brk : P256PublicKey)
    (transcript signature : List UInt8) (nowMs : UInt64) : Bool :=
  s.isActive nowMs && brk.1.head? == some 0x04 && boundedNonempty transcript maxTranscriptBytes &&
    signature.length == brkSignatureBytes && prims.verifyBrk brk transcript signature

/-- `open_vmk`. The session is reset in every case. -/
def openVmk (prims : Primitives) (s : DeviceSession) (webPublicKey : P256PublicKey)
    (hkdfSalt hkdfInfo : List UInt8) (nonce : VaultNonce) (ciphertext : Vmk) (tag : VaultTag)
    (transcriptAad : List UInt8) (nowMs : UInt64) : Option Vmk :=
  if !s.isActive nowMs || webPublicKey.1.head? != some 0x04 ||
      !boundedNonempty hkdfSalt maxHkdfContextBytes ||
      !boundedNonempty hkdfInfo maxHkdfContextBytes ||
      !boundedNonempty transcriptAad maxTranscriptBytes then none
  else
    prims.openVmk s.devicePublicKey webPublicKey hkdfSalt hkdfInfo nonce ciphertext tag
      transcriptAad

end DeviceSession

/-! ## The coordinator -/

inductive AttemptState where
  | idle | awaitingAuthorization | awaitingPresence | confirmed
  deriving DecidableEq, Repr

/-- The members of `AttemptCoordinator` that belong to one attempt. -/
structure Attempt where
  crypto : DeviceSession := {}
  context : BeginContext := {}
  descriptor : AttemptDescriptor := {}
  webPublicKey : P256PublicKey := Bytes.zero 65
  transcript : List UInt8 := []
  active : Bool := false
  state : AttemptState := .idle
  deriving DecidableEq

/-- `AttemptCoordinator`, with the presence gate it refers to. The field `draws` counts the uses of
the random source. -/
structure AttemptCoordinator where
  presence : CanonicalPresence := {}
  attempt : Attempt := {}
  draws : Nat := 0

/-- `hkdf_salt`. -/
def hkdfSalt (descriptor : AttemptDescriptor) : List UInt8 :=
  descriptor.attemptId.1 ++ descriptor.challenge.1

/-- `wipe_staged`: all but the operation code. -/
def Attempt.wipeStaged (a : Attempt) : Attempt :=
  { crypto := a.crypto, context := { operation := a.context.operation } }

namespace AttemptCoordinator

variable (prims : Primitives) (c : AttemptCoordinator)

def withPresence (presence : CanonicalPresence) : AttemptCoordinator := { c with presence }

def withAttempt (attempt : Attempt) : AttemptCoordinator := { c with attempt }

/-- `cancel`. -/
def cancel : AttemptCoordinator :=
  (c.withPresence c.presence.cancelPresence).withAttempt
    { c.attempt.wipeStaged with crypto := {} }

/-- `begin`. -/
def beginAttempt (context : BeginContext) (nowMs : UInt64) :
    Option AttemptDescriptor × AttemptCoordinator :=
  if !context.valid prims.importKey then (none, c.cancel)
  else
    let cleared := { c.cancel with draws := c.draws + 1 }
    match DeviceSession.beginSession (prims.material c.draws) nowMs with
    | (none, crypto) => (none, cleared.withAttempt { cleared.attempt with crypto })
    | (some descriptor, crypto) =>
      (some descriptor,
        cleared.withAttempt
          { crypto, context, descriptor, active := true, state := .awaitingAuthorization })

/-- The signature checks of `authorize`: required for an unlock and a re-key, and never ignored
where it is not. -/
def signatureAccepted (transcript signature : List UInt8) (nowMs : UInt64) : Bool :=
  let a := c.attempt
  if a.context.operation.signatureRequired then
    signature.length == brkSignatureBytes &&
      a.crypto.verifyBrkSignature prims a.context.currentBrkPublicKey transcript signature nowMs
  else if signature.isEmpty then true
  else
    !a.context.currentBrkPublicKey.allZero && signature.length == brkSignatureBytes &&
      a.crypto.verifyBrkSignature prims a.context.currentBrkPublicKey transcript signature nowMs

def authorize (webPublicKey : P256PublicKey) (signature : List UInt8) (nowMs : UInt64) :
    Bool × AttemptCoordinator :=
  let a := c.attempt
  if !a.active || a.state != .awaitingAuthorization ||
      !a.crypto.matchesAttempt a.descriptor.attemptId nowMs then (false, c.cancel)
  else
    match encodeTranscript prims.importKey a.context a.descriptor webPublicKey with
    | none => (false, c.cancel)
    | some transcript =>
      if !c.signatureAccepted prims transcript signature nowMs then (false, c.cancel)
      else
        (true,
          (c.withPresence (c.presence.beginPresence a.context.operation.presenceOperation
            a.descriptor.attemptId nowMs)).withAttempt
            { a with webPublicKey, transcript, state := .awaitingPresence })

/-- `complete`: the confirmation is used up before the key is opened. -/
def complete (nonce : VaultNonce) (ciphertext : Vmk) (tag : VaultTag) (nowMs : UInt64) :
    Option Vmk × AttemptCoordinator :=
  let a := c.attempt
  if !a.active || (a.state != .awaitingPresence && a.state != .confirmed) ||
      !a.crypto.matchesAttempt a.descriptor.attemptId nowMs then (none, c.cancel)
  else
    match c.presence.consumePresence a.descriptor.attemptId nowMs with
    | (false, presence) => (none, (c.withPresence presence).cancel)
    | (true, presence) =>
      (a.crypto.openVmk prims a.webPublicKey (hkdfSalt a.descriptor) a.transcript nonce ciphertext
          tag a.transcript nowMs,
        (c.withPresence presence).withAttempt { a.wipeStaged with crypto := {} })

/-- `expire`. -/
def expire (nowMs : UInt64) : Bool × AttemptCoordinator :=
  let a := c.attempt
  if !a.active then (false, c)
  else if (a.crypto.active ∧ a.crypto.expiresAtMs ≤ nowMs) ∨ a.descriptor.expiresAtMs ≤ nowMs then
    (true, c.cancel)
  else (false, c)

/-- `state`. -/
def currentState : AttemptState :=
  if c.attempt.active ∧ c.attempt.state = .awaitingPresence ∧ c.presence.presenceConfirmed then
    .confirmed
  else c.attempt.state

end AttemptCoordinator

end M5Auth.Session
