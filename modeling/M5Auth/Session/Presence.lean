import M5Auth.Core.Bytes

/-!
# User presence

`UserPresenceGate` turns samples of the physical button into at most one confirmation of one
request: it arms after two released samples, and only a press edge seen after that confirms.
`CanonicalPresence` is the gate behind the Device's button.
-/

namespace M5Auth.Session

abbrev AttemptId := Bytes 16

/-- `kAttemptTtlMs`. -/
def attemptTtlMs : UInt64 := 30000

/-- `deadline_from`: the sum saturates. -/
def deadlineFrom (nowMs : UInt64) : UInt64 :=
  if nowMs > 18446744073709551615 - attemptTtlMs then 18446744073709551615
  else nowMs + attemptTtlMs

inductive PresenceOperation where
  | trustedBrowserUnlock | initialProvisioning | recovery | browserReplacement | vmkRekey
  | factoryReset
  deriving DecidableEq, Repr

inductive PresenceState where
  | idle | awaiting | confirmed
  deriving DecidableEq, Repr

structure UserPresenceGate where
  state : PresenceState := .idle
  operation : PresenceOperation := .trustedBrowserUnlock
  attemptId : AttemptId := Bytes.zero 16
  expiresAtMs : UInt64 := 0
  inputGenerationAtStart : UInt64 := 0
  neutralSamples : Nat := 0
  inputArmed : Bool := false
  lastInputPressed : Bool := false
  postArmPressEdge : Bool := false
  deriving DecidableEq

namespace UserPresenceGate

/-- `clear`. -/
def clear : UserPresenceGate := {}

/-- `begin`. -/
def beginRequest (operation : PresenceOperation) (attemptId : AttemptId)
    (nowMs inputGeneration : UInt64) : UserPresenceGate where
  operation
  attemptId
  expiresAtMs := deadlineFrom nowMs
  inputGenerationAtStart := inputGeneration
  state := .awaiting

/-- `observe_input_state`. -/
def observeInputState (gate : UserPresenceGate) (pressed : Bool) : UserPresenceGate :=
  if gate.state ≠ .awaiting then gate
  else if !gate.inputArmed then
    let gate := { gate with postArmPressEdge := false, lastInputPressed := pressed }
    if pressed then { gate with neutralSamples := 0 }
    else
      let neutralSamples :=
        if gate.neutralSamples < 2 then gate.neutralSamples + 1 else gate.neutralSamples
      if neutralSamples ≥ 2 then
        { gate with neutralSamples, inputArmed := true, lastInputPressed := false }
      else { gate with neutralSamples }
  else
    { gate with
      postArmPressEdge :=
        if pressed && !gate.lastInputPressed then true
        else if !pressed then false else gate.postArmPressEdge
      lastInputPressed := pressed }

/-- `expire`. -/
def expire (gate : UserPresenceGate) (nowMs : UInt64) : Bool × UserPresenceGate :=
  if gate.state = .idle ∨ nowMs < gate.expiresAtMs then (false, gate) else (true, clear)

/-- `confirm_current`: the sampled edge is used up even if the generation is stale. -/
def confirmCurrent (gate : UserPresenceGate) (nowMs inputGeneration : UInt64) :
    Bool × UserPresenceGate :=
  match gate.expire nowMs with
  | (expired, gate) =>
    if expired ∨ gate.state ≠ .awaiting then (false, gate)
    else if !gate.inputArmed ∨ !gate.postArmPressEdge then (false, gate)
    else
      let gate := { gate with postArmPressEdge := false }
      if inputGeneration ≤ gate.inputGenerationAtStart then (false, gate)
      else (true, { gate with state := .confirmed })

/-- `consume_confirmation`. -/
def consumeConfirmation (gate : UserPresenceGate) (attemptId : AttemptId) (nowMs : UInt64) :
    Bool × UserPresenceGate :=
  match gate.expire nowMs with
  | (expired, gate) =>
    if expired ∨ gate.state ≠ .confirmed then (false, gate)
    else if !attemptId.sameBytes gate.attemptId then (false, clear)
    else (true, clear)

end UserPresenceGate

/-- `CanonicalPresence`. -/
structure CanonicalPresence where
  buttonPressGeneration : UInt64 := 0
  gate : UserPresenceGate := {}
  deriving DecidableEq

namespace CanonicalPresence

variable (p : CanonicalPresence)

def withGate (gate : UserPresenceGate) : CanonicalPresence := { p with gate }

/-- `begin_presence`; it never fails. -/
def beginPresence (operation : PresenceOperation) (attemptId : AttemptId) (nowMs : UInt64) :
    CanonicalPresence :=
  p.withGate (.beginRequest operation attemptId nowMs p.buttonPressGeneration)

/-- `consume_presence`. -/
def consumePresence (attemptId : AttemptId) (nowMs : UInt64) : Bool × CanonicalPresence :=
  ((p.gate.consumeConfirmation attemptId nowMs).1,
    p.withGate (p.gate.consumeConfirmation attemptId nowMs).2)

/-- `cancel_presence`. -/
def cancelPresence : CanonicalPresence := p.withGate .clear

/-- `presence_confirmed`. -/
def presenceConfirmed : Bool := p.gate.state == .confirmed

/-- `observe_button_state`. -/
def observeButtonState (pressed : Bool) : CanonicalPresence :=
  p.withGate (p.gate.observeInputState pressed)

/-- `button_pressed`. -/
def buttonPressed (nowMs : UInt64) : CanonicalPresence :=
  let generation := if p.buttonPressGeneration ≠ 18446744073709551615 then
    p.buttonPressGeneration + 1 else p.buttonPressGeneration
  { buttonPressGeneration := generation
    gate := if p.gate.state = .idle then p.gate else (p.gate.confirmCurrent nowMs generation).2 }

/-- `expire`. -/
def expirePresence (nowMs : UInt64) : CanonicalPresence := p.withGate (p.gate.expire nowMs).2

end CanonicalPresence

end M5Auth.Session
