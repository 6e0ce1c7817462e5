import M5Auth.Provisioning.Device

/-!
# The session handler

`StagedSessionV2Handler`: the five `session.*` requests on the attempt coordinator, each bound to
what the Device currently is. A rejected request cancels the attempt (`failClosed`).
-/

namespace M5Auth.Provisioning

open Session (AttemptId)

/-- The clocks and the system call a line may use. -/
structure Moment where
  nowMs : UInt64
  timerUs : Int := 0
  clockSettable : Bool := true

/-- `runtime_monotonic_ms`. -/
def Moment.timerMs (m : Moment) : UInt64 :=
  if m.timerUs ≤ 0 then 0 else UInt64.ofNat (m.timerUs / 1000).toNat

namespace Device

variable {σ : Type} (env : Env σ) (d : Device σ)

/-- `clear_context`: all but the operation code. -/
def clearContext : Device σ :=
  { d with context := { operation := d.context.operation }, contextActive := false }

/-- `disconnect` of the session handler. -/
def disconnectSession : Device σ := (d.withCoordinator d.coordinator.cancel).clearContext

/-- `fail_closed`. -/
def failClosed (id : Nat) (code : String) : Response × Device σ :=
  (.error id code, d.disconnectSession)

/-- `expire` of the session handler. -/
def expireSession (nowMs : UInt64) : Device σ :=
  match d.coordinator.expire nowMs with
  | (true, coordinator) => (d.withCoordinator coordinator).clearContext
  | (false, _) => d

/-- What the Device currently is. -/
def binding : Option SessionDeviceSnapshot := bindingSnapshot d.runtime d.registration

/-- `current_binding_matches`. -/
def currentBindingMatches : Bool :=
  d.contextActive && d.binding.any (beginMatchesSnapshot d.context)

/-- The request names the active attempt. -/
def namesAttempt (attemptId : AttemptId) : Bool :=
  d.contextActive && d.coordinator.attempt.active &&
    attemptId.sameBytes d.coordinator.attempt.descriptor.attemptId

def sessionBegin (id : Nat) (params : Json) (nowMs : UInt64) : Response × Device σ :=
  let d := d.disconnectSession
  match parseBeginContext params with
  | none => (.error id "invalid_request", d)
  | some context =>
    match d.binding with
    | none => (.error id "invalid_state", d)
    | some snapshot =>
      if !beginMatchesSnapshot context snapshot then (.error id "binding_mismatch", d)
      else
        match d.coordinator.beginAttempt env.prims context nowMs with
        | (none, coordinator) => (.error id "invalid_request", d.withCoordinator coordinator)
        | (some descriptor, coordinator) =>
          (beginSuccess id descriptor nowMs,
            { d.withCoordinator coordinator with context, contextActive := true })

def sessionAuthorize (id : Nat) (params : Json) (nowMs : UInt64) : Response × Device σ :=
  match parseAuthorize params with
  | none => d.failClosed id "invalid_request"
  | some request =>
    if !d.namesAttempt request.attemptId then d.failClosed id "stale_attempt"
    else if !d.currentBindingMatches then d.failClosed id "binding_mismatch"
    else
      match d.coordinator.authorize env.prims request.webPublicKey request.signature nowMs with
      | (false, coordinator) =>
        (.error id "authentication_failed", (d.withCoordinator coordinator).clearContext)
      | (true, coordinator) => (emptySuccess id, d.withCoordinator coordinator)

def sessionStatus (id : Nat) (params : Json) (nowMs : UInt64) : Response × Device σ :=
  match readAttemptId params with
  | none => d.failClosed id "invalid_request"
  | some attemptId =>
    if !d.namesAttempt attemptId then d.failClosed id "stale_attempt"
    else if !d.currentBindingMatches then d.failClosed id "binding_mismatch"
    else
      match d.coordinator.expire nowMs with
      | (true, coordinator) =>
        (stateSuccess id "expired", (d.withCoordinator coordinator).clearContext)
      | (false, _) => (stateSuccess id (stateName d.coordinator.currentState), d)

def sessionComplete (id : Nat) (params : Json) (m : Moment) : Response × Device σ :=
  match parseComplete params with
  | none => d.failClosed id "invalid_request"
  | some request =>
    if !d.namesAttempt request.attemptId then d.failClosed id "stale_attempt"
    else if !d.currentBindingMatches then d.failClosed id "binding_mismatch"
    else
      match d.coordinator.complete env.prims request.nonce request.ciphertext request.tag
          m.nowMs with
      | (none, coordinator) =>
        (.error id "session_rejected", (d.withCoordinator coordinator).clearContext)
      | (some vmk, coordinator) =>
        let d := d.withCoordinator coordinator
        if !d.currentBindingMatches then (.error id "binding_mismatch", d.clearContext)
        else
          match d.installVmk env d.context vmk m.timerMs with
          | (true, d) => (emptySuccess id, d.clearContext)
          | (false, d) => (.error id "invalid_state", d.clearContext)

def sessionCancel (id : Nat) (params : Json) : Response × Device σ :=
  match readAttemptId params with
  | none => d.failClosed id "invalid_request"
  | some attemptId =>
    if !d.contextActive || !d.coordinator.attempt.active then (emptySuccess id, d.clearContext)
    else if !attemptId.sameBytes d.coordinator.attempt.descriptor.attemptId then
      d.failClosed id "stale_attempt"
    else (emptySuccess id, (d.withCoordinator d.coordinator.cancel).clearContext)

/-- `handle_line` of the session handler. -/
def handleSessionLine (line : List UInt8) (m : Moment) : Response × Device σ :=
  if line.isEmpty then d.failClosed 0 "invalid_request"
  else if line.length > maxSessionMessageBytes then d.failClosed 0 "message_too_large"
  else
    match readFrame env.parse line with
    | .error (id, code) => d.failClosed id code
    | .ok frame =>
      match frame.operation with
      | .session .sessionBegin => d.sessionBegin env frame.id frame.params m.nowMs
      | .session .authorize => d.sessionAuthorize env frame.id frame.params m.nowMs
      | .session .status => d.sessionStatus frame.id frame.params m.nowMs
      | .session .complete => d.sessionComplete env frame.id frame.params m
      | .session .cancel => d.sessionCancel frame.id frame.params
      | _ => d.failClosed frame.id "unsupported_op"

end Device

end M5Auth.Provisioning
