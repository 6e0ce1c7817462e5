import Mathlib.Data.List.DropRight
import M5Auth.Lib.Lines
import M5Auth.Lib.Run
import M5Auth.Provisioning.ProtocolLoop

/-!
# The main loop

The loop of `app_main` around the protocol: one `turn` reads from the transport at most once, or
serves one line of what it has read. `MainLoop` is what survives a turn: the transport session, the
bytes in the input buffer and the discard mode for a line that has overflowed it. What a turn did is
a `LoopEvent`.

The last part is the line protocol without a buffer: `frames` takes a stream apart at its newlines,
and `Link.serve` handles whole frames in order.
-/

namespace M5Auth.Provisioning

def newline : UInt8 := 10
def carriageReturn : UInt8 := 13

/-- The size of the input buffer: a message of the largest size and its line end. -/
def inputCapacity : Nat := maxCanonicalMessageBytes + 2

/-- A line without the carriage returns at its end. -/
def trimLine (raw : List UInt8) : List UInt8 := raw.rdropWhile (· == carriageReturn)

/-- What the loop does with a line. -/
inductive LineAction where
  | dropped (line : List UInt8)
  | dispatched (line : List UInt8) (response : Response) (written : Bool)
  | tooLarge (written : Bool)

namespace Link

variable {σ : Type} (reader : JsonReader) (env : Env σ) (link : Link σ)

/-- Both over-limit branches: the teardown, then the response. -/
def reportTooLarge (written : Bool) : Link σ :=
  let strict := link.phase == .strictPostHandshake
  let link := { link with device := link.device.disconnect }
  if !written then link.failTransportSession
  else if strict then { link with phase := .faulted }
  else link

/-- Which branch `receiveLine` takes for a line on a session that is not faulted. -/
def lineAction (line : List UInt8) (m : Moment) (written : Bool) : LineAction :=
  let info := classifyProtocolFrame reader line
  if line.length > maxCanonicalMessageBytes then .tooLarge written
  else if link.phase = .preHandshake ∧ !(info.valid && info.hello) then .dropped line
  else .dispatched line (link.device.handleLine env line m).1 written

end Link

/-! ## Turns -/

/-- What a turn finds outside: the time, the connection, what `read` returns for a given capacity
(nothing for an error), the time at which a line is handled, and whether its response goes out. -/
structure Turn where
  nowMs : UInt64
  connected : Bool
  read : (capacity : Nat) → Option { bytes : List UInt8 // bytes.length ≤ capacity }
  m : Moment
  written : Bool

/-- What a turn did. -/
inductive LoopEvent where
  | disconnected
  | readFailed
  | received (bytes : List UInt8)
  | acted (action : LineAction)

/-- The state of the loop. -/
structure MainLoop (σ : Type) where
  link : Link σ
  input : List UInt8 := []
  discardOversizedInput : Bool := false

/-- What the user does on the Device's own screens, between two turns. -/
inductive UserInput where
  | observeButton (pressed : Bool)
  | buttonPressed (nowMs : UInt64)
  | expirePresence (nowMs : UInt64)
  | resident (use : Device.ResidentCall)

def UserInput.input : UserInput → Device.Input
  | .observeButton pressed => .observeButton pressed
  | .buttonPressed nowMs => .buttonPressed nowMs
  | .expirePresence nowMs => .expirePresence nowMs
  | .resident use => .resident use

inductive LoopInput where
  | turn (t : Turn)
  | user (u : UserInput)

namespace Link

variable {σ : Type} (env : Env σ) (link : Link σ)

def housekeeping (nowMs : UInt64) : Link σ :=
  { link with device := link.device.housekeeping nowMs }

def user (u : UserInput) : Link σ := { link with device := link.device.step env u.input }

end Link

namespace MainLoop

variable {σ : Type} (reader : JsonReader) (env : Env σ) (s : MainLoop σ)

def withLink (link : Link σ) : MainLoop σ := { s with link }

/-- A turn that discards an oversized line. -/
def discard (t : Turn) : Option LoopEvent × MainLoop σ :=
  match t.read inputCapacity with
  | none => (some .readFailed, s.withLink s.link.failTransportSession)
  | some ⟨bytes, _⟩ =>
    match Lines.cut newline bytes with
    | none => (some (.received bytes), s)
    | some (_, rest) =>
      (some (.received bytes), { s with input := rest, discardOversizedInput := false })

/-- A turn that looks for a line in the buffer, and reads if there is none. -/
def serveInput (t : Turn) : Option LoopEvent × MainLoop σ :=
  match Lines.cut newline s.input with
  | none =>
    if s.input.length ≥ inputCapacity then
      (some (.acted (.tooLarge t.written)),
        { link := s.link.reportTooLarge t.written, discardOversizedInput := true })
    else
      match t.read (inputCapacity - s.input.length) with
      | none =>
        (some .readFailed, { s with link := s.link.failTransportSession, input := [] })
      | some ⟨bytes, _⟩ => (some (.received bytes), { s with input := s.input ++ bytes })
  | some (raw, rest) =>
    (some (.acted (s.link.lineAction reader env (trimLine raw) t.m t.written)),
      { s with link := s.link.receiveLine reader env (trimLine raw) t.m t.written, input := rest })

/-- One turn of the loop. -/
def turn (t : Turn) : Option LoopEvent × MainLoop σ :=
  let s := s.withLink (s.link.housekeeping t.nowMs)
  if !t.connected then (some .disconnected, { link := { device := s.link.device.disconnect } })
  else if s.link.phase = .faulted then (none, { link := s.link })
  else if s.discardOversizedInput then s.discard t
  else s.serveInput reader env t

def step : LoopInput → MainLoop σ
  | .turn t => (s.turn reader env t).2
  | .user u => s.withLink (s.link.user env u)

def event : LoopInput → Option LoopEvent
  | .turn t => (s.turn reader env t).1
  | .user _ => none

end MainLoop

/-! ## Whole frames -/

/-- A line of the stream, as far as the protocol sees it. -/
inductive LineFrame where
  | message (line : List UInt8)
  | oversized
  deriving DecidableEq

/-- The line fits the buffer with its newline, and without its line end it fits a message. -/
def frameOf (raw : List UInt8) : LineFrame :=
  if raw.length < inputCapacity ∧ (trimLine raw).length ≤ maxCanonicalMessageBytes then
    .message (trimLine raw)
  else .oversized

/-- The frames of a stream: its lines, and a tail that no longer fits the buffer. -/
def frames (stream : List UInt8) : List LineFrame :=
  match Lines.split newline stream with
  | (lines, tail) =>
    lines.map frameOf ++ if tail.length ≥ inputCapacity then [.oversized] else []

/-- What happens to a transport session on one connection. -/
inductive LinkInput where
  | frame (f : LineFrame) (m : Moment) (written : Bool)
  | housekeeping (nowMs : UInt64)
  | user (u : UserInput)

namespace Link

variable {σ : Type} (reader : JsonReader) (env : Env σ) (link : Link σ)

/-- The action for a frame, and the session after it; a faulted session ignores the frame. -/
def receiveFrame (f : LineFrame) (m : Moment) (written : Bool) : Option LineAction × Link σ :=
  if link.phase = .faulted then (none, link)
  else
    match f with
    | .message line =>
      (some (link.lineAction reader env line m written),
        link.receiveLine reader env line m written)
    | .oversized => (some (.tooLarge written), link.reportTooLarge written)

def serveOne : LinkInput → Option LineAction × Link σ
  | .frame f m written => link.receiveFrame reader env f m written
  | .housekeeping nowMs => (none, link.housekeeping nowMs)
  | .user u => (none, link.user env u)

/-- The actions for a sequence of inputs, and the session after them. -/
def serve : Link σ → List LinkInput → List LineAction × Link σ
  | link, [] => ([], link)
  | link, i :: rest =>
    match link.serveOne reader env i with
    | (action, link) =>
      match serve link rest with
      | (actions, link) => (action.toList ++ actions, link)

end Link

end M5Auth.Provisioning
