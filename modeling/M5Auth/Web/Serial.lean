import M5Auth.Lib.Lines
import M5Auth.Lib.Utf8Stream
import M5Auth.Web.CanonicalProtocol

/-!
# The serial session of the Web application

`SerialSession` of `serial.ts`: the line reader with its limits, the initial hello with its retries,
and the exchanges after it. What the port delivers is a list of `Arrival`s; a reader that has used
them up times out. What is thrown is an `Except`.
-/

namespace M5Auth.Web

open JsonValue Unicode

/-! ## Responses -/

/-- The three protocols, which differ in their texts. -/
inductive Protocol where
  | legacy | session | canonical
  deriving DecidableEq

/-- What the response parsers of the protocols throw. -/
structure ResponseTexts where
  version : Int
  maximumChars : Option Nat
  tooLarge : String
  invalidId : String
  invalidJson : String
  invalidResponse : String
  unsupportedVersion : String
  idMismatch : String
  invalidError : String

/-- The common body of the response parsers. -/
def parseResponse (texts : ResponseTexts) (parseJson : JsString → Option JsonValue) (raw : JsString)
    (expectedId : Number) : Except Thrown CanonicalOutcome := do
  require (expectedId.inRange 0 9007199254740991) texts.invalidId
  require (texts.maximumChars.all fun maximum => decide (raw.length ≤ maximum)) texts.tooLarge
  match parseJson raw with
  | none => .error (.error texts.invalidJson)
  | some parsed =>
    require parsed.isRecord texts.invalidResponse
    require (number? (parsed.get "v") == some (.integer texts.version)) texts.unsupportedVersion
    require (number? (parsed.get "id") == some expectedId) texts.idMismatch
    match bool? (parsed.get "ok") with
    | some false =>
      match errorCode? parsed with
      | some code => .ok (.rejected code)
      | none => .error (.error texts.invalidError)
    | some true =>
      match parsed.get "data" with
      | some data =>
        require data.isRecord texts.invalidResponse
        .ok (.data data)
      | none => .error (.error texts.invalidResponse)
    | none => .error (.error texts.invalidResponse)

/-- `parseResponseData`. -/
def parseResponseData := parseResponse
  { version := 1, maximumChars := none, tooLarge := "", invalidId := "Invalid request id"
    invalidJson := "Device returned invalid JSON"
    invalidResponse := "Device returned invalid response"
    unsupportedVersion := "Unsupported protocol version", idMismatch := "Response id mismatch"
    invalidError := "Device returned invalid error response" }

/-- `parseSessionV2Response`. -/
def parseSessionV2Response := parseResponse
  { version := 2, maximumChars := some 4096, tooLarge := "Protocol v2 response is too large"
    invalidId := "Invalid request id"
    invalidJson := "Device returned invalid Protocol v2 JSON"
    invalidResponse := "Device returned invalid Protocol v2 response"
    unsupportedVersion := "Unsupported Protocol v2 response version"
    idMismatch := "Protocol v2 response id mismatch"
    invalidError := "Device returned invalid Protocol v2 error response" }

/-- The parser of each protocol. -/
def Protocol.parse : Protocol → (JsString → Option JsonValue) → JsString → Number →
    Except Thrown CanonicalOutcome
  | legacy => parseResponseData
  | session => parseSessionV2Response
  | canonical => parseCanonicalV2Response

/-- `trimStart` removes white space and line terminators. -/
def isSpace (unit : UInt16) : Bool :=
  (9 ≤ unit && unit ≤ 13) || unit == 0x20 || unit == 0xa0 || unit == 0x1680 ||
    (0x2000 ≤ unit && unit ≤ 0x200a) || unit == 0x2028 || unit == 0x2029 || unit == 0x202f ||
    unit == 0x205f || unit == 0x3000 || unit == 0xfeff

/-- `line.trimStart().startsWith("{")`. -/
def startsObject (line : JsString) : Bool := (line.dropWhile isSpace).head? == some 0x7b

/-- `responseIdCandidate`. -/
def responseIdCandidate (parseJson : JsString → Option JsonValue) (raw : JsString) :
    Option Number :=
  match parseJson raw with
  | some parsed =>
    if parsed.isRecord then (number? (parsed.get "id")).filter Number.isSafeInteger else none
  | none => none

/-! ## The session -/

def maxResponseBytes : Nat := 4096
def maxStartupNoiseLines : Nat := 64
def maxStartupNoiseBytes : Nat := 8192

/-- What the port delivers: a chunk, or the end of the stream. -/
inductive Arrival where
  | chunk (value : List UInt8)
  | done
  deriving DecidableEq

/-- `new TextDecoder()`, which keeps an unfinished character from one chunk to the next. -/
structure TextDecoder where
  state : Pending := {}
  bomSeen : Bool := false
  deriving DecidableEq

/-- `decode(value, { stream: true })`. -/
def TextDecoder.decode (d : TextDecoder) (value : List UInt8) : JsString × TextDecoder :=
  match feed d.state value with
  | ([], state) => ([], { d with state })
  | (c :: text, state) =>
    (encodeUtf16 (if !d.bomSeen && c == bom then text else c :: text), { state, bomSeen := true })

/-- What an exchange throws: an error, or the Device's rejection as the parser of a protocol
throws it. -/
inductive ExchangeError where
  | thrown (error : Thrown)
  | rejected (protocol : Protocol) (code : JsString)
  deriving DecidableEq

/-- `DeviceResponseTimeoutError`. -/
def responseTimeout : Thrown := .error "Device response timed out"

def responseTooLarge : Thrown := .error "Device response was too large"

structure SerialSession where
  decoder : TextDecoder := {}
  pending : JsString := []
  pendingBytes : Nat := 0
  nextId : Nat := 1
  closed : Bool := false
  staleInitialHelloResponseId : Option Nat := none
  staleInitialHelloResponsesRemaining : Nat := 0
  deriving DecidableEq

/-- `replace(/\r$/, "")`. -/
def dropReturn (line : JsString) : JsString :=
  if line.getLast? = some 13 then line.dropLast else line

namespace SerialSession

variable (parseJson : JsString → Option JsonValue) (s : SerialSession)

/-- `close`. -/
def close : SerialSession :=
  { s with closed := true, pending := [], pendingBytes := 0
           staleInitialHelloResponseId := none, staleInitialHelloResponsesRemaining := 0 }

/-- `allocateRequestId`, after the id has been taken. -/
def allocateRequestId : SerialSession :=
  { s with nextId := if s.nextId ≥ 9007199254740991 then 1 else s.nextId + 1 }

/-- The first line is taken out of `pending`. -/
def takeLine (rest : JsString) : SerialSession :=
  { s with pending := rest, pendingBytes := (textEncode rest).length }

/-- A chunk is decoded behind `pending`. -/
def receive (value : List UInt8) : SerialSession :=
  match s.decoder.decode value with
  | (text, decoder) =>
    { s with decoder, pending := s.pending ++ text, pendingBytes := s.pendingBytes + value.length }

/-- `readLine`. Returned with the result: the session, and what the port has yet to deliver. -/
def readLine (maxBufferedBytes : Nat) :
    SerialSession → List Arrival → Except Thrown JsString × SerialSession × List Arrival
  | s, arrivals =>
    if s.pendingBytes > maxBufferedBytes then (.error responseTooLarge, s, arrivals)
    else
      match Lines.cut 10 s.pending with
      | some (line, rest) => (.ok (dropReturn line), s.takeLine rest, arrivals)
      | none =>
        match arrivals with
        | [] => (.error responseTimeout, s, [])
        | .done :: arrivals =>
          (.error (.error "Device disconnected before responding"), s, arrivals)
        | .chunk value :: arrivals =>
          if s.pendingBytes + value.length > maxBufferedBytes then
            (.error responseTooLarge, { s with pendingBytes := s.pendingBytes + value.length },
              arrivals)
          else readLine maxBufferedBytes (s.receive value) arrivals

/-- A parser's result as the promise that an exchange settles. -/
def settle (protocol : Protocol) :
    Except Thrown CanonicalOutcome → Except ExchangeError JsonValue
  | .error e => .error (.thrown e)
  | .ok (.rejected code) => .error (.rejected protocol code)
  | .ok (.data data) => .ok data

/-- `readResponseLine`, while `remaining` stale responses to the initial hello may come. -/
def readResponseLoop : Nat → SerialSession → List Arrival →
    Except ExchangeError JsString × SerialSession × List Arrival
  | remaining, s, arrivals =>
    match s.readLine maxResponseBytes arrivals with
    | (.error e, s, arrivals) => (.error (.thrown e), s, arrivals)
    | (.ok line, s, arrivals) =>
      match remaining, s.staleInitialHelloResponseId with
      | remaining + 1, some staleId =>
        if !startsObject line ||
            responseIdCandidate parseJson line ≠ some (.integer staleId) then
          (.ok line, s, arrivals)
        else
          match settle .canonical (parseCanonicalV2Response parseJson line (.integer staleId)) with
          | .error e => (.error e, s, arrivals)
          | .ok _ =>
            readResponseLoop remaining
              { s with
                staleInitialHelloResponsesRemaining := remaining
                staleInitialHelloResponseId := if remaining = 0 then none else some staleId }
              arrivals
      | _, _ => (.ok line, s, arrivals)

def readResponseLine :=
  readResponseLoop parseJson s.staleInitialHelloResponsesRemaining s

/-- The error class that `request`, `requestV2` and `requestCanonicalV2` take for the Device's
answer. -/
def isDeviceRejection (protocol : Protocol) : ExchangeError → Bool
  | .rejected thrower _ => thrower == protocol
  | .thrown _ => false

/-- The `catch` of `exchange`. -/
def failWith (protocol : Protocol) (error : ExchangeError) : SerialSession :=
  if isDeviceRejection protocol error then s else s.close

/-- `exchange`, for each of the protocols. `sent` is what building and writing the request
throws. -/
def exchange (protocol : Protocol) (sent : Except Thrown Unit) (arrivals : List Arrival) :
    Except ExchangeError JsonValue × SerialSession × List Arrival :=
  if s.closed then (.error (.thrown (.error "Device is not connected")), s, arrivals)
  else
    match sent with
    | .error e => (.error (.thrown e), s.allocateRequestId.failWith protocol (.thrown e), arrivals)
    | .ok () =>
      match s.allocateRequestId.readResponseLine parseJson arrivals with
      | (.error e, s, arrivals) => (.error e, s.failWith protocol e, arrivals)
      | (.ok line, read, arrivals) =>
        match settle protocol (protocol.parse parseJson line (.integer s.nextId)) with
        | .error e => (.error e, read.failWith protocol e, arrivals)
        | .ok data => (.ok data, read, arrivals)

/-! ## The initial hello -/

/-- One round of the loop: whether a retry is due when it begins, and what arrives before its read
deadline. -/
structure HelloRound where
  retryDue : Bool
  arrivals : List Arrival

/-- `requestInitialHello`. The loop ends with its rounds when the last deadline has passed. Returned
with the result: how often the request was written, the session, and what is yet to be delivered. -/
def helloLoop (id : Nat) : (attempts skippedLines skippedBytes : Nat) → SerialSession →
    List Arrival → List HelloRound →
    Except ExchangeError JsonValue × Nat × SerialSession × List Arrival
  | attempts, _, _, s, arrivals, [] => (.error (.thrown responseTimeout), attempts, s, arrivals)
  | attempts, skippedLines, skippedBytes, s, arrivals, round :: rounds =>
    let attempts := if attempts = 0 || round.retryDue then attempts + 1 else attempts
    let later := rounds.flatMap HelloRound.arrivals
    match s.readLine maxStartupNoiseBytes (arrivals ++ round.arrivals) with
    | (.error e, s, arrivals) =>
      if e = responseTimeout then
        helloLoop id attempts skippedLines skippedBytes s arrivals rounds
      else (.error (.thrown e), attempts, s, arrivals ++ later)
    | (.ok line, s, arrivals) =>
      let lineBytes := (textEncode line).length
      if !startsObject line then
        if skippedLines + 1 > maxStartupNoiseLines ||
            skippedBytes + (lineBytes + 1) > maxStartupNoiseBytes then
          (.error (.thrown (.error "Device startup output exceeded synchronization limits")),
            attempts, s, arrivals ++ later)
        else
          helloLoop id attempts (skippedLines + 1) (skippedBytes + (lineBytes + 1)) s arrivals rounds
      else if lineBytes > maxResponseBytes then
        (.error (.thrown responseTooLarge), attempts, s, arrivals ++ later)
      else
        match settle .canonical (parseCanonicalV2Response parseJson line (.integer id)) with
        | .error e => (.error e, attempts, s, arrivals ++ later)
        | .ok data =>
          (.ok data, attempts,
            if attempts > 1 then
              { s with staleInitialHelloResponseId := some id
                       staleInitialHelloResponsesRemaining := attempts - 1 }
            else s, arrivals ++ later)

/-- `connect`, from the open port to the session that it returns; a session whose hello fails is
closed. -/
def connect (rounds : List HelloRound) :
    Except ExchangeError JsonValue × Nat × SerialSession × List Arrival :=
  let fresh : SerialSession := {}
  match helloLoop parseJson fresh.nextId 0 0 0 fresh.allocateRequestId [] rounds with
  | (.error e, attempts, s, arrivals) => (.error e, attempts, s.close, arrivals)
  | (.ok data, attempts, s, arrivals) =>
    match parseCanonicalHelloData data with
    | .error e => (.error (.thrown e), attempts, s.close, arrivals)
    | .ok _ => (.ok data, attempts, s, arrivals)

end SerialSession

end M5Auth.Web
