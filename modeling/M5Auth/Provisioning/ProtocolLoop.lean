import M5Auth.Provisioning.CanonicalHandler

/-!
# The protocol loop

What `app_main` does with a line once the transport has delivered it: the size check, the strict
frame check (`classifyProtocolFrame`), the handler, and the phase of the transport session
(`Link.receiveLine`).

The JSON library is a parameter. A `JsonReader` reads one value from the start of the buffer and
returns it with the bytes behind it. The handler's `cJSON_ParseWithLength` ignores those bytes; the
strict check passes `require_null_terminated` and takes blanks only.
-/

namespace M5Auth.Provisioning

/-! ## The strict frame check -/

abbrev JsonReader := List UInt8 → Option (Json × List UInt8)

/-- `cJSON_ParseWithLength`. -/
def JsonReader.parse (reader : JsonReader) (line : List UInt8) : Option Json :=
  (reader line).map Prod.fst

/-- `cJSON_ParseWithLengthOpts` with `require_null_terminated`. -/
def JsonReader.parseWhole (reader : JsonReader) (line : List UInt8) : Option Json :=
  match reader line with
  | none => none
  | some (root, rest) => if rest.all (· ≤ 32) then some root else none

/-- `ProtocolFrameInfo`. -/
structure ProtocolFrameInfo where
  valid : Bool := false
  hello : Bool := false
  id : Nat := 0
  deriving DecidableEq

/-- `classify_protocol_frame`. -/
def classifyProtocolFrame (reader : JsonReader) (line : List UInt8) : ProtocolFrameInfo :=
  match reader.parseWhole line with
  | none => {}
  | some root =>
    if !root.isObject then {}
    else
      let op := Json.string? (root.getItem "op")
      let version := readNonnegativeInt (root.getItem "v") == some Session.protocolVersion
      let id := readNonnegativeInt (root.getItem "id")
      let valid := version && id.isSome && op.isSome && (root.getItem "params").any Json.isObject
      { valid, hello := valid && op == some (ascii "hello")
        id := if version then id.getD 0 else 0 }

/-! ## The transport session -/

/-- `SessionPhase`. -/
inductive SessionPhase where
  | preHandshake | strictPostHandshake | faulted
  deriving DecidableEq, Repr

/-- The id that a response carries. -/
def Response.id : Response → Nat
  | .error id _ => id
  | .success id _ => id

/-- The Device behind its transport. -/
structure Link (σ : Type) where
  device : Device σ
  phase : SessionPhase := .preHandshake

namespace Link

variable {σ : Type} (reader : JsonReader) (env : Env σ) (link : Link σ)

/-- `fail_transport_session`: the teardown, then the latch. -/
def failTransportSession : Link σ where
  device := link.device.disconnect
  phase := .faulted

/-- A line that has arrived; `written` is whether its response goes out. -/
def receiveLine (line : List UInt8) (m : Moment) (written : Bool) : Link σ :=
  if link.phase = .faulted then link
  else if line.length > maxCanonicalMessageBytes then
    let link := { link with device := link.device.disconnect }
    if !written then link.failTransportSession
    else if link.phase = .strictPostHandshake then { link with phase := .faulted }
    else link
  else
    let info := classifyProtocolFrame reader line
    if link.phase = .preHandshake ∧ !(info.valid && info.hello) then link
    else
      match link.device.handleLine env line m with
      | (response, device) =>
        let establishes := info.valid && info.hello && response.ok && response.id == info.id
        let strictBefore := link.phase == .strictPostHandshake
        let link := { link with device }
        if !written then link.failTransportSession
        else if establishes then { link with phase := .strictPostHandshake }
        else if strictBefore && !info.valid then { link with phase := .faulted }
        else link

end Link

end M5Auth.Provisioning
