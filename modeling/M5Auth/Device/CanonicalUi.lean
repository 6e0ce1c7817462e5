import M5Auth.Totp.VaultGenerator

/-!
# The user interface of the Device

The loop of `CanonicalUiController::run`: what it knows of the Vault, the selected account and the
code that is revealed. `iterate` is one iteration. Its turn says what it finds: the runtime and the
clock as they are then, the readings of the timer in the order of the source, the button, and
whether presence or its quarantine keeps the button for itself. Drawing and the scrolling of the
label are left out.
-/

namespace M5Auth.Device

open Time (Readiness TrustedClock)
open Totp (GenerateResult HmacSha1Provider Output Reading Readings generateForCredential)
open Vault (CredentialId GcmOpen)
open VaultRuntime (Metadata Persistence Runtime State Status)

def credentialRefreshIntervalMs : UInt64 := 1000
def otpRevealDurationMs : UInt64 := 10000

/-! ## Validity -/

/-- `totp_validity::Snapshot`. -/
structure Validity where
  periodIndex : UInt64
  secondsRemaining : UInt8
  deriving DecidableEq

/-- `totp_validity::from_unix_seconds`. -/
def Validity.fromUnixSeconds (unixSeconds : UInt64) : Validity where
  periodIndex := unixSeconds / 30
  secondsRemaining := (30 - unixSeconds % 30).toUInt8

/-! ## The view -/

/-- `CredentialView`. -/
structure CredentialView where
  credentialId : CredentialId
  issuer : Text
  account : Text
  displayName : Text
  deriving DecidableEq

/-- `CanonicalUiController`, without what only the drawing reads. -/
structure Ui where
  credentials : List CredentialView := []
  selectedIndex : Nat := 0
  visibleGeneration : UInt64 := 0
  vaultVisible : Bool := false
  storageError : Bool := false
  revealActive : Bool := false
  revealedCode : UInt32 := 0
  revealDeadlineMs : UInt64 := 0
  revealedPeriodIndex : UInt64 := 0
  validitySecondsRemaining : UInt8 := 0
  lastGenerateResult : GenerateResult := .ok
  deriving DecidableEq

namespace Ui

/-- The account that is selected and labelled. -/
def selected (ui : Ui) : Option CredentialView := ui.credentials[ui.selectedIndex]?

/-- `hide_reveal`. -/
def hideReveal (ui : Ui) : Ui :=
  { ui with
    revealedCode := 0, revealDeadlineMs := 0, revealedPeriodIndex := 0
    validitySecondsRemaining := 0, revealActive := false }

/-- `clear_private_view`. -/
def clearPrivateView (ui : Ui) : Ui :=
  { ui.hideReveal with
    credentials := [], selectedIndex := 0, visibleGeneration := 0, vaultVisible := false }

/-- The index of the preferred account in a list, or the first. -/
def preferredIndex (preferred : Option CredentialId) (next : List CredentialView) : Nat :=
  match preferred with
  | none => 0
  | some credentialId =>
    let index := next.findIdx (·.credentialId == credentialId)
    if index < next.length then index else 0

section
variable {σ : Type} (P : Persistence σ) (gcm : GcmOpen)

/-- `refresh_credentials`. -/
def refreshCredentials (ui : Ui) (rt : Runtime σ) (force : Bool) : Ui × Runtime σ :=
  match rt.metadata with
  | .error _ => ({ ui.clearPrivateView with storageError := true }, rt)
  | .ok metadata =>
    if metadata.state ≠ .unlocked then ({ ui.clearPrivateView with storageError := false }, rt)
    else if !force && ui.vaultVisible && ui.visibleGeneration == metadata.generation then
      ({ ui with storageError := false }, rt)
    else
      let preferred :=
        match if ui.vaultVisible then ui.selected else none with
        | some credential => some credential.credentialId
        | none => metadata.lastUsed
      match rt.listCredentials gcm with
      | ((status, credentials), rt) =>
        if status ≠ .ok then ({ ui.clearPrivateView with storageError := true }, rt)
        else
          let next := credentials.map fun item =>
            (⟨item.credentialId, item.issuer, item.account, item.displayName⟩ : CredentialView)
          ({ ui.clearPrivateView with
              credentials := next
              selectedIndex := preferredIndex preferred next
              visibleGeneration := metadata.generation
              vaultVisible := true
              storageError := false }, rt)

/-- `persist_selection`. -/
def persistSelection (ui : Ui) (rt : Runtime σ) : Ui × Runtime σ :=
  match if ui.vaultVisible then ui.selected else none with
  | none => (ui, rt)
  | some credential =>
    match rt.setLastUsed P gcm credential.credentialId with
    | (status, rt) => ({ ui with storageError := status != .ok }, rt)

/-- `select_next`. -/
def selectNext (ui : Ui) (rt : Runtime σ) : Ui × Runtime σ :=
  if ui.credentials.isEmpty then (ui, rt)
  else persistSelection P gcm
    { ui.hideReveal with selectedIndex := (ui.selectedIndex + 1) % ui.credentials.length } rt

/-- `select_previous`. -/
def selectPrevious (ui : Ui) (rt : Runtime σ) : Ui × Runtime σ :=
  if ui.credentials.isEmpty then (ui, rt)
  else persistSelection P gcm
    { ui.hideReveal with
      selectedIndex :=
        if ui.selectedIndex = 0 then ui.credentials.length - 1 else ui.selectedIndex - 1 } rt

end

end Ui

/-! ## Codes -/

/-- The readings of the timer in one attempt to generate a code. -/
structure AttemptTimes where
  beforeVaultUs : Int
  currentUs : Int
  generationUs : Int
  checkUs : Int

/-- The readings of the clock that the generator makes. -/
def AttemptTimes.readings (times : AttemptTimes) (clock : TrustedClock) : Readings where
  beforeVault := ⟨clock, times.beforeVaultUs⟩
  current := ⟨clock, times.currentUs⟩
  generation := ⟨clock, times.generationUs⟩

section
variable {σ : Type} (P : Persistence σ) (gcm : GcmOpen) (provider : HmacSha1Provider)
  (clock : TrustedClock)

/-- The attempts of `refresh_revealed_totp`. -/
def generationLoop (credentialId : CredentialId) :
    List AttemptTimes → Ui → Runtime σ → Bool × Ui × Runtime σ
  | [], ui, rt => (false, ui, rt)
  | times :: rest, ui, rt =>
    match generateForCredential P gcm provider rt credentialId (times.readings clock)
        ⟨some 0, some 0⟩ with
    | ((result, generation), rt) =>
      let ui := { ui with lastGenerateResult := result }
      if result ≠ .ok then (false, ui, rt)
      else
        match clock.currentUnixSeconds times.checkUs with
        | none => (false, { ui with lastGenerateResult := .timeStale }, rt)
        | some currentUnixSeconds =>
          let generated := Validity.fromUnixSeconds (generation.unixSeconds.getD 0)
          let current := Validity.fromUnixSeconds currentUnixSeconds
          -- The period rolled while the code was generated.
          if generated.periodIndex ≠ current.periodIndex then
            generationLoop credentialId rest ui rt
          else
            (true, { ui with
              revealedCode := generation.code.getD 0
              revealedPeriodIndex := current.periodIndex
              validitySecondsRemaining := current.secondsRemaining }, rt)

/-- `refresh_revealed_totp`. -/
def refreshRevealedTotp (attempts : List AttemptTimes) (ui : Ui) (rt : Runtime σ) :
    Bool × Ui × Runtime σ :=
  match if ui.vaultVisible then ui.selected else none with
  | none => (false, { ui with lastGenerateResult := .accountNotFound }, rt)
  | some credential => generationLoop P gcm provider clock credential.credentialId attempts ui rt

/-- `reveal_selected`. -/
def revealSelected (attempts : List AttemptTimes) (nowMs : UInt64) (ui : Ui) (rt : Runtime σ) :
    Ui × Runtime σ :=
  match refreshRevealedTotp P gcm provider clock attempts
      { ui.hideReveal with lastGenerateResult := .ok } rt with
  | (false, ui, rt) => (ui, rt)
  | (true, ui, rt) =>
    ({ ui with
        revealActive := true
        revealDeadlineMs :=
          if nowMs > 0xffffffffffffffff - otpRevealDurationMs then 0xffffffffffffffff
          else nowMs + otpRevealDurationMs }, rt)

end

/-! ## An iteration -/

/-- The readings of the timer in one iteration. There are two attempts at a code. -/
structure Times where
  nowUs : Int
  readinessUs : Int
  validityUs : Int
  rollover : AttemptTimes × AttemptTimes
  hold : AttemptTimes × AttemptTimes

/-- `monotonic_ms`. -/
def monotonicMs (timerUs : Int) : UInt64 := UInt64.ofNat (timerUs.toNat / 1000)

/-- What an iteration finds. `boundary` is the runtime that a security boundary saw since the
iteration before, if one cleared the view. -/
structure Turn (σ : Type) where
  boundary : Option (Runtime σ)
  runtime : Runtime σ
  clock : TrustedClock
  times : Times
  presenceActive : Bool
  quarantineActive : Bool
  wasHold : Bool
  wasDoubleClicked : Bool
  wasSingleClicked : Bool

namespace Turn

variable {σ : Type} (turn : Turn σ)

def nowMs : UInt64 := monotonicMs turn.times.nowUs

def readiness : Readiness := (turn.clock.snapshot turn.times.readinessUs).readiness

/-- The button is for the user interface. -/
def buttonFree : Bool := !turn.presenceActive && !turn.quarantineActive

/-- A runtime's state as the loop observes it. -/
def observe (rt : Runtime σ) : State :=
  match rt.metadata with
  | .error _ => .error
  | .ok metadata => metadata.state

def observedState : State := observe turn.runtime

end Turn

section
variable {σ : Type} (P : Persistence σ) (gcm : GcmOpen) (provider : HmacSha1Provider)

/-- `security_boundary_clear`. -/
def securityBoundaryClear (ui : Ui) (rt : Runtime σ) : Ui :=
  { ui.clearPrivateView with
    storageError := Turn.observe rt == .error
    lastGenerateResult := .ok }

/-- The view at the start of an iteration. -/
def boundaryView (ui : Ui) (turn : Turn σ) : Ui :=
  match turn.boundary with
  | none => ui
  | some rt => securityBoundaryClear ui rt

/-- The checks of the state, the readiness and the deadline. -/
def gate (ui : Ui) (turn : Turn σ) : Ui :=
  let ui :=
    if turn.observedState ≠ .unlocked ∧ ui.vaultVisible = true then ui.clearPrivateView else ui
  if ui.revealActive = true ∧ (turn.readiness ≠ .ready ∨ turn.nowMs ≥ ui.revealDeadlineMs ∨
      turn.observedState ≠ .unlocked) then ui.hideReveal
  else ui

/-- The check of the period. -/
def rollover (ui : Ui) (turn : Turn σ) : Ui × Runtime σ :=
  if !ui.revealActive then (ui, turn.runtime)
  else
    match turn.clock.currentUnixSeconds turn.times.validityUs with
    | none => ({ ui.hideReveal with lastGenerateResult := .timeStale }, turn.runtime)
    | some currentUnixSeconds =>
      let current := Validity.fromUnixSeconds currentUnixSeconds
      if current.periodIndex ≠ ui.revealedPeriodIndex then
        match refreshRevealedTotp P gcm provider turn.clock
            [turn.times.rollover.1, turn.times.rollover.2] ui turn.runtime with
        | (true, ui, rt) => (ui, rt)
        | (false, ui, rt) => (ui.hideReveal, rt)
      else ({ ui with validitySecondsRemaining := current.secondsRemaining }, turn.runtime)

/-- The button. -/
def button (ui : Ui) (rt : Runtime σ) (turn : Turn σ) : Ui × Runtime σ :=
  if !turn.buttonFree then (ui, rt)
  else if turn.wasHold then
    revealSelected P gcm provider turn.clock [turn.times.hold.1, turn.times.hold.2] turn.nowMs ui rt
  else if turn.wasDoubleClicked then ui.selectPrevious P gcm rt
  else if turn.wasSingleClicked then
    if ui.revealActive then (ui.hideReveal, rt) else ui.selectNext P gcm rt
  else (ui, rt)

/-- The view and the time of the last refresh. -/
structure Loop where
  ui : Ui := {}
  lastRefreshMs : UInt64 := 0

/-- One iteration of the loop, and the runtime that it leaves. -/
def iterate (loop : Loop) (turn : Turn σ) : Loop × Runtime σ :=
  match rollover P gcm provider (gate (boundaryView loop.ui turn) turn) turn with
  | (ui, rt) =>
    match button P gcm provider ui rt turn with
    | (ui, rt) =>
      if turn.observedState = .unlocked ∧ turn.presenceActive = false ∧
          turn.nowMs - loop.lastRefreshMs ≥ credentialRefreshIntervalMs then
        match ui.refreshCredentials gcm rt false with
        | (ui, rt) => (⟨ui, turn.nowMs⟩, rt)
      else (⟨ui, loop.lastRefreshMs⟩, rt)

/-- The start of `run`. -/
def start (rt : Runtime σ) (timerUs : Int) : Loop :=
  ⟨(Ui.refreshCredentials gcm {} rt true).1, monotonicMs timerUs⟩

/-- The loop after some iterations. -/
def run (loop : Loop) (turns : List (Turn σ)) : Loop :=
  turns.foldl (fun loop turn => (iterate P gcm provider loop turn).1) loop

end

end M5Auth.Device
