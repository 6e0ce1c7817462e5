import M5Auth.Web.Import.GoogleMigration
import M5Auth.Web.Import.Otpauth

/-!
# The import session

`ImportSession` collects the accounts of the QR codes that are scanned. Its memory holds the buffers
of the secrets and of the payloads they are read from.
-/

namespace M5Auth.Web.Import

open Buffers (Memory)

/-- `ImportSessionUpdate`. -/
structure ImportSessionUpdate where
  accounts : List ImportedAccountPreview
  batch : Option (Nat × Int)
  deriving DecidableEq

/-- `ImportSession`. -/
structure ImportSession where
  assembler : MigrationBatchAssembler := {}
  accounts : List ImportedTotpAccount := []
  memory : Memory := {}
  deriving DecidableEq

namespace ImportSession

variable {ρ : Type} (platform : Platform ρ) (s : ImportSession)

def preview : List ImportedAccountPreview := s.accounts.map previewAccount

/-- `snapshot`. -/
def snapshot (batch : Option (Nat × Int)) : ImportSessionUpdate := ⟨s.preview, batch⟩

/-- The branch of `importDecodedText` for a standard URI. -/
def importStandard (decodedText : JsString) :
    Except ImportError ImportSessionUpdate × ImportSession :=
  if s.assembler.hasPending then
    (.error ⟨"Finish or clear the active Google Authenticator migration batch first."⟩, s)
  else
    match parseStandardTotpUri platform decodedText with
    | .error error => (.error error, s)
    | .ok content =>
      let account := ⟨content.issuer, content.account, s.memory.size⟩
      let m := s.memory.alloc content.secret
      if s.accounts.length ≥ v1MaxAccounts then
        (.error ⟨"The import session has reached the V1 limit of 32 accounts."⟩,
          { s with memory := clearSensitiveAccounts m [account] })
      else
        let s := { s with accounts := s.accounts ++ [account], memory := m }
        (.ok (s.snapshot none), s)

/-- The branch of `importDecodedText` for a migration. -/
def importMigration (decodedText : JsString) :
    Except ImportError ImportSessionUpdate × ImportSession :=
  match parseGoogleMigrationUri platform decodedText s.memory with
  | (.error error, m) => (.error error, { s with memory := m })
  | (.ok part, m) =>
    match s.assembler.add part (v1MaxAccounts - s.accounts.length) m with
    | ((.error error, assembler), m) => (.error error, { s with assembler, memory := m })
    | ((.ok update, assembler), m) =>
      let s := { s with assembler, memory := m }
      match update.complete, update.accounts with
      | true, some accounts =>
        let s := { s with accounts := s.accounts ++ accounts }
        (.ok (s.snapshot none), s)
      | _, _ => (.ok (s.snapshot (some (update.received, update.total))), s)

/-- `importDecodedText`. -/
def importDecodedText (decodedText : JsString) :
    Except ImportError ImportSessionUpdate × ImportSession :=
  if (literal "otpauth://").isPrefixOf decodedText then s.importStandard platform decodedText
  else if (literal "otpauth-migration://").isPrefixOf decodedText then
    s.importMigration platform decodedText
  else (.error ⟨"The QR code format is not supported."⟩, s)

/-- `clear`. -/
def clear : ImportSession :=
  match s.assembler.clear s.memory with
  | (assembler, m) => { assembler, accounts := [], memory := clearSensitiveAccounts m s.accounts }

/-- The session after some texts. -/
def importTexts (decodedTexts : List JsString) : ImportSession :=
  decodedTexts.foldl (fun s decodedText => (s.importDecodedText platform decodedText).2) s

/-- The sessions that can be reached. -/
inductive Reachable : ImportSession → Prop where
  | initial : Reachable {}
  | importText {s : ImportSession} (decodedText : JsString) : Reachable s →
      Reachable (s.importDecodedText platform decodedText).2
  | clear {s : ImportSession} : Reachable s → Reachable s.clear

end ImportSession

end M5Auth.Web.Import
