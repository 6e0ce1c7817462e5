import M5Auth.Time.TimeService
import M5Auth.Totp.Totp

/-!
# The code generator

`VaultGenerator::generate_for_credential`: the checks of the time, the callback that `with_credential`
runs on the account, and the result. `withCredential` here is the runtime's, with what the callback
writes; `withCredential_eq` says that it is the same function otherwise.
-/

namespace M5Auth.Totp

open Time (Readiness TrustedClock)
open Vault (CredentialId CredentialRecord GcmOpen)
open VaultRuntime (Persistence Runtime Status)

/-- `GenerateResult`. -/
inductive GenerateResult where
  | ok | notSynced | timeStale | accountNotFound | invalidSecret | cryptoError | storageError
  deriving DecidableEq, Repr

/-- A reading of the time service: the clock at that moment, and the timer. -/
structure Reading where
  clock : TrustedClock
  timerUs : Int

/-- The readiness in `status`. -/
def Reading.readiness (r : Reading) : Readiness := (r.clock.snapshot r.timerUs).readiness

/-- `current_unix_seconds`. -/
def Reading.unixSeconds (r : Reading) : Option UInt64 := r.clock.currentUnixSeconds r.timerUs

/-- The readings of one call, in order. -/
structure Readings where
  beforeVault : Reading
  current : Reading
  generation : Reading

/-- What the caller's pointers point to: the code, and the time in the metadata. A null pointer is
`none`. -/
structure Output where
  code : Option UInt32
  unixSeconds : Option UInt64
  deriving DecidableEq

/-- What is stored through the pointers. -/
def Output.store (output : Output) (code : UInt32) (unixSeconds : UInt64) : Output where
  code := output.code.map fun _ => code
  unixSeconds := output.unixSeconds.map fun _ => unixSeconds

/-- The metadata without a time. -/
def Output.clearTime (output : Output) : Output :=
  { output with unixSeconds := output.unixSeconds.map fun _ => 0 }

/-- The callback: its result, and what it writes. -/
def generateCode (provider : HmacSha1Provider) (readings : Readings) (credential : CredentialRecord)
    (output : Output) : GenerateResult × Output :=
  match readings.current.readiness with
  | .notSynced => (.notSynced, output)
  | .stale => (.timeStale, output)
  | .ready =>
    -- The algorithm has one value only.
    if credential.digits ≠ digits ∨ credential.periodSeconds.toNat ≠ periodSeconds.toNat ∨
        credential.secret.isEmpty then (.invalidSecret, output)
    else
      match readings.generation.unixSeconds with
      | none => (.timeStale, output)
      | some unixSeconds =>
        match generateKeyWithProvider provider credential.secret unixSeconds with
        | .ok code => (.ok, output.store code unixSeconds)
        | .invalidSecret => (.invalidSecret, output)
        | .cryptoError => (.cryptoError, output)

section
variable {σ α : Type} (P : Persistence σ) (gcm : GcmOpen)

/-- `with_credential` for a consumer that also changes a value. -/
def withCredential (rt : Runtime σ) (credentialId : CredentialId)
    (consumer : CredentialRecord → α → Status × α) (before : α) : (Status × α) × Runtime σ :=
  match rt.openResident gcm with
  | .error (status, rt) => ((status, before), rt)
  | .ok plaintext =>
    match plaintext.credentials.find? (·.credentialId == credentialId) with
    | none => ((.notFound, before), rt)
    | some found =>
      match consumer found before with
      | (status, after) =>
        if status ≠ .ok then ((status, after), rt)
        else
          match P.setLastUsed (some credentialId) rt.persistence with
          | (status, persistence) =>
            let rt := rt.withPersistence persistence
            if status = .ok then ((.ok, after), { rt with lastUsed := some credentialId })
            else ((status, after), rt)

variable (provider : HmacSha1Provider) (rt : Runtime σ) (credentialId : CredentialId)
  (readings : Readings) (output : Output)

/-- `generate_for_credential`. -/
def generateForCredential : (GenerateResult × Output) × Runtime σ :=
  let output := output.clearTime
  if output.code.isNone then ((.accountNotFound, output), rt)
  else
    match readings.beforeVault.readiness with
    | .notSynced => ((.notSynced, output), rt)
    | .stale => ((.timeStale, output), rt)
    | .ready =>
      match withCredential P gcm rt credentialId
          (fun credential left => (.ok, generateCode provider readings credential left.2))
          (.storageError, output) with
      | ((status, result, output), rt) =>
        if status = .notFound then ((.accountNotFound, output), rt)
        else if status ≠ .ok then ((.storageError, output), rt)
        else ((result, output), rt)

end

/-! ## The callback -/

section
variable {σ α : Type} {P : Persistence σ} {gcm : GcmOpen}

/-- Without what the consumer writes, this is the runtime's function. -/
theorem withCredential_eq (rt : Runtime σ) (credentialId : CredentialId)
    (consumer : CredentialRecord → α → Status × α) (before : α) :
    ((withCredential P gcm rt credentialId consumer before).1.1,
        (withCredential P gcm rt credentialId consumer before).2) =
      rt.withCredential P gcm credentialId fun credential => (consumer credential before).1 := by
  unfold withCredential Runtime.withCredential
  cases rt.openResident gcm with
  | error failure => rfl
  | ok plaintext =>
    dsimp only
    cases plaintext.credentials.find? (·.credentialId == credentialId) with
    | none => rfl
    | some found =>
      dsimp only
      by_cases hstatus : (consumer found before).1 = .ok
      · simp only [hstatus, ne_eq, not_true_eq_false, if_false]
        by_cases hstored : (P.setLastUsed (some credentialId) rt.persistence).1 = .ok
        · simp only [hstored, if_true]
        · simp only [hstored, if_false]
      · simp only [hstatus, ne_eq, not_false_eq_true, if_true]

end

end M5Auth.Totp
