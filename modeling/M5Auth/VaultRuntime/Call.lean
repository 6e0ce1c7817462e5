import Mathlib.Logic.Relation
import M5Auth.VaultRuntime.Runtime

/-!
# Calls of the runtime, and what the persistence answered

`Runtime.exec` is one call of a public operation, and `Runtime.step` the runtime after it.
`fatal_security_error` is not among the calls: it is public, but only the runtime itself uses it.
`Operation` has it too, and `Runtime.operate` is a step of a run in which every operation meets a
decryption of its own.

`Persistence.logged` records every call of the persistence with its answer, newest first. It
changes no answer, so the runtime over it behaves as over the persistence itself, and what
happened during a call can be read off the two logs around it.
-/

namespace M5Auth.VaultRuntime

open Vault

/-! ## Logged persistence -/

/-- A call of the persistence and its answer. -/
inductive Reply where
  | load (status : Status) (snapshot : PersistedSnapshot)
  | formatSchema2 (status : Status)
  | replaceEnvelope (expectedGeneration : UInt64) (envelope : VaultEnvelope) (status : Status)
  | setLastUsed (credentialId : Option CredentialId) (status : Status)
  | eraseAll (status : Status)
  deriving DecidableEq

/-- The calls that write, format or erase. -/
def Reply.isMutation : Reply → Bool
  | .load .. => false
  | _ => true

/-- The calls that destroy the stored Vault. -/
def Reply.isDestructive : Reply → Bool
  | .formatSchema2 .. | .eraseAll .. => true
  | _ => false

/-- The persistence `P` that also records its calls. -/
def Persistence.logged {σ : Type} (P : Persistence σ) : Persistence (σ × List Reply) where
  load s :=
    match P.load s.1 with
    | ((status, snapshot), world) => ((status, snapshot), (world, .load status snapshot :: s.2))
  formatSchema2 s :=
    match P.formatSchema2 s.1 with
    | (status, world) => (status, (world, .formatSchema2 status :: s.2))
  replaceEnvelope expected envelope s :=
    match P.replaceEnvelope expected envelope s.1 with
    | (status, world) => (status, (world, .replaceEnvelope expected envelope status :: s.2))
  setLastUsed credentialId s :=
    match P.setLastUsed credentialId s.1 with
    | (status, world) => (status, (world, .setLastUsed credentialId status :: s.2))
  eraseAll s :=
    match P.eraseAll s.1 with
    | (status, world) => (status, (world, .eraseAll status :: s.2))

section
variable {σ : Type} (P : Persistence σ) (s : σ × List Reply)

theorem Persistence.logged_load {status : Status} {snapshot : PersistedSnapshot} {world : σ}
    (h : P.load s.1 = ((status, snapshot), world)) :
    P.logged.load s = ((status, snapshot), (world, .load status snapshot :: s.2)) := by
  simp [logged, h]

theorem Persistence.logged_formatSchema2 {status : Status} {world : σ}
    (h : P.formatSchema2 s.1 = (status, world)) :
    P.logged.formatSchema2 s = (status, (world, .formatSchema2 status :: s.2)) := by
  simp [logged, h]

theorem Persistence.logged_replaceEnvelope {expected : UInt64} {envelope : VaultEnvelope}
    {status : Status} {world : σ} (h : P.replaceEnvelope expected envelope s.1 = (status, world)) :
    P.logged.replaceEnvelope expected envelope s =
      (status, (world, .replaceEnvelope expected envelope status :: s.2)) := by
  simp [logged, h]

end

/-! ## Calls -/

/-- A call of a public operation of the runtime. -/
inductive Call where
  | initializeRuntime
  | formatForSchema2
  | installEncryptedVault (envelope : VaultEnvelope) (vmk : Vmk)
  | unlock (vmk : Vmk) (nowMs : UInt64)
  | lock
  | enterRecoveryBoundary
  | enterVmkRekeyBoundary
  | updateEncryptedVault (expectedGeneration : UInt64) (envelope : VaultEnvelope) (nowMs : UInt64)
  | rekeyEncryptedVault (expectedGeneration : UInt64) (envelope : VaultEnvelope) (vmk : Vmk)
  | listCredentials
  | withCredential (credentialId : CredentialId) (consumer : CredentialRecord → Status)
  | withWifi (consumer : WifiRecord → Status)
  | setLastUsed (credentialId : CredentialId)
  | factoryReset

/-- The envelope a call commits. -/
def Call.committed : Call → Option VaultEnvelope
  | .installEncryptedVault envelope _ => some envelope
  | .updateEncryptedVault _ envelope _ => some envelope
  | .rekeyEncryptedVault _ envelope _ => some envelope
  | _ => none

/-- The key a call puts in force if it succeeds. -/
def Call.opens : Call → Option Vmk
  | .unlock vmk _ => some vmk
  | .rekeyEncryptedVault _ _ vmk => some vmk
  | _ => none

/-- The calls that may destroy the stored Vault. -/
def Call.destructive : Call → Bool
  | .formatForSchema2 | .factoryReset => true
  | _ => false

/-- The calls that lock, update the open Vault or use its key: they open no Vault, create none and
destroy none. -/
def Call.tame : Call → Bool
  | .lock | .enterRecoveryBoundary | .enterVmkRekeyBoundary | .updateEncryptedVault .. => true
  | .listCredentials | .withCredential .. | .withWifi .. | .setLastUsed .. => true
  | _ => false

namespace Runtime

variable {σ : Type} (P : Persistence σ) (gcm : GcmOpen)

/-- One call: its status and the runtime after it. -/
def exec (rt : Runtime σ) : Call → Status × Runtime σ
  | .initializeRuntime => rt.initializeRuntime P
  | .formatForSchema2 => rt.formatForSchema2 P
  | .installEncryptedVault envelope vmk => rt.installEncryptedVault P gcm envelope vmk
  | .unlock vmk nowMs => rt.unlock gcm vmk nowMs
  | .lock => rt.lock
  | .enterRecoveryBoundary => rt.enterRecoveryBoundary
  | .enterVmkRekeyBoundary => rt.enterVmkRekeyBoundary
  | .updateEncryptedVault expected envelope nowMs =>
    let ((status, _), rt) := rt.updateEncryptedVault P gcm expected envelope nowMs
    (status, rt)
  | .rekeyEncryptedVault expected envelope vmk => rt.rekeyEncryptedVault P gcm expected envelope vmk
  | .listCredentials =>
    let ((status, _), rt) := rt.listCredentials gcm
    (status, rt)
  | .withCredential credentialId consumer => rt.withCredential P gcm credentialId consumer
  | .withWifi consumer => rt.withWifi gcm consumer
  | .setLastUsed credentialId => rt.setLastUsed P gcm credentialId
  | .factoryReset => rt.factoryReset P

/-- A public operation. `fatal_security_error` is public, though the firmware calls it only from
inside the runtime. -/
inductive Operation where
  | call (call : Call)
  | fatalSecurityError

/-- The calls of the persistence so far, with their answers. -/
def log (rt : Runtime (σ × List Reply)) : List Reply := rt.persistence.2

/-- The runtime after one call. -/
def step (rt : Runtime σ) (call : Call) : Runtime σ := (rt.exec P gcm call).2

/-- The runtime after one operation, decrypting with `input.1`. -/
def operate (rt : Runtime σ) (input : GcmOpen × Operation) : Runtime σ :=
  match input.2 with
  | .call call => rt.step P input.1 call
  | .fatalSecurityError => rt.fatalSecurityError.2

/-- The runtime gets from `rt` to `rt'` by calls that satisfy `C`. -/
def Reaches (C : Call → Prop) : Runtime σ → Runtime σ → Prop :=
  Relation.ReflTransGen fun rt rt' => ∃ call, C call ∧ rt' = rt.step P gcm call

/-- `Runtime(persistence)`: the runtime before its first call. -/
def new (persistence : σ) : Runtime σ := { persistence }

end Runtime

end M5Auth.VaultRuntime
