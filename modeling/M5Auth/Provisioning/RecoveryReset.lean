import M5Auth.Registration.Store
import M5Auth.VaultRuntime.Runtime

/-!
# Classification of a recovery reset

Whether the Device offers the destructive recovery reset, from what the runtime and the
registration store report.
-/

namespace M5Auth.Provisioning

inductive RecoveryResetDecision where
  | notRequired | required | unavailable
  deriving DecidableEq, Repr

/-- `classify_recovery_reset`. -/
def classifyRecoveryReset (runtime : VaultRuntime.Metadata)
    (registrationStatus : Registration.Status) (registration : Registration.Snapshot)
    (corruptRegistrationRecoveryAvailable : Bool) : RecoveryResetDecision :=
  if runtime.state = .error ∨ runtime.state = .reprovisionRequired then
    if !runtime.recoveryResetAllowed then .unavailable
    else if registrationStatus = .io then .unavailable
    else if registrationStatus = .corrupt ∧ !corruptRegistrationRecoveryAvailable then .unavailable
    else .required
  else if registrationStatus = .corrupt then
    if corruptRegistrationRecoveryAvailable then .required else .unavailable
  else if registrationStatus ≠ .ok then .unavailable
  else if runtime.hasVault ≠ registration.registrationPresent then .required
  else if runtime.hasVault ∧ runtime.vaultId ≠ registration.vaultId then .required
  else .notRequired

/-- `recovery_reset_decision`. -/
def recoveryResetDecision {σ : Type} (runtime : VaultRuntime.Runtime σ)
    (registration : Registration.Store) : RecoveryResetDecision :=
  match runtime.metadata with
  | .error _ => .unavailable
  | .ok metadata =>
    classifyRecoveryReset metadata registration.readSnapshot.1 registration.readSnapshot.2
      registration.recoveryResetAvailable

end M5Auth.Provisioning
