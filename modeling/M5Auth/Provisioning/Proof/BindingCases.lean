import M5Auth.Provisioning.Proof.StepEffects

/-!
# What a bound context says of the Device

A session request is compared with a snapshot of the Device (`beginMatchesSnapshot`).
`Bound.describedBy` reads the comparison back in terms of the Device itself: its Vault, its
generation and its registration are those of the context, as far as the operation requires.
-/

namespace M5Auth.Provisioning.Device

open Session (BeginContext)
open VaultRuntime (Runtime)

variable {σ : Type} {d : Device σ}

/-- The context describes the Device, as far as its operation requires. -/
structure DescribedBy (d : Device σ) (context : BeginContext) : Prop where
  ready : d.registration.ready = true
  deviceId : context.deviceId = Registration.deviceIdText d.registration.snapshot.deviceId
  /-- The Vault and the registration belong together. -/
  paired : d.runtime.hasVault = d.registration.snapshot.registrationPresent ∧
    (d.runtime.hasVault = true → d.runtime.envelope.vaultId = d.registration.snapshot.vaultId)
  vault : d.runtime.hasVault = true → context.vaultId = d.runtime.envelope.vaultId ∧
    context.expectedGeneration = d.runtime.envelope.generation
  initial : context.operation = .initialProvisioning → d.runtime.hasVault = false
  recovery : context.operation = .recovery ∨ context.operation = .browserReplacement →
    d.runtime.hasVault = true →
    context.registrationEpoch = d.registration.snapshot.epoch + 1 ∧
    d.registration.snapshot.epoch ≠ 4294967295 ∧
    context.registrationId ≠ d.registration.snapshot.registrationId ∧
    context.proposedBrkPublicKey ≠ d.registration.snapshot.brkPublicKey
  replacement : context.operation = .browserReplacement → d.runtime.hasVault = true
  registered : context.operation.signatureRequired = true → d.runtime.hasVault = true ∧
    context.registrationId = d.registration.snapshot.registrationId ∧
    context.registrationEpoch = d.registration.snapshot.epoch ∧
    context.currentBrkPublicKey = d.registration.snapshot.brkPublicKey

/-- The binding of a Device whose Vault and registration belong together. -/
def pairedSnapshot (d : Device σ) : SessionDeviceSnapshot where
  deviceId := Registration.deviceIdText d.registration.snapshot.deviceId
  vaultPresent := d.runtime.hasVault
  vaultId := if d.runtime.hasVault then d.runtime.envelope.vaultId else Bytes.zero 16
  generation := if d.runtime.hasVault then d.runtime.envelope.generation else 0
  registrationPresent := d.runtime.hasVault
  registrationId :=
    if d.runtime.hasVault then d.registration.snapshot.registrationId else Bytes.zero 16
  registrationEpoch := if d.runtime.hasVault then d.registration.snapshot.epoch else 0
  brkPublicKey := if d.runtime.hasVault then d.registration.snapshot.brkPublicKey else Bytes.zero 65

/-- The fields of the binding are those of the Device. -/
theorem binding_fields {snapshot : SessionDeviceSnapshot} (h : d.binding = some snapshot) :
    d.registration.ready = true ∧
    (d.runtime.hasVault = d.registration.snapshot.registrationPresent ∧
      (d.runtime.hasVault = true →
        d.runtime.envelope.vaultId = d.registration.snapshot.vaultId)) ∧
    snapshot = d.pairedSnapshot := by
  unfold binding bindingSnapshot at h
  split at h
  swap
  · cases h
  rename_i metadata sn hmeta hreg
  have hready : d.registration.ready = true ∧ d.registration.snapshot = sn := by
    unfold Registration.Store.readSnapshot at hreg
    split at hreg
    · split at hreg <;> cases hreg
    · rename_i hready
      cases hreg
      exact ⟨by simpa using hready, rfl⟩
  obtain ⟨hready, rfl⟩ := hready
  have hrep : metadata = d.runtime.report := by
    unfold Runtime.metadata at hmeta
    split at hmeta
    · cases hmeta
    · cases hmeta
      rfl
  subst hrep
  split at h
  · cases h
  rename_i hpaired
  rw [ne_eq, not_not] at hpaired
  split at h
  · cases h
  rename_i hids
  dsimp only at h
  split at h
  · cases h
  cases h
  have hv : d.runtime.report.hasVault = d.runtime.hasVault := rfl
  rw [hv] at hpaired hids
  refine ⟨hready, ⟨hpaired, fun hvault => ?_⟩, ?_⟩
  · simp only [hvault, true_and, ne_eq, not_not, Runtime.report, if_true] at hids
    exact hids
  · simp only [← hpaired, Runtime.report, pairedSnapshot]
    rcases Bool.eq_false_or_eq_true d.runtime.hasVault with hvault | hvault <;> simp [hvault]

/-- The checks of a request on an existing Vault. -/
theorem existing_of_matches {context : BeginContext}
    (h : existingVaultMatches context d.pairedSnapshot = true) : d.runtime.hasVault = true ∧
      context.vaultId = d.runtime.envelope.vaultId ∧
      context.expectedGeneration = d.runtime.envelope.generation := by
  simp only [existingVaultMatches, pairedSnapshot, Bool.and_eq_true, beq_iff_eq] at h
  obtain ⟨⟨hv, hid⟩, hgen⟩ := h
  rw [if_pos hv] at hid hgen
  exact ⟨hv, Bytes.sameBytes_iff.1 hid, hgen⟩

/-- The checks of an unlock and a re-key. -/
theorem registered_of_matches {context : BeginContext}
    (h : existingVaultMatches context d.pairedSnapshot = true)
    (hreg : existingRegistrationMatches context d.pairedSnapshot = true)
    (hbrk : currentBrkIsDeviceOwned context d.pairedSnapshot false = true) :
    d.runtime.hasVault = true ∧
    context.registrationId = d.registration.snapshot.registrationId ∧
    context.registrationEpoch = d.registration.snapshot.epoch ∧
    context.currentBrkPublicKey = d.registration.snapshot.brkPublicKey := by
  have hv := (existing_of_matches h).1
  simp only [existingRegistrationMatches, pairedSnapshot, hv, if_true, Bool.true_and,
    Bool.and_eq_true, beq_iff_eq] at hreg
  simp only [currentBrkIsDeviceOwned, pairedSnapshot, hv, if_true, Bool.not_true,
    Bool.false_or] at hbrk
  refine ⟨hv, Bytes.sameBytes_iff.1 hreg.1, hreg.2, ?_⟩
  split at hbrk
  · cases hbrk
  · split at hbrk
    · cases hbrk
    · exact Bytes.sameBytes_iff.1 hbrk

/-- The checks of a recovery onto an existing Vault and of a browser replacement. -/
theorem next_of_matches {context : BeginContext}
    (h : replacementMatches context d.pairedSnapshot = true) :
    existingVaultMatches context d.pairedSnapshot = true ∧
    context.registrationEpoch = d.registration.snapshot.epoch + 1 ∧
    d.registration.snapshot.epoch ≠ 4294967295 ∧
    context.registrationId ≠ d.registration.snapshot.registrationId ∧
    context.proposedBrkPublicKey ≠ d.registration.snapshot.brkPublicKey := by
  simp only [replacementMatches, Bool.and_eq_true] at h
  obtain ⟨⟨⟨⟨hex, hnext⟩, _⟩, _⟩, hprop⟩ := h
  have hv := (existing_of_matches hex).1
  simp only [replacementRegistrationIsNext, pairedSnapshot, hv, if_true, Bool.true_and,
    Bool.and_eq_true, Bool.not_eq_true', bne_iff_ne, ne_eq, beq_iff_eq] at hnext
  simp only [pairedSnapshot, hv, if_true, Bool.not_eq_true'] at hprop
  have hne {n : Nat} {b b' : Bytes n} (hsame : b.sameBytes b' = false) : b ≠ b' := by
    rintro rfl
    rw [Bytes.sameBytes_iff.2 rfl] at hsame
    cases hsame
  exact ⟨hex, hnext.2, hnext.1.1.1, hne hnext.1.2, hne hprop⟩

theorem Bound.describedBy {context : BeginContext} (h : d.Bound context) :
    d.DescribedBy context := by
  have hinitial := h.noVault
  obtain ⟨snapshot, hb, hm⟩ := h
  obtain ⟨hready, hpaired, rfl⟩ := binding_fields hb
  simp only [beginMatchesSnapshot, Bool.and_eq_true, beq_iff_eq] at hm
  obtain ⟨⟨_, hdevice⟩, hm⟩ := hm
  have hdescribed (hvault : d.runtime.hasVault = true →
        existingVaultMatches context d.pairedSnapshot = true)
      (hrecovery : context.operation = .recovery ∨ context.operation = .browserReplacement →
        d.runtime.hasVault = true → replacementMatches context d.pairedSnapshot = true)
      (hreplacement : context.operation = .browserReplacement → d.runtime.hasVault = true)
      (hregistered : context.operation.signatureRequired = true →
        existingVaultMatches context d.pairedSnapshot = true ∧
        existingRegistrationMatches context d.pairedSnapshot = true ∧
        currentBrkIsDeviceOwned context d.pairedSnapshot false = true) : d.DescribedBy context :=
    { ready := hready, deviceId := hdevice, paired := hpaired
      vault := fun hv => (existing_of_matches (hvault hv)).2, initial := hinitial
      recovery := fun hop hv => (next_of_matches (hrecovery hop hv)).2
      replacement := hreplacement
      registered := fun hs => by
        obtain ⟨hex, hreg, hbrk⟩ := hregistered hs
        exact registered_of_matches hex hreg hbrk }
  cases hop : context.operation with
  | initialProvisioning =>
    have hv := hinitial hop
    refine hdescribed (fun h => ?_) (fun h => ?_) (fun h => ?_) (fun h => ?_)
    · rw [hv] at h
      cases h
    · rw [hop] at h
      rcases h with h | h <;> cases h
    · rw [hop] at h
      cases h
    · rw [hop] at h
      cases h
  | trustedBrowserUnlock =>
    simp only [hop, Bool.and_eq_true] at hm
    refine hdescribed (fun _ => hm.1.1.1) (fun h => ?_) (fun h => ?_)
      fun _ => ⟨hm.1.1.1, hm.1.1.2, hm.1.2⟩
    · rw [hop] at h
      rcases h with h | h <;> cases h
    · rw [hop] at h
      cases h
  | vmkRekey =>
    simp only [hop, Bool.and_eq_true] at hm
    refine hdescribed (fun _ => hm.1.1.1) (fun h => ?_) (fun h => ?_)
      fun _ => ⟨hm.1.1.1, hm.1.1.2, hm.1.2⟩
    · rw [hop] at h
      rcases h with h | h <;> cases h
    · rw [hop] at h
      cases h
  | recovery =>
    simp only [hop, Bool.or_eq_true] at hm
    have hclean (hv : d.runtime.hasVault = true) :
        replacementMatches context d.pairedSnapshot = true := by
      rcases hm with hm | hm
      · simp only [cleanDeviceRecoveryMatches, cleanUnprovisionedSnapshot, pairedSnapshot, hv,
          Bool.not_true, Bool.false_and, Bool.false_eq_true] at hm
      · exact hm
    refine hdescribed (fun hv => (next_of_matches (hclean hv)).1) (fun _ => hclean)
      (fun h => ?_) (fun h => ?_)
    · rw [hop] at h
      cases h
    · rw [hop] at h
      cases h
  | browserReplacement =>
    simp only [hop] at hm
    refine hdescribed (fun _ => (next_of_matches hm).1) (fun _ _ => hm)
      (fun _ => (existing_of_matches (next_of_matches hm).1).1) (fun h => ?_)
    rw [hop] at h
    cases h

end M5Auth.Provisioning.Device
