import M5Auth.VaultRuntime.Proof.Cases
import M5Auth.Lib.Run

/-!
# The runtime's invariant

`Runtime.Inv` ties the state to the other fields: `kLocked` and `kUnlocked` hold a readable Vault
and no reset permission, `kUnprovisioned` and `kReprovisionRequired` hold none, and a key is
resident only while unlocked. Every call keeps it (`Inv.step`), over any persistence.
-/

namespace M5Auth.VaultRuntime.Runtime

open Vault

variable {σ : Type} {P : Persistence σ} {gcm : GcmOpen} {rt : Runtime σ}

structure Inv (rt : Runtime σ) : Prop where
  vault : rt.state = .locked ∨ rt.state = .unlocked → rt.hasVault = true ∧
    rt.schemaReady = true ∧ rt.recoveryResetAllowed = false ∧
    validEnvelopeFraming rt.envelope = true
  empty : rt.state = .unprovisioned ∨ rt.state = .reprovisionRequired → rt.hasVault = false
  resident : rt.vmkPresent = true ↔ rt.state = .unlocked
  reprovision : rt.state = .reprovisionRequired →
    rt.recoveryResetAllowed = true ∧ rt.schemaReady = false
  fresh : rt.initialized = false → rt.state = .unprovisioned

theorem Inv.new (world : σ) : Inv (Runtime.new world) := by
  constructor <;> simp [Runtime.new]

/-! ## Records -/

theorem Inv.loaded {sn : PersistedSnapshot} {status : Status} {w : σ}
    (hacc : loadAccepted status sn = true) (hi : rt.initialized = true) :
    Inv (rt.loaded w sn) := by
  simp only [loadAccepted, Bool.and_eq_true, beq_iff_eq, Bool.or_eq_true, Bool.not_eq_true'] at hacc
  cases hv : sn.hasVault
  · constructor <;> simp [hv, hi]
  · constructor <;> simp [hv, hi]
    simpa [hv] using hacc.2

theorem Inv.of_error {rt' : Runtime σ} (hst : rt'.state = .error) (hvmk : rt'.vmkPresent = false)
    (hi : rt'.initialized = true) : Inv rt' := by
  constructor <;> simp [hst, hvmk, hi]

theorem Inv.withPersistence (h : Inv rt) (w : σ) : Inv (rt.withPersistence w) :=
  ⟨h.vault, h.empty, h.resident, h.reprovision, h.fresh⟩

/-- Once initialized, a runtime cleared of its session and moved to the state of its Vault. -/
theorem Inv.relock (h : Inv rt) (hne : rt.state ≠ .error) (hi : rt.initialized = true) :
    Inv { rt.clearUnlockSessionState with
      state := if rt.hasVault then .locked else .unprovisioned } := by
  cases hv : rt.hasVault
  · constructor <;> simp [hv, hi]
  · have hst : rt.state = .locked ∨ rt.state = .unlocked := by
      have he := h.empty
      cases hs : rt.state <;> simp_all
    constructor <;> simp [hv, hi]
    exact (h.vault hst).2

theorem valid_of_validate {envelope : VaultEnvelope} {vmk : Vmk} {policy : Option UInt8}
    (h : validateEnvelopeWithKey gcm envelope vmk = .ok policy) :
    validEnvelopeFraming envelope = true := by
  unfold validateEnvelopeWithKey at h
  split at h
  · simp at h
  · rename_i hf
    simpa using hf

/-! ## Steps -/

theorem Inv.reload (hi : rt.initialized = true) : Inv (rt.reloadAfterPersistence P).2 := by
  rcases hl : P.load rt.persistence with ⟨⟨st, sn⟩, w⟩
  rcases reload_cases rt hl with ⟨hacc, hre⟩ | ⟨_, st', rt', hre, _, _, hst, _, hvmk, hini, _⟩
  · rw [hre]
    exact .loaded hacc hi
  · rw [hre]
    exact .of_error hst hvmk (hini.trans hi)

theorem Inv.initializeRuntime : Inv (rt.initializeRuntime P).2 := by
  rcases hl : P.load rt.persistence with ⟨⟨st, sn⟩, w⟩
  rcases initializeRuntime_cases rt hl with
    ⟨hacc, hre⟩ | ⟨_, st', rt', hre, _, _, hi, hsr, hv, _, hvmk, hcase⟩
  · rw [hre]
    exact .loaded hacc rfl
  · rw [hre]
    rcases hcase with ⟨rfl, hst, _⟩ | ⟨rfl, hst, hall⟩ | ⟨_, _, hst, _⟩
    · constructor <;> simp [hst, hv, hvmk]
    · constructor <;> simp [hst, hv, hvmk, hall, hsr, hi]
    · exact .of_error hst hvmk hi

theorem Inv.formatForSchema2 (h : Inv rt) : Inv (rt.formatForSchema2 P).2 := by
  rcases format_cases P rt with
    ⟨_, hf⟩ | ⟨hi, st, w, _, ⟨_, hf⟩ | ⟨_, hf⟩⟩
  · rw [hf]
    exact h
  · rw [hf]
    exact .of_error rfl rfl hi
  · rw [hf]
    exact .reload hi

theorem Inv.installEncryptedVault (h : Inv rt) (envelope : VaultEnvelope) (vmk : Vmk) :
    Inv (rt.installEncryptedVault P gcm envelope vmk).2 := by
  by_cases hadm : AdmitsInstall gcm rt envelope vmk
  swap
  · obtain ⟨st, _, he⟩ := install_refused P hadm
    rw [he]
    exact h
  rcases hrep : P.replaceEnvelope 0 envelope rt.persistence with ⟨st, w⟩
  rcases hl : P.load w with ⟨⟨st', sn⟩, w'⟩
  rcases install_admitted hadm hrep with ⟨_, he⟩ | ⟨_, hre⟩
  · rw [he]
    exact h.withPersistence w
  · rcases hre st' sn w' hl with ⟨hacc, _, _, he⟩ | ⟨_, st'', rt', he, _, _, hst, hvmk, hi, _⟩
    · rw [he]
      exact .loaded hacc hadm.1
    · rw [he]
      exact .of_error hst hvmk hi

theorem Inv.unlock (h : Inv rt) (vmk : Vmk) (nowMs : UInt64) : Inv (rt.unlock gcm vmk nowMs).2 := by
  rcases unlock_cases gcm rt vmk nowMs with
    ⟨st, _, he⟩ | ⟨hi, hst, hv, policy, hval, he⟩
  · rw [he]
    exact h
  · rw [he]
    constructor <;> simp [hi, hv, (h.vault (.inl hst)).2.1, valid_of_validate hval]

theorem Inv.lock (h : Inv rt) : Inv rt.lock.2 := by
  rcases lock_cases rt with ⟨_, he⟩ | ⟨hi, hst, he⟩ | ⟨hi, hst, he⟩
  · rw [he]
    exact h
  · rw [he]
    exact .of_error hst rfl hi
  · rw [he]
    exact h.relock hst hi

theorem Inv.enterVmkRekeyBoundary (h : Inv rt) : Inv rt.enterVmkRekeyBoundary.2 := by
  rcases enterVmkRekeyBoundary_cases rt with ⟨st, _, he⟩ | ⟨hi, hst, hv, he⟩
  · rw [he]
    exact h
  · rw [he]
    have hvault := h.vault (.inr hst)
    constructor <;> simp [wipeVmk, hi, hvault]

theorem Inv.updateEncryptedVault (h : Inv rt) (expected : UInt64) (envelope : VaultEnvelope)
    (nowMs : UInt64) : Inv (rt.updateEncryptedVault P gcm expected envelope nowMs).2 := by
  by_cases hadm : AdmitsUpdate gcm rt expected envelope
  swap
  · obtain ⟨st, _, he⟩ := update_refused P nowMs hadm
    rw [he]
    exact h
  obtain ⟨policy, hval⟩ := hadm.2.2.2.2.2
  rcases hrep : P.replaceEnvelope expected envelope rt.persistence with ⟨st, w⟩
  rcases hl : P.load w with ⟨⟨st', sn⟩, w'⟩
  rcases update_admitted nowMs hadm hrep with ⟨_, he⟩ | ⟨_, hre⟩
  · rw [he]
    exact h.withPersistence w
  · rcases hre st' sn w' hl with
      ⟨_, due, rt', he, _, henv, hv, hsr, hst, hall, _, hvmk, hi, _⟩ | ⟨_, st'', _, he⟩
    · rw [he]
      constructor <;> simp [hi, hst, hv, hsr, hall, hvmk, henv, valid_of_validate hval]
    · rw [he]
      exact .of_error rfl rfl hadm.1

theorem Inv.rekeyEncryptedVault (h : Inv rt) (expected : UInt64) (envelope : VaultEnvelope)
    (vmk : Vmk) : Inv (rt.rekeyEncryptedVault P gcm expected envelope vmk).2 := by
  by_cases hadm : AdmitsRekey gcm rt expected envelope vmk
  swap
  · obtain ⟨st, _, he⟩ := rekey_refused P hadm
    rw [he]
    exact h
  obtain ⟨policy, hval⟩ := hadm.2.2.2.2.2.2
  rcases hrep : P.replaceEnvelope expected envelope rt.persistence with ⟨st, w⟩
  rcases hl : P.load w with ⟨⟨st', sn⟩, w'⟩
  rcases rekey_admitted hadm hrep with ⟨_, he⟩ | ⟨_, hre⟩
  · rw [he]
    exact h.withPersistence w
  · rcases hre st' sn w' hl with
      ⟨_, rt', he, _, henv, hv, hsr, hst, hall, _, hvmk, hi, _⟩ | ⟨_, st'', _, he⟩
    · rw [he]
      constructor <;> simp [hi, hst, hv, hsr, hall, hvmk, henv, valid_of_validate hval]
    · rw [he]
      exact .of_error rfl rfl hadm.1

theorem Inv.factoryReset (h : Inv rt) : Inv (rt.factoryReset P).2 := by
  rcases factoryReset_cases P rt with
    ⟨_, he⟩ | ⟨hi, st, w, _, ⟨_, he⟩ | ⟨_, he⟩⟩
  · rw [he]
    exact h
  · rw [he]
    exact .of_error rfl rfl hi
  · rw [he]
    constructor <;> simp [hi]

theorem Inv.resident_step (h : Inv rt) {call : Call}
    (hcall : call = .listCredentials ∨ (∃ id c, call = .withCredential id c) ∨
      (∃ c, call = .withWifi c) ∨ ∃ id, call = .setLastUsed id) : Inv (rt.step P gcm call) := by
  rcases resident_cases P gcm rt hcall with
    he | ⟨_, id, st, w, _, he | he⟩ | ⟨_, hi, _, he⟩
  · rw [he]
    exact h
  · rw [he]
    exact h.withPersistence w
  · rw [he]
    exact ⟨h.vault, h.empty, h.resident, h.reprovision, h.fresh⟩
  · rw [he]
    exact .of_error rfl rfl hi

/-- Every call keeps the invariant. -/
theorem Inv.step (h : Inv rt) (call : Call) : Inv (rt.step P gcm call) := by
  cases call with
  | initializeRuntime => exact .initializeRuntime
  | formatForSchema2 => exact h.formatForSchema2
  | installEncryptedVault envelope vmk => exact h.installEncryptedVault envelope vmk
  | unlock vmk nowMs => exact h.unlock vmk nowMs
  | lock => exact h.lock
  | enterRecoveryBoundary => exact h.lock
  | enterVmkRekeyBoundary => exact h.enterVmkRekeyBoundary
  | updateEncryptedVault expected envelope nowMs =>
    exact h.updateEncryptedVault expected envelope nowMs
  | rekeyEncryptedVault expected envelope vmk => exact h.rekeyEncryptedVault expected envelope vmk
  | listCredentials => exact h.resident_step (.inl rfl)
  | withCredential id consumer => exact h.resident_step (.inr (.inl ⟨id, consumer, rfl⟩))
  | withWifi consumer => exact h.resident_step (.inr (.inr (.inl ⟨consumer, rfl⟩)))
  | setLastUsed id => exact h.resident_step (.inr (.inr (.inr ⟨id, rfl⟩)))
  | factoryReset => exact h.factoryReset

/-- Every operation keeps it, whatever decryption it meets. -/
theorem Inv.operate (h : Inv rt) (input : GcmOpen × Operation) : Inv (rt.operate P input) := by
  obtain ⟨gcm, op⟩ := input
  cases op with
  | call call => exact h.step call
  | fatalSecurityError =>
    show Inv rt.fatalSecurityError.2
    rcases fatal_cases rt with ⟨_, he⟩ | ⟨hi, he⟩
    · rw [he]
      exact h
    · rw [he]
      exact .of_error rfl rfl hi

/-- Every runtime reached from the first operation on satisfies the invariant. -/
theorem inv_operated (world : σ) (inp : Nat → GcmOpen × Operation) (n : Nat) :
    Inv (Run.stateAt (operate P) (new world) inp n) :=
  Run.stateAt_inv (Inv.new world) (fun _ input h => h.operate input) n

end M5Auth.VaultRuntime.Runtime
