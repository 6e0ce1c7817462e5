import Mathlib.Data.Nat.Count
import M5Auth.VaultRuntime.Proof.FaithfulStore
import M5Auth.VaultRuntime.Proof.ResetPermission

/-!
# The runtime as a versioned store

Over a persistence that is `Faithful` to the Vault it holds, the runtime is a versioned store
(`versioned_store`): between two formats or resets the Vault keeps its identifier, its generation
counts the committed updates and re-keys, its format does not go back, and every committed envelope
opens under the key in force. A call that fails without entering `kError` changes nothing.
-/

namespace M5Auth.VaultRuntime.Runtime

open FaultyStore Run Vault

variable {σ : Type} {P : Persistence σ} {stored : σ → Option VaultEnvelope} {gcm : GcmOpen}
  {rt rt' : Runtime σ}

/-! ## The RAM copy is the stored Vault -/

/-- A runtime with a Vault holds a copy of the stored one, and one that may install finds none. -/
structure Coherent (stored : σ → Option VaultEnvelope) (rt : Runtime σ) : Prop where
  copy : rt.state = .locked ∨ rt.state = .unlocked → stored rt.persistence = some rt.envelope
  empty : rt.state = .unprovisioned → rt.schemaReady = true → stored rt.persistence = none

namespace Coherent

theorem of_error (h : rt.state = .error) : Coherent stored rt :=
  ⟨by simp [h], by simp [h]⟩

theorem withPersistence (h : Coherent stored rt) {w : σ}
    (hw : stored w = stored rt.persistence) : Coherent stored (rt.withPersistence w) :=
  ⟨fun hst => hw.trans (h.copy hst), fun hst hs => hw.trans (h.empty hst hs)⟩

theorem loaded (hP : Faithful P stored) {w w' : σ} {st : Status} {sn : PersistedSnapshot}
    (hl : P.load w = ((st, sn), w')) (hacc : loadAccepted st sn = true) :
    Coherent stored (rt.loaded w' sn) := by
  obtain ⟨hkeep, hshow⟩ := hP.load hl
  simp only [loadAccepted, Bool.and_eq_true, beq_iff_eq] at hacc
  have hstored := hkeep.trans (hshow hacc.1.1 hacc.1.2)
  constructor
  · intro hst
    cases hv : sn.hasVault <;> simp [hv] at hst hstored ⊢
    exact hstored
  · intro hst _
    cases hv : sn.hasVault <;> simp [hv] at hst hstored ⊢
    exact hstored

theorem reload (hP : Faithful P stored) (rt : Runtime σ) :
    Coherent stored (rt.reloadAfterPersistence P).2 := by
  rcases hl : P.load rt.persistence with ⟨⟨st, sn⟩, w⟩
  rcases reload_cases rt hl with ⟨hacc, he⟩ | ⟨_, st', rt', he, _, _, hst, _⟩ <;> rw [he]
  · exact loaded hP hl hacc
  · exact of_error hst

theorem initializeRuntime (hP : Faithful P stored) (rt : Runtime σ) :
    Coherent stored (rt.initializeRuntime P).2 := by
  rcases hl : P.load rt.persistence with ⟨⟨st, sn⟩, w⟩
  rcases initializeRuntime_cases rt hl with
    ⟨hacc, he⟩ | ⟨_, st', rt', he, _, _, _, hs, _, _, _, hcase⟩ <;> rw [he]
  · exact loaded hP hl hacc
  · rcases hcase with ⟨rfl, hst, _⟩ | ⟨_, hst, _⟩ | ⟨_, _, hst, _⟩
    · exact ⟨by simp [hst], fun _ hsr => by simp [hs] at hsr⟩
    · exact ⟨by simp [hst], by simp [hst]⟩
    · exact of_error hst

/-- Leaving the session for the state of the Vault. -/
theorem relock (h : Coherent stored rt) (hinv : Inv rt) (hne : rt.state ≠ .error) :
    Coherent stored { rt.clearUnlockSessionState with
      state := if rt.hasVault then .locked else .unprovisioned } := by
  cases hv : rt.hasVault
  · refine ⟨by simp, fun _ hs => ?_⟩
    cases hst : rt.state with
    | unprovisioned => exact h.empty hst hs
    | reprovisionRequired => exact absurd hs (by simp [(hinv.reprovision hst).2])
    | locked => exact absurd hv (by simp [(hinv.vault (.inl hst)).1])
    | unlocked => exact absurd hv (by simp [(hinv.vault (.inr hst)).1])
    | error => exact absurd hst hne
  · refine ⟨fun _ => ?_, by simp⟩
    cases hst : rt.state with
    | unprovisioned => exact absurd hv (by simp [hinv.empty (.inl hst)])
    | reprovisionRequired => exact absurd hv (by simp [hinv.empty (.inr hst)])
    | locked => exact h.copy (.inl hst)
    | unlocked => exact h.copy (.inr hst)
    | error => exact absurd hst hne

end Coherent

/-! ## Commits -/

/-- The call gets past its checks and the persistence reports its envelope stored: `envelope` is
committed, for the key `vmk`. -/
inductive Commits (P : Persistence σ) (gcm : GcmOpen) (rt : Runtime σ) :
    Call → VaultEnvelope → Vmk → Prop where
  | install {envelope : VaultEnvelope} {vmk : Vmk} (hadm : AdmitsInstall gcm rt envelope vmk)
      (hok : (P.replaceEnvelope 0 envelope rt.persistence).1 = .ok) :
      Commits P gcm rt (.installEncryptedVault envelope vmk) envelope vmk
  | update {expected : UInt64} {envelope : VaultEnvelope} (nowMs : UInt64)
      (hadm : AdmitsUpdate gcm rt expected envelope)
      (hok : (P.replaceEnvelope expected envelope rt.persistence).1 = .ok) :
      Commits P gcm rt (.updateEncryptedVault expected envelope nowMs) envelope rt.vmk
  | rekey {expected : UInt64} {envelope : VaultEnvelope} {vmk : Vmk}
      (hadm : AdmitsRekey gcm rt expected envelope vmk)
      (hok : (P.replaceEnvelope expected envelope rt.persistence).1 = .ok) :
      Commits P gcm rt (.rekeyEncryptedVault expected envelope vmk) envelope vmk

/-- The envelope authenticates under the key and decodes, in the format its header names. -/
def Opens (gcm : GcmOpen) (envelope : VaultEnvelope) (vmk : Vmk) : Prop :=
  ∃ encoded plaintext, decryptVault gcm envelope vmk = some encoded ∧
    decodePlaintext encoded = some (plaintext, envelope.vaultFormatVersion)

theorem opens_of_validate {envelope : VaultEnvelope} {vmk : Vmk} {policy : Option UInt8}
    (h : validateEnvelopeWithKey gcm envelope vmk = .ok policy) : Opens gcm envelope vmk := by
  unfold validateEnvelopeWithKey at h
  split at h
  · simp at h
  · split at h
    · simp at h
    · rename_i encoded hdec
      split at h
      · simp at h
      · rename_i plaintext format hplain
        split at h
        · simp at h
        · rename_i hformat
          rw [ne_eq, not_not] at hformat
          exact ⟨encoded, plaintext, hdec, hformat ▸ hplain⟩

/-- `new` is the Vault `old` after `n` more generations. -/
structure Descends (old new : VaultEnvelope) (n : Nat) : Prop where
  vaultId : new.vaultId = old.vaultId
  generation : new.generation.toNat = old.generation.toNat + n
  format : old.vaultFormatVersion = vaultFormatVersion2 →
    new.vaultFormatVersion = vaultFormatVersion2

theorem Descends.refl (envelope : VaultEnvelope) : Descends envelope envelope 0 := ⟨rfl, rfl, id⟩

theorem Descends.trans {a b c : VaultEnvelope} {m n : Nat} (h : Descends a b m)
    (h' : Descends b c n) : Descends a c (m + n) :=
  ⟨h'.vaultId.trans h.vaultId, by rw [h'.generation, h.generation, Nat.add_assoc],
    fun hf => h'.format (h.format hf)⟩

/-- A successor that passes the checks is one generation on; the last generation has none. -/
theorem descends_of_checkSuccessor {expected : UInt64} {envelope : VaultEnvelope}
    (h : rt.checkSuccessor expected envelope = .ok) : Descends rt.envelope envelope 1 := by
  unfold checkSuccessor at h
  split at h
  · simp at h
  rename_i hne
  split at h
  · simp at h
  rename_i hsupported
  split at h
  · simp at h
  rename_i hback
  simp only [not_or, ne_eq, not_not] at hne
  obtain ⟨rfl, hmax, hsucc, hid⟩ := hne
  refine ⟨hid, ?_, fun hf => ?_⟩
  · have hlt := rt.envelope.generation.toNat_lt
    have hne : rt.envelope.generation.toNat ≠ 18446744073709551615 :=
      fun he => hmax (UInt64.toNat_inj.1 he)
    rw [hsucc, UInt64.toNat_add]
    exact Nat.mod_eq_of_lt (by simp only [UInt64.toNat_one]; omega)
  · simp only [isSupportedVaultFormat, Bool.not_eq_true', Bool.not_eq_false, Bool.or_eq_true,
      decide_eq_true_eq] at hsupported
    rcases hsupported with h1 | h2
    · exact absurd ⟨hf, h1⟩ hback
    · exact h2

/-! ## One call -/

/-- The key, the policy and the unlock time are as before. -/
structure SameKey (rt rt' : Runtime σ) : Prop where
  vmk : rt'.vmk = rt.vmk
  autoLockDays : rt'.autoLockDays = rt.autoLockDays
  unlockedSinceMs : rt'.unlockedSinceMs = rt.unlockedSinceMs

/-- What a call that does not format or erase does to the store: it commits its envelope or
leaves the Vault, and then a failure outside `kError` leaves the key too. -/
inductive StoreStep (P : Persistence σ) (stored : σ → Option VaultEnvelope) (gcm : GcmOpen)
    (rt : Runtime σ) (call : Call) : Status → Runtime σ → Prop where
  | kept {st : Status} {rt' : Runtime σ} (hstored : stored rt'.persistence = stored rt.persistence)
      (hnot : ∀ envelope vmk, ¬ Commits P gcm rt call envelope vmk)
      (hfails : call.committed.isSome = true → st ≠ .ok)
      (hsame : call ≠ .initializeRuntime → st ≠ .ok → rt'.state ≠ .error → SameKey rt rt') :
      StoreStep P stored gcm rt call st rt'
  | committed {st : Status} {rt' : Runtime σ} {envelope : VaultEnvelope} {vmk : Vmk}
      (hcommit : Commits P gcm rt call envelope vmk)
      (hstored : stored rt'.persistence = some envelope)
      (hkey : rt'.state = .unlocked → rt'.vmk = vmk)
      (hend : st = .ok ∨ rt'.state = .error) : StoreStep P stored gcm rt call st rt'

theorem SameKey.refl (rt : Runtime σ) : SameKey rt rt := ⟨rfl, rfl, rfl⟩

theorem SameKey.withPersistence (rt : Runtime σ) (w : σ) : SameKey rt (rt.withPersistence w) :=
  ⟨rfl, rfl, rfl⟩

/-- A call that commits nothing is a step of the store if it keeps the Vault, and a failure of it
the key. -/
theorem StoreStep.of_kept {call : Call} {st : Status} (hcall : call.committed = none)
    (hstored : stored rt'.persistence = stored rt.persistence)
    (hsame : call ≠ .initializeRuntime → st ≠ .ok → rt'.state ≠ .error → SameKey rt rt') :
    StoreStep P stored gcm rt call st rt' := by
  refine .kept hstored (fun envelope vmk hc => ?_) (by simp [hcall]) hsame
  cases hc <;> simp [Call.committed] at hcall

theorem store_install (hP : Faithful P stored) (rt : Runtime σ) (envelope : VaultEnvelope)
    (vmk : Vmk) : StoreStep P stored gcm rt (.installEncryptedVault envelope vmk)
      (rt.installEncryptedVault P gcm envelope vmk).1
      (rt.installEncryptedVault P gcm envelope vmk).2 := by
  by_cases hadm : AdmitsInstall gcm rt envelope vmk
  swap
  · obtain ⟨st, hne, he⟩ := install_refused P hadm
    rw [he]
    refine .kept rfl (fun _ _ hc => ?_) (fun _ => hne) fun _ _ _ => .refl rt
    cases hc with
    | install hadm' => exact hadm hadm'
  rcases hrep : P.replaceEnvelope 0 envelope rt.persistence with ⟨st, w⟩
  rcases hl : P.load w with ⟨⟨st', sn⟩, w'⟩
  have hw := hP.replaceEnvelope hrep
  rcases install_admitted hadm hrep with ⟨hne, he⟩ | ⟨rfl, hre⟩
  · rw [he]
    rw [if_neg hne] at hw
    refine .kept hw (fun _ _ hc => ?_) (fun _ => hne) fun _ _ _ => .withPersistence rt w
    cases hc with
    | install _ hok => exact hne (by simpa [hrep] using hok)
  · have hcommit : Commits P gcm rt (.installEncryptedVault envelope vmk) envelope vmk :=
      .install hadm (by rw [hrep])
    rw [if_pos rfl] at hw
    have hstored : stored w' = some envelope := (hP.load hl).1.trans hw
    rcases hre st' sn w' hl with ⟨_, hv, _, he⟩ | ⟨_, st'', rt', he, _, hp, hst, _⟩ <;> rw [he]
    · exact .committed hcommit hstored (by simp [hv]) (.inl rfl)
    · exact .committed hcommit (by rw [hp]; exact hstored) (by simp [hst]) (.inr hst)

theorem store_update (hP : Faithful P stored) (rt : Runtime σ) (expected : UInt64)
    (envelope : VaultEnvelope) (nowMs : UInt64) :
    StoreStep P stored gcm rt (.updateEncryptedVault expected envelope nowMs)
      (rt.updateEncryptedVault P gcm expected envelope nowMs).1.1
      (rt.updateEncryptedVault P gcm expected envelope nowMs).2 := by
  by_cases hadm : AdmitsUpdate gcm rt expected envelope
  swap
  · obtain ⟨st, hne, he⟩ := update_refused P nowMs hadm
    rw [he]
    refine .kept rfl (fun _ _ hc => ?_) (fun _ => hne) fun _ _ _ => .refl rt
    cases hc with
    | update _ hadm' => exact hadm hadm'
  rcases hrep : P.replaceEnvelope expected envelope rt.persistence with ⟨st, w⟩
  rcases hl : P.load w with ⟨⟨st', sn⟩, w'⟩
  have hw := hP.replaceEnvelope hrep
  rcases update_admitted nowMs hadm hrep with ⟨hne, he⟩ | ⟨rfl, hre⟩
  · rw [he]
    rw [if_neg hne] at hw
    refine .kept hw (fun _ _ hc => ?_) (fun _ => hne) fun _ _ _ => .withPersistence rt w
    cases hc with
    | update _ _ hok => exact hne (by simpa [hrep] using hok)
  · have hcommit : Commits P gcm rt (.updateEncryptedVault expected envelope nowMs) envelope
        rt.vmk := .update nowMs hadm (by rw [hrep])
    rw [if_pos rfl] at hw
    have hstored : stored w' = some envelope := (hP.load hl).1.trans hw
    rcases hre st' sn w' hl with
      ⟨_, due, rt', he, hp, _, _, _, _, _, hvmk, _⟩ | ⟨_, st'', _, he⟩ <;> rw [he]
    · exact .committed hcommit (by rw [hp]; exact hstored) (fun _ => hvmk) (.inl rfl)
    · exact .committed hcommit hstored nofun (.inr rfl)

theorem store_rekey (hP : Faithful P stored) (rt : Runtime σ) (expected : UInt64)
    (envelope : VaultEnvelope) (vmk : Vmk) :
    StoreStep P stored gcm rt (.rekeyEncryptedVault expected envelope vmk)
      (rt.rekeyEncryptedVault P gcm expected envelope vmk).1
      (rt.rekeyEncryptedVault P gcm expected envelope vmk).2 := by
  by_cases hadm : AdmitsRekey gcm rt expected envelope vmk
  swap
  · obtain ⟨st, hne, he⟩ := rekey_refused P hadm
    rw [he]
    refine .kept rfl (fun _ _ hc => ?_) (fun _ => hne) fun _ _ _ => .refl rt
    cases hc with
    | rekey hadm' => exact hadm hadm'
  rcases hrep : P.replaceEnvelope expected envelope rt.persistence with ⟨st, w⟩
  rcases hl : P.load w with ⟨⟨st', sn⟩, w'⟩
  have hw := hP.replaceEnvelope hrep
  rcases rekey_admitted hadm hrep with ⟨hne, he⟩ | ⟨rfl, hre⟩
  · rw [he]
    rw [if_neg hne] at hw
    refine .kept hw (fun _ _ hc => ?_) (fun _ => hne) fun _ _ _ => .withPersistence rt w
    cases hc with
    | rekey _ hok => exact hne (by simpa [hrep] using hok)
  · have hcommit : Commits P gcm rt (.rekeyEncryptedVault expected envelope vmk) envelope vmk :=
      .rekey hadm (by rw [hrep])
    rw [if_pos rfl] at hw
    have hstored : stored w' = some envelope := (hP.load hl).1.trans hw
    rcases hre st' sn w' hl with
      ⟨_, rt', he, hp, _, _, _, _, _, hvmk, _⟩ | ⟨_, st'', _, he⟩ <;> rw [he]
    · exact .committed hcommit (by rw [hp]; exact hstored) (fun _ => hvmk) (.inl rfl)
    · exact .committed hcommit hstored nofun (.inr rfl)

theorem store_lock (rt : Runtime σ) {call : Call} (hcall : call.committed = none) :
    StoreStep P stored gcm rt call rt.lock.1 rt.lock.2 := by
  rcases lock_cases rt with ⟨_, he⟩ | ⟨_, hst, he⟩ | ⟨_, _, he⟩ <;> rw [he]
  · exact .of_kept hcall rfl fun _ _ _ => .refl rt
  · exact .of_kept hcall rfl fun _ _ hne => absurd hst hne
  · exact .of_kept hcall rfl fun _ hne => absurd rfl hne

theorem store_resident (hP : Faithful P stored) (rt : Runtime σ) {call : Call} (st : Status)
    (hcall : call = .listCredentials ∨ (∃ id c, call = .withCredential id c) ∨
      (∃ c, call = .withWifi c) ∨ ∃ id, call = .setLastUsed id) :
    StoreStep P stored gcm rt call st (rt.step P gcm call) := by
  have hnone : call.committed = none := by
    rcases hcall with rfl | ⟨_, _, rfl⟩ | ⟨_, rfl⟩ | ⟨_, rfl⟩ <;> rfl
  rcases resident_cases P gcm rt hcall with he | ⟨_, id, st, w, hs, he | he⟩ | ⟨_, _, _, he⟩ <;>
    rw [he]
  · exact .of_kept hnone rfl fun _ _ _ => .refl rt
  · exact .of_kept hnone (hP.setLastUsed hs) fun _ _ _ => .withPersistence rt w
  · exact .of_kept hnone (hP.setLastUsed hs) fun _ _ _ => ⟨rfl, rfl, rfl⟩
  · exact .of_kept hnone rfl fun _ _ hne => absurd rfl hne

/-- Every call that does not format or erase is a step of the store. -/
theorem store_step (hP : Faithful P stored) (rt : Runtime σ) {call : Call}
    (hcall : call.destructive = false) :
    StoreStep P stored gcm rt call (rt.exec P gcm call).1 (rt.step P gcm call) := by
  cases call with
  | initializeRuntime =>
    refine .of_kept rfl ?_ fun hne => absurd rfl hne
    show stored (rt.initializeRuntime P).2.persistence = _
    rcases hl : P.load rt.persistence with ⟨⟨st, sn⟩, w⟩
    have hw := (hP.load hl).1
    rcases initializeRuntime_cases rt hl with ⟨_, he⟩ | ⟨_, st', rt', he, _, hp, _⟩ <;> rw [he]
    · exact hw
    · rw [hp]
      exact hw
  | formatForSchema2 => simp [Call.destructive] at hcall
  | installEncryptedVault envelope vmk => exact store_install hP rt envelope vmk
  | unlock vmk nowMs =>
    show StoreStep P stored gcm rt (.unlock vmk nowMs) (rt.unlock gcm vmk nowMs).1
      (rt.unlock gcm vmk nowMs).2
    rcases unlock_cases gcm rt vmk nowMs with ⟨st, _, he⟩ | ⟨_, _, _, policy, _, he⟩ <;> rw [he]
    · exact .of_kept rfl rfl fun _ _ _ => .refl rt
    · exact .of_kept rfl rfl fun _ hne => absurd rfl hne
  | lock => exact store_lock rt rfl
  | enterRecoveryBoundary => exact store_lock rt rfl
  | enterVmkRekeyBoundary =>
    show StoreStep P stored gcm rt .enterVmkRekeyBoundary rt.enterVmkRekeyBoundary.1
      rt.enterVmkRekeyBoundary.2
    rcases enterVmkRekeyBoundary_cases rt with ⟨st, _, he⟩ | ⟨_, _, _, he⟩ <;> rw [he]
    · exact .of_kept rfl rfl fun _ _ _ => .refl rt
    · exact .of_kept rfl rfl fun _ hne => absurd rfl hne
  | updateEncryptedVault expected envelope nowMs =>
    exact store_update hP rt expected envelope nowMs
  | rekeyEncryptedVault expected envelope vmk => exact store_rekey hP rt expected envelope vmk
  | listCredentials => exact store_resident hP rt _ (.inl rfl)
  | withCredential id consumer => exact store_resident hP rt _ (.inr (.inl ⟨id, consumer, rfl⟩))
  | withWifi consumer => exact store_resident hP rt _ (.inr (.inr (.inl ⟨consumer, rfl⟩)))
  | setLastUsed id => exact store_resident hP rt _ (.inr (.inr (.inr ⟨id, rfl⟩)))
  | factoryReset => simp [Call.destructive] at hcall

/-! ## Coherence along a run -/

namespace Coherent

theorem installEncryptedVault (hP : Faithful P stored) (h : Coherent stored rt)
    (envelope : VaultEnvelope) (vmk : Vmk) :
    Coherent stored (rt.installEncryptedVault P gcm envelope vmk).2 := by
  by_cases hadm : AdmitsInstall gcm rt envelope vmk
  swap
  · obtain ⟨st, _, he⟩ := install_refused P hadm
    rwa [he]
  rcases hrep : P.replaceEnvelope 0 envelope rt.persistence with ⟨st, w⟩
  rcases hl : P.load w with ⟨⟨st', sn⟩, w'⟩
  have hw := hP.replaceEnvelope hrep
  rcases install_admitted hadm hrep with ⟨hne, he⟩ | ⟨rfl, hre⟩
  · rw [he]
    rw [if_neg hne] at hw
    exact h.withPersistence hw
  · rcases hre st' sn w' hl with ⟨hacc, _, _, he⟩ | ⟨_, st'', rt', he, _, _, hst, _⟩ <;> rw [he]
    · exact loaded hP hl hacc
    · exact of_error hst

theorem updateEncryptedVault (hP : Faithful P stored) (h : Coherent stored rt)
    (expected : UInt64) (envelope : VaultEnvelope) (nowMs : UInt64) :
    Coherent stored (rt.updateEncryptedVault P gcm expected envelope nowMs).2 := by
  by_cases hadm : AdmitsUpdate gcm rt expected envelope
  swap
  · obtain ⟨st, _, he⟩ := update_refused P nowMs hadm
    rwa [he]
  rcases hrep : P.replaceEnvelope expected envelope rt.persistence with ⟨st, w⟩
  rcases hl : P.load w with ⟨⟨st', sn⟩, w'⟩
  have hw := hP.replaceEnvelope hrep
  rcases update_admitted nowMs hadm hrep with ⟨hne, he⟩ | ⟨rfl, hre⟩
  · rw [he]
    rw [if_neg hne] at hw
    exact h.withPersistence hw
  · rw [if_pos rfl] at hw
    rcases hre st' sn w' hl with ⟨_, due, rt', he, hp, henv, _, _, hst, _⟩ | ⟨_, st'', _, he⟩ <;>
      rw [he]
    · exact ⟨fun _ => by rw [hp, henv]; exact (hP.load hl).1.trans hw, by simp [hst]⟩
    · exact of_error rfl

theorem rekeyEncryptedVault (hP : Faithful P stored) (h : Coherent stored rt)
    (expected : UInt64) (envelope : VaultEnvelope) (vmk : Vmk) :
    Coherent stored (rt.rekeyEncryptedVault P gcm expected envelope vmk).2 := by
  by_cases hadm : AdmitsRekey gcm rt expected envelope vmk
  swap
  · obtain ⟨st, _, he⟩ := rekey_refused P hadm
    rwa [he]
  rcases hrep : P.replaceEnvelope expected envelope rt.persistence with ⟨st, w⟩
  rcases hl : P.load w with ⟨⟨st', sn⟩, w'⟩
  have hw := hP.replaceEnvelope hrep
  rcases rekey_admitted hadm hrep with ⟨hne, he⟩ | ⟨rfl, hre⟩
  · rw [he]
    rw [if_neg hne] at hw
    exact h.withPersistence hw
  · rw [if_pos rfl] at hw
    rcases hre st' sn w' hl with ⟨_, rt', he, hp, henv, _, _, hst, _⟩ | ⟨_, st'', _, he⟩ <;>
      rw [he]
    · exact ⟨fun _ => by rw [hp, henv]; exact (hP.load hl).1.trans hw, by simp [hst]⟩
    · exact of_error rfl

theorem lock (h : Coherent stored rt) (hinv : Inv rt) : Coherent stored rt.lock.2 := by
  rcases lock_cases rt with ⟨_, he⟩ | ⟨_, hst, he⟩ | ⟨_, hst, he⟩ <;> rw [he]
  · exact h
  · exact of_error hst
  · exact h.relock hinv hst

theorem resident (hP : Faithful P stored) (h : Coherent stored rt) {call : Call}
    (hcall : call = .listCredentials ∨ (∃ id c, call = .withCredential id c) ∨
      (∃ c, call = .withWifi c) ∨ ∃ id, call = .setLastUsed id) :
    Coherent stored (rt.step P gcm call) := by
  rcases resident_cases P gcm rt hcall with he | ⟨_, id, st, w, hs, he | he⟩ | ⟨_, _, _, he⟩ <;>
    rw [he]
  · exact h
  · exact h.withPersistence (hP.setLastUsed hs)
  · have hw := h.withPersistence (hP.setLastUsed hs)
    exact ⟨hw.copy, hw.empty⟩
  · exact of_error rfl

/-- Every call keeps the RAM copy the stored Vault. -/
theorem step (hP : Faithful P stored) (hinv : Inv rt) (h : Coherent stored rt) (call : Call) :
    Coherent stored (rt.step P gcm call) := by
  cases call with
  | initializeRuntime => exact initializeRuntime hP rt
  | formatForSchema2 =>
    show Coherent stored (rt.formatForSchema2 P).2
    rcases format_cases P rt with ⟨_, he⟩ | ⟨_, st, w, _, ⟨_, he⟩ | ⟨_, he⟩⟩ <;> rw [he]
    · exact h
    · exact of_error rfl
    · exact reload hP _
  | installEncryptedVault envelope vmk => exact h.installEncryptedVault hP envelope vmk
  | unlock vmk nowMs =>
    show Coherent stored (rt.unlock gcm vmk nowMs).2
    rcases unlock_cases gcm rt vmk nowMs with ⟨st, _, he⟩ | ⟨_, hst, _, policy, _, he⟩ <;> rw [he]
    · exact h
    · exact ⟨fun _ => h.copy (.inl hst), by simp⟩
  | lock => exact h.lock hinv
  | enterRecoveryBoundary => exact h.lock hinv
  | enterVmkRekeyBoundary =>
    show Coherent stored rt.enterVmkRekeyBoundary.2
    rcases enterVmkRekeyBoundary_cases rt with ⟨st, _, he⟩ | ⟨_, hst, _, he⟩ <;> rw [he]
    · exact h
    · exact ⟨fun _ => h.copy (.inr hst), by simp⟩
  | updateEncryptedVault expected envelope nowMs =>
    exact h.updateEncryptedVault hP expected envelope nowMs
  | rekeyEncryptedVault expected envelope vmk => exact h.rekeyEncryptedVault hP expected envelope vmk
  | listCredentials => exact h.resident hP (.inl rfl)
  | withCredential id consumer => exact h.resident hP (.inr (.inl ⟨id, consumer, rfl⟩))
  | withWifi consumer => exact h.resident hP (.inr (.inr (.inl ⟨consumer, rfl⟩)))
  | setLastUsed id => exact h.resident hP (.inr (.inr (.inr ⟨id, rfl⟩)))
  | factoryReset =>
    show Coherent stored (rt.factoryReset P).2
    rcases factoryReset_cases P rt with ⟨_, he⟩ | ⟨_, st, w, _, ⟨_, he⟩ | ⟨_, he⟩⟩ <;> rw [he]
    · exact h
    · exact of_error rfl
    · exact ⟨by simp, by simp⟩

end Coherent

/-! ## Whole runs -/

/-- One call of a versioned store: only a commit changes the stored Vault; it puts in a successor
of the stored Vault, or a first Vault where there is none, and the envelope it puts in opens under
its key, which is then in force; a success of an install, update or re-key is a commit; and a
failure that does not end in `kError` leaves the Vault, the key, the policy and the unlock time. -/
structure VersionStep (P : Persistence σ) (stored : σ → Option VaultEnvelope) (gcm : GcmOpen)
    (rt : Runtime σ) (call : Call) (rt' : Runtime σ) : Prop where
  changes : (∀ envelope vmk, ¬ Commits P gcm rt call envelope vmk) →
    stored rt'.persistence = stored rt.persistence
  commits : ∀ envelope vmk, Commits P gcm rt call envelope vmk →
    stored rt'.persistence = some envelope ∧ Opens gcm envelope vmk ∧
      (rt'.state = .unlocked → rt'.vmk = vmk) ∧
      match stored rt.persistence with
      | none => call = .installEncryptedVault envelope vmk
      | some old => Descends old envelope 1
  succeeds : call.committed.isSome = true → (rt.exec P gcm call).1 = .ok →
    ∃ envelope vmk, Commits P gcm rt call envelope vmk
  fails : call ≠ .initializeRuntime → (rt.exec P gcm call).1 ≠ .ok → rt'.state ≠ .error →
    stored rt'.persistence = stored rt.persistence ∧ SameKey rt rt'

/-- What a commit replaces, and what it puts in. -/
theorem commits_over (h : Coherent stored rt) {call : Call} {envelope : VaultEnvelope}
    {vmk : Vmk} (hc : Commits P gcm rt call envelope vmk) :
    Opens gcm envelope vmk ∧
      match stored rt.persistence with
      | none => call = .installEncryptedVault envelope vmk
      | some old => Descends old envelope 1 := by
  cases hc with
  | install hadm =>
    obtain ⟨_, hs, hst, _, policy, hval⟩ := hadm
    rw [h.empty hst hs]
    exact ⟨opens_of_validate hval, rfl⟩
  | update nowMs hadm =>
    obtain ⟨_, hst, _, _, hsucc, policy, hval⟩ := hadm
    rw [h.copy (.inr hst)]
    exact ⟨opens_of_validate hval, descends_of_checkSuccessor hsucc⟩
  | rekey hadm =>
    obtain ⟨_, hst, _, _, _, hsucc, policy, hval⟩ := hadm
    rw [h.copy (.inl hst)]
    exact ⟨opens_of_validate hval, descends_of_checkSuccessor hsucc⟩

theorem Commits.unique {call : Call} {envelope envelope' : VaultEnvelope} {vmk vmk' : Vmk}
    (h : Commits P gcm rt call envelope vmk) (h' : Commits P gcm rt call envelope' vmk') :
    envelope' = envelope ∧ vmk' = vmk := by
  cases h <;> cases h' <;> exact ⟨rfl, rfl⟩

theorem versionStep (hP : Faithful P stored) (h : Coherent stored rt) {call : Call}
    (hcall : call.destructive = false) : VersionStep P stored gcm rt call (rt.step P gcm call) := by
  have hstep : StoreStep P stored gcm rt call (rt.exec P gcm call).1 (rt.step P gcm call) :=
    store_step hP rt hcall
  generalize hst : (rt.exec P gcm call).1 = st at hstep
  generalize rt.step P gcm call = rt' at hstep ⊢
  cases hstep with
  | kept hstored hnot hfails hsame =>
    exact ⟨fun _ => hstored, fun envelope vmk hc => absurd hc (hnot envelope vmk),
      fun hcom hok => absurd (hst.symm.trans hok) (hfails hcom),
      fun hini hne herr => ⟨hstored, hsame hini (hst ▸ hne) herr⟩⟩
  | committed hcommit hstored hkey hend =>
    refine ⟨fun hnot => absurd hcommit (hnot _ _), fun envelope vmk hc => ?_,
      fun _ _ => ⟨_, _, hcommit⟩, fun _ hne herr => ?_⟩
    · obtain ⟨rfl, rfl⟩ := hcommit.unique hc
      exact ⟨hstored, (commits_over h hc).1, hkey, (commits_over h hc).2⟩
    · rcases hend with hok | hend
      · exact absurd (hst.trans hok) hne
      · exact absurd hend herr

/-- Call `k` of the run commits an envelope. -/
def CommitsAt (P : Persistence σ) (gcm : GcmOpen) (world : σ) (calls : Nat → Call) (k : Nat) :
    Prop :=
  ∃ envelope vmk,
    Commits P gcm (stateAt (Runtime.step P gcm) (Runtime.new world) calls k) (calls k) envelope vmk

section
variable (hP : Faithful P stored) (world : σ) (calls : Nat → Call)
include hP

theorem coherent_stateAt (n : Nat) :
    Coherent stored (stateAt (Runtime.step P gcm) (Runtime.new world) calls n) := by
  refine (stateAt_inv (P := fun rt => Inv rt ∧ Coherent stored rt)
    ⟨Inv.new world, by simp [Runtime.new], by simp [Runtime.new]⟩
    (fun rt call h => ⟨h.1.step call, h.2.step hP h.1 call⟩) n).2

open Classical in
/-- **The runtime is a versioned store.** In every run over a faithful persistence, each call that
does not format or erase is a `VersionStep`; and from a state with a Vault, as long as no call
formats or erases, the stored Vault is the same one with as many generations more as calls have
committed. -/
theorem versioned_store (n : Nat) :
    ((calls n).destructive = false →
      StepAt (Runtime.step P gcm) (Runtime.new world) calls (VersionStep P stored gcm) n) ∧
    ∀ k old, (∀ i, i < k → (calls (n + i)).destructive = false) →
      stored (stateAt (Runtime.step P gcm) (Runtime.new world) calls n).persistence = some old →
      ∃ new,
        stored (stateAt (Runtime.step P gcm) (Runtime.new world) calls (n + k)).persistence =
          some new ∧
        Descends old new (Nat.count (fun i => CommitsAt P gcm world calls (n + i)) k) := by
  have hcoh : ∀ n, Coherent stored (stateAt (Runtime.step P gcm) (Runtime.new world) calls n) :=
    coherent_stateAt hP world calls
  refine ⟨fun hcall => versionStep hP (hcoh n) hcall, fun k old => ?_⟩
  induction k with
  | zero => exact fun _ hold => ⟨old, hold, .refl old⟩
  | succ k ih =>
    intro hcalls hold
    obtain ⟨new, hnew, hdesc⟩ := ih (fun i hi => hcalls i (Nat.lt_succ_of_lt hi)) hold
    have hstep : VersionStep P stored gcm _ (calls (n + k)) _ :=
      versionStep hP (hcoh (n + k)) (hcalls k (Nat.lt_succ_self k))
    rw [Nat.count_succ]
    by_cases hc : CommitsAt P gcm world calls (n + k)
    · obtain ⟨envelope, vmk, hcommit⟩ := hc
      obtain ⟨hstored, _, _, hover⟩ := hstep.commits envelope vmk hcommit
      rw [hnew] at hover
      rw [if_pos ⟨envelope, vmk, hcommit⟩]
      exact ⟨envelope, hstored, hdesc.trans hover⟩
    · rw [if_neg hc]
      exact ⟨new, (hstep.changes fun envelope vmk h => hc ⟨envelope, vmk, h⟩).trans hnew, hdesc⟩

end

/-- The Vault partition of `updateRun`, whose calls all work. -/
def sampleNvs : UntornNvs :=
  ⟨World.reliable (storedAt (envelopeAt 1)), World.untorn_reliable⟩

/-- The update of `updateRun` commits generation 2 over generation 1. -/
theorem versioned_store_update :
    ∃ new, activeVault (stateAt (Runtime.step untornNvs openAll) (Runtime.new sampleNvs) updateRun
        3).persistence.1.content = some new ∧ Descends (envelopeAt 1) new 1 := by
  have hc : CommitsAt untornNvs openAll sampleNvs updateRun 2 :=
    ⟨_, _, .update 0 ⟨rfl, rfl, rfl, rfl, rfl, none, rfl⟩ rfl⟩
  have hkept (i : Nat) (hi : i < 1) : (updateRun (2 + i)).destructive = false := by
    obtain rfl : i = 0 := by omega
    rfl
  have hold : activeVault (stateAt (Runtime.step untornNvs openAll) (Runtime.new sampleNvs)
      updateRun 2).persistence.1.content = some (envelopeAt 1) := rfl
  obtain ⟨new, hnew, hdesc⟩ :=
    (versioned_store untornNvs_faithful sampleNvs updateRun 2).2 1 (envelopeAt 1) hkept hold
  rw [Nat.count_succ, Nat.count_zero, if_pos hc] at hdesc
  exact ⟨new, hnew, hdesc⟩

end M5Auth.VaultRuntime.Runtime
