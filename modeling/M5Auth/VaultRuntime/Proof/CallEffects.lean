import M5Auth.VaultRuntime.Proof.Invariant

/-!
# What a call can bring about

Which calls open the Vault (`step_unlocks`), make one present (`step_hasVault`), destroy the stored
one (`step_log`), and what is left of them once the runtime is in `kError` (`step_of_error`).
`Reaches.rel` carries such facts from one call to several.
-/

namespace M5Auth.VaultRuntime.Runtime

open Vault

variable {σ : Type} {P : Persistence σ} {gcm : GcmOpen} {rt rt' : Runtime σ}

/-! ## Several calls -/

namespace Reaches

variable {C C' : Call → Prop}

theorem refl (rt : Runtime σ) : Reaches P gcm C rt rt := Relation.ReflTransGen.refl

theorem one (call : Call) (h : C call) : Reaches P gcm C rt (rt.step P gcm call) :=
  Relation.ReflTransGen.single ⟨call, h, rfl⟩

theorem trans {rt'' : Runtime σ} (h : Reaches P gcm C rt rt') (h' : Reaches P gcm C rt' rt'') :
    Reaches P gcm C rt rt'' := Relation.ReflTransGen.trans h h'

/-- A relation that every call respects holds between the ends. -/
theorem rel {R : Runtime σ → Runtime σ → Prop} (h : Reaches P gcm C rt rt') (hrefl : ∀ rt, R rt rt)
    (htrans : ∀ rt₁ rt₂ rt₃, R rt₁ rt₂ → R rt₂ rt₃ → R rt₁ rt₃)
    (hstep : ∀ rt call, C call → R rt (rt.step P gcm call)) : R rt rt' := by
  induction h with
  | refl => exact hrefl _
  | tail _ hs ih =>
    obtain ⟨call, hc, rfl⟩ := hs
    exact htrans _ _ _ ih (hstep _ call hc)

/-- A property that every call keeps is kept. -/
theorem keeps {I : Runtime σ → Prop} (h : Reaches P gcm C rt rt')
    (hstep : ∀ rt call, C call → I rt → I (rt.step P gcm call)) (hi : I rt) : I rt' :=
  h.rel (R := fun rt rt' => I rt → I rt') (fun _ h => h) (fun _ _ _ h h' hi => h' (h hi)) hstep hi

theorem mono (h : Reaches P gcm C rt rt') (hC : ∀ call, C call → C' call) :
    Reaches P gcm C' rt rt' :=
  h.rel .refl (fun _ _ _ => trans) fun _ call hc => one call (hC call hc)

end Reaches

/-! ## Uses of the resident key -/

theorem resident_of_tame {call : Call} (h : call.tame = true) :
    call = .lock ∨ call = .enterRecoveryBoundary ∨ call = .enterVmkRekeyBoundary ∨
    (∃ expected envelope nowMs, call = .updateEncryptedVault expected envelope nowMs) ∨
    (call = .listCredentials ∨ (∃ id c, call = .withCredential id c) ∨
      (∃ c, call = .withWifi c) ∨ ∃ id, call = .setLastUsed id) := by
  cases call <;> simp [Call.tame] at h ⊢

/-! ## Opening the Vault -/

/-- Nothing was opened: no key was put in force, and a runtime that is unlocked was so before. -/
structure Unopened (rt rt' : Runtime σ) : Prop where
  unlocks : rt'.unlocks = rt.unlocks
  unlocked : rt'.state = .unlocked → rt.state = .unlocked

theorem Unopened.refl (rt : Runtime σ) : Unopened rt rt := ⟨rfl, id⟩

theorem Unopened.trans {rt'' : Runtime σ} (h : Unopened rt rt') (h' : Unopened rt' rt'') :
    Unopened rt rt'' :=
  ⟨h'.unlocks.trans h.unlocks, fun hu => h.unlocked (h'.unlocked hu)⟩

theorem Unopened.of_state (h : rt'.unlocks = rt.unlocks) (hst : rt'.state ≠ .unlocked) :
    Unopened rt rt' := ⟨h, fun hu => absurd hu hst⟩

theorem unopened_reload (rt : Runtime σ) : Unopened rt (rt.reloadAfterPersistence P).2 := by
  rcases hl : P.load rt.persistence with ⟨⟨status, sn⟩, w⟩
  rcases reload_cases rt hl with ⟨_, he⟩ | ⟨_, st, rt', he, _, _, hst, _, _, _, hun, _⟩
  · rw [he]
    refine .of_state rfl ?_
    simp only [loaded_state]
    split <;> simp
  · rw [he]
    exact .of_state hun (by simp [hst])

theorem unopened_initializeRuntime (rt : Runtime σ) : Unopened rt (rt.initializeRuntime P).2 := by
  rcases hl : P.load rt.persistence with ⟨⟨status, sn⟩, w⟩
  rcases initializeRuntime_cases rt hl with
    ⟨_, he⟩ | ⟨_, st, rt', he, _, _, _, _, _, hun, _, hcase⟩
  · rw [he]
    refine .of_state rfl ?_
    simp only [loaded_state]
    split <;> simp
  · rw [he]
    rcases hcase with ⟨_, hst, _⟩ | ⟨_, hst, _⟩ | ⟨_, _, hst, _⟩ <;>
      exact .of_state hun (by simp [hst])

theorem unopened_format (rt : Runtime σ) : Unopened rt (rt.formatForSchema2 P).2 := by
  rcases format_cases P rt with ⟨_, he⟩ | ⟨_, st, w, _, ⟨_, he⟩ | ⟨_, he⟩⟩
  · rw [he]
    exact .refl rt
  · rw [he]
    exact .of_state rfl (by simp [fail])
  · rw [he]
    have h := unopened_reload (P := P) ((rt.clearUnlockSessionState).withPersistence w)
    exact ⟨h.unlocks, fun hu => by simpa using h.unlocked hu⟩

theorem unopened_install (rt : Runtime σ) (envelope : VaultEnvelope) (vmk : Vmk) :
    Unopened rt (rt.installEncryptedVault P gcm envelope vmk).2 := by
  by_cases hadm : AdmitsInstall gcm rt envelope vmk
  swap
  · obtain ⟨_, _, he⟩ := install_refused P hadm
    rw [he]
    exact .refl rt
  rcases hrep : P.replaceEnvelope 0 envelope rt.persistence with ⟨st, w⟩
  rcases hl : P.load w with ⟨⟨status, sn⟩, w'⟩
  rcases install_admitted hadm hrep with ⟨_, he⟩ | ⟨_, h⟩
  · rw [he]
    exact ⟨rfl, id⟩
  · rcases h _ _ _ hl with ⟨_, _, _, he⟩ | ⟨_, _, rt', he, _, _, hst, _, _, hun, _⟩
    · rw [he]
      refine .of_state rfl ?_
      simp only [loaded_state]
      split <;> simp
    · rw [he]
      exact .of_state hun (by simp [hst])

theorem unopened_lock (rt : Runtime σ) : Unopened rt rt.lock.2 := by
  rcases lock_cases rt with ⟨_, he⟩ | ⟨_, _, he⟩ | ⟨_, _, he⟩
  · rw [he]
    exact .refl rt
  · rw [he]
    exact ⟨rfl, id⟩
  · rw [he]
    refine .of_state rfl ?_
    simp only
    split <;> simp

theorem unopened_update (rt : Runtime σ) (expected : UInt64) (envelope : VaultEnvelope)
    (nowMs : UInt64) : Unopened rt (rt.updateEncryptedVault P gcm expected envelope nowMs).2 := by
  by_cases hadm : AdmitsUpdate gcm rt expected envelope
  swap
  · obtain ⟨_, _, he⟩ := update_refused P nowMs hadm
    rw [he]
    exact .refl rt
  rcases hrep : P.replaceEnvelope expected envelope rt.persistence with ⟨st, w⟩
  rcases hl : P.load w with ⟨⟨status, sn⟩, w'⟩
  rcases update_admitted nowMs hadm hrep with ⟨_, he⟩ | ⟨_, h⟩
  · rw [he]
    exact ⟨rfl, id⟩
  · rcases h _ _ _ hl with ⟨_, _, rt', he, _, _, _, _, _, _, _, _, _, hun⟩ | ⟨_, _, _, he⟩
    · rw [he]
      exact ⟨hun, fun _ => hadm.2.1⟩
    · rw [he]
      exact .of_state rfl (by simp [fail])

theorem unopened_reset (rt : Runtime σ) : Unopened rt (rt.factoryReset P).2 := by
  rcases factoryReset_cases P rt with ⟨_, he⟩ | ⟨_, st, w, _, ⟨_, he⟩ | ⟨_, he⟩⟩ <;> rw [he]
  · exact .refl rt
  · exact .of_state rfl (by simp [fail])
  · exact .of_state rfl (by simp)

theorem unopened_resident (rt : Runtime σ) {call : Call}
    (hcall : call = .listCredentials ∨ (∃ id c, call = .withCredential id c) ∨
      (∃ c, call = .withWifi c) ∨ ∃ id, call = .setLastUsed id) :
    Unopened rt (rt.step P gcm call) := by
  rcases resident_cases P gcm rt hcall with
    he | ⟨_, id, st, w, _, he | he⟩ | ⟨_, _, _, he⟩ <;> rw [he]
  · exact .refl rt
  · exact ⟨rfl, fun h => h⟩
  · exact ⟨rfl, fun h => h⟩
  · exact .of_state rfl (by simp [fail])

variable (P gcm) in
/-- A call opens the Vault with the key it was given, or opens nothing. -/
theorem step_unlocks (rt : Runtime σ) (call : Call) :
    Unopened rt (rt.step P gcm call) ∨
    ∃ vmk, call.opens = some vmk ∧ (rt.step P gcm call).unlocks = vmk :: rt.unlocks := by
  cases call with
  | initializeRuntime => exact .inl (unopened_initializeRuntime rt)
  | formatForSchema2 => exact .inl (unopened_format rt)
  | installEncryptedVault envelope vmk => exact .inl (unopened_install rt envelope vmk)
  | unlock vmk nowMs =>
    rcases unlock_cases gcm rt vmk nowMs with ⟨_, _, he⟩ | ⟨_, _, _, _, _, he⟩
    · simp only [step, exec, he]
      exact .inl (.refl rt)
    · simp only [step, exec, he]
      exact .inr ⟨vmk, rfl, rfl⟩
  | lock => exact .inl (unopened_lock rt)
  | enterRecoveryBoundary => exact .inl (unopened_lock rt)
  | enterVmkRekeyBoundary =>
    left
    rcases enterVmkRekeyBoundary_cases rt with ⟨_, _, he⟩ | ⟨_, _, _, he⟩
    · simp only [step, exec, he]
      exact .refl rt
    · simp only [step, exec, he]
      exact .of_state rfl (by simp)
  | updateEncryptedVault expected envelope nowMs =>
    exact .inl (unopened_update rt expected envelope nowMs)
  | rekeyEncryptedVault expected envelope vmk =>
    by_cases hadm : AdmitsRekey gcm rt expected envelope vmk
    swap
    · obtain ⟨_, _, he⟩ := rekey_refused P hadm
      simp only [step, exec, he]
      exact .inl (.refl rt)
    rcases hrep : P.replaceEnvelope expected envelope rt.persistence with ⟨st, w⟩
    rcases hl : P.load w with ⟨⟨status, sn⟩, w'⟩
    rcases rekey_admitted hadm hrep with ⟨_, he⟩ | ⟨_, h⟩
    · simp only [step, exec, he]
      exact .inl ⟨rfl, id⟩
    · rcases h _ _ _ hl with ⟨_, rt', he, _, _, _, _, _, _, _, _, _, hun⟩ | ⟨_, _, _, he⟩
      · simp only [step, exec, he]
        exact .inr ⟨vmk, rfl, hun⟩
      · simp only [step, exec, he]
        exact .inl (.of_state rfl (by simp [fail]))
  | listCredentials => exact .inl (unopened_resident rt (.inl rfl))
  | withCredential id consumer =>
    exact .inl (unopened_resident rt (.inr (.inl ⟨id, consumer, rfl⟩)))
  | withWifi consumer => exact .inl (unopened_resident rt (.inr (.inr (.inl ⟨consumer, rfl⟩))))
  | setLastUsed id => exact .inl (unopened_resident rt (.inr (.inr (.inr ⟨id, rfl⟩))))
  | factoryReset => exact .inl (unopened_reset rt)

theorem Reaches.unopened {C : Call → Prop} (h : Reaches P gcm C rt rt')
    (hC : ∀ call, C call → call.opens = none) : Unopened rt rt' := by
  refine h.rel .refl (fun _ _ _ h h' => h.trans h') fun rt call hc => ?_
  rcases step_unlocks P gcm rt call with hu | ⟨vmk, ho, _⟩
  · exact hu
  · rw [hC call hc] at ho
    cases ho

theorem opens_of_tame {call : Call} (h : call.tame = true) : call.opens = none := by
  cases call <;> simp [Call.tame] at h <;> rfl

/-! ## A Device without a Vault -/

theorem step_hasVault {call : Call} (htame : call.tame = true) (h : rt.hasVault = false) :
    (rt.step P gcm call).hasVault = false := by
  rcases resident_of_tame htame with
    rfl | rfl | rfl | ⟨expected, envelope, nowMs, rfl⟩ | hres
  · rcases lock_cases rt with ⟨_, he⟩ | ⟨_, _, he⟩ | ⟨_, _, he⟩ <;> simp [step, exec, he, h]
  · rcases lock_cases rt with ⟨_, he⟩ | ⟨_, _, he⟩ | ⟨_, _, he⟩ <;>
      simp [step, exec, enterRecoveryBoundary_eq_lock, he, h]
  · rcases enterVmkRekeyBoundary_cases rt with ⟨_, _, he⟩ | ⟨_, _, hv, _⟩
    · simp [step, exec, he, h]
    · rw [h] at hv
      cases hv
  · have hadm : ¬ AdmitsUpdate gcm rt expected envelope := fun hadm => by
      have hv := hadm.2.2.2.1
      rw [h] at hv
      cases hv
    obtain ⟨_, _, he⟩ := update_refused P nowMs hadm
    simp [step, exec, he, h]
  · rcases resident_cases P gcm rt hres with he | ⟨_, id, st, w, _, he | he⟩ | ⟨_, _, _, he⟩ <;>
      rw [he] <;> exact h

theorem Reaches.hasVault {C : Call → Prop} (h : Reaches P gcm C rt rt')
    (hC : ∀ call, C call → call.tame = true) (hv : rt.hasVault = false) : rt'.hasVault = false :=
  h.keeps (I := fun rt => rt.hasVault = false) (fun _ call hc hv => step_hasVault (hC call hc) hv)
    hv

/-! ## A runtime in `kError` -/

/-- In `kError` such a call changes nothing; `lock` once more clears the session. -/
theorem step_of_error {call : Call} (htame : call.tame = true) (h : rt.state = .error) :
    rt.step P gcm call = rt ∨ rt.step P gcm call = rt.clearUnlockSessionState := by
  have hlock : rt.lock.2 = rt ∨ rt.lock.2 = rt.clearUnlockSessionState := by
    rcases lock_cases rt with ⟨_, he⟩ | ⟨_, _, he⟩ | ⟨_, hne, _⟩
    · exact .inl (by rw [he])
    · exact .inr (by rw [he])
    · exact absurd h hne
  rcases resident_of_tame htame with
    rfl | rfl | rfl | ⟨expected, envelope, nowMs, rfl⟩ | hres
  · exact hlock
  · exact hlock
  · rcases enterVmkRekeyBoundary_cases rt with ⟨_, _, he⟩ | ⟨_, hst, _⟩
    · exact .inl (by simp [step, exec, he])
    · rw [h] at hst
      cases hst
  · have hadm : ¬ AdmitsUpdate gcm rt expected envelope := fun hadm => by
      have hst := hadm.2.1
      rw [h] at hst
      cases hst
    obtain ⟨_, _, he⟩ := update_refused P nowMs hadm
    exact .inl (by simp [step, exec, he])
  · rcases resident_cases P gcm rt hres with he | ⟨hst, _⟩ | ⟨hst, _⟩
    · exact .inl he
    · rw [h] at hst
      cases hst
    · rw [h] at hst
      cases hst

/-! ## What every call keeps of the storage -/

section
variable {S : σ → Prop}

/-- Every operation of the persistence keeps the property `S` of its storage. -/
structure Preserving (P : Persistence σ) (S : σ → Prop) : Prop where
  load : ∀ w, S w → S (P.load w).2
  formatSchema2 : ∀ w, S w → S (P.formatSchema2 w).2
  replaceEnvelope : ∀ expected envelope w, S w → S (P.replaceEnvelope expected envelope w).2
  setLastUsed : ∀ credentialId w, S w → S (P.setLastUsed credentialId w).2
  eraseAll : ∀ w, S w → S (P.eraseAll w).2

theorem reload_persistence (rt : Runtime σ) :
    (rt.reloadAfterPersistence P).2.persistence = (P.load rt.persistence).2 := by
  rcases hl : P.load rt.persistence with ⟨⟨status, sn⟩, w⟩
  rcases reload_cases rt hl with ⟨_, he⟩ | ⟨_, _, rt', he, _, hw, _⟩ <;> rw [he]
  · rfl
  · exact hw

theorem initialize_persistence (rt : Runtime σ) :
    (rt.initializeRuntime P).2.persistence = (P.load rt.persistence).2 := by
  rcases hl : P.load rt.persistence with ⟨⟨status, sn⟩, w⟩
  rcases initializeRuntime_cases rt hl with ⟨_, he⟩ | ⟨_, _, rt', he, _, hw, _⟩ <;> rw [he]
  · rfl
  · exact hw

/-- A replacement, and the load after one that works. -/
theorem Preserving.replaced (hP : Preserving P S) {expected : UInt64} {envelope : VaultEnvelope}
    (h : S rt.persistence) {st : Status} {w : σ}
    (hrep : P.replaceEnvelope expected envelope rt.persistence = (st, w)) :
    S w ∧ ∀ {st' sn w'}, P.load w = ((st', sn), w') → S w' := by
  have hw : S w := by
    have := hP.replaceEnvelope expected envelope _ h
    rwa [hrep] at this
  refine ⟨hw, fun hl => ?_⟩
  have := hP.load _ hw
  rwa [hl] at this

theorem Preserving.install (hP : Preserving P S) (h : S rt.persistence) (envelope : VaultEnvelope)
    (vmk : Vmk) : S (rt.installEncryptedVault P gcm envelope vmk).2.persistence := by
  by_cases hadm : AdmitsInstall gcm rt envelope vmk
  swap
  · obtain ⟨_, _, he⟩ := install_refused P hadm
    rwa [he]
  rcases hrep : P.replaceEnvelope 0 envelope rt.persistence with ⟨st, w⟩
  rcases hl : P.load w with ⟨⟨status, sn⟩, w'⟩
  obtain ⟨hw, hw'⟩ := hP.replaced h hrep
  rcases install_admitted hadm hrep with ⟨_, he⟩ | ⟨_, hcases⟩
  · rw [he]
    exact hw
  · rcases hcases _ _ _ hl with ⟨_, _, _, he⟩ | ⟨_, _, rt', he, _, hp, _⟩ <;> rw [he]
    · exact hw' hl
    · exact hp ▸ hw' hl

theorem Preserving.update (hP : Preserving P S) (h : S rt.persistence) (expected : UInt64)
    (envelope : VaultEnvelope) (nowMs : UInt64) :
    S (rt.updateEncryptedVault P gcm expected envelope nowMs).2.persistence := by
  by_cases hadm : AdmitsUpdate gcm rt expected envelope
  swap
  · obtain ⟨_, _, he⟩ := update_refused P nowMs hadm
    rwa [he]
  rcases hrep : P.replaceEnvelope expected envelope rt.persistence with ⟨st, w⟩
  rcases hl : P.load w with ⟨⟨status, sn⟩, w'⟩
  obtain ⟨hw, hw'⟩ := hP.replaced h hrep
  rcases update_admitted nowMs hadm hrep with ⟨_, he⟩ | ⟨_, hcases⟩
  · rw [he]
    exact hw
  · rcases hcases _ _ _ hl with ⟨_, _, rt', he, hp, _⟩ | ⟨_, _, _, he⟩ <;> rw [he]
    · exact hp ▸ hw' hl
    · exact hw' hl

theorem Preserving.rekey (hP : Preserving P S) (h : S rt.persistence) (expected : UInt64)
    (envelope : VaultEnvelope) (vmk : Vmk) :
    S (rt.rekeyEncryptedVault P gcm expected envelope vmk).2.persistence := by
  by_cases hadm : AdmitsRekey gcm rt expected envelope vmk
  swap
  · obtain ⟨_, _, he⟩ := rekey_refused P hadm
    rwa [he]
  rcases hrep : P.replaceEnvelope expected envelope rt.persistence with ⟨st, w⟩
  rcases hl : P.load w with ⟨⟨status, sn⟩, w'⟩
  obtain ⟨hw, hw'⟩ := hP.replaced h hrep
  rcases rekey_admitted hadm hrep with ⟨_, he⟩ | ⟨_, hcases⟩
  · rw [he]
    exact hw
  · rcases hcases _ _ _ hl with ⟨_, rt', he, hp, _⟩ | ⟨_, _, _, he⟩ <;> rw [he]
    · exact hp ▸ hw' hl
    · exact hw' hl

theorem Preserving.lock (h : S rt.persistence) : S rt.lock.2.persistence := by
  rcases lock_cases rt with ⟨_, he⟩ | ⟨_, _, he⟩ | ⟨_, _, he⟩ <;> rw [he] <;> exact h

theorem Preserving.resident (hP : Preserving P S) (h : S rt.persistence) {call : Call}
    (hcall : call = .listCredentials ∨ (∃ id c, call = .withCredential id c) ∨
      (∃ c, call = .withWifi c) ∨ ∃ id, call = .setLastUsed id) :
    S (rt.step P gcm call).persistence := by
  rcases resident_cases P gcm rt hcall with
    he | ⟨_, id, st, w, hs, he⟩ | ⟨_, _, _, he⟩
  · rwa [he]
  · have hw := hP.setLastUsed (some id) _ h
    rw [hs] at hw
    rcases he with he | he <;> rw [he] <;> exact hw
  · rwa [he]

/-- **Every call of the runtime keeps what its persistence keeps.** -/
theorem Preserving.step (hP : Preserving P S) (h : S rt.persistence) (call : Call) :
    S (rt.step P gcm call).persistence := by
  cases call with
  | initializeRuntime =>
    show S (rt.initializeRuntime P).2.persistence
    rw [initialize_persistence]
    exact hP.load _ h
  | formatForSchema2 =>
    show S (rt.formatForSchema2 P).2.persistence
    rcases format_cases P rt with ⟨_, he⟩ | ⟨_, st, w, hf, ⟨_, he⟩ | ⟨_, he⟩⟩
    · rwa [he]
    · have hw := hP.formatSchema2 _ h
      rw [hf] at hw
      rwa [he]
    · have hw := hP.formatSchema2 _ h
      rw [hf] at hw
      rw [he, reload_persistence]
      exact hP.load _ hw
  | installEncryptedVault envelope vmk => exact hP.install h envelope vmk
  | unlock vmk nowMs =>
    show S (rt.unlock gcm vmk nowMs).2.persistence
    rcases unlock_cases gcm rt vmk nowMs with ⟨_, _, he⟩ | ⟨_, _, _, _, _, he⟩ <;> rw [he] <;>
      exact h
  | lock => exact Preserving.lock h
  | enterRecoveryBoundary => exact Preserving.lock h
  | enterVmkRekeyBoundary =>
    show S rt.enterVmkRekeyBoundary.2.persistence
    rcases enterVmkRekeyBoundary_cases rt with ⟨_, _, he⟩ | ⟨_, _, _, he⟩ <;> rw [he] <;> exact h
  | updateEncryptedVault expected envelope nowMs => exact hP.update h expected envelope nowMs
  | rekeyEncryptedVault expected envelope vmk => exact hP.rekey h expected envelope vmk
  | listCredentials => exact hP.resident h (.inl rfl)
  | withCredential id consumer => exact hP.resident h (.inr (.inl ⟨id, consumer, rfl⟩))
  | withWifi consumer => exact hP.resident h (.inr (.inr (.inl ⟨consumer, rfl⟩)))
  | setLastUsed id => exact hP.resident h (.inr (.inr (.inr ⟨id, rfl⟩)))
  | factoryReset =>
    show S (rt.factoryReset P).2.persistence
    rcases factoryReset_cases P rt with ⟨_, he⟩ | ⟨_, st, w, hf, hcases⟩
    · rwa [he]
    · have hw := hP.eraseAll _ h
      rw [hf] at hw
      rcases hcases with ⟨_, he⟩ | ⟨_, he⟩ <;> rw [he] <;> exact hw

end

/-! ## What is recorded -/

section
variable {rt rt' : Runtime (σ × List Reply)} {s w : σ × List Reply}

theorem log_of_load {status : Status} {sn : PersistedSnapshot}
    (h : P.logged.load s = ((status, sn), w)) : w.2 = .load status sn :: s.2 := by
  simp only [Persistence.logged, Prod.mk.injEq] at h
  obtain ⟨⟨h1, h2⟩, h3⟩ := h
  rw [← h3, h1, h2]

theorem log_of_replace {expected : UInt64} {envelope : VaultEnvelope} {status : Status}
    (h : P.logged.replaceEnvelope expected envelope s = (status, w)) :
    w.2 = .replaceEnvelope expected envelope status :: s.2 := by
  simp only [Persistence.logged, Prod.mk.injEq] at h
  rw [← h.2, h.1]

theorem log_of_replaced {expected : UInt64} {envelope : VaultEnvelope} {status st : Status}
    {sn : PersistedSnapshot} {w' : σ × List Reply}
    (hrep : P.logged.replaceEnvelope expected envelope s = (st, w))
    (hl : P.logged.load w = ((status, sn), w')) :
    w'.2 = .load status sn :: .replaceEnvelope expected envelope st :: s.2 := by
  rw [log_of_load hl, log_of_replace hrep]

theorem log_of_setLastUsed {id : Option CredentialId} {status : Status}
    (h : P.logged.setLastUsed id s = (status, w)) : w.2 = .setLastUsed id status :: s.2 := by
  simp only [Persistence.logged, Prod.mk.injEq] at h
  rw [← h.2, h.1]

/-- The stored Vault was not destroyed: no recorded reply is one of a format or an erase. -/
def Undestroyed (rt rt' : Runtime (σ × List Reply)) : Prop :=
  ∃ replies, rt'.log = replies ++ rt.log ∧ ∀ reply ∈ replies, reply.isDestructive = false

theorem Undestroyed.of_log (h : rt'.log = rt.log) : Undestroyed rt rt' := ⟨[], h, by simp⟩

theorem Undestroyed.refl (rt : Runtime (σ × List Reply)) : Undestroyed rt rt := .of_log rfl

theorem Undestroyed.of_cons {reply : Reply} (h : rt'.log = reply :: rt.log)
    (hr : reply.isDestructive = false) : Undestroyed rt rt' := ⟨[reply], h, by simpa using hr⟩

theorem Undestroyed.of_cons_cons {reply reply' : Reply} (h : rt'.log = reply :: reply' :: rt.log)
    (hr : reply.isDestructive = false) (hr' : reply'.isDestructive = false) :
    Undestroyed rt rt' := ⟨[reply, reply'], h, by simpa using ⟨hr, hr'⟩⟩

theorem Undestroyed.trans {rt'' : Runtime (σ × List Reply)} (h : Undestroyed rt rt')
    (h' : Undestroyed rt' rt'') : Undestroyed rt rt'' := by
  obtain ⟨replies, he, hr⟩ := h
  obtain ⟨replies', he', hr'⟩ := h'
  refine ⟨replies' ++ replies, by rw [he', he, List.append_assoc], fun reply hmem => ?_⟩
  rcases List.mem_append.1 hmem with hmem | hmem
  · exact hr' reply hmem
  · exact hr reply hmem

theorem undestroyed_initialize (rt : Runtime (σ × List Reply)) :
    Undestroyed rt (rt.initializeRuntime P.logged).2 := by
  rcases hl : P.logged.load rt.persistence with ⟨⟨status, sn⟩, w⟩
  rcases initializeRuntime_cases rt hl with ⟨_, he⟩ | ⟨_, st, rt', he, _, hw, _⟩ <;> rw [he]
  · exact .of_cons (log_of_load hl) rfl
  · exact .of_cons (by rw [log, hw, log_of_load hl, log]) rfl

theorem undestroyed_install (rt : Runtime (σ × List Reply)) (envelope : VaultEnvelope)
    (vmk : Vmk) : Undestroyed rt (rt.installEncryptedVault P.logged gcm envelope vmk).2 := by
  by_cases hadm : AdmitsInstall gcm rt envelope vmk
  swap
  · obtain ⟨_, _, he⟩ := install_refused P.logged hadm
    rw [he]
    exact .of_log rfl
  rcases hrep : P.logged.replaceEnvelope 0 envelope rt.persistence with ⟨st, w⟩
  rcases hl : P.logged.load w with ⟨⟨status, sn⟩, w'⟩
  have hlog := log_of_replaced hrep hl
  rcases install_admitted hadm hrep with ⟨_, he⟩ | ⟨_, h⟩
  · rw [he]
    exact .of_cons (log_of_replace hrep) rfl
  · rcases h _ _ _ hl with ⟨_, _, _, he⟩ | ⟨_, _, rt', he, _, hw, _⟩ <;> rw [he]
    · exact .of_cons_cons hlog rfl rfl
    · exact .of_cons_cons (by rw [log, hw, hlog, log]) rfl rfl

theorem undestroyed_update (rt : Runtime (σ × List Reply)) (expected : UInt64)
    (envelope : VaultEnvelope) (nowMs : UInt64) :
    Undestroyed rt (rt.updateEncryptedVault P.logged gcm expected envelope nowMs).2 := by
  by_cases hadm : AdmitsUpdate gcm rt expected envelope
  swap
  · obtain ⟨_, _, he⟩ := update_refused P.logged nowMs hadm
    rw [he]
    exact .of_log rfl
  rcases hrep : P.logged.replaceEnvelope expected envelope rt.persistence with ⟨st, w⟩
  rcases hl : P.logged.load w with ⟨⟨status, sn⟩, w'⟩
  have hlog := log_of_replaced hrep hl
  rcases update_admitted nowMs hadm hrep with ⟨_, he⟩ | ⟨_, h⟩
  · rw [he]
    exact .of_cons (log_of_replace hrep) rfl
  · rcases h _ _ _ hl with ⟨_, _, rt', he, hw, _⟩ | ⟨_, _, _, he⟩ <;> rw [he]
    · exact .of_cons_cons (by rw [log, hw, hlog, log]) rfl rfl
    · exact .of_cons_cons hlog rfl rfl

theorem undestroyed_rekey (rt : Runtime (σ × List Reply)) (expected : UInt64)
    (envelope : VaultEnvelope) (vmk : Vmk) :
    Undestroyed rt (rt.rekeyEncryptedVault P.logged gcm expected envelope vmk).2 := by
  by_cases hadm : AdmitsRekey gcm rt expected envelope vmk
  swap
  · obtain ⟨_, _, he⟩ := rekey_refused P.logged hadm
    rw [he]
    exact .of_log rfl
  rcases hrep : P.logged.replaceEnvelope expected envelope rt.persistence with ⟨st, w⟩
  rcases hl : P.logged.load w with ⟨⟨status, sn⟩, w'⟩
  have hlog := log_of_replaced hrep hl
  rcases rekey_admitted hadm hrep with ⟨_, he⟩ | ⟨_, h⟩
  · rw [he]
    exact .of_cons (log_of_replace hrep) rfl
  · rcases h _ _ _ hl with ⟨_, rt', he, hw, _⟩ | ⟨_, _, _, he⟩ <;> rw [he]
    · exact .of_cons_cons (by rw [log, hw, hlog, log]) rfl rfl
    · exact .of_cons_cons hlog rfl rfl

theorem undestroyed_resident (rt : Runtime (σ × List Reply)) {call : Call}
    (hcall : call = .listCredentials ∨ (∃ id c, call = .withCredential id c) ∨
      (∃ c, call = .withWifi c) ∨ ∃ id, call = .setLastUsed id) :
    Undestroyed rt (rt.step P.logged gcm call) := by
  rcases resident_cases P.logged gcm rt hcall with
    he | ⟨_, id, st, w, hs, he | he⟩ | ⟨_, _, _, he⟩ <;> rw [he]
  · exact .of_log rfl
  · exact .of_cons (log_of_setLastUsed hs) rfl
  · exact .of_cons (log_of_setLastUsed hs) rfl
  · exact .of_log rfl

/-- Only a format and a factory reset destroy the stored Vault. -/
theorem step_undestroyed (rt : Runtime (σ × List Reply)) {call : Call}
    (h : call.destructive = false) : Undestroyed rt (rt.step P.logged gcm call) := by
  cases call with
  | formatForSchema2 => cases h
  | factoryReset => cases h
  | initializeRuntime => exact undestroyed_initialize rt
  | installEncryptedVault envelope vmk => exact undestroyed_install rt envelope vmk
  | unlock vmk nowMs =>
    rcases unlock_cases gcm rt vmk nowMs with ⟨_, _, he⟩ | ⟨_, _, _, _, _, he⟩ <;>
      exact .of_log (by simp [step, exec, he, log])
  | lock =>
    rcases lock_cases rt with ⟨_, he⟩ | ⟨_, _, he⟩ | ⟨_, _, he⟩ <;>
      exact .of_log (by simp [step, exec, he, log])
  | enterRecoveryBoundary =>
    rcases lock_cases rt with ⟨_, he⟩ | ⟨_, _, he⟩ | ⟨_, _, he⟩ <;>
      exact .of_log (by simp [step, exec, enterRecoveryBoundary_eq_lock, he, log])
  | enterVmkRekeyBoundary =>
    rcases enterVmkRekeyBoundary_cases rt with ⟨_, _, he⟩ | ⟨_, _, _, he⟩ <;>
      exact .of_log (by simp [step, exec, he, log, wipeVmk])
  | updateEncryptedVault expected envelope nowMs =>
    exact undestroyed_update rt expected envelope nowMs
  | rekeyEncryptedVault expected envelope vmk => exact undestroyed_rekey rt expected envelope vmk
  | listCredentials => exact undestroyed_resident rt (.inl rfl)
  | withCredential id consumer =>
    exact undestroyed_resident rt (.inr (.inl ⟨id, consumer, rfl⟩))
  | withWifi consumer => exact undestroyed_resident rt (.inr (.inr (.inl ⟨consumer, rfl⟩)))
  | setLastUsed id => exact undestroyed_resident rt (.inr (.inr (.inr ⟨id, rfl⟩)))

theorem Reaches.undestroyed {C : Call → Prop} (h : Reaches P.logged gcm C rt rt')
    (hC : ∀ call, C call → call.destructive = false) : Undestroyed rt rt' :=
  h.rel (fun _ => .of_log rfl) (fun _ _ _ h h' => h.trans h')
    fun rt call hc => step_undestroyed rt (hC call hc)

end

theorem destructive_of_tame {call : Call} (h : call.tame = true) : call.destructive = false := by
  cases call <;> simp [Call.tame] at h <;> rfl

end M5Auth.VaultRuntime.Runtime
