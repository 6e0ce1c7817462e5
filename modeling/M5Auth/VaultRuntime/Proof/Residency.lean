import M5Auth.VaultRuntime.Proof.SessionSteps

/-!
# Residency of the Vault master key

`vmk_residency`: in every run of public operations the key buffer is zero unless a key is marked
present, a key is present exactly in `kUnlocked`, leaving `kUnlocked` zeroes the buffer, and a
policy or an unlock time is left outside `kUnlocked` only between a re-key boundary and the next
change of the session. The persistence answers as it likes, and so does the decryption of each
operation: an input of the run is an operation with the decryption it meets.
-/

namespace M5Auth.VaultRuntime.Runtime

open Run Vault

variable {σ : Type} (P : Persistence σ) {gcm : GcmOpen} {rt rt' : Runtime σ}

/-! ## Operations -/

theorem closed_fatal (allowed : Bool) : Closed (rt.clearUnlockSessionState.fail allowed) :=
  ⟨by simp [fail], rfl, rfl, rfl, rfl, rfl⟩

theorem operate_session (rt : Runtime σ) (input : GcmOpen × Operation) :
    (∃ call, input.2 = .call call ∧ SessionStep input.1 rt call (rt.operate P input)) ∨
    rt.operate P input = rt ∨ Closed (rt.operate P input) := by
  obtain ⟨gcm, op⟩ := input
  cases op with
  | call call => exact .inl ⟨call, rfl, session_step P gcm rt call⟩
  | fatalSecurityError =>
    right
    rcases fatal_cases rt with ⟨_, he⟩ | ⟨_, he⟩
    · exact .inl he
    · exact .inr (show Closed rt.fatalSecurityError.2 from he ▸ closed_fatal true)

/-! ## The invariant -/

/-- What is resident, and when. -/
structure Resident (rt : Runtime σ) : Prop where
  zero : (∃ byte ∈ rt.vmk.1, byte ≠ 0) → rt.vmkPresent = true
  present : rt.vmkPresent = true ↔ rt.state = .unlocked
  session : rt.vmkPresent = true →
    rt.hasVault = true ∧ validEnvelopeFraming rt.envelope = true ∧ rt.unlockSessionActive = true

/-- The part of `Resident` that the state does not already decide. -/
structure Guarded (rt : Runtime σ) : Prop where
  zero : rt.vmkPresent = false → rt.vmk = Bytes.zero 32
  active : rt.state = .unlocked → rt.unlockSessionActive = true

theorem Closed.guarded (h : Closed rt) : Guarded rt :=
  ⟨fun _ => h.vmk, fun hst => absurd hst h.state⟩

theorem Guarded.of_session {call : Call} (h : Guarded rt) (hs : SessionStep gcm rt call rt') :
    Guarded rt' := by
  cases hs with
  | kept call world lastUsed => exact ⟨h.zero, h.active⟩
  | closed call hclosed => exact hclosed.guarded
  | opened vmk nowMs policy => exact ⟨nofun, fun _ => rfl⟩
  | suspended => exact ⟨fun _ => rfl, nofun⟩
  | updated expected envelope nowMs world lastUsed policy hunlocked =>
    exact ⟨h.zero, fun _ => h.active hunlocked⟩
  | rekeyed expected envelope vmk world lastUsed policy hlocked hactive =>
    exact ⟨nofun, fun _ => hactive⟩

theorem Guarded.operate (h : Guarded rt) (input : GcmOpen × Operation) :
    Guarded (rt.operate P input) := by
  rcases operate_session P rt input with ⟨call, _, hs⟩ | he | hclosed
  · exact h.of_session hs
  · rw [he]
    exact h
  · exact hclosed.guarded

theorem resident_of_guarded (hinv : Inv rt) (h : Guarded rt) : Resident rt where
  zero := by
    rintro ⟨byte, hmem, hne⟩
    by_contra hp
    rw [h.zero (by simpa using hp)] at hmem
    exact hne (List.eq_of_mem_replicate hmem)
  present := hinv.resident
  session hp := by
    have hst := hinv.resident.1 hp
    have hvault := hinv.vault (.inr hst)
    exact ⟨hvault.1, hvault.2.2.2, h.active hst⟩

/-! ## Leaving `kUnlocked` -/

/-- The step is `enter_vmk_rekey_boundary`: the key goes, the policy and the unlock time stay. -/
def Suspends (rt : Runtime σ) (input : GcmOpen × Operation) (rt' : Runtime σ) : Prop :=
  input.2 = .call .enterVmkRekeyBoundary ∧ rt.state = .unlocked ∧
    rt' = { rt.wipeVmk with state := .locked }

/-- The step changes nothing about the session. -/
def SameSession (rt rt' : Runtime σ) : Prop :=
  rt'.state = rt.state ∧ rt'.vmk = rt.vmk ∧ rt'.vmkPresent = rt.vmkPresent ∧
    rt'.autoLockDays = rt.autoLockDays ∧ rt'.unlockedSinceMs = rt.unlockedSinceMs ∧
    rt'.unlockSessionActive = rt.unlockSessionActive

theorem SameSession.refl (rt : Runtime σ) : SameSession rt rt := ⟨rfl, rfl, rfl, rfl, rfl, rfl⟩

theorem SameSession.trans {rt'' : Runtime σ} (h : SameSession rt rt')
    (h' : SameSession rt' rt'') : SameSession rt rt'' := by
  obtain ⟨h1, h2, h3, h4, h5, h6⟩ := h
  obtain ⟨h1', h2', h3', h4', h5', h6'⟩ := h'
  exact ⟨h1'.trans h1, h2'.trans h2, h3'.trans h3, h4'.trans h4, h5'.trans h5, h6'.trans h6⟩

theorem SameSession.closed (h : SameSession rt rt') (hc : Closed rt) : Closed rt' := by
  obtain ⟨h1, h2, h3, h4, h5, h6⟩ := h
  exact ⟨h1 ▸ hc.state, h2.trans hc.vmk, h3.trans hc.vmkPresent, h4.trans hc.autoLockDays,
    h5.trans hc.unlockedSinceMs, h6.trans hc.unlockSessionActive⟩

/-- A step that leaves `kUnlocked` zeroes the key buffer, and ends the session unless it is the
re-key boundary. -/
def ExitsClean (rt : Runtime σ) (input : GcmOpen × Operation) (rt' : Runtime σ) : Prop :=
  rt.state = .unlocked → rt'.state ≠ .unlocked →
    rt'.vmk = Bytes.zero 32 ∧ (Suspends rt input rt' ∨ Closed rt')

theorem operate_exits (rt : Runtime σ) (input : GcmOpen × Operation) :
    ExitsClean rt input (rt.operate P input) := by
  intro hst hne
  rcases operate_session P rt input with ⟨call, hcall, hs⟩ | he | hclosed
  · generalize rt.operate P input = rt' at hs hne ⊢
    cases hs with
    | kept call world lastUsed => exact absurd hst hne
    | closed call hclosed => exact ⟨hclosed.vmk, .inr hclosed⟩
    | opened vmk nowMs policy hlocked => exact absurd rfl hne
    | suspended => exact ⟨rfl, .inl ⟨hcall, hst, rfl⟩⟩
    | updated => exact absurd rfl hne
    | rekeyed => exact absurd rfl hne
  · rw [he] at hne
    exact absurd hst hne
  · exact ⟨hclosed.vmk, .inr hclosed⟩

/-- A session that is open outside `kUnlocked` was just suspended, or was so before the step. -/
theorem operate_leftover (rt : Runtime σ) (input : GcmOpen × Operation)
    (hst : (rt.operate P input).state ≠ .unlocked) (hopen : ¬ Closed (rt.operate P input)) :
    Suspends rt input (rt.operate P input) ∨
      ((rt.state ≠ .unlocked ∧ ¬ Closed rt) ∧ SameSession rt (rt.operate P input)) := by
  have hkept (h : SameSession rt (rt.operate P input)) :
      (rt.state ≠ .unlocked ∧ ¬ Closed rt) ∧ SameSession rt (rt.operate P input) :=
    ⟨⟨fun hu => hst (h.1.trans hu), fun hc => hopen (h.closed hc)⟩, h⟩
  rcases operate_session P rt input with ⟨call, hcall, hs⟩ | he | hclosed
  · generalize rt.operate P input = rt' at hs hst hopen hkept ⊢
    cases hs with
    | kept call world lastUsed => exact .inr (hkept ⟨rfl, rfl, rfl, rfl, rfl, rfl⟩)
    | closed call hclosed => exact absurd hclosed hopen
    | opened => exact absurd rfl hst
    | suspended hunlocked => exact .inl ⟨hcall, hunlocked, rfl⟩
    | updated => exact absurd rfl hst
    | rekeyed => exact absurd rfl hst
  · exact .inr (hkept (he.symm ▸ .refl rt))
  · exact absurd hclosed hopen

/-! ## Runs -/

section
variable (world : σ) (inp : Nat → GcmOpen × Operation) (n : Nat)

theorem guarded_operated : Guarded (stateAt (operate P) (new world) inp n) :=
  stateAt_inv ⟨fun _ => rfl, nofun⟩ (fun _ input h => h.operate P input) n

/-- Outside `kUnlocked`, what is left of a session was suspended and has not changed since. -/
theorem suspended_since (hst : (stateAt (operate P) (new world) inp n).state ≠ .unlocked)
    (hopen : ¬ Closed (stateAt (operate P) (new world) inp n)) :
    ∃ m, m < n ∧ StepAt (operate P) (new world) inp Suspends m ∧
      SameSession (stateAt (operate P) (new world) inp (m + 1))
        (stateAt (operate P) (new world) inp n) := by
  obtain ⟨m, hm⟩ := since (A := fun rt => rt.state ≠ .unlocked ∧ ¬ Closed rt)
    (J := fun _ => True) (C := fun _ _ => True) (B := Suspends)
    (Q := fun rt _ rt' => SameSession rt rt')
    (fun h => h.2 ⟨by simp [new], rfl, rfl, rfl, rfl, rfl⟩) (fun _ => trivial)
    (fun rt input _ _ h => operate_leftover P rt input h.1 h.2) (fun _ _ => trivial) ⟨hst, hopen⟩
  exact ⟨m, hm.before, hm.begun, hm.rel SameSession.refl (fun _ _ _ h h' => h.trans h')
    (fun _ _ _ h => h)⟩

/-- **VMK residency.** In every state of every run the key buffer is zero unless a key is present,
and a key is present exactly in `kUnlocked`, with a Vault and an active session; every exit from
`kUnlocked` zeroes the buffer and, unless it is the re-key boundary, ends the session; and a
session found open outside `kUnlocked` is the one a re-key boundary suspended, in `kLocked`. -/
theorem vmk_residency :
    Resident (stateAt (operate P) (new world) inp n) ∧
    StepAt (operate P) (new world) inp ExitsClean n ∧
    ((stateAt (operate P) (new world) inp n).state ≠ .unlocked →
      Closed (stateAt (operate P) (new world) inp n) ∨
      ((stateAt (operate P) (new world) inp n).state = .locked ∧
        ∃ m, m < n ∧ StepAt (operate P) (new world) inp Suspends m ∧
          SameSession (stateAt (operate P) (new world) inp (m + 1))
            (stateAt (operate P) (new world) inp n))) := by
  refine ⟨resident_of_guarded (inv_operated world inp n) (guarded_operated P world inp n),
    operate_exits P _ (inp n), fun hst => ?_⟩
  by_cases hclosed : Closed (stateAt (operate P) (new world) inp n)
  · exact .inl hclosed
  · obtain ⟨m, hm, hsusp, hsame⟩ := suspended_since P world inp n hst hclosed
    have hlocked : (stateAt (operate P) (new world) inp (m + 1)).state = .locked := by
      rw [hsusp.2.2]
    exact .inr ⟨hsame.1.trans hlocked, m, hm, hsusp, hsame⟩

end

end M5Auth.VaultRuntime.Runtime
