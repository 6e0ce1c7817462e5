import M5Auth.Lib.Run
import M5Auth.VaultRuntime.Proof.NvsReplace

/-!
# Crash atomicity of the two-slot store

A power loss is an oracle whose calls fail from some call on (`powerLoss`): the operation stops at
that call, and the write under way is present in the flash or absent. A run of `StoreOp`s over a
partition is any sequence of replacements and other operations, each under an oracle of its own,
so each completed, failed or cut at any call.

`crash_atomic`: along every such run from a store that loads a Vault, the partition always loads a
Vault, and a replacement leaves exactly the old one or exactly its candidate.
-/

namespace M5Auth.VaultRuntime

open FaultyStore FaultyStore.Prog Run Vault

/-! ## Operations of a power-on period -/

/-- Power is lost at call `call`; `present` tells whether the write under way reached the flash. -/
def powerLoss (call : Nat) (present : Bool) : Nat → Outcome NvsFault := fun n =>
  if n < call then .ok else .failed .other present

/-- An operation of the store and the oracle of its calls. -/
inductive StoreOp where
  | replaceEnvelope (expected : UInt64) (candidate : VaultEnvelope)
      (outcome : Nat → Outcome NvsFault)
  | setLastUsed (credentialId : Option CredentialId) (outcome : Nat → Outcome NvsFault)
  | load (outcome : Nat → Outcome NvsFault)

def StoreOp.isReplacement : StoreOp → Bool
  | .replaceEnvelope .. => true
  | _ => false

/-- What the operation leaves in the partition. -/
def storeStep (p : Partition) : StoreOp → Partition
  | .replaceEnvelope expected candidate outcome =>
    (NvsPersistence.replaceEnvelope expected candidate { content := p, outcome }).2.content
  | .setLastUsed credentialId outcome =>
    (NvsPersistence.setLastUsed credentialId { content := p, outcome }).2.content
  | .load outcome => (CompatibleNvsPersistence.load { content := p, outcome }).2.content

/-- The partition loads the Vault `envelope`. -/
def Loads (p : Partition) (envelope : VaultEnvelope) : Prop :=
  ∃ sn, loadNow p = .ok sn ∧ sn.schemaReady = true ∧ sn.hasVault = true ∧ sn.envelope = envelope

theorem loads_iff {p : Partition} {envelope : VaultEnvelope} :
    Loads p envelope ↔ ∃ slot, VaultAt p slot envelope := by
  constructor
  · rintro ⟨sn, hload, _, hv, rfl⟩
    exact vaultAt_of_loadNow hload hv
  · rintro ⟨slot, hat⟩
    exact hat.loads

/-- A partition loads one Vault at most. -/
theorem Loads.unique {p : Partition} {envelope envelope' : VaultEnvelope}
    (h : Loads p envelope) (h' : Loads p envelope') : envelope = envelope' := by
  obtain ⟨_, hat⟩ := loads_iff.1 h
  obtain ⟨_, hat'⟩ := loads_iff.1 h'
  exact hat.unique hat'

/-! ## One operation -/

/-- A candidate the generation check rejects: nothing is written, whatever fails. -/
theorem replaceEnvelope_refused {nvs : AuthNvs} {slot : UInt8} {envelope candidate : VaultEnvelope}
    {expected : UInt64} (h : VaultAt nvs.content slot envelope)
    (hrej : NvsPersistence.acceptsGeneration expected candidate (some (slot, envelope)) = false) :
    (NvsPersistence.replaceEnvelope expected candidate nvs).2.content = nvs.content := by
  have hkeeps : Keeps (· = nvs.content) (NvsPersistence.stageEnvelope expected candidate) := by
    refine .ite (Reads.throw _).keeps (.bind ?_ fun _ =>
      .bind_reads NvsPersistence.reads_readActive fun active hactive => ?_)
    · intro w hw
      have hat : VaultAt w.content slot envelope := by rwa [hw]
      exact (NvsPersistence.openForWrite_content hat).trans hw
    · obtain ⟨c, rfl, hval⟩ := hactive
      rw [h.readActive, Except.ok.injEq] at hval
      subst hval
      rw [if_pos (by simp [hrej])]
      exact (Reads.throw _).keeps
  have hcontent := hkeeps nvs rfl
  rcases hs : NvsPersistence.stageEnvelope expected candidate nvs with ⟨st | staged, nvs'⟩
  · rw [hs] at hcontent
    rw [NvsPersistence.replaceEnvelope, bind_of_error hs]
    exact hcontent
  · obtain ⟨active, hactive, _, hacc, _⟩ := NvsPersistence.stageEnvelope_ok hs
    rw [h.readActive, Except.ok.injEq] at hactive
    subst hactive
    exact absurd (hrej.symm.trans hacc) (by simp)

/-- The candidate is the successor of the Vault `old` that the caller expects to replace. -/
def Accepted (expected : UInt64) (old candidate : VaultEnvelope) : Prop :=
  NvsPersistence.acceptsGeneration expected candidate (some (0, old)) = true

/-- What an operation on a store that holds `old` leaves. A replacement leaves the old Vault or its
candidate; which of the two is decided by the write of the active-slot pointer. -/
structure Atomic (p : Partition) (op : StoreOp) (old : VaultEnvelope) : Prop where
  other : op.isReplacement = false → Loads (storeStep p op) old
  either : ∀ expected candidate outcome, op = .replaceEnvelope expected candidate outcome →
    Loads (storeStep p op) old ∨
      (Accepted expected old candidate ∧ Loads (storeStep p op) candidate)
  flipped : ∀ expected candidate outcome, op = .replaceEnvelope expected candidate outcome →
    (NvsPersistence.replaceEnvelope expected candidate { content := p, outcome }).1 = .ok () ∨
      NvsPersistence.TornFlip expected candidate { content := p, outcome } →
    Loads (storeStep p op) candidate
  mismatch : ∀ expected candidate outcome, op = .replaceEnvelope expected candidate outcome →
    ¬ Accepted expected old candidate → storeStep p op = p

theorem atomic_step {p : Partition} {old : VaultEnvelope} (h : Loads p old) (op : StoreOp) :
    Atomic p op old := by
  obtain ⟨slot, hat⟩ := loads_iff.1 h
  have hcases (expected : UInt64) (candidate : VaultEnvelope) (outcome : Nat → Outcome NvsFault) :=
    NvsPersistence.replaceEnvelope_cases (show VaultAt { content := p, outcome : AuthNvs }.content
      slot old from hat) (show NvsPersistence.replaceEnvelope expected candidate _ = (_, _) from rfl)
  constructor
  · intro hop
    cases op with
    | replaceEnvelope expected candidate outcome => simp [StoreOp.isReplacement] at hop
    | setLastUsed credentialId outcome =>
      exact loads_iff.2 ⟨slot, NvsPersistence.setLastUsed_keeps credentialId _ hat⟩
    | load outcome =>
      have hc : storeStep p (.load outcome) = p :=
        CompatibleNvsPersistence.reads_load.content { content := p, outcome }
      rw [hc]
      exact loads_iff.2 ⟨slot, hat⟩
  · rintro expected candidate outcome rfl
    rcases hcases expected candidate outcome with ⟨_, _, _, _, hold⟩ | ⟨hacc, hnew, _⟩
    · exact .inl (loads_iff.2 ⟨slot, hold⟩)
    · exact .inr ⟨hacc, loads_iff.2 ⟨_, hnew⟩⟩
  · rintro expected candidate outcome rfl hflip
    rcases hcases expected candidate outcome with ⟨st, hres, _, hnot, _⟩ | ⟨_, hnew, _⟩
    · rcases hflip with hok | htorn
      · exact absurd (hres.symm.trans hok) (by simp)
      · exact absurd htorn hnot
    · exact loads_iff.2 ⟨_, hnew⟩
  · rintro expected candidate outcome rfl hrej
    have hat' : VaultAt { content := p, outcome : AuthNvs }.content slot old := hat
    exact replaceEnvelope_refused hat' (Bool.not_eq_true _ ▸ hrej)

/-! ## Runs -/

/-- **Crash atomicity.** In every run of operations from a store that loads a Vault, each completed,
failed or cut at any of its calls, every state of the partition loads exactly one Vault: what a
replacement finds and leaves is `Atomic`, and until the next replacement the Vault stays. -/
theorem crash_atomic {p : Partition} {first : VaultEnvelope} (h : Loads p first)
    (ops : Nat → StoreOp) (n : Nat) :
    ∃ old, Loads (stateAt storeStep p ops n) old ∧
      Atomic (stateAt storeStep p ops n) (ops n) old ∧
      ∀ k, (∀ i, i < k → (ops (n + i)).isReplacement = false) →
        Loads (stateAt storeStep p ops (n + k)) old := by
  have hloads : ∃ old, Loads (stateAt storeStep p ops n) old := by
    refine stateAt_inv (P := fun p => ∃ old, Loads p old) ⟨first, h⟩ (fun p op hp => ?_) n
    obtain ⟨old, hold⟩ := hp
    have hatomic := atomic_step hold op
    cases op with
    | replaceEnvelope expected candidate outcome =>
      rcases hatomic.either expected candidate outcome rfl with hkeep | ⟨_, hnew⟩
      · exact ⟨old, hkeep⟩
      · exact ⟨candidate, hnew⟩
    | setLastUsed credentialId outcome => exact ⟨old, hatomic.other rfl⟩
    | load outcome => exact ⟨old, hatomic.other rfl⟩
  obtain ⟨old, hold⟩ := hloads
  refine ⟨old, hold, atomic_step hold (ops n), fun k => ?_⟩
  induction k with
  | zero => exact fun _ => hold
  | succ k ih =>
    intro hops
    have hk := ih fun i hi => hops i (Nat.lt_succ_of_lt hi)
    exact (atomic_step hk (ops (n + k))).other (hops k (Nat.lt_succ_self k))

def firstVault : VaultEnvelope := { generation := 1, ciphertext := [0] }

/-- The replacement by generation 2. Its power is lost at the commit of the pointer, its last call,
and the flip is present. -/
def cutReplacement : StoreOp :=
  .replaceEnvelope 1 { generation := 2, ciphertext := [0] } (powerLoss 11 true)

theorem crash_atomic_cut :
    ∃ old, Loads (stateAt storeStep (storedAt firstVault) (fun _ => cutReplacement) 1) old := by
  have hfirst : Loads (storedAt firstVault) firstVault :=
    loads_iff.2 ⟨0, vaultAt_storedAt (by decide)⟩
  obtain ⟨old, hold, _⟩ := crash_atomic hfirst (fun _ => cutReplacement) 1
  exact ⟨old, hold⟩

end M5Auth.VaultRuntime
