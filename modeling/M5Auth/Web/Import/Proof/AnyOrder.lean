import Mathlib.Data.List.Flatten
import Mathlib.Data.List.Perm.Subperm
import M5Auth.Web.Import.Proof.Migration

/-!
# Migrations in any order

The parts of a batch in any order, some of them more than once: `step_cases` says what one more code
does, and `running` what is held after some of them. The main result is `migration_import`: the
batch completes with the last part that is missing, if it fits, and never otherwise; a part that is
refused leaves no secret, and nothing that fails changes what is completed.
-/

namespace M5Auth.Web.Import

open Buffers (Memory Zero)

/-- A batch of codes: what each part contains. -/
structure MigrationBatch where
  id : Int
  size : Nat
  contents : Nat → List Content

/-- What the completed accounts are. -/
def ImportSession.contents (s : ImportSession) : List Content :=
  s.accounts.map (·.content s.memory)

namespace MigrationBatch

variable {ρ : Type} {platform : Platform ρ}

/-- The accounts of the batch, in the order of the parts. -/
def all (b : MigrationBatch) : List Content := (List.range b.size).flatMap b.contents

/-- A code shows a part of the batch. -/
structure Shows (b : MigrationBatch) (platform : Platform ρ) (index : Nat) (code : JsString) :
    Prop where
  scheme : (literal "otpauth-migration://").isPrefixOf code = true
  bound : index < b.size
  part : ∃ version, Import.Shows platform code ⟨version, b.size, index, b.id, b.contents index⟩

/-- Every part is there. -/
def Covers (b : MigrationBatch) (order : List Nat) : Prop := ∀ index < b.size, index ∈ order

/-- What is held after some parts. -/
structure HeldBy (b : MigrationBatch) (m : Memory) (order : List Nat) (batch : ActiveBatch) :
    Prop where
  id : batch.id = b.id
  size : batch.size = b.size
  keys : ∀ index : Nat, (index : Int) ∈ batch.parts.map Prod.fst ↔ index ∈ order
  contents : ∀ entry ∈ batch.parts, entry.2.map (·.content m) = b.contents entry.1.toNat

/-- A scheme is not a prefix of the other. -/
theorem not_standard {code : JsString}
    (h : (literal "otpauth-migration://").isPrefixOf code = true) :
    (literal "otpauth://").isPrefixOf code = false := by
  rw [← Bool.not_eq_true]
  intro hstandard
  rw [List.isPrefixOf_iff_prefix] at h hstandard
  have hprefix := List.prefix_of_prefix_length_le hstandard h (by decide +kernel)
  have hnot : ¬(literal "otpauth://") <+: (literal "otpauth-migration://") := by
    rw [← List.isPrefixOf_iff_prefix]
    decide +kernel
  exact hnot hprefix

theorem importDecodedText_eq (s : ImportSession) {code : JsString}
    (h : (literal "otpauth-migration://").isPrefixOf code = true) :
    s.importDecodedText platform code = s.importMigration platform code := by
  rw [ImportSession.importDecodedText, not_standard h, h]
  rfl

/-! ## Sizes -/

/-- The contents of what is held. -/
theorem HeldBy.held {b : MigrationBatch} {m : Memory} {order : List Nat} {batch : ActiveBatch}
    (h : b.HeldBy m order batch) : batch.held.map (·.content m) =
      (batch.parts.map Prod.fst).flatMap fun key => b.contents key.toNat := by
  rw [ActiveBatch.held, List.map_flatMap, List.flatMap_map]
  exact List.flatMap_congr fun entry hmem => h.contents entry hmem

/-- Different parts of the batch are not larger than the batch. -/
theorem flatMap_length_le (b : MigrationBatch) (keys : List Int) (hkeys : keys.Nodup)
    (hrange : ∀ key ∈ keys, 0 ≤ key ∧ key < b.size) :
    (keys.flatMap fun key => b.contents key.toNat).length ≤ b.all.length := by
  have hsub : keys ⊆ (List.range b.size).map Int.ofNat := by
    intro key hkey
    have h := hrange key hkey
    refine List.mem_map.2 ⟨key.toNat, List.mem_range.2 (by omega), ?_⟩
    exact Int.toNat_of_nonneg h.1
  obtain ⟨sub, hperm, hsublist⟩ := List.subperm_of_subset hkeys hsub
  have hlength := (hsublist.flatMap fun key => b.contents key.toNat).length_le
  rw [(hperm.flatMap_right _).length_eq, List.flatMap_map] at hlength
  exact hlength

/-- A batch without all its parts has one missing. -/
theorem HeldBy.missing {b : MigrationBatch} {m : Memory} {order : List Nat} {batch : ActiveBatch}
    (h : b.HeldBy m order batch) (hgood : batch.Good) : ¬b.Covers order := by
  intro hcovers
  have hsub : (List.range b.size).map Int.ofNat ⊆ batch.parts.map Prod.fst := by
    intro key hkey
    obtain ⟨index, hindex, rfl⟩ := List.mem_map.1 hkey
    exact (h.keys index).2 (hcovers index (List.mem_range.1 hindex))
  have hnodup : ((List.range b.size).map Int.ofNat).Nodup :=
    List.nodup_range.map fun _ _ heq => Int.ofNat.inj heq
  have hle := (List.subperm_of_subset hnodup hsub).length_le
  rw [List.length_map, List.length_range, List.length_map] at hle
  have hmissing := hgood.missing
  rw [h.size] at hmissing
  omega

/-! ## One more code -/

/-- What a session holds of the batch: nothing, or the parts of `order`. -/
def Holding (b : MigrationBatch) (order : List Nat) (s : ImportSession) : Prop :=
  (s.assembler.active = none ∧ order = []) ∨
    ∃ batch, s.assembler.active = some batch ∧ b.HeldBy s.memory order batch

/-- What a code of the batch does after the parts of `order`. -/
inductive Stepped (b : MigrationBatch) (s : ImportSession) (order : List Nat) (index : Nat) :
    Except ImportError ImportSessionUpdate × ImportSession → Prop where
  | refused (error : ImportError) (m : Memory) (hover : s.capacity < b.all.length) :
      Stepped b s order index (.error error, ⟨{}, s.accounts, m⟩)
  | incomplete (received : Nat) {batch : ActiveBatch} {m : Memory}
      (hheld : b.HeldBy m (order ++ [index]) batch) (hmissing : ¬b.Covers (order ++ [index])) :
      Stepped b s order index
        (.ok ⟨s.preview, some (received, b.size)⟩, ⟨⟨some batch⟩, s.accounts, m⟩)
  | complete {accounts : List ImportedTotpAccount} {m : Memory}
      (hcovers : b.Covers (order ++ [index])) (hfits : b.all.length ≤ s.capacity)
      (hcontents : accounts.map (·.content m) = b.all) :
      Stepped b s order index (.ok ⟨(s.accounts ++ accounts).map previewAccount, none⟩,
        ⟨{}, s.accounts ++ accounts, m⟩)

/-- The batch that a session holds, or an empty one. -/
theorem Holding.batch {b : MigrationBatch} {order : List Nat} {s : ImportSession}
    (h : b.Holding order s) {batch : ActiveBatch}
    (hbatch : s.assembler.active.getD ⟨b.id, b.size, []⟩ = batch) :
    b.HeldBy s.memory order batch ∧ batch.held = s.assembler.held := by
  rcases h with ⟨hnone, rfl⟩ | ⟨batch', hsome, hheld⟩
  · rw [hnone, Option.getD_none] at hbatch
    subst hbatch
    refine ⟨⟨rfl, rfl, fun index => by simp, fun entry hmem => by cases hmem⟩, ?_⟩
    rw [MigrationBatchAssembler.held, hnone]
    rfl
  · rw [hsome, Option.getD_some] at hbatch
    subst hbatch
    refine ⟨hheld, ?_⟩
    rw [MigrationBatchAssembler.held, hsome]

/-- What is held stays the same if its buffers do. -/
theorem HeldBy.same {b : MigrationBatch} {m m' : Memory} {order : List Nat} {batch : ActiveBatch}
    (h : b.HeldBy m order batch) (hsame : ∀ ref ∈ secrets batch.held, m'.read ref = m.read ref) :
    b.HeldBy m' order batch where
  id := h.id
  size := h.size
  keys := h.keys
  contents := fun entry hmem => by
    rw [← h.contents entry hmem]
    refine contents_congr fun ref href => hsame ref ?_
    obtain ⟨account, haccount, rfl⟩ := List.mem_map.1 href
    exact List.mem_map_of_mem (List.mem_flatMap.2 ⟨entry, hmem, haccount⟩)

/-- A part that is held already. -/
theorem HeldBy.again {b : MigrationBatch} {m : Memory} {order : List Nat} {batch : ActiveBatch}
    {index : Nat} (h : b.HeldBy m order batch) (hmem : index ∈ order) :
    b.HeldBy m (order ++ [index]) batch where
  id := h.id
  size := h.size
  keys := fun index' => by
    rw [h.keys index', List.mem_append, List.mem_singleton]
    constructor
    · exact .inl
    · intro h'
      rcases h' with h' | rfl
      · exact h'
      · exact hmem
  contents := h.contents

/-- A part more is held. -/
theorem HeldBy.push {b : MigrationBatch} {m : Memory} {order : List Nat} {batch : ActiveBatch}
    {index : Nat} {accounts : List ImportedTotpAccount} (h : b.HeldBy m order batch)
    (hcontents : accounts.map (·.content m) = b.contents index) :
    b.HeldBy m (order ++ [index]) (batch.push (↑index, accounts)) where
  id := h.id
  size := h.size
  keys := fun index' => by
    rw [ActiveBatch.push, List.map_append, List.mem_append, h.keys index', List.map_singleton,
      List.mem_singleton, List.mem_append, List.mem_singleton, Int.natCast_inj]
  contents := fun entry hmem => by
    rcases List.mem_append.1 hmem with hold | hlast
    · exact h.contents entry hold
    · rw [List.mem_singleton.1 hlast]
      exact hcontents

/-- A full batch has all the contents. -/
theorem HeldBy.full {b : MigrationBatch} {m : Memory} {order : List Nat} {batch : ActiveBatch}
    (h : b.HeldBy m order batch) (hkeys : (batch.parts.map Prod.fst).Nodup)
    (hindex : ∀ entry ∈ batch.parts, 0 ≤ entry.1 ∧ entry.1 < batch.size)
    (hfull : (batch.parts.length : Int) = batch.size) :
    b.Covers order ∧
      (batch.partsAt (List.range batch.size.toNat)).map (·.content m) = b.all := by
  have hsize : batch.size.toNat = b.size := by
    rw [h.size]
    rfl
  have hmem (index : Nat) (hlt : index < b.size) : (index : Int) ∈ batch.parts.map Prod.fst :=
    ActiveBatch.full hkeys hindex hfull (by omega)
  refine ⟨fun index hlt => (h.keys index).1 (hmem index hlt), ?_⟩
  rw [hsize, ActiveBatch.partsAt, List.map_flatMap, all]
  refine List.flatMap_congr fun index hrange => ?_
  obtain ⟨⟨key, accounts⟩, hentry, hkey⟩ := List.mem_map.1 (hmem index (List.mem_range.1 hrange))
  cases hkey
  have hlookup : batch.parts.lookup (index : Int) = some accounts :=
    ActiveBatch.lookup_of_mem hkeys hentry
  rw [Int.ofNat_eq_natCast, hlookup, Option.getD_some]
  exact h.contents _ hentry

/-- A batch of which a part is refused does not fit. -/
theorem too_large {b : MigrationBatch} {s : ImportSession} {order : List Nat} {index : Nat}
    (hinv : s.Inv) (hindex : index < b.size) (hholding : b.Holding order s)
    (hrefused : s.assembler.Foreign b.id b.size ∨
      s.assembler.Overflows index (b.contents index).length s.capacity) :
    s.capacity < b.all.length := by
  rcases hrefused with ⟨batch, hactive, hdiffers⟩ | hover | ⟨batch, hactive, hnew, hover⟩
  · rcases hholding with ⟨hnone, -⟩ | ⟨batch', hsome, hheld⟩
    · cases hnone.symm.trans hactive
    · cases hsome.symm.trans hactive
      rw [hheld.id, hheld.size] at hdiffers
      simp at hdiffers
  · have hle := flatMap_length_le b [(index : Int)] (List.nodup_singleton _)
      fun key hkey => by
        rw [List.mem_singleton.1 hkey]
        omega
    rw [List.flatMap_singleton, Int.toNat_natCast] at hle
    omega
  · rcases hholding with ⟨hnone, -⟩ | ⟨batch', hsome, hheld⟩
    · cases hnone.symm.trans hactive
    · cases hsome.symm.trans hactive
      have hgood := hinv.batch batch hactive
      have hle := flatMap_length_le b (batch.parts.map Prod.fst ++ [(index : Int)])
        (List.nodup_append.2 ⟨hgood.keys, List.nodup_singleton _, fun key hkey key' hkey' heq => by
          rw [List.mem_singleton.1 hkey'] at heq
          rw [heq] at hkey
          exact ActiveBatch.lookup_none.1 hnew hkey⟩)
        fun key hkey => by
          rcases List.mem_append.1 hkey with hold | hlast
          · obtain ⟨entry, hentry, rfl⟩ := List.mem_map.1 hold
            have hrange := hgood.index entry hentry
            rw [hheld.size] at hrange
            exact hrange
          · rw [List.mem_singleton.1 hlast]
            omega
      rw [List.flatMap_append, ← hheld.held, List.flatMap_singleton, List.length_append,
        List.length_map, Int.toNat_natCast, ← ActiveBatch.pendingCount_eq] at hle
      omega

/-- **What one more code of the batch does.** -/
theorem step_cases {b : MigrationBatch} {s : ImportSession} {order : List Nat} {index : Nat}
    {code : JsString} (hinv : s.Inv) (hsize : 2 ≤ b.size) (hcode : b.Shows platform index code)
    (hholding : b.Holding order s) :
    b.Stepped s order index (s.importDecodedText platform code) := by
  obtain ⟨version, hshows⟩ := hcode.part
  have hscan := (shows_iff platform).1 hshows
  obtain ⟨himported, hinv', hkeeps⟩ := ImportSession.importMigration_cases hinv hscan
  rw [importDecodedText_eq s hcode.scheme]
  generalize s.importMigration platform code = result at himported hinv' hkeeps ⊢
  cases himported with
  | refused error m hrefused =>
    exact .refused error m (too_large hinv hcode.bound hholding hrefused)
  | single hactive hone _ _ =>
    dsimp only at hone
    omega
  | @repeated batch m hactive hid hbatchSize hheld hfits =>
    have hbatch := hholding.batch (by rw [hactive, Option.getD_some])
    have hagain := (hbatch.1.same fun ref hmem => hkeeps ref
      (by rw [ImportSession.all, ← hbatch.2, secrets_append]; exact List.mem_append_left _ hmem)
      (by rw [ImportSession.all, secrets_append]; exact List.mem_append_left _ hmem)).again
        ((hbatch.1.keys index).1 hheld)
    rw [hbatchSize]
    exact .incomplete _ hagain (hagain.missing (hinv.batch batch hactive))
  | @kept batch accounts m hbatch hid hbatchSize hnew hcontents hfits =>
    have hheld := hholding.batch hbatch
    have hpush := (hheld.1.same fun ref hmem => hkeeps ref
      (by rw [ImportSession.all, ← hheld.2, secrets_append]; exact List.mem_append_left _ hmem)
      (by
        change ref ∈ secrets ((batch.push (index, accounts)).held ++ s.accounts)
        rw [ActiveBatch.held_push, secrets_append, secrets_append]
        exact List.mem_append_left _ (List.mem_append_left _ hmem))).push hcontents
    rw [hbatchSize]
    exact .incomplete _ hpush (hpush.missing (hinv'.batch _ rfl))
  | @completed batch accounts m hbatch hid hbatchSize hnew hcontents hfits hkeys hindex hfull =>
    have hheld := hholding.batch hbatch
    have hperm := ActiveBatch.partsAt_perm hkeys hindex hfull
    have hpush := (hheld.1.same fun ref hmem => hkeeps ref
      (by rw [ImportSession.all, ← hheld.2, secrets_append]; exact List.mem_append_left _ hmem)
      (by
        rw [ImportSession.all, secrets_append, secrets_append]
        refine List.mem_append_right _ (List.mem_append_right _ ?_)
        refine (secrets_perm hperm).mem_iff.2 ?_
        rw [ActiveBatch.held_push, secrets_append]
        exact List.mem_append_left _ hmem)).push hcontents
    obtain ⟨hcovers, hall⟩ := hpush.full hkeys hindex hfull
    refine .complete hcovers ?_ hall
    rw [← hall, List.length_map, hperm.length_eq]
    exact hfits

/-! ## Some codes -/

/-- A session that took codes of the batch and completed none. -/
structure Running (b : MigrationBatch) (start : ImportSession) (order : List Nat)
    (s : ImportSession) : Prop where
  inv : s.Inv
  accounts : s.accounts = start.accounts
  contents : s.contents = start.contents
  holding : b.Holding order s

theorem Running.capacity {b : MigrationBatch} {start s : ImportSession} {order : List Nat}
    (h : b.Running start order s) : s.capacity = start.capacity := by
  rw [ImportSession.capacity, h.accounts]
  rfl

/-- The accounts that stay keep their contents. -/
theorem contents_of_keeps {s s' : ImportSession} (h : s.Keeps s')
    (hstay : ∀ account ∈ s.accounts, account ∈ s'.accounts) :
    s.accounts.map (·.content s'.memory) = s.contents := by
  refine contents_congr fun ref hmem => ?_
  obtain ⟨account, haccount, rfl⟩ := List.mem_map.1 hmem
  apply h
  · exact List.mem_map_of_mem (List.mem_append_right _ haccount)
  · exact List.mem_map_of_mem (List.mem_append_right _ (hstay account haccount))

/-- A code that completes nothing. -/
theorem Running.step {b : MigrationBatch} {start s : ImportSession} {order order' : List Nat}
    {code : JsString} {outcome : Except ImportError ImportSessionUpdate} {s' : ImportSession}
    (h : b.Running start order s) (hresult : s.importDecodedText platform code = (outcome, s'))
    (haccounts : s'.accounts = s.accounts) (hholding : b.Holding order' s') :
    b.Running start order' s' := by
  obtain ⟨hinv, hkeeps, -⟩ := ImportSession.importDecodedText_cases platform h.inv code
  rw [hresult] at hinv hkeeps
  refine ⟨hinv, haccounts.trans h.accounts, ?_, hholding⟩
  rw [ImportSession.contents, haccounts, contents_of_keeps hkeeps (by rw [haccounts]; simp)]
  exact h.contents

/-- If the batch fits, the parts are held until none is missing. -/
theorem running {b : MigrationBatch} {start s : ImportSession} {order : List Nat}
    (hsize : 2 ≤ b.size) (hfits : b.all.length ≤ start.capacity) (codes : List (Nat × JsString))
    (h : b.Running start order s) (hcodes : ∀ code ∈ codes, b.Shows platform code.1 code.2)
    (hmissing : ¬b.Covers (order ++ codes.map Prod.fst)) :
    b.Running start (order ++ codes.map Prod.fst)
      (s.importTexts platform (codes.map Prod.snd)) := by
  induction codes generalizing s order with
  | nil =>
    rw [List.map_nil, List.append_nil]
    exact h
  | cons code codes ih =>
    have happend : order ++ (code :: codes).map Prod.fst =
        (order ++ [code.1]) ++ codes.map Prod.fst := by
      simp
    rw [happend] at hmissing ⊢
    have hnext : b.Running start (order ++ [code.1]) (s.importDecodedText platform code.2).2 := by
      have hstep := step_cases h.inv hsize (hcodes code List.mem_cons_self) h.holding
      cases hresult : s.importDecodedText platform code.2 with
      | mk outcome after =>
        rw [hresult] at hstep
        cases hstep with
        | refused error m hover =>
          rw [h.capacity] at hover
          omega
        | incomplete received hheld _ => exact h.step hresult rfl (.inr ⟨_, rfl, hheld⟩)
        | complete hcovers _ _ =>
          exact absurd (fun index hlt => List.mem_append_left _ (hcovers index hlt)) hmissing
    exact ih hnext (fun code hmem => hcodes code (List.mem_cons_of_mem _ hmem)) hmissing

/-- If the batch does not fit, its parts are held or dropped and never completed. -/
theorem running_over {b : MigrationBatch} {start s : ImportSession} {order : List Nat}
    (hsize : 2 ≤ b.size) (hover : start.capacity < b.all.length) (codes : List (Nat × JsString))
    (h : b.Running start order s) (hcodes : ∀ code ∈ codes, b.Shows platform code.1 code.2) :
    ∃ order, b.Running start order (s.importTexts platform (codes.map Prod.snd)) := by
  induction codes generalizing s order with
  | nil => exact ⟨order, h⟩
  | cons code codes ih =>
    have hnext : ∃ order, b.Running start order (s.importDecodedText platform code.2).2 := by
      have hstep := step_cases h.inv hsize (hcodes code List.mem_cons_self) h.holding
      cases hresult : s.importDecodedText platform code.2 with
      | mk outcome after =>
        rw [hresult] at hstep
        cases hstep with
        | refused error m _ => exact ⟨[], h.step hresult rfl (.inl ⟨rfl, rfl⟩)⟩
        | incomplete received hheld _ => exact ⟨_, h.step hresult rfl (.inr ⟨_, rfl, hheld⟩)⟩
        | complete _ hfits _ =>
          rw [h.capacity] at hfits
          omega
    obtain ⟨order', hnext⟩ := hnext
    exact ih hnext fun code hmem => hcodes code (List.mem_cons_of_mem _ hmem)

end MigrationBatch

/-! ## Imports -/

namespace ImportSession

variable {ρ : Type} (platform : Platform ρ) (s : ImportSession)

/-- A batch that fits completes with the last part that is missing, in any order. -/
def CompletesInAnyOrder : Prop :=
  ∀ b : MigrationBatch, 2 ≤ b.size → b.all.length ≤ s.capacity → s.assembler.active = none →
    ∀ codes : List (Nat × JsString), (∀ code ∈ codes, b.Shows platform code.1 code.2) →
      ¬b.Covers (codes.map Prod.fst) → ∀ index code, b.Shows platform index code →
        let before := s.importTexts platform (codes.map Prod.snd)
        let result := before.importDecodedText platform code
        (b.Covers (codes.map Prod.fst ++ [index]) →
          result.1 = .ok ⟨result.2.preview, none⟩ ∧ result.2.assembler.active = none ∧
            result.2.contents = s.contents ++ b.all) ∧
        (¬b.Covers (codes.map Prod.fst ++ [index]) →
          (∃ received, result.1 = .ok ⟨s.preview, some (received, b.size)⟩) ∧
            result.2.assembler.hasPending = true ∧ result.2.contents = s.contents)

/-- A batch that does not fit never completes. -/
def NeverOverflows : Prop :=
  ∀ b : MigrationBatch, 2 ≤ b.size → s.capacity < b.all.length → s.assembler.active = none →
    ∀ codes : List (Nat × JsString), (∀ code ∈ codes, b.Shows platform code.1 code.2) →
      ∀ index code, b.Shows platform index code →
        let before := s.importTexts platform (codes.map Prod.snd)
        let result := before.importDecodedText platform code
        (∀ accounts, result.1 ≠ .ok ⟨accounts, none⟩) ∧ result.2.contents = s.contents

/-- A part of another batch, or one that does not fit, is refused, and the secrets that were pending
and those of the part are wiped. -/
def WipesRefused : Prop :=
  ∀ code scanned, (literal "otpauth-migration://").isPrefixOf code = true →
    Shows platform code scanned →
    (s.assembler.Foreign scanned.id scanned.size ∨
      s.assembler.Overflows scanned.index scanned.contents.length s.capacity) →
      let result := s.importDecodedText platform code
      (∃ error, result.1 = .error error) ∧ result.2.assembler.active = none ∧
        result.2.accounts = s.accounts ∧
        ∀ ref, ref ∉ secrets s.accounts → Zero (result.2.memory.read ref)

/-- What fails leaves the completed accounts as they are. -/
def KeepsCompleted : Prop :=
  ∀ code error, (s.importDecodedText platform code).1 = .error error →
    (s.importDecodedText platform code).2.accounts = s.accounts ∧
      (s.importDecodedText platform code).2.contents = s.contents

/-- Nothing is left after `clear`. -/
def Clears : Prop :=
  s.clear.assembler.active = none ∧ s.clear.accounts = [] ∧
    ∀ ref, Zero (s.clear.memory.read ref)

variable {platform s}

theorem Inv.running (h : Inv s) (hnone : s.assembler.active = none) (b : MigrationBatch) :
    b.Running s [] s :=
  ⟨h, rfl, rfl, .inl ⟨hnone, rfl⟩⟩

theorem Inv.completesInAnyOrder (h : Inv s) : s.CompletesInAnyOrder platform := by
  intro b hsize hfits hnone codes hcodes hmissing index code hcode
  have hrunning := MigrationBatch.running hsize hfits codes (h.running hnone b) hcodes hmissing
  rw [List.nil_append] at hrunning
  dsimp only
  generalize s.importTexts platform (codes.map Prod.snd) = before at hrunning
  have hstep := MigrationBatch.step_cases hrunning.inv hsize hcode hrunning.holding
  have hcase := ImportSession.importDecodedText_cases platform hrunning.inv code
  cases hresult : before.importDecodedText platform code with
  | mk outcome after =>
    rw [hresult] at hstep hcase
    cases hstep with
    | refused error m hover =>
      rw [hrunning.capacity] at hover
      omega
    | incomplete received hheld hmissing' =>
      have hafter := hrunning.step hresult rfl (.inr ⟨_, rfl, hheld⟩)
      refine ⟨fun hcovers => absurd hcovers hmissing', fun _ => ⟨⟨received, ?_⟩, rfl, ?_⟩⟩
      · rw [preview, preview, hrunning.accounts]
      · exact hafter.contents
    | @complete accounts m hcovers _ hcontents =>
      refine ⟨fun _ => ⟨rfl, rfl, ?_⟩, fun hmissing' => absurd hcovers hmissing'⟩
      have hold := MigrationBatch.contents_of_keeps hcase.2.1
        fun account hmem => List.mem_append_left _ hmem
      rw [contents, List.map_append, hold, hcontents, hrunning.contents]

theorem Inv.neverOverflows (h : Inv s) : s.NeverOverflows platform := by
  intro b hsize hover hnone codes hcodes index code hcode
  obtain ⟨order, hrunning⟩ := MigrationBatch.running_over hsize hover codes
    (h.running hnone b) hcodes
  dsimp only
  generalize s.importTexts platform (codes.map Prod.snd) = before at hrunning
  have hstep := MigrationBatch.step_cases hrunning.inv hsize hcode hrunning.holding
  cases hresult : before.importDecodedText platform code with
  | mk outcome after =>
    rw [hresult] at hstep
    cases hstep with
    | refused error m _ =>
      exact ⟨fun _ h => (by cases h), (hrunning.step hresult rfl (.inl ⟨rfl, rfl⟩)).contents⟩
    | incomplete received hheld _ =>
      exact ⟨fun _ h => (by cases h), (hrunning.step hresult rfl (.inr ⟨_, rfl, hheld⟩)).contents⟩
    | complete _ hfits _ =>
      rw [hrunning.capacity] at hfits
      omega

theorem Inv.wipesRefused (h : Inv s) : s.WipesRefused platform := by
  intro code scanned hscheme hshows hrefused
  have hscan := (shows_iff platform).1 hshows
  obtain ⟨error, m, hresult⟩ := importMigration_refused h hscan hrefused
  have hinv := (importMigration_cases h hscan).2.1
  rw [hresult] at hinv
  dsimp only
  rw [MigrationBatch.importDecodedText_eq s hscheme, hresult]
  exact ⟨⟨error, rfl⟩, rfl, rfl, fun ref hnot => hinv.live.clean ref hnot⟩

theorem Inv.keepsCompleted (h : Inv s) : s.KeepsCompleted platform := by
  intro code error herror
  obtain ⟨-, hkeeps, hsame⟩ := importDecodedText_cases platform h code
  have haccounts := hsame error herror
  refine ⟨haccounts, ?_⟩
  rw [contents, haccounts]
  exact MigrationBatch.contents_of_keeps hkeeps (by rw [haccounts]; simp)

theorem Inv.clears (h : Inv s) : s.Clears := by
  obtain ⟨-, hassembler, haccounts, hzero⟩ := h.clear
  exact ⟨by rw [hassembler], haccounts, hzero⟩

/-- **In every session that can be reached, a batch that fits completes with its last missing part,
in any order of its codes, one that does not fit never completes, what is refused is wiped, what
fails changes no completed account, there are at most 32 of them, and `clear` leaves no secret.** -/
theorem migration_import (h : Reachable platform s) :
    s.CompletesInAnyOrder platform ∧ s.NeverOverflows platform ∧ s.WipesRefused platform ∧
      s.KeepsCompleted platform ∧ s.accounts.length ≤ 32 ∧ s.Clears := by
  have hinv := h.inv
  refine ⟨hinv.completesInAnyOrder, hinv.neverOverflows, hinv.wipesRefused, hinv.keepsCompleted,
    ?_, hinv.clears⟩
  have hroom := hinv.room
  rw [all, List.length_append] at hroom
  exact Nat.le_trans (Nat.le_add_left _ _) hroom

/-! ### Two codes -/

/-- A reader of bytes and numbers below 128, with its position and its input. -/
def smallReader : Reader (Nat × List UInt8) where
  create := fun input => (0, input)
  pos := Prod.fst
  len := fun state => state.2.length
  uint32 := fun (pos, input) => input[pos]?.map fun byte => (byte.toUInt32, pos + 1, input)
  int32 := fun (pos, input) =>
    input[pos]?.map fun byte => (Int32.ofInt byte.toNat, pos + 1, input)
  uint64 := fun (pos, input) => input[pos]?.map fun byte => (byte.toUInt64, pos + 1, input)
  bytes := fun (pos, input) => input[pos]?.map fun length =>
    ((input.drop (pos + 1)).take length.toNat, pos + 1 + length.toNat, input)
  string := fun (pos, input) => input[pos]?.map fun length =>
    (((input.drop (pos + 1)).take length.toNat).map (·.toUInt16), pos + 1 + length.toNat, input)
  skipType := fun _ _ => none

/-- A platform for migrations with their data after the scheme. -/
def smallPlatform : Platform (Nat × List UInt8) where
  newUrl := fun source => some ⟨literal "otpauth-migration:", literal "offline", [],
    [(literal "data", source.drop (literal "otpauth-migration://offline?data=").length)]⟩
  toLowerCase := id
  toUpperCase := id
  decodeURIComponent := some
  reader := smallReader

/-- A code of the batch 7 of two parts, with one account. -/
def smallCode (index : UInt8) : JsString :=
  literal "otpauth-migration://offline?data=" ++
    btoa [10, 12, 10, 1, index + 1, 18, 1, 65, 32, 1, 40, 1, 48, 2, 16, 2, 24, 2, 32, index, 40, 7]

def smallBatch : MigrationBatch where
  id := 7
  size := 2
  contents := fun index => [⟨[], [65], [UInt8.ofNat index + 1]⟩]

/-- What the two codes evaluate to. -/
theorem smallCodes_evaluated :
    ((literal "otpauth-migration://").isPrefixOf (smallCode 0) = true ∧
      (literal "otpauth-migration://").isPrefixOf (smallCode 1) = true) ∧
    scan smallPlatform (smallCode 0) =
      .ok ⟨2, smallBatch.size, 0, smallBatch.id, smallBatch.contents 0⟩ ∧
    scan smallPlatform (smallCode 1) =
      .ok ⟨2, smallBatch.size, 1, smallBatch.id, smallBatch.contents 1⟩ := by
  decide +kernel

theorem smallCode_first : smallBatch.Shows smallPlatform 0 (smallCode 0) where
  scheme := smallCodes_evaluated.1.1
  bound := by decide
  part := ⟨2, (shows_iff _).2 smallCodes_evaluated.2.1⟩

theorem smallCode_second : smallBatch.Shows smallPlatform 1 (smallCode 1) where
  scheme := smallCodes_evaluated.1.2
  bound := by decide
  part := ⟨2, (shows_iff _).2 smallCodes_evaluated.2.2⟩

/-- The second code before the first. -/
theorem migration_import_swapped :
    ((({} : ImportSession).importTexts smallPlatform [smallCode 1]).importDecodedText smallPlatform
      (smallCode 0)).2.contents = [⟨[], [65], [1]⟩, ⟨[], [65], [2]⟩] := by
  have hcomplete := (migration_import (Reachable.initial : Reachable smallPlatform {})).1 smallBatch
    (by decide) (by decide) rfl [(1, smallCode 1)]
    (fun code hmem => by
      rw [List.mem_singleton.1 hmem]
      exact smallCode_second)
    (fun hcovers => absurd (hcovers 0 (by decide)) (by simp)) 0 (smallCode 0) smallCode_first
  have hcovers : smallBatch.Covers ([(1, smallCode 1)].map Prod.fst ++ [0]) := by
    intro index hlt
    have hsize : index < 2 := hlt
    simp
    omega
  exact (hcomplete.1 hcovers).2.2

end ImportSession

end M5Auth.Web.Import
