import Mathlib.Data.List.Nodup
import Mathlib.Data.List.Perm.Subperm
import M5Auth.Web.Import.Proof.Parts

/-!
# Putting the parts together

What `MigrationBatchAssembler.add` does with a part (`add_cases`): it refuses the part and wipes
everything, drops a part that it holds, keeps a new one, or completes the batch. A full batch yields
its parts in the order of their indices (`ActiveBatch.collect_some`).
-/

namespace M5Auth.Web.Import

open Buffers (Memory Zero)

/-! ## Batches -/

/-- The entry of a part in the map of its batch. -/
def GoogleMigrationPart.entry (part : GoogleMigrationPart) : Int × List ImportedTotpAccount :=
  (part.batchIndex, part.accounts)

namespace ActiveBatch

/-- A batch of distinct parts that are not all there yet. -/
structure Good (batch : ActiveBatch) : Prop where
  keys : (batch.parts.map Prod.fst).Nodup
  index : ∀ part ∈ batch.parts, 0 ≤ part.1 ∧ part.1 < batch.size
  size : 2 ≤ batch.size
  missing : batch.parts.length < batch.size

/-- The batch with one part more. -/
def push (batch : ActiveBatch) (entry : Int × List ImportedTotpAccount) : ActiveBatch :=
  { batch with parts := batch.parts ++ [entry] }

theorem held_push (batch : ActiveBatch) (entry : Int × List ImportedTotpAccount) :
    (batch.push entry).held = batch.held ++ entry.2 := by
  simp [held, push]

theorem pendingCount_eq (batch : ActiveBatch) : batch.pendingCount = batch.held.length := by
  rw [pendingCount, held, List.length_flatMap]

theorem lookup_none {parts : List (Int × List ImportedTotpAccount)} {index : Int} :
    parts.lookup index = none ↔ index ∉ parts.map Prod.fst := by
  rw [List.lookup_eq_none_iff]
  constructor
  · intro h hmem
    obtain ⟨part, hpart, rfl⟩ := List.mem_map.1 hmem
    have hne := h part hpart
    simp at hne
  · intro h part hpart
    rw [bne_iff_ne]
    intro heq
    exact h (heq ▸ List.mem_map_of_mem hpart)

theorem lookup_of_mem {parts : List (Int × List ImportedTotpAccount)}
    (hkeys : (parts.map Prod.fst).Nodup) {index : Int} {accounts : List ImportedTotpAccount}
    (h : (index, accounts) ∈ parts) : parts.lookup index = some accounts := by
  induction parts with
  | nil => cases h
  | cons first rest ih =>
    rw [List.map_cons, List.nodup_cons] at hkeys
    obtain ⟨key, value⟩ := first
    rw [List.lookup_cons]
    rcases List.mem_cons.1 h with hfirst | hrest
    · cases hfirst
      simp
    · have hne : index ≠ key := by
        intro heq
        rw [← heq] at hkeys
        exact hkeys.1 (List.mem_map.2 ⟨(index, accounts), hrest, rfl⟩)
      rw [beq_eq_false_iff_ne.2 hne]
      exact ih hkeys.2 hrest

/-- A batch with as many parts as its size has all of them. -/
theorem full {batch : ActiveBatch} (hkeys : (batch.parts.map Prod.fst).Nodup)
    (hindex : ∀ part ∈ batch.parts, 0 ≤ part.1 ∧ part.1 < batch.size)
    (hfull : (batch.parts.length : Int) = batch.size) {index : Nat}
    (hlt : index < batch.size.toNat) : Int.ofNat index ∈ batch.parts.map Prod.fst := by
  let all := (List.range batch.size.toNat).map Int.ofNat
  have hsub : batch.parts.map Prod.fst ⊆ all := by
    intro key hkey
    obtain ⟨part, hpart, rfl⟩ := List.mem_map.1 hkey
    have hrange := hindex part hpart
    refine List.mem_map.2 ⟨part.1.toNat, List.mem_range.2 (by omega), ?_⟩
    exact Int.toNat_of_nonneg hrange.1
  have hperm : (batch.parts.map Prod.fst).Perm all := by
    refine (List.subperm_of_subset hkeys hsub).perm_of_length_le ?_
    simp only [all, List.length_map, List.length_range]
    omega
  exact hperm.mem_iff.2 (List.mem_map_of_mem (List.mem_range.2 hlt))

/-- The accounts of the parts with some indices. -/
def partsAt (batch : ActiveBatch) (indices : List Nat) : List ImportedTotpAccount :=
  indices.flatMap fun index => (batch.parts.lookup (Int.ofNat index)).getD []

theorem collectParts_some {batch : ActiveBatch} {indices : List Nat}
    (h : ∀ index ∈ indices, Int.ofNat index ∈ batch.parts.map Prod.fst) :
    batch.collectParts indices = some (batch.partsAt indices) := by
  induction indices with
  | nil => rfl
  | cons index rest ih =>
    unfold collectParts
    cases hget : batch.parts.lookup (Int.ofNat index) with
    | none => exact absurd (h index List.mem_cons_self) (lookup_none.1 hget)
    | some accounts =>
      dsimp only
      rw [ih fun index hmem => h index (List.mem_cons_of_mem _ hmem), Option.map_some, partsAt,
        partsAt, List.flatMap_cons, hget, Option.getD_some]

/-- **A full batch yields its parts in the order of their indices.** -/
theorem collect_some {batch : ActiveBatch} (hkeys : (batch.parts.map Prod.fst).Nodup)
    (hindex : ∀ part ∈ batch.parts, 0 ≤ part.1 ∧ part.1 < batch.size)
    (hfull : (batch.parts.length : Int) = batch.size) :
    batch.collect = some (batch.partsAt (List.range batch.size.toNat)) :=
  collectParts_some fun _ hmem => full hkeys hindex hfull (List.mem_range.1 hmem)

/-- They are what the batch holds. -/
theorem partsAt_perm {batch : ActiveBatch} (hkeys : (batch.parts.map Prod.fst).Nodup)
    (hindex : ∀ part ∈ batch.parts, 0 ≤ part.1 ∧ part.1 < batch.size)
    (hfull : (batch.parts.length : Int) = batch.size) :
    (batch.partsAt (List.range batch.size.toNat)).Perm batch.held := by
  let all := (List.range batch.size.toNat).map fun index =>
    (Int.ofNat index, (batch.parts.lookup (Int.ofNat index)).getD [])
  have hall : all.Nodup := by
    refine List.Nodup.map (fun a b h => ?_) List.nodup_range
    have hfst := congrArg Prod.fst h
    exact Int.ofNat.inj hfst
  have hperm : all.Perm batch.parts := by
    rw [List.perm_ext_iff_of_nodup hall (List.Nodup.of_map _ hkeys)]
    intro part
    constructor
    · intro hmem
      obtain ⟨index, hlt, rfl⟩ := List.mem_map.1 hmem
      have hpart := full hkeys hindex hfull (List.mem_range.1 hlt)
      obtain ⟨⟨key, accounts⟩, hpart, hkey⟩ := List.mem_map.1 hpart
      cases hkey
      rw [lookup_of_mem hkeys hpart]
      exact hpart
    · intro hmem
      have hrange := hindex part hmem
      obtain ⟨key, accounts⟩ := part
      refine List.mem_map.2 ⟨key.toNat, List.mem_range.2 (by dsimp only at hrange; omega), ?_⟩
      have hkey : Int.ofNat key.toNat = key := Int.toNat_of_nonneg hrange.1
      rw [hkey, lookup_of_mem hkeys hmem]
      rfl
  have hflat : batch.partsAt (List.range batch.size.toNat) = all.flatMap Prod.snd := by
    rw [List.flatMap_map]
    rfl
  rw [hflat, held]
  exact hperm.flatMap_right _

end ActiveBatch

/-! ## A part -/

namespace MigrationBatchAssembler

/-- The accounts that are held. -/
def held (assembler : MigrationBatchAssembler) : List ImportedTotpAccount :=
  match assembler.active with
  | none => []
  | some batch => batch.held

theorem clear_eq (assembler : MigrationBatchAssembler) (m : Memory) :
    assembler.clear m = ({}, clearSensitiveAccounts m assembler.held) := by
  obtain ⟨active⟩ := assembler
  cases active <;> rfl

/-- The batch that a part is for. -/
def batchFor (assembler : MigrationBatchAssembler) (part : GoogleMigrationPart) : ActiveBatch :=
  assembler.active.getD ⟨part.batchId, part.batchSize, []⟩

/-- A part of another batch. -/
def Foreign (assembler : MigrationBatchAssembler) (id size : Int) : Prop :=
  ∃ batch, assembler.active = some batch ∧ (batch.id ≠ id ∨ batch.size ≠ size)

/-- A part that does not fit. A part that is held already takes no place. -/
def Overflows (assembler : MigrationBatchAssembler) (index : Int) (count : Nat) (capacity : Int) :
    Prop :=
  count > capacity ∨ ∃ batch, assembler.active = some batch ∧
    batch.parts.lookup index = none ∧ batch.pendingCount + count > capacity

/-- What `add` does. -/
inductive Added (assembler : MigrationBatchAssembler) (part : GoogleMigrationPart) (capacity : Int)
    (m : Memory) :
    (Except ImportError MigrationBatchUpdate × MigrationBatchAssembler) × Memory → Prop where
  | refused (error : ImportError) {m' : Memory}
      (hrefused : assembler.Foreign part.batchId part.batchSize ∨
        assembler.Overflows part.batchIndex part.accounts.length capacity)
      (hwiped : m.Wiped m' (secrets (part.accounts ++ assembler.held))) :
      Added assembler part capacity m ((.error error, {}), m')
  | single (hactive : assembler.active = none) (hsize : part.batchSize = 1)
      (hfits : part.accounts.length ≤ capacity) :
      Added assembler part capacity m ((.ok ⟨true, 1, 1, some part.accounts⟩, {}), m)
  | repeated {batch : ActiveBatch} {m' : Memory} (hactive : assembler.active = some batch)
      (hid : batch.id = part.batchId) (hsize : batch.size = part.batchSize)
      (hheld : part.batchIndex ∈ batch.parts.map Prod.fst)
      (hfits : part.accounts.length ≤ capacity) (hwiped : m.Wiped m' (secrets part.accounts)) :
      Added assembler part capacity m
        ((.ok ⟨false, batch.parts.length, batch.size, none⟩, ⟨some batch⟩), m')
  | kept {batch : ActiveBatch} (hbatch : assembler.batchFor part = batch)
      (hid : batch.id = part.batchId) (hsize : batch.size = part.batchSize)
      (hnew : part.batchIndex ∉ batch.parts.map Prod.fst)
      (hfits : (batch.push part.entry).held.length ≤ capacity)
      (hgood : (batch.push part.entry).Good) :
      Added assembler part capacity m ((.ok ⟨false, (batch.push part.entry).parts.length,
        batch.size, none⟩, ⟨some (batch.push part.entry)⟩), m)
  | completed {batch : ActiveBatch} (hbatch : assembler.batchFor part = batch)
      (hid : batch.id = part.batchId) (hsize : batch.size = part.batchSize)
      (hnew : part.batchIndex ∉ batch.parts.map Prod.fst)
      (hfits : (batch.push part.entry).held.length ≤ capacity)
      (hkeys : ((batch.push part.entry).parts.map Prod.fst).Nodup)
      (hindex : ∀ part' ∈ (batch.push part.entry).parts, 0 ≤ part'.1 ∧ part'.1 < batch.size)
      (hfull : ((batch.push part.entry).parts.length : Int) = batch.size) :
      Added assembler part capacity m ((.ok ⟨true, batch.size.toNat, batch.size,
        some ((batch.push part.entry).partsAt (List.range batch.size.toNat))⟩, {}), m)

theorem wiped_both (m : Memory) (accounts accounts' : List ImportedTotpAccount) :
    m.Wiped (clearSensitiveAccounts (clearSensitiveAccounts m accounts) accounts')
      (secrets (accounts ++ accounts')) := by
  rw [secrets, List.map_append]
  exact (m.wiped_wipe _).trans (Memory.wiped_wipe _ _)

/-- The end of `add` for a new part. -/
theorem finish_cases {assembler : MigrationBatchAssembler} {part : GoogleMigrationPart}
    {capacity : Int} {m : Memory} {batch : ActiveBatch}
    (hbatch : assembler.batchFor part = batch) (hid : batch.id = part.batchId)
    (hsize : batch.size = part.batchSize) (hkeys : (batch.parts.map Prod.fst).Nodup)
    (hindex : ∀ part ∈ batch.parts, 0 ≤ part.1 ∧ part.1 < batch.size) (htwo : 2 ≤ batch.size)
    (hmissing : batch.parts.length < batch.size)
    (hpart : 0 ≤ part.batchIndex ∧ part.batchIndex < part.batchSize)
    (hnew : part.batchIndex ∉ batch.parts.map Prod.fst)
    (hfits : (batch.push part.entry).held.length ≤ capacity) :
    Added assembler part capacity m (finish (batch.push part.entry) m) := by
  have hkeys' : ((batch.push part.entry).parts.map Prod.fst).Nodup := by
    rw [ActiveBatch.push, List.map_append, List.nodup_append]
    refine ⟨hkeys, List.nodup_singleton _, fun a ha b hb hab => ?_⟩
    rw [List.map_singleton, List.mem_singleton] at hb
    rw [hab, hb] at ha
    exact hnew ha
  have hindex' : ∀ part' ∈ (batch.push part.entry).parts, 0 ≤ part'.1 ∧ part'.1 < batch.size := by
    intro part' hmem
    rcases List.mem_append.1 hmem with hold | hlast
    · exact hindex part' hold
    · rw [List.mem_singleton.1 hlast, hsize]
      exact hpart
  have hlength : (batch.push part.entry).parts.length = batch.parts.length + 1 :=
    List.length_append
  unfold finish
  by_cases hfull : ((batch.push part.entry).parts.length : Int) = (batch.push part.entry).size
  · rw [if_neg (not_not.2 hfull), ActiveBatch.collect_some hkeys' hindex' hfull]
    exact .completed hbatch hid hsize hnew hfits hkeys' hindex' hfull
  · rw [if_pos hfull]
    have hmore : ((batch.push part.entry).parts.length : Int) < batch.size := by
      have hne : ((batch.push part.entry).parts.length : Int) ≠ batch.size := hfull
      omega
    exact .kept hbatch hid hsize hnew hfits ⟨hkeys', hindex', htwo, hmore⟩

/-- **What `add` does with a part.** -/
theorem add_cases {assembler : MigrationBatchAssembler} {part : GoogleMigrationPart}
    (hgood : ∀ batch, assembler.active = some batch → batch.Good)
    (hsize : 1 ≤ part.batchSize) (hindex : 0 ≤ part.batchIndex ∧ part.batchIndex < part.batchSize)
    (haccounts : part.accounts ≠ []) (capacity : Int) (m : Memory) :
    Added assembler part capacity m (assembler.add part capacity m) := by
  have hsome := List.length_pos_of_ne_nil haccounts
  unfold add
  by_cases hlimit : capacity < 1 ∨ part.accounts.length > capacity
  · rw [if_pos hlimit, clear_eq]
    refine .refused _ (.inr (.inl ?_)) (wiped_both m _ _)
    omega
  · rw [if_neg hlimit]
    rw [not_or, Int.not_lt, gt_iff_lt, Int.not_lt] at hlimit
    by_cases hforeign : (assembler.active.any fun batch =>
        batch.id != part.batchId || batch.size != part.batchSize) = true
    · rw [if_pos hforeign, clear_eq]
      obtain ⟨batch, hactive, hdiffers⟩ := (Option.any_eq_true _ _).1 hforeign
      rw [Bool.or_eq_true, bne_iff_ne, bne_iff_ne] at hdiffers
      refine .refused _ (.inl ⟨batch, hactive, hdiffers⟩) ((wiped_both m _ _).of_mem_iff ?_)
      intro ref
      simp [secrets, or_comm]
    · rw [if_neg hforeign]
      have hsame (batch : ActiveBatch) (hactive : assembler.active = some batch) :
          batch.id = part.batchId ∧ batch.size = part.batchSize := by
        by_contra hdiffers
        refine hforeign ((Option.any_eq_true _ _).2 ⟨batch, hactive, ?_⟩)
        rw [Bool.or_eq_true, bne_iff_ne, bne_iff_ne]
        exact not_and_or.1 hdiffers
      by_cases hone : part.batchSize = 1
      · rw [if_pos hone, if_neg (by omega)]
        have hactive : assembler.active = none := by
          cases hactive : assembler.active with
          | none => rfl
          | some batch =>
            have htwo := (hgood batch hactive).size
            have hsize := (hsame batch hactive).2
            omega
        obtain rfl : assembler = {} := by
          cases assembler
          cases hactive
          rfl
        exact .single rfl hone hlimit.2
      · rw [if_neg hone]
        unfold insert
        cases hactive : assembler.active with
        | none =>
          have hbatch : assembler.batchFor part = ⟨part.batchId, part.batchSize, []⟩ := by
            rw [batchFor, hactive]
            rfl
          have hfits : (ActiveBatch.push ⟨part.batchId, part.batchSize, []⟩
              part.entry).held.length ≤ capacity := by
            rw [ActiveBatch.held_push]
            exact hlimit.2
          dsimp only [Option.getD_none]
          rw [if_neg (by simp), if_neg (by simpa [ActiveBatch.pendingCount] using hlimit.2)]
          refine finish_cases hbatch rfl rfl List.nodup_nil (by simp) (by dsimp only; omega) ?_
            hindex (by simp) hfits
          simp only [List.length_nil]
          omega
        | some batch =>
          obtain ⟨hid, hsize'⟩ := hsame batch hactive
          have hbatch : assembler.batchFor part = batch := by
            rw [batchFor, hactive]
            rfl
          have hbatchGood := hgood batch hactive
          rw [Option.getD_some]
          cases hget : batch.parts.lookup part.batchIndex with
          | some accounts =>
            rw [if_pos (by simp)]
            refine .repeated hactive hid hsize' ?_ hlimit.2 (m.wiped_wipe _)
            by_contra hnew
            cases hget.symm.trans (ActiveBatch.lookup_none.2 hnew)
          | none =>
            rw [if_neg (by simp)]
            have hnew := ActiveBatch.lookup_none.1 hget
            by_cases hover : (batch.pendingCount : Int) + part.accounts.length > capacity
            · rw [if_pos hover]
              refine .refused _ (.inr (.inr ⟨batch, hactive, hget, hover⟩)) ?_
              have hheld : assembler.held = batch.held := by
                rw [held, hactive]
              rw [hheld]
              exact wiped_both m _ _
            · rw [if_neg hover]
              refine finish_cases hbatch hid hsize' hbatchGood.keys hbatchGood.index
                hbatchGood.size hbatchGood.missing hindex hnew ?_
              rw [ActiveBatch.held_push, List.length_append, ← ActiveBatch.pendingCount_eq,
                GoogleMigrationPart.entry]
              dsimp only
              omega

end MigrationBatchAssembler

end M5Auth.Web.Import
