import M5Auth.Web.Import.Proof.Assembly

/-!
# Migrations in a session

`Inv` is the invariant of a session: what it holds is in different buffers, every other buffer is
zero, and there is room for what is held. `importMigration_cases` says what a code that shows a part
does, and `importDecodedText_cases` what any code leaves as it was.
-/

namespace M5Auth.Web.Import

open Buffers (Memory Zero)

theorem Fresh.live {m m' : Memory} {accounts : List ImportedTotpAccount} {live : List Nat}
    (h : Fresh m m' accounts) (hlive : m.Live live) : m'.Live (secrets accounts ++ live) where
  clean := h.grown.clean hlive.clean
  nodup := by
    refine List.nodup_append.2 ⟨h.nodup, hlive.nodup, fun ref hmem ref' hmem' hsame => ?_⟩
    have hnew := h.bound ref hmem
    have hold := hlive.bound ref' hmem'
    omega
  bound := fun ref hmem => by
    rcases List.mem_append.1 hmem with hnew | hold
    · exact (h.bound ref hnew).2
    · exact Nat.lt_of_lt_of_le (hlive.bound ref hold) h.grown.size

theorem Grown.live {m m' : Memory} {live : List Nat} (h : Grown m m' []) (hlive : m.Live live) :
    m'.Live live where
  clean := h.clean hlive.clean
  nodup := hlive.nodup
  bound := fun ref hmem => Nat.lt_of_lt_of_le (hlive.bound ref hmem) h.size

theorem secrets_append (accounts accounts' : List ImportedTotpAccount) :
    secrets (accounts ++ accounts') = secrets accounts ++ secrets accounts' :=
  List.map_append

theorem secrets_perm {accounts accounts' : List ImportedTotpAccount}
    (h : accounts.Perm accounts') : (secrets accounts).Perm (secrets accounts') :=
  h.map _

namespace ImportSession

variable {ρ : Type} {platform : Platform ρ} {s : ImportSession}

/-- The accounts that a session refers to. -/
def all (s : ImportSession) : List ImportedTotpAccount := s.assembler.held ++ s.accounts

/-- The invariant of a session. -/
structure Inv (s : ImportSession) : Prop where
  live : s.memory.Live (secrets s.all)
  room : s.all.length ≤ v1MaxAccounts
  batch : ∀ batch, s.assembler.active = some batch → batch.Good

theorem inv_initial : Inv {} :=
  ⟨Memory.live_empty, by decide, fun _ h => by cases h⟩

theorem Inv.clear (h : Inv s) : Inv s.clear ∧ s.clear.assembler = {} ∧ s.clear.accounts = [] ∧
    ∀ ref, Zero (s.clear.memory.read ref) := by
  have hclear : s.clear = ⟨{}, [], clearSensitiveAccounts
      (clearSensitiveAccounts s.memory s.assembler.held) s.accounts⟩ := by
    rw [ImportSession.clear, MigrationBatchAssembler.clear_eq]
  have hlive : s.clear.memory.Live [] := by
    rw [hclear]
    exact h.live.wiped (MigrationBatchAssembler.wiped_both _ _ _) (List.Perm.refl _)
  refine ⟨⟨?_, ?_, ?_⟩, ?_, ?_, fun ref => hlive.clean ref (by simp)⟩
  · rw [hclear] at hlive ⊢
    exact hlive
  · rw [hclear]
    exact Nat.zero_le _
  · intro batch hactive
    rw [hclear] at hactive
    cases hactive
  · rw [hclear]
  · rw [hclear]

/-! ## A part -/

/-- The places left. -/
def capacity (s : ImportSession) : Int := v1MaxAccounts - s.accounts.length

/-- What a code that shows a part does to a session. -/
inductive Imported (s : ImportSession) (scanned : Scanned) :
    Except ImportError ImportSessionUpdate × ImportSession → Prop where
  | refused (error : ImportError) (m : Memory)
      (hrefused : s.assembler.Foreign scanned.id scanned.size ∨
        s.assembler.Overflows scanned.index scanned.contents.length s.capacity) :
      Imported s scanned (.error error, ⟨{}, s.accounts, m⟩)
  | single {accounts : List ImportedTotpAccount} {m : Memory}
      (hactive : s.assembler.active = none) (hsize : scanned.size = 1)
      (hcontents : accounts.map (·.content m) = scanned.contents)
      (hfits : scanned.contents.length ≤ s.capacity) :
      Imported s scanned (.ok ⟨(s.accounts ++ accounts).map previewAccount, none⟩,
        ⟨{}, s.accounts ++ accounts, m⟩)
  | repeated {batch : ActiveBatch} (m : Memory) (hactive : s.assembler.active = some batch)
      (hid : batch.id = scanned.id) (hsize : batch.size = scanned.size)
      (hheld : scanned.index ∈ batch.parts.map Prod.fst)
      (hfits : scanned.contents.length ≤ s.capacity) :
      Imported s scanned
        (.ok ⟨s.accounts.map previewAccount, some (batch.parts.length, batch.size)⟩,
          ⟨⟨some batch⟩, s.accounts, m⟩)
  | kept {batch : ActiveBatch} {accounts : List ImportedTotpAccount} {m : Memory}
      (hbatch : s.assembler.active.getD ⟨scanned.id, scanned.size, []⟩ = batch)
      (hid : batch.id = scanned.id) (hsize : batch.size = scanned.size)
      (hnew : scanned.index ∉ batch.parts.map Prod.fst)
      (hcontents : accounts.map (·.content m) = scanned.contents)
      (hfits : (batch.push (scanned.index, accounts)).held.length ≤ s.capacity) :
      Imported s scanned (.ok ⟨s.accounts.map previewAccount,
        some ((batch.push (scanned.index, accounts)).parts.length, batch.size)⟩,
          ⟨⟨some (batch.push (scanned.index, accounts))⟩, s.accounts, m⟩)
  | completed {batch : ActiveBatch} {accounts : List ImportedTotpAccount} {m : Memory}
      (hbatch : s.assembler.active.getD ⟨scanned.id, scanned.size, []⟩ = batch)
      (hid : batch.id = scanned.id) (hsize : batch.size = scanned.size)
      (hnew : scanned.index ∉ batch.parts.map Prod.fst)
      (hcontents : accounts.map (·.content m) = scanned.contents)
      (hfits : (batch.push (scanned.index, accounts)).held.length ≤ s.capacity)
      (hkeys : ((batch.push (scanned.index, accounts)).parts.map Prod.fst).Nodup)
      (hindex : ∀ entry ∈ (batch.push (scanned.index, accounts)).parts,
        0 ≤ entry.1 ∧ entry.1 < batch.size)
      (hfull : ((batch.push (scanned.index, accounts)).parts.length : Int) = batch.size) :
      Imported s scanned (.ok ⟨(s.accounts ++ (batch.push (scanned.index, accounts)).partsAt
          (List.range batch.size.toNat)).map previewAccount, none⟩,
        ⟨{}, s.accounts ++ (batch.push (scanned.index, accounts)).partsAt
          (List.range batch.size.toNat), m⟩)

/-- The buffers that stay live keep their contents. -/
def Keeps (s s' : ImportSession) : Prop :=
  ∀ ref ∈ secrets s.all, ref ∈ secrets s'.all → s'.memory.read ref = s.memory.read ref

/-- After a part was read, some accounts are wiped and the others are kept. -/
theorem inv_of_fresh {m m' : Memory} {accounts : List ImportedTotpAccount}
    (kept gone : List ImportedTotpAccount) {s' : ImportSession} (h : Inv s)
    (hfresh : Fresh s.memory m accounts) (hwiped : m.Wiped m' (secrets gone))
    (hall : s'.all = kept) (hmemory : s'.memory = m')
    (hperm : (kept ++ gone).Perm (accounts ++ (s.assembler.held ++ s.accounts)))
    (hroom : kept.length ≤ v1MaxAccounts)
    (hbatch : ∀ batch, s'.assembler.active = some batch → batch.Good) : Inv s' ∧ Keeps s s' := by
  have hlive := hfresh.live h.live
  have hrefs : (secrets s'.all ++ secrets gone).Perm (secrets accounts ++ secrets s.all) := by
    rw [← secrets_append, ← secrets_append, hall]
    exact secrets_perm hperm
  refine ⟨⟨hmemory ▸ hlive.wiped hwiped hrefs, hall ▸ hroom, hbatch⟩, fun ref hold hkept => ?_⟩
  rw [hmemory, hwiped.same_of_live hlive hrefs hkept]
  exact hfresh.grown.same ref (h.live.bound ref hold)

theorem held_batchFor {assembler : MigrationBatchAssembler} {part : GoogleMigrationPart}
    {batch : ActiveBatch} (h : assembler.batchFor part = batch) : assembler.held = batch.held := by
  rw [← h, MigrationBatchAssembler.batchFor, MigrationBatchAssembler.held]
  cases assembler.active <;> rfl

/-- **What a code that shows a part does to a session.** -/
theorem importMigration_cases (h : Inv s) {source : JsString} {scanned : Scanned}
    (hscan : scan platform source = .ok scanned) :
    Imported s scanned (s.importMigration platform source) ∧
      Inv (s.importMigration platform source).2 ∧
      Keeps s (s.importMigration platform source).2 := by
  have hvalid := scan_valid platform hscan
  rcases parse_cases platform source s.memory with
    ⟨error, m, herror, -, -⟩ | ⟨scanned', part, m, hok, hparse, hpart, hfresh⟩
  · cases hscan.symm.trans herror
  · cases hscan.symm.trans hok
    subst hpart
    have hnonempty : part.accounts ≠ [] := fun hnil => hvalid.contents (by
      rw [GoogleMigrationPart.scanned, hnil]
      rfl)
    have hlength : part.accounts.length = (part.scanned m).contents.length := by
      rw [GoogleMigrationPart.scanned, List.length_map]
    have hroom := h.room
    rw [all, List.length_append] at hroom
    have hadded := MigrationBatchAssembler.add_cases h.batch hvalid.size.1 hvalid.index hnonempty
      s.capacity m
    have hkeep := m.wiped_wipe []
    unfold importMigration
    rw [hparse]
    dsimp only
    rw [← capacity]
    generalize s.assembler.add part s.capacity m = added at hadded
    cases hadded with
    | refused error hrefused hwiped =>
      refine ⟨.refused error _ (by rw [← hlength]; exact hrefused),
        inv_of_fresh s.accounts _ h hfresh hwiped rfl rfl ?_ (by omega)
          fun batch hactive => by cases hactive⟩
      rw [← List.append_assoc part.accounts]
      exact List.perm_append_comm
    | single hactive hsize hfits =>
      have hheld : s.assembler.held = [] := by
        rw [MigrationBatchAssembler.held, hactive]
      refine ⟨.single hactive hsize rfl (by rw [← hlength]; exact hfits),
        inv_of_fresh (s.accounts ++ part.accounts) [] h hfresh hkeep rfl rfl ?_ ?_
          fun batch hactive => by cases hactive⟩
      · rw [List.append_nil, hheld, List.nil_append]
        exact List.perm_append_comm
      · rw [capacity] at hfits
        rw [List.length_append]
        omega
    | @repeated batch m' hactive hid hsize hheld hfits hwiped =>
      have hbatch : s.assembler.held = batch.held := by
        rw [MigrationBatchAssembler.held, hactive]
      rw [hbatch] at hroom
      refine ⟨.repeated _ hactive hid hsize hheld (by rw [← hlength]; exact hfits),
        inv_of_fresh (batch.held ++ s.accounts) part.accounts h hfresh hwiped rfl rfl ?_ ?_
          fun batch' hactive' => h.batch batch' (hactive.trans hactive')⟩
      · rw [hbatch]
        exact List.perm_append_comm
      · rw [List.length_append]
        exact hroom
    | @kept batch hbatch hid hsize hnew hfits hgood =>
      have hheld := held_batchFor hbatch
      have hpush := batch.held_push part.entry
      refine ⟨.kept hbatch hid hsize hnew rfl hfits,
        inv_of_fresh ((batch.push part.entry).held ++ s.accounts) [] h hfresh hkeep rfl rfl ?_ ?_
          fun batch' hactive => by cases hactive; exact hgood⟩
      · rw [List.append_nil, hpush, hheld, ← List.append_assoc]
        exact List.perm_append_comm.append_right _
      · rw [capacity] at hfits
        rw [List.length_append]
        omega
    | @completed batch hbatch hid hsize hnew hfits hkeys hindex hfull =>
      have hheld := held_batchFor hbatch
      have hpush := batch.held_push part.entry
      have hperm := ActiveBatch.partsAt_perm hkeys hindex hfull
      have hlen := hperm.length_eq
      refine ⟨.completed hbatch hid hsize hnew rfl hfits hkeys hindex hfull,
        inv_of_fresh (s.accounts ++ (batch.push part.entry).partsAt (List.range batch.size.toNat))
          [] h hfresh hkeep rfl rfl ?_ ?_ fun batch hactive => by cases hactive⟩
      · rw [List.append_nil, hheld, ← List.append_assoc]
        refine List.perm_append_comm.trans (List.Perm.append_right _ (hperm.trans ?_))
        rw [hpush]
        exact List.perm_append_comm
      · rw [List.length_append]
        have hsame : (batch.push part.entry).size = batch.size := rfl
        rw [hsame] at hlen
        rw [capacity] at hfits
        omega

/-- A part that fits into its batch is not refused. -/
theorem not_refused_of_push {scanned : Scanned} {batch : ActiveBatch}
    {accounts : List ImportedTotpAccount} {m : Memory}
    (hbatch : s.assembler.active.getD ⟨scanned.id, scanned.size, []⟩ = batch)
    (hid : batch.id = scanned.id) (hsize : batch.size = scanned.size)
    (hcontents : accounts.map (·.content m) = scanned.contents)
    (hfits : (batch.push (scanned.index, accounts)).held.length ≤ s.capacity) :
    ¬(s.assembler.Foreign scanned.id scanned.size ∨
      s.assembler.Overflows scanned.index scanned.contents.length s.capacity) := by
  have hlength : accounts.length = scanned.contents.length := by
    rw [← hcontents, List.length_map]
  rw [ActiveBatch.held_push, List.length_append, ← ActiveBatch.pendingCount_eq] at hfits
  dsimp only at hfits
  intro hrefused
  rcases hrefused with ⟨batch', hactive, hdiffers⟩ | hover | ⟨batch', hactive, -, hover⟩
  · rw [hactive, Option.getD_some] at hbatch
    rw [hbatch, hid, hsize] at hdiffers
    simp at hdiffers
  · omega
  · rw [hactive, Option.getD_some] at hbatch
    rw [hbatch] at hover
    omega

/-- A part of another batch, or one that does not fit, is refused. -/
theorem importMigration_refused (h : Inv s) {source : JsString} {scanned : Scanned}
    (hscan : scan platform source = .ok scanned)
    (hrefused : s.assembler.Foreign scanned.id scanned.size ∨
      s.assembler.Overflows scanned.index scanned.contents.length s.capacity) :
    ∃ error m, s.importMigration platform source = (.error error, ⟨{}, s.accounts, m⟩) := by
  have himported := (importMigration_cases h hscan).1
  generalize s.importMigration platform source = result at himported
  cases himported with
  | refused error m _ => exact ⟨error, m, rfl⟩
  | single hactive _ _ hfits =>
    rcases hrefused with ⟨batch, hbatch, -⟩ | hover | ⟨batch, hbatch, -⟩
    · cases hactive.symm.trans hbatch
    · omega
    · cases hactive.symm.trans hbatch
  | repeated m hactive hid hsize hheld hfits =>
    rcases hrefused with ⟨batch, hbatch, hdiffers⟩ | hover | ⟨batch, hbatch, hnew, -⟩
    · cases hactive.symm.trans hbatch
      exact absurd hdiffers (by simp [hid, hsize])
    · omega
    · cases hactive.symm.trans hbatch
      exact absurd hheld (ActiveBatch.lookup_none.1 hnew)
  | kept hbatch hid hsize _ hcontents hfits =>
    exact absurd hrefused (not_refused_of_push hbatch hid hsize hcontents hfits)
  | completed hbatch hid hsize _ hcontents hfits _ _ _ =>
    exact absurd hrefused (not_refused_of_push hbatch hid hsize hcontents hfits)

/-! ## A code -/

/-- A code that cannot be parsed leaves zeros. -/
theorem importMigration_error (h : Inv s) {source : JsString} {error : ImportError}
    (hscan : scan platform source = .error error) :
    ∃ m, s.importMigration platform source = (.error error, { s with memory := m }) ∧
      Inv { s with memory := m } ∧ Keeps s { s with memory := m } := by
  rcases parse_cases platform source s.memory with
    ⟨error', m, herror, hparse, hgrown⟩ | ⟨scanned, part, m, hok, -, -, -⟩
  · cases hscan.symm.trans herror
    refine ⟨m, by rw [importMigration, hparse], ⟨hgrown.live h.live, h.room, h.batch⟩, ?_⟩
    intro ref hold _
    exact hgrown.same ref (h.live.bound ref hold)
  · cases hscan.symm.trans hok

/-- A standard code adds an account, or it changes none. -/
theorem importStandard_cases (h : Inv s) (decodedText : JsString) :
    Inv (s.importStandard platform decodedText).2 ∧
      Keeps s (s.importStandard platform decodedText).2 ∧
      ∀ error, (s.importStandard platform decodedText).1 = .error error →
        (s.importStandard platform decodedText).2.accounts = s.accounts := by
  unfold importStandard
  split
  · exact ⟨h, fun _ _ _ => rfl, fun _ _ => rfl⟩
  · rename_i hpending
    have hheld : s.assembler.held = [] := by
      rw [MigrationBatchAssembler.hasPending, Option.isSome_iff_ne_none, not_not] at hpending
      rw [MigrationBatchAssembler.held, hpending]
    have hroom := h.room
    rw [all, hheld, List.nil_append] at hroom
    have hkeep {ref : Nat} (hold : ref ∈ secrets s.all) (secret : List UInt8) :
        (s.memory.alloc secret).read ref = s.memory.read ref :=
      Memory.read_alloc_ne _ (Nat.ne_of_lt (h.live.bound ref hold))
    split
    · exact ⟨h, fun _ _ _ => rfl, fun _ _ => rfl⟩
    · rename_i content _
      have hlive := h.live.alloc content.secret
      dsimp only
      split
      · refine ⟨⟨hlive.wiped (Memory.wiped_wipe _ _) ?_, h.room, h.batch⟩, fun ref hold _ => ?_,
          fun _ _ => rfl⟩
        · exact List.perm_append_comm
        · rw [← hkeep hold content.secret]
          refine Memory.read_wipe fun hmem => ?_
          rw [secrets, List.map_singleton, List.mem_singleton] at hmem
          exact Nat.ne_of_lt (h.live.bound ref hold) hmem
      · rename_i hfull
        refine ⟨⟨hlive.perm ?_, ?_, h.batch⟩, fun ref hold _ => hkeep hold _, fun _ herror => ?_⟩
        · rw [all, all, ← List.append_assoc, secrets_append]
          exact List.perm_append_comm
        · rw [all, hheld, List.nil_append, List.length_append, List.length_singleton]
          omega
        · cases herror

/-- **What a code does to a session: the invariant holds, what stays live keeps its contents, and a
code that fails changes no completed account.** -/
theorem importDecodedText_cases (platform : Platform ρ) (h : Inv s) (decodedText : JsString) :
    Inv (s.importDecodedText platform decodedText).2 ∧
      Keeps s (s.importDecodedText platform decodedText).2 ∧
      ∀ error, (s.importDecodedText platform decodedText).1 = .error error →
        (s.importDecodedText platform decodedText).2.accounts = s.accounts := by
  unfold importDecodedText
  split
  · exact importStandard_cases h decodedText
  · split
    · cases hscan : scan platform decodedText with
      | error error =>
        obtain ⟨m, hresult, hinv, hkeeps⟩ := importMigration_error h hscan
        rw [hresult]
        exact ⟨hinv, hkeeps, fun _ _ => rfl⟩
      | ok scanned =>
        obtain ⟨himported, hinv, hkeeps⟩ := importMigration_cases h hscan
        refine ⟨hinv, hkeeps, fun error herror => ?_⟩
        generalize s.importMigration platform decodedText = result at himported herror ⊢
        cases himported with
        | refused _ m => rfl
        | _ => cases herror
    · exact ⟨h, fun _ _ _ => rfl, fun _ _ => rfl⟩

theorem Reachable.inv (h : Reachable platform s) : Inv s := by
  induction h with
  | initial => exact inv_initial
  | importText decodedText _ ih => exact (importDecodedText_cases platform ih decodedText).1
  | clear _ ih => exact ih.clear.1

end ImportSession

end M5Auth.Web.Import
