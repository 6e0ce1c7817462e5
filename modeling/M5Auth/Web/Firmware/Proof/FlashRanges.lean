import M5Auth.Web.Firmware.Update

/-!
# Updates keep the state

`update_keeps_state`: the writes of a manifest that passes both checks lie in the three windows, one
in each, also when they are rounded to whole sectors, and come from the expected origin and the
pinned build.

Each part is extracted with the window of its offset (`Extracted`); no offset comes twice, and every
window has one (`extractParts_ok`, `requireWindows_ok`); the size of its image keeps a part inside
its window (`partWrites_ok`). The rest is about the windows alone.
-/

namespace M5Auth.Web.Firmware

open JsonValue EraseBlocks

/-! ## The parts -/

section Parts

variable {newUrl : NewUrl} {manifestUrl : FirmwareUrl} {expectedOrigin : JsString}
  {expectedIdentity : Option BuildIdentity} {loadPartSize : PartSizeLoader}

/-- The part that is extracted from a part of the manifest. -/
structure Extracted (newUrl : NewUrl) (manifestUrl : FirmwareUrl) (expectedOrigin : JsString)
    (expectedIdentity : Option BuildIdentity) (item : JsonValue) (part : StatePreservingPart) :
    Prop where
  path : string? (item.get "path") = some part.path
  offset : number? (item.get "offset") = some (.integer part.offset)
  url : newUrl part.path manifestUrl = some part.url
  window : part.window ∈ normalUpdateFlashWindows
  place : part.window.offset = part.offset
  origin : part.url.origin = expectedOrigin
  addressed : ∀ identity, expectedIdentity = some identity →
    asciiLower identity.buildCommit <:+: asciiLower part.url.pathname

theorem requireAddressed_ok {url : FirmwareUrl} {label : String}
    (h : requireAddressed url label expectedIdentity = .ok ()) :
    ∀ identity, expectedIdentity = some identity →
      asciiLower identity.buildCommit <:+: asciiLower url.pathname := by
  rintro identity rfl
  exact of_decide_eq_true (require_ok.1 h)

theorem extractPart_ok {seenOffsets : List Int} {item : JsonValue} {part : StatePreservingPart}
    (h : extractPart newUrl manifestUrl expectedOrigin expectedIdentity seenOffsets item =
      .ok part) :
    Extracted newUrl manifestUrl expectedOrigin expectedIdentity item part ∧
      part.offset ∉ seenOffsets := by
  unfold extractPart at h
  split at h
  · rename_i path offset hpath hoffset
    obtain ⟨-, h⟩ := require_bind.1 h
    split at h
    · cases h
    rename_i window hwindow
    obtain ⟨hfresh, h⟩ := require_bind.1 h
    split at h
    · cases h
    rename_i url hurl
    obtain ⟨horigin, h⟩ := require_bind.1 h
    obtain ⟨⟨⟩, haddressed, h⟩ := bind_ok.1 h
    cases h
    have hplace := List.find?_some hwindow
    exact ⟨⟨hpath, hoffset, hurl, List.mem_of_find?_eq_some hwindow, eq_of_beq hplace,
      eq_of_beq horigin, requireAddressed_ok haddressed⟩, by simpa using hfresh⟩
  · cases h

/-- **The parts are extracted one by one**, and no offset comes twice. -/
theorem extractParts_ok {items : List JsonValue} {seenOffsets seenOffsets' : List Int}
    {parts : List StatePreservingPart}
    (h : extractParts newUrl manifestUrl expectedOrigin expectedIdentity items seenOffsets =
      .ok (parts, seenOffsets')) :
    List.Forall₂ (Extracted newUrl manifestUrl expectedOrigin expectedIdentity) items parts ∧
      seenOffsets' = seenOffsets ++ parts.map (·.offset) ∧
      (parts.map (·.offset)).Nodup ∧ ∀ part ∈ parts, part.offset ∉ seenOffsets := by
  induction items generalizing seenOffsets parts with
  | nil =>
    cases h
    exact ⟨.nil, by simp, List.nodup_nil, by simp⟩
  | cons item items ih =>
    obtain ⟨part, hpart, h⟩ := bind_ok.1 h
    obtain ⟨⟨rest, seenRest⟩, hrest, h⟩ := bind_ok.1 h
    cases h
    obtain ⟨hextracted, hfresh⟩ := extractPart_ok hpart
    obtain ⟨hall, rfl, hnodup, hfreshRest⟩ := ih hrest
    refine ⟨.cons hextracted hall, by simp, ?_, ?_⟩
    · refine List.nodup_cons.2 ⟨fun hmem => ?_, hnodup⟩
      obtain ⟨other, hother, hsame⟩ := List.mem_map.1 hmem
      exact hfreshRest other hother (by simp [hsame])
    · refine List.forall_mem_cons.2 ⟨hfresh, fun other hother hseen => ?_⟩
      exact hfreshRest other hother (List.mem_append_left _ hseen)

theorem requireWindows_ok {seenOffsets : List Int} {windows : List FlashWindow}
    (h : requireWindows seenOffsets windows = .ok ()) :
    ∀ window ∈ windows, window.offset ∈ seenOffsets := by
  induction windows with
  | nil => simp
  | cons window windows ih =>
    obtain ⟨hseen, h⟩ := require_bind.1 h
    exact List.forall_mem_cons.2 ⟨by simpa using hseen, ih h⟩

/-- The write of an extracted part, inside the window of the part. -/
structure Fits (part : StatePreservingPart) (write : PartWrite) : Prop where
  url : write.url = part.url
  offset : write.offset = part.offset
  pos : 0 < write.size
  stop : write.offset + write.size ≤ part.window.endExclusive

/-- **The size of its image keeps a part inside its window.** -/
theorem partWrites_ok {items : List JsonValue} {parts : List StatePreservingPart} {index : Nat}
    (hparts : List.Forall₂ (Extracted newUrl manifestUrl expectedOrigin expectedIdentity)
      items parts)
    (h : validatePartRanges loadPartSize index parts = .ok ()) :
    ∃ writes, partWrites newUrl manifestUrl loadPartSize index items = some writes ∧
      List.Forall₂ Fits parts writes := by
  induction hparts generalizing index with
  | nil => exact ⟨[], rfl, .nil⟩
  | @cons item part items parts hitem hrest ih =>
    obtain ⟨size, hsize, h⟩ := bind_ok.1 h
    split at h
    · rename_i size
      obtain ⟨hpos, h⟩ := require_bind.1 h
      obtain ⟨hstop, h⟩ := require_bind.1 h
      obtain ⟨writes, hwrites, hfits⟩ := ih h
      rw [Bool.and_eq_true, Bool.not_eq_true', decide_eq_false_iff_not, Int.not_le] at hpos
      rw [Bool.and_eq_true, Bool.not_eq_true', decide_eq_false_iff_not, gt_iff_lt,
        Int.not_lt] at hstop
      refine ⟨⟨part.url, part.offset, size⟩ :: writes, ?_,
        .cons ⟨rfl, rfl, hpos.2, hstop.2⟩ hfits⟩
      have hwrite : partWrite newUrl manifestUrl loadPartSize index item =
          some ⟨part.url, part.offset, size⟩ := by
        simp [partWrite, hitem.path, hitem.offset, hitem.url, hsize]
      simp [partWrites, hwrite, hwrites]
    · cases h

/-- What the checks of a manifest find out. -/
theorem extractStatePreservingParts_ok {manifest : JsonValue} {parts : List StatePreservingPart}
    (h : extractStatePreservingParts newUrl manifestUrl expectedOrigin expectedIdentity manifest =
      .ok parts) :
    (∃ build items, manifest.get "builds" = some (.array [build]) ∧
      build.get "parts" = some (.array items) ∧
      List.Forall₂ (Extracted newUrl manifestUrl expectedOrigin expectedIdentity) items parts) ∧
    (parts.map (·.offset)).Nodup ∧
      ∀ window ∈ normalUpdateFlashWindows, window.offset ∈ parts.map (·.offset) := by
  obtain ⟨-, h⟩ := require_bind.1 h
  obtain ⟨⟨⟩, -, h⟩ := bind_ok.1 h
  split at h
  · rename_i build hbuilds
    split at h
    · rename_i chipFamily items hchipFamily hitems
      obtain ⟨-, h⟩ := require_bind.1 h
      obtain ⟨⟨extracted, seenOffsets⟩, hextracted, h⟩ := bind_ok.1 h
      obtain ⟨⟨⟩, hwindows, h⟩ := bind_ok.1 h
      cases h
      obtain ⟨hall, rfl, hnodup, -⟩ := extractParts_ok hextracted
      exact ⟨⟨build, items, hbuilds, hitems, hall⟩, hnodup, requireWindows_ok hwindows⟩
    · cases h
  · cases h

end Parts

/-! ## The windows -/

/-- The windows begin and end with a sector, and different windows have no address in common. -/
theorem windows_apart {a b : FlashWindow} (ha : a ∈ normalUpdateFlashWindows)
    (hb : b ∈ normalUpdateFlashWindows) (hne : a.offset ≠ b.offset) : Disjoint a.range b.range := by
  have hall : ∀ a ∈ normalUpdateFlashWindows, ∀ b ∈ normalUpdateFlashWindows,
      a.offset ≠ b.offset → a.endExclusive ≤ b.offset ∨ b.endExclusive ≤ a.offset := by decide
  exact range_disjoint (hall a ha b hb hne)

theorem windows_inj {a b : FlashWindow} (ha : a ∈ normalUpdateFlashWindows)
    (hb : b ∈ normalUpdateFlashWindows) (h : a.offset = b.offset) : a = b := by
  have hall : ∀ a ∈ normalUpdateFlashWindows, ∀ b ∈ normalUpdateFlashWindows,
      a.offset = b.offset → a = b := by decide
  exact hall a ha b hb h

theorem windows_aligned {window : FlashWindow} (h : window ∈ normalUpdateFlashWindows) :
    (0x1000 : Int) ∣ window.offset ∧ (0x1000 : Int) ∣ window.endExclusive := by
  have hall : ∀ window ∈ normalUpdateFlashWindows,
      (0x1000 : Int) ∣ window.offset ∧ (0x1000 : Int) ∣ window.endExclusive := by decide
  exact hall window h

/-- The windows are outside the other partitions: the first two are before the first partition, and
the third one is the partition `ota_0`. -/
theorem windows_outside {window : FlashWindow} {partition : FlashPartition}
    (hwindow : window ∈ normalUpdateFlashWindows) (hpartition : partition ∈ partitionTable)
    (hname : partition.name ≠ "ota_0") : Disjoint window.range partition.range := by
  have hall : ∀ window ∈ normalUpdateFlashWindows, ∀ partition ∈ partitionTable,
      partition.name ≠ "ota_0" → window.endExclusive ≤ partition.offset ∨
        partition.offset + partition.size ≤ window.offset := by decide
  exact range_disjoint (hall window hwindow partition hpartition hname)

/-! ## The writes -/

theorem PartWrite.bytes_subset_sectors (write : PartWrite) : write.bytes ⊆ write.sectors :=
  range_subset_blocks (by decide)

/-- The write begins with the window and does not leave it. -/
structure InWindow (write : PartWrite) (window : FlashWindow) : Prop where
  member : window ∈ normalUpdateFlashWindows
  place : write.offset = window.offset
  pos : 0 < write.size
  stop : write.offset + write.size ≤ window.endExclusive

namespace InWindow

variable {write : PartWrite} {window : FlashWindow}

theorem sectors_subset (h : InWindow write window) : write.sectors ⊆ window.range := by
  obtain ⟨hfirst, hlast⟩ := windows_aligned h.member
  exact blocks_subset (by decide) hfirst hlast (Int.le_of_eq h.place.symm) h.stop

theorem nonempty (h : InWindow write window) : write.bytes.Nonempty := by
  have hpos := h.pos
  exact ⟨write.offset, by simp only [PartWrite.bytes, range, Set.mem_Ico]; omega⟩

/-- **Two writes to different places keep apart**, also when they are rounded. -/
theorem sectors_disjoint {other : PartWrite} {otherWindow : FlashWindow} (h : InWindow write window)
    (hother : InWindow other otherWindow) (hne : write.offset ≠ other.offset) :
    Disjoint write.sectors other.sectors := by
  rw [h.place, hother.place] at hne
  exact (windows_apart h.member hother.member hne).mono h.sectors_subset hother.sectors_subset

end InWindow

/-- The writes touch nothing but the windows, each of which has one write. -/
structure KeepsState (expectedOrigin : JsString) (expectedIdentity : Option BuildIdentity)
    (writes : List PartWrite) : Prop where
  covered : ∀ write ∈ writes, write.bytes.Nonempty ∧ write.bytes ⊆ write.sectors
  disjoint : writes.Pairwise fun a b => Disjoint a.bytes b.bytes
  sectorsDisjoint : writes.Pairwise fun a b => Disjoint a.sectors b.sectors
  windows : ∀ window ∈ normalUpdateFlashWindows, ∃ before write after,
    writes = before ++ write :: after ∧ write.bytes ⊆ window.range ∧
      write.sectors ⊆ window.range ∧
      ∀ other ∈ before ++ after, Disjoint other.sectors window.range
  inside : ∀ write ∈ writes, ∃ window ∈ normalUpdateFlashWindows, write.sectors ⊆ window.range
  partitions : ∀ partition ∈ partitionTable, partition.name ≠ "ota_0" →
    ∀ write ∈ writes, Disjoint write.sectors partition.range
  sameOrigin : ∀ write ∈ writes, write.url.origin = expectedOrigin
  addressed : ∀ identity, expectedIdentity = some identity → ∀ write ∈ writes,
    identity.buildCommit <:+: asciiLower write.url.pathname

/-- Writes to different places, one for each window. -/
theorem keepsState_of_inWindow {expectedOrigin : JsString} {expectedIdentity : Option BuildIdentity}
    {writes : List PartWrite} (hall : ∀ write ∈ writes, ∃ window, InWindow write window)
    (hnodup : (writes.map (·.offset)).Nodup)
    (hwindows : ∀ window ∈ normalUpdateFlashWindows, window.offset ∈ writes.map (·.offset))
    (horigin : ∀ write ∈ writes, write.url.origin = expectedOrigin)
    (haddressed : ∀ identity, expectedIdentity = some identity → ∀ write ∈ writes,
      identity.buildCommit <:+: asciiLower write.url.pathname) :
    KeepsState expectedOrigin expectedIdentity writes := by
  have hsectors : writes.Pairwise fun a b => Disjoint a.sectors b.sectors := by
    have hpairwise : writes.Pairwise fun a b => a.offset ≠ b.offset := List.pairwise_map.1 hnodup
    refine hpairwise.imp_of_mem fun ha hb hne => ?_
    obtain ⟨window, hwindow⟩ := hall _ ha
    obtain ⟨otherWindow, hother⟩ := hall _ hb
    exact hwindow.sectors_disjoint hother hne
  refine ⟨fun write hwrite => ?_, ?_, hsectors, fun window hwindow => ?_, fun write hwrite => ?_,
    fun partition hpartition hname write hwrite => ?_, horigin, haddressed⟩
  · obtain ⟨window, hwindow⟩ := hall write hwrite
    exact ⟨hwindow.nonempty, write.bytes_subset_sectors⟩
  · exact hsectors.imp fun {a b} h => h.mono a.bytes_subset_sectors b.bytes_subset_sectors
  · obtain ⟨write, hwrite, hplace⟩ := List.mem_map.1 (hwindows window hwindow)
    obtain ⟨before, after, rfl⟩ := List.append_of_mem hwrite
    obtain ⟨own, hown⟩ := hall write hwrite
    obtain rfl := windows_inj hown.member hwindow (hown.place.symm.trans hplace)
    have hinside := hown.sectors_subset
    refine ⟨before, write, after, rfl, write.bytes_subset_sectors.trans hinside, hinside, ?_⟩
    intro other hother
    -- No other write begins where this one does.
    have hne : write.offset ≠ other.offset := by
      rw [List.map_append, List.map_cons, List.nodup_middle, List.nodup_cons, ← List.map_append]
        at hnodup
      exact fun hsame => hnodup.1 (hsame ▸ List.mem_map_of_mem hother)
    obtain ⟨otherWindow, hin⟩ := hall other (by
      rcases List.mem_append.1 hother with hmem | hmem
      · exact List.mem_append_left _ hmem
      · exact List.mem_append_right _ (List.mem_cons_of_mem _ hmem))
    rw [hown.place, hin.place] at hne
    exact (windows_apart hin.member hown.member hne.symm).mono_left hin.sectors_subset
  · obtain ⟨window, hwindow⟩ := hall write hwrite
    exact ⟨window, hwindow.member, hwindow.sectors_subset⟩
  · obtain ⟨window, hwindow⟩ := hall write hwrite
    exact (windows_outside hwindow.member hpartition hname).mono_left hwindow.sectors_subset

/-! ## A manifest -/

/-- A file beside the manifest, for a path that is the name of a file. -/
def siblingUrl : NewUrl := fun path base =>
  let directory := (base.pathname.reverse.dropWhile (· != 0x2f)).reverse
  if h : isAscii (directory ++ path) = true then
    some ⟨base.origin ++ directory ++ path, base.origin, directory ++ path, h⟩
  else none

/-- A manifest with the images of one build, the largest of which fill their windows. -/
def sampleManifest : JsonValue :=
  let part (path : String) (offset : Int) : JsonValue :=
    .object [(literal "path", .string (literal path)),
      (literal "offset", .number (.integer offset))]
  .object [(literal "name", .string (literal "M5Authenticator")),
    (literal "version", .string (literal "0.1.0")),
    (literal "build_commit", .string (literal "fedcba9")),
    (literal "exact_release", .bool false),
    (literal "builds", .array [.object [(literal "chipFamily", .string (literal "ESP32-S3")),
      (literal "parts", .array [part "fedcba9-ota0.bin" 0x030000,
        part "fedcba9-bootloader.bin" 0x000000, part "fedcba9-table.bin" 0x008000])]])]

def sampleUrl : FirmwareUrl :=
  ⟨literal "https://example.test/fedcba9.json", literal "https://example.test",
    literal "/fedcba9.json", by decide +kernel⟩

def sampleIdentity : BuildIdentity :=
  ⟨literal "0.1.0", literal "fedcba9", false, by decide +kernel⟩

def sampleSizes : PartSizeLoader := fun index _ =>
  .ok (.integer ([0x3d0000, 0x7001, 0xc00].getD index 0))

/-! ## The update -/

section Update

variable {newUrl : NewUrl} {manifestUrl : FirmwareUrl} {expectedOrigin : JsString}
  {expectedIdentity : Option BuildIdentity} {loadPartSize : PartSizeLoader}

/-- A commit has small digits. -/
theorem asciiLower_buildCommit (identity : BuildIdentity) :
    asciiLower identity.buildCommit = identity.buildCommit := by
  have hcommit := identity.commit
  rw [isLowerCommit, Bool.and_eq_true, List.all_eq_true] at hcommit
  rw [asciiLower]
  conv_rhs => rw [← List.map_id identity.buildCommit]
  refine List.map_congr_left fun unit hunit => if_neg ?_
  have hhex := hcommit.2 unit hunit
  simp only [isLowerHex, isDigit, Bool.or_eq_true, Bool.and_eq_true, decide_eq_true_eq,
    UInt16.le_iff_toNat_le] at hhex ⊢
  have h57 : UInt16.toNat 57 = 57 := rfl
  have h65 : UInt16.toNat 65 = 65 := rfl
  have h90 : UInt16.toNat 90 = 90 := rfl
  have h97 : UInt16.toNat 97 = 97 := rfl
  omega

/-- Parts and writes one by one: what holds of each pair. -/
theorem writes_of_parts {items : List JsonValue} {parts : List StatePreservingPart}
    {writes : List PartWrite}
    (hparts : List.Forall₂ (Extracted newUrl manifestUrl expectedOrigin expectedIdentity)
      items parts)
    (hfits : List.Forall₂ Fits parts writes) :
    writes.map (·.offset) = parts.map (·.offset) ∧ ∀ write ∈ writes,
      (∃ window, InWindow write window) ∧ write.url.origin = expectedOrigin ∧
        ∀ identity, expectedIdentity = some identity →
          identity.buildCommit <:+: asciiLower write.url.pathname := by
  induction hparts generalizing writes with
  | nil =>
    cases hfits
    simp
  | @cons item part items parts hpart hrest ih =>
    obtain ⟨write, writes, hfit, hfitsRest, rfl⟩ := List.forall₂_cons_left_iff.1 hfits
    obtain ⟨hoffsets, hall⟩ := ih hfitsRest
    refine ⟨by rw [List.map_cons, List.map_cons, hoffsets, hfit.offset],
      List.forall_mem_cons.2 ⟨⟨⟨part.window, ?_⟩, ?_, ?_⟩, hall⟩⟩
    · exact ⟨hpart.window, hfit.offset.trans hpart.place.symm, hfit.pos, hfit.stop⟩
    · rw [hfit.url, hpart.origin]
    · intro identity hidentity
      have haddressed := hpart.addressed identity hidentity
      rwa [asciiLower_buildCommit, ← hfit.url] at haddressed

/-- A manifest is returned as it is. -/
theorem validateStatePreservingManifest_eq {manifest accepted : JsonValue}
    (h : validateStatePreservingManifest newUrl manifestUrl expectedOrigin expectedIdentity
      manifest = .ok accepted) : accepted = manifest := by
  obtain ⟨-, -, h⟩ := bind_ok.1 h
  obtain ⟨-, -, h⟩ := bind_ok.1 h
  cases h
  rfl

/-- **A manifest whose ranges are accepted keeps the state.** -/
theorem keepsState_of_ranges {manifest : JsonValue}
    (h : validateStatePreservingPartRanges newUrl manifestUrl expectedOrigin expectedIdentity
      loadPartSize manifest = .ok ()) :
    ∃ writes, updateWrites newUrl manifestUrl loadPartSize manifest = some writes ∧
      KeepsState expectedOrigin expectedIdentity writes := by
  obtain ⟨parts, hparts, hsizes⟩ := bind_ok.1 h
  obtain ⟨⟨build, items, hbuilds, hitems, hall⟩, hnodup, hwindows⟩ :=
    extractStatePreservingParts_ok hparts
  obtain ⟨writes, hwrites, hfits⟩ := partWrites_ok hall hsizes
  obtain ⟨hoffsets, heach⟩ := writes_of_parts hall hfits
  rw [← hoffsets] at hnodup hwindows
  refine ⟨writes, by simp only [updateWrites, hbuilds, hitems, hwrites],
    keepsState_of_inWindow (fun write hwrite => (heach write hwrite).1) hnodup hwindows
      (fun write hwrite => (heach write hwrite).2.1)
      (fun identity hidentity write hwrite => (heach write hwrite).2.2 identity hidentity)⟩

/-- **An update that is accepted writes its windows only.** -/
theorem update_keeps_state {manifest accepted : JsonValue}
    (hmanifest : validateStatePreservingManifest newUrl manifestUrl expectedOrigin
      expectedIdentity manifest = .ok accepted)
    (hranges : validateStatePreservingPartRanges newUrl manifestUrl expectedOrigin
      expectedIdentity loadPartSize accepted = .ok ()) :
    accepted = manifest ∧
      ∃ writes, updateWrites newUrl manifestUrl loadPartSize manifest = some writes ∧
        KeepsState expectedOrigin expectedIdentity writes := by
  obtain rfl := validateStatePreservingManifest_eq hmanifest
  exact ⟨rfl, keepsState_of_ranges hranges⟩

theorem update_keeps_state_sample :
    ∃ writes, updateWrites siblingUrl sampleUrl sampleSizes sampleManifest = some writes ∧
      KeepsState (literal "https://example.test") (some sampleIdentity) writes := by
  have haccepts : (validateStatePreservingManifest siblingUrl sampleUrl
      (literal "https://example.test") (some sampleIdentity) sampleManifest).isOk = true := by
    decide +kernel
  have hranges : validateStatePreservingPartRanges siblingUrl sampleUrl
      (literal "https://example.test") (some sampleIdentity) sampleSizes sampleManifest =
        .ok () := by decide +kernel
  cases hmanifest : validateStatePreservingManifest siblingUrl sampleUrl
      (literal "https://example.test") (some sampleIdentity) sampleManifest with
  | error thrown =>
    rw [hmanifest] at haccepts
    cases haccepts
  | ok accepted =>
    obtain rfl := validateStatePreservingManifest_eq hmanifest
    exact (update_keeps_state hmanifest hranges).2

/-- **What the flash function is called with keeps the state**, and nothing is erased first. -/
theorem run_keeps_state {windowOrigin : JsString} {hasSerial : Bool}
    {requestPort : Except Thrown Unit} {target : PinnedFirmwareTarget} {call : FlashCall}
    (h : runStatePreservingUpdate newUrl loadPartSize windowOrigin hasSerial requestPort target =
      .ok call) :
    call.manifestPath = target.updateUrl.href ∧ call.eraseFirst = false ∧
      ∃ writes, updateWrites newUrl target.updateUrl loadPartSize call.manifest = some writes ∧
        KeepsState windowOrigin (some target.identity) writes := by
  obtain ⟨-, h⟩ := require_bind.1 h
  obtain ⟨-, -, h⟩ := bind_ok.1 h
  obtain ⟨⟨⟩, hranges, h⟩ := bind_ok.1 h
  obtain ⟨⟨⟩, -, h⟩ := bind_ok.1 h
  cases h
  exact ⟨rfl, rfl, keepsState_of_ranges hranges⟩

end Update

end M5Auth.Web.Firmware
