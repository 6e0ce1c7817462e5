import M5Auth.Web.Import.Session

/-!
# What a migration code shows

`parseGoogleMigrationUri` in any memory reads the same part (`parse_cases`): its accounts are in new
buffers, and everything else that it puts in memory is zero again. `Shows` is the part that a code
shows.
-/

namespace M5Auth.Web.Import

open Buffers (Memory Zero)

/-! ## Memory -/

/-- A memory with new buffers, all zero but the live ones. -/
structure Grown (m m' : Memory) (live : List Nat) : Prop where
  size : m.size ≤ m'.size
  same : ∀ ref < m.size, m'.read ref = m.read ref
  zero : ∀ ref, m.size ≤ ref → ref ∉ live → Zero (m'.read ref)

theorem Grown.refl (m : Memory) : Grown m m [] where
  size := Nat.le_refl _
  same := fun _ _ => rfl
  zero := fun ref hle _ byte hbyte => by
    rw [Memory.read_of_size_le hle] at hbyte
    cases hbyte

theorem Grown.clean {m m' : Memory} {live live' : List Nat} (h : Grown m m' live)
    (hclean : m.Clean live') : m'.Clean (live ++ live') := by
  intro ref hnot
  rw [List.mem_append, not_or] at hnot
  by_cases hlt : ref < m.size
  · rw [h.same ref hlt]
    exact hclean ref hnot.2
  · exact h.zero ref (Nat.le_of_not_lt hlt) hnot.1

theorem content_congr {m m' : Memory} {account : ImportedTotpAccount}
    (h : m'.read account.secret = m.read account.secret) :
    account.content m' = account.content m := by
  rw [ImportedTotpAccount.content, h]
  rfl

theorem contents_congr {m m' : Memory} {accounts : List ImportedTotpAccount}
    (h : ∀ ref ∈ secrets accounts, m'.read ref = m.read ref) :
    accounts.map (·.content m') = accounts.map (·.content m) :=
  List.map_congr_left fun _ hmem => content_congr (h _ (List.mem_map_of_mem hmem))

/-- Accounts in the buffers that follow a memory. -/
structure Placed (m m' : Memory) (accounts : List ImportedTotpAccount) (contents : List Content) :
    Prop where
  secrets : secrets accounts = List.range' m.size accounts.length
  size : m'.size = m.size + accounts.length
  same : ∀ ref < m.size, m'.read ref = m.read ref
  contents : accounts.map (·.content m') = contents

theorem Placed.mem {m m' : Memory} {accounts : List ImportedTotpAccount} {contents : List Content}
    (h : Placed m m' accounts contents) {ref : Nat} :
    ref ∈ Import.secrets accounts ↔ m.size ≤ ref ∧ ref < m'.size := by
  rw [h.secrets, List.mem_range'_1, h.size]

theorem Placed.empty (m : Memory) : Placed m m [] [] := ⟨rfl, rfl, fun _ _ => rfl, rfl⟩

theorem Placed.push {m m' : Memory} {accounts : List ImportedTotpAccount} {contents : List Content}
    (h : Placed m m' accounts contents) (issuer account : JsString) (secret : List UInt8) :
    Placed m (m'.alloc secret) (accounts ++ [⟨issuer, account, m'.size⟩])
      (contents ++ [⟨issuer, account, secret⟩]) where
  secrets := by
    rw [Import.secrets, List.map_append, List.length_append, ← Import.secrets, h.secrets]
    simp [List.range'_concat, h.size]
  size := by
    rw [Memory.size_alloc, h.size, List.length_append, List.length_singleton]
    omega
  same := fun ref hlt => by
    have hsize := h.size
    rw [Memory.read_alloc_ne _ (by omega)]
    exact h.same ref hlt
  contents := by
    have hold : accounts.map (·.content (m'.alloc secret)) = accounts.map (·.content m') :=
      contents_congr fun ref hmem => Memory.read_alloc_ne _ (by have := h.mem.1 hmem; omega)
    rw [List.map_append, hold, h.contents, List.map_singleton, ImportedTotpAccount.content,
      Memory.read_alloc]

theorem Placed.grown {m m' : Memory} {accounts : List ImportedTotpAccount} {contents : List Content}
    (h : Placed m m' accounts contents) : Grown m m' (Import.secrets accounts) where
  size := by rw [h.size]; omega
  same := h.same
  zero := fun ref hle hnot byte hbyte => by
    have hsize : m'.size ≤ ref := by
      by_contra hlt
      exact hnot (h.mem.2 ⟨hle, by omega⟩)
    rw [Memory.read_of_size_le hsize] at hbyte
    cases hbyte

theorem Placed.cleared {m m' : Memory} {accounts : List ImportedTotpAccount}
    {contents : List Content} (h : Placed m m' accounts contents) :
    Grown m (clearSensitiveAccounts m' accounts) [] where
  size := by
    rw [clearSensitiveAccounts, Memory.size_wipe]
    exact h.grown.size
  same := fun ref hlt => by
    rw [clearSensitiveAccounts, Memory.read_wipe fun hmem => by have := h.mem.1 hmem; omega]
    exact h.same ref hlt
  zero := fun ref hle _ => by
    by_cases hmem : ref ∈ Import.secrets accounts
    · exact Memory.zero_wipe hmem
    · exact Memory.zero_wipe_of_zero (h.grown.zero ref hle hmem)

/-! ## Accounts -/

/-- The accounts of some parameters. -/
def contentsOf : List GoogleMigrationOtpParameters → Except ImportError (List Content)
  | [] => .ok []
  | parameters :: rest =>
    if parameters.type ≠ googleTypeTotp ∨ parameters.algorithm ≠ googleAlgorithmSha1 ∨
        parameters.digits ≠ googleDigitsSix ∨ parameters.secret.length = 0 then
      .error ⟨"The Google Authenticator migration contains an account unsupported by V1."⟩
    else if (trim parameters.name).isEmpty then
      .error ⟨"The Google Authenticator migration contains an account without a name."⟩
    else (contentsOf rest).map fun contents =>
      ⟨trim parameters.issuer, trim parameters.name, parameters.secret⟩ :: contents

/-- The loop reads the accounts into new buffers, or it clears them. -/
theorem readAccounts_cases {m m' : Memory} {accounts : List ImportedTotpAccount}
    {contents : List Content} (params : List GoogleMigrationOtpParameters)
    (h : Placed m m' accounts contents) :
    (∃ error m'', contentsOf params = .error error ∧
      readAccounts params accounts m' = (.error error, m'') ∧ Grown m m'' []) ∨
    ∃ rest accounts' m'', contentsOf params = .ok rest ∧
      readAccounts params accounts m' = (.ok accounts', m'') ∧
      Placed m m'' accounts' (contents ++ rest) := by
  induction params generalizing m' accounts contents with
  | nil => exact .inr ⟨[], accounts, m', rfl, rfl, by rwa [List.append_nil]⟩
  | cons parameters rest ih =>
    unfold contentsOf readAccounts
    dsimp only
    split
    · exact .inl ⟨_, _, rfl, rfl, h.cleared⟩
    · split
      · exact .inl ⟨_, _, rfl, rfl, h.cleared⟩
      · rcases ih (h.push (trim parameters.issuer) (trim parameters.name) parameters.secret) with
          ⟨error, m'', herror, hread, hgrown⟩ | ⟨later, accounts', m'', hlater, hread, hplaced⟩
        · exact .inl ⟨error, m'', by rw [herror]; rfl, hread, hgrown⟩
        · refine .inr ⟨_, accounts', m'', by rw [hlater]; rfl, hread, ?_⟩
          rw [List.append_assoc] at hplaced
          exact hplaced

/-! ## Parts -/

/-- A part as it is shown, with the contents of its accounts. -/
structure Scanned where
  version : Int
  size : Int
  index : Int
  id : Int
  contents : List Content
  deriving DecidableEq

/-- A part in a memory. -/
def GoogleMigrationPart.scanned (m : Memory) (part : GoogleMigrationPart) : Scanned :=
  ⟨part.version, part.batchSize, part.batchIndex, part.batchId, part.accounts.map (·.content m)⟩

variable {ρ : Type} (platform : Platform ρ)

/-- The part that a code shows. -/
def Shows (source : JsString) (scanned : Scanned) : Prop :=
  ∃ part m, parseGoogleMigrationUri platform source {} = (.ok part, m) ∧ part.scanned m = scanned

/-- The part in a payload. -/
def payloadScanned (decoded : GoogleMigrationPayload) : Except ImportError Scanned :=
  match assertSupportedMetadata decoded with
  | .error error => .error error
  | .ok () =>
    if decoded.otpParameters.length = 0 then
      .error ⟨"The Google Authenticator migration QR code contains no accounts."⟩
    else (contentsOf decoded.otpParameters).map fun contents =>
      ⟨decoded.version, decoded.batchSize, decoded.batchIndex, decoded.batchId, contents⟩

/-- The part in a code. -/
def scan (source : JsString) : Except ImportError Scanned :=
  match migrationBytes platform source with
  | .error error => .error error
  | .ok bytes =>
    match decodeGoogleMigrationPayload platform.reader bytes with
    | none => .error ⟨"The Google Authenticator migration payload is invalid."⟩
    | some decoded => payloadScanned decoded

/-- The accounts of a part are in new buffers of their own. -/
structure Fresh (m m' : Memory) (accounts : List ImportedTotpAccount) : Prop where
  grown : Grown m m' (secrets accounts)
  nodup : (secrets accounts).Nodup
  bound : ∀ ref ∈ secrets accounts, m.size ≤ ref ∧ ref < m'.size

/-- What the bytes of the payload leave in memory. -/
theorem Grown.filled {m m' : Memory} {live : List Nat} {bytes : List UInt8}
    (h : Grown (m.alloc bytes) m' live) : Grown m (m'.fill m.size) live where
  size := by
    have hsize := h.size
    rw [Memory.size_alloc] at hsize
    rw [Memory.size_fill]
    omega
  same := fun ref hlt => by
    rw [Memory.read_fill_ne (by omega), h.same ref (by rw [Memory.size_alloc]; omega),
      Memory.read_alloc_ne _ (by omega)]
  zero := fun ref hle hnot => by
    by_cases hbytes : ref = m.size
    · rw [hbytes]
      exact Memory.zero_read_fill m' m.size
    · exact Memory.zero_fill (h.zero ref (by rw [Memory.size_alloc]; omega) hnot)

theorem contentsOf_length {params : List GoogleMigrationOtpParameters} {contents : List Content}
    (h : contentsOf params = .ok contents) : contents.length = params.length := by
  induction params generalizing contents with
  | nil =>
    cases h
    rfl
  | cons parameters rest ih =>
    unfold contentsOf at h
    split at h
    · cases h
    · split at h
      · cases h
      · cases hrest : contentsOf rest with
        | error error =>
          rw [hrest] at h
          cases h
        | ok later =>
          rw [hrest] at h
          cases h
          rw [List.length_cons, List.length_cons, ih hrest]

/-- What the metadata of a part are. -/
structure Scanned.Valid (scanned : Scanned) : Prop where
  size : 1 ≤ scanned.size ∧ scanned.size ≤ googleMigrationMaxBatchParts
  index : 0 ≤ scanned.index ∧ scanned.index < scanned.size
  contents : scanned.contents ≠ []

theorem scan_valid {source : JsString} {scanned : Scanned}
    (h : scan platform source = .ok scanned) : scanned.Valid := by
  unfold scan at h
  split at h
  · cases h
  · split at h
    · cases h
    · rename_i decoded _
      unfold payloadScanned at h
      split at h
      · cases h
      · rename_i hmetadata
        unfold assertSupportedMetadata at hmetadata
        split at hmetadata
        · cases hmetadata
        · split at hmetadata
          · cases hmetadata
          · rename_i hrange
            split at h
            · cases h
            · rename_i hsome
              cases hcontents : contentsOf decoded.otpParameters with
              | error error =>
                rw [hcontents] at h
                cases h
              | ok contents =>
                rw [hcontents] at h
                cases h
                simp only [not_or, Int.not_lt, Int.not_le] at hrange
                refine ⟨⟨hrange.1, hrange.2.1⟩, ⟨hrange.2.2.1, hrange.2.2.2⟩, fun hnil => hsome ?_⟩
                dsimp only at hnil
                rw [← contentsOf_length hcontents, hnil]
                rfl

/-- **Parsing a code reads its part in new buffers, or it fails and leaves zeros.** -/
theorem parse_cases (source : JsString) (m : Memory) :
    (∃ error m', scan platform source = .error error ∧
      parseGoogleMigrationUri platform source m = (.error error, m') ∧ Grown m m' []) ∨
    ∃ scanned part m', scan platform source = .ok scanned ∧
      parseGoogleMigrationUri platform source m = (.ok part, m') ∧ part.scanned m' = scanned ∧
      Fresh m m' part.accounts := by
  unfold parseGoogleMigrationUri scan
  cases migrationBytes platform source with
  | error error => exact .inl ⟨error, m, rfl, rfl, .refl m⟩
  | ok bytes =>
    dsimp only
    cases decodeGoogleMigrationPayload platform.reader bytes with
    | none => exact .inl ⟨_, _, rfl, rfl, (Grown.refl _).filled⟩
    | some decoded =>
      dsimp only
      unfold payloadAccounts payloadScanned
      cases assertSupportedMetadata decoded with
      | error error => exact .inl ⟨error, _, rfl, rfl, (Grown.refl _).filled⟩
      | ok _ =>
        dsimp only
        split
        · exact .inl ⟨_, _, rfl, rfl, (Grown.refl _).filled⟩
        · rcases readAccounts_cases decoded.otpParameters (.empty (m.alloc bytes)) with
            ⟨error, m', herror, hread, hgrown⟩ | ⟨contents, accounts, m', hok, hread, hplaced⟩
          · rw [herror, hread]
            exact .inl ⟨error, _, rfl, rfl, hgrown.filled⟩
          · rw [hok, hread]
            have hbound (ref : Nat) (hmem : ref ∈ secrets accounts) :
                m.size < ref ∧ ref < m'.size := by
              have h := hplaced.mem.1 hmem
              rw [Memory.size_alloc] at h
              omega
            refine .inr ⟨_, _, _, rfl, rfl, ?_, ?_, ?_, ?_⟩
            · have hsame : accounts.map (·.content (m'.fill m.size)) = contents := by
                rw [contents_congr fun ref hmem => Memory.read_fill_ne
                  (Nat.ne_of_gt (hbound ref hmem).1)]
                exact hplaced.contents
              rw [GoogleMigrationPart.scanned, hsame]
            · exact hplaced.grown.filled
            · rw [hplaced.secrets]
              exact List.nodup_range'
            · intro ref hmem
              rw [Memory.size_fill]
              exact ⟨Nat.le_of_lt (hbound ref hmem).1, (hbound ref hmem).2⟩

theorem shows_iff {source : JsString} {scanned : Scanned} :
    Shows platform source scanned ↔ scan platform source = .ok scanned := by
  rcases parse_cases platform source {} with
    ⟨error, m, hscan, hparse, -⟩ | ⟨scanned', part, m, hscan, hparse, hscanned, -⟩
  · constructor
    · rintro ⟨part, m', h, -⟩
      cases hparse.symm.trans h
    · intro h
      cases hscan.symm.trans h
  · constructor
    · rintro ⟨part', m', h, rfl⟩
      cases hparse.symm.trans h
      rw [hscan, hscanned]
    · intro h
      cases hscan.symm.trans h
      exact ⟨part, m, hparse, hscanned⟩

end M5Auth.Web.Import
