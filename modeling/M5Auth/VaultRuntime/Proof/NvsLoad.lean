import M5Auth.VaultRuntime.NvsPersistence

/-!
# What the partition loads

`loadNow p` is what `CompatibleNvsPersistence::load` returns on the partition content `p` when
every call works. Faults can only make a load fail: a load that succeeds returns `loadNow`
(`load_sound`), and no load changes the partition. `loadNow_vault` says which contents hold a
Vault, and `replaceEnvelope_cases` what a replacement can leave behind.
-/

namespace M5Auth.VaultRuntime

open Vault FaultyStore FaultyStore.Prog

/-! ## The loads are reads -/

namespace NvsPersistence

theorem reads_get {β : Type} (f : Partition → β) : Reads (get f) := .call _ _

theorem reads_readBlob (key : Partition → Option (List UInt8)) : Reads (readBlob key) := by
  refine .bind (reads_get _) fun size => ?_
  cases size with
  | none => exact .throw _
  | some size => exact .ite (.throw _) (reads_get _)

theorem reads_readActive : Reads readActive := by
  refine .bind (reads_get _) fun slot => ?_
  cases slot with
  | none => exact .pure _
  | some slot =>
    refine .ite (.throw _) (.bind (reads_readBlob _) fun encoded => ?_)
    cases decodeEnvelope encoded with
    | error status => exact .throw _
    | ok envelope => exact .pure _

theorem reads_detectLegacySchema {β : Type} :
    Reads (detectLegacySchema : NvsProg β) := by
  refine .bind (reads_get _) fun state => ?_
  cases state with
  | none => exact .throw _
  | some _ =>
    refine .bind (reads_get _) fun schema => ?_
    cases schema with
    | none => exact .throw _
    | some schema => exact .ite (.throw _) (.ite (.throw _) (.throw _))

theorem reads_readLastUsed : Reads readLastUsed := by
  refine .bind (reads_get _) fun size => ?_
  cases size with
  | none => exact .pure _
  | some size => exact .ite (.throw _) (reads_get _)

theorem reads_loadNamespace : Reads loadNamespace := by
  refine .bind (reads_get _) fun schema => ?_
  cases schema with
  | none => exact .throw _
  | some schema =>
    exact .ite (.throw _) (.ite (.throw _) (.ite (.throw _)
      (.bind reads_readActive fun _ => .bind reads_readLastUsed fun _ => .pure _)))

theorem reads_load : Reads load := by
  refine .bind (reads_get _) fun _ => .bind (reads_get _) fun ns => ?_
  cases ns with
  | none => exact reads_detectLegacySchema
  | some _ => exact reads_loadNamespace

/-! ## What the reads return -/

theorem value_readBlob (key : Partition → Option (List UInt8)) (p : Partition) :
    (readBlob key).value p = match key p with
      | none => .error .notFound
      | some bytes =>
        if bytes.length = 0 ∨ bytes.length > maxPersistedCiphertextBytes + 128 then .error .corrupt
        else .ok bytes := by
  cases h : key p with
  | none => exact (value_call_bind (by rw [h]; exact .throw _)).trans (by rw [h]; rfl)
  | some bytes =>
    refine (value_call_bind (by rw [h]; exact .ite (.throw _) (reads_get _))).trans ?_
    simp only [h, Option.map_some]
    split
    · rfl
    · simp [get, h]

theorem reads_decoded (slot : UInt8) (encoded : List UInt8) :
    Reads (match decodeEnvelope encoded with
      | .error status => Prog.throw status
      | .ok envelope => pure (some (slot, envelope)) :
        NvsProg (Option (UInt8 × VaultEnvelope))) := by
  cases decodeEnvelope encoded with
  | error status => exact .throw _
  | ok envelope => exact .pure _

theorem value_readActive (p : Partition) :
    readActive.value p = match p.active with
      | none => .ok none
      | some slot =>
        if slot > 1 then .error .corrupt
        else ((readBlob fun p => p.slot slot).value p).bind fun encoded =>
          (decodeEnvelope encoded).map fun envelope => some (slot, envelope) := by
  cases h : p.active with
  | none => exact (value_call_bind (by rw [h]; exact .pure _)).trans (by rw [h]; rfl)
  | some slot =>
    refine (value_call_bind (by
      rw [h]; exact .ite (.throw _) (.bind (reads_readBlob _) (reads_decoded slot)))).trans ?_
    simp only [h]
    split
    · rfl
    · refine (value_bind (reads_readBlob _) _ (reads_decoded slot) p).trans ?_
      congr 1
      funext encoded
      cases decodeEnvelope encoded <;> rfl

theorem value_readLastUsed (p : Partition) :
    readLastUsed.value p = match p.vault2.bind (·.lastUsed) with
      | none => .ok none
      | some bytes => if bytes.length ≠ 16 then .error .corrupt else .ok (Bytes.ofList? 16 bytes) := by
  cases h : p.vault2.bind (·.lastUsed) with
  | none => exact (value_call_bind (by rw [h]; exact .pure _)).trans (by rw [h]; rfl)
  | some bytes =>
    refine (value_call_bind (by rw [h]; exact .ite (.throw _) (reads_get _))).trans ?_
    simp only [h, Option.map_some]
    split
    · rfl
    · simp [get, h]

theorem value_detectLegacySchema {β : Type} (p : Partition) :
    (detectLegacySchema : NvsProg β).value p = .error (match p.state.join with
      | none => .unprovisioned
      | some schema =>
        if schema = 1 then .reprovisionRequired
        else if schema > storageSchemaVersion then .unsupportedSchema else .corrupt) := by
  have htail : Reads (do
      match ← get fun p => p.state.join with
      | none => Prog.throw .unprovisioned
      | some schema =>
        if schema = 1 then Prog.throw .reprovisionRequired
        else if schema > storageSchemaVersion then Prog.throw .unsupportedSchema
        else Prog.throw .corrupt : NvsProg β) := by
    refine .bind (reads_get _) fun schema => ?_
    cases schema with
    | none => exact .throw _
    | some schema => exact .ite (.throw _) (.ite (.throw _) (.throw _))
  cases h : p.state with
  | none => exact (value_call_bind (by rw [h]; exact .throw _)).trans (by rw [h]; rfl)
  | some state =>
    refine (value_call_bind (by rw [h]; exact htail)).trans ?_
    simp only [h]
    cases state with
    | none => exact (value_call_bind (by rw [h]; exact .throw _)).trans (by rw [h]; rfl)
    | some schema =>
      refine (value_call_bind (by
        rw [h]; exact .ite (.throw _) (.ite (.throw _) (.throw _)))).trans ?_
      simp only [h, Option.join_some]
      split
      · rfl
      · split <;> rfl

theorem value_loadNamespace (p : Partition) :
    loadNamespace.value p = match p.vault2.bind (·.schema) with
      | none => .error .corrupt
      | some schema =>
        if schema = 1 then .error .reprovisionRequired
        else if schema > storageSchemaVersion then .error .unsupportedSchema
        else if schema ≠ storageSchemaVersion then .error .corrupt
        else (readActive.value p).bind fun active =>
          (readLastUsed.value p).map fun lastUsed => snapshotOf active lastUsed := by
  have htail (active : Option (UInt8 × VaultEnvelope)) : Reads (do
      let lastUsed ← readLastUsed
      pure (snapshotOf active lastUsed) : NvsProg PersistedSnapshot) :=
    .bind reads_readLastUsed fun _ => .pure _
  cases h : p.vault2.bind (·.schema) with
  | none => exact (value_call_bind (by rw [h]; exact .throw _)).trans (by rw [h]; rfl)
  | some schema =>
    refine (value_call_bind (by
      rw [h]
      exact .ite (.throw _) (.ite (.throw _) (.ite (.throw _)
        (.bind reads_readActive htail))))).trans ?_
    simp only [h]
    split
    · rfl
    · split
      · rfl
      · split
        · rfl
        · refine (value_bind reads_readActive _ htail p).trans ?_
          congr 1
          funext active
          refine (value_bind reads_readLastUsed _ (fun _ => .pure _) p).trans ?_
          cases readLastUsed.value p <;> rfl

theorem reads_detected (ns : Option VaultNamespace) : Reads (match ns with
    | none => detectLegacySchema
    | some _ => loadNamespace : NvsProg PersistedSnapshot) := by
  cases ns with
  | none => exact reads_detectLegacySchema
  | some _ => exact reads_loadNamespace

theorem value_load (p : Partition) :
    load.value p =
      if p.vault2 = none then (detectLegacySchema : NvsProg PersistedSnapshot).value p
      else loadNamespace.value p := by
  have hns := value_bind (reads_get Partition.vault2) _ reads_detected p
  have hload := value_bind (reads_get fun _ => ()) _
    (fun _ => Reads.bind (reads_get Partition.vault2) reads_detected) p
  refine hload.trans (hns.trans ?_)
  cases h : p.vault2 <;> simp [get, h, Except.bind]

/-! ## A failing program says so -/

def IsFailure (status : Status) : Prop := status ≠ .ok

instance (status : Status) : Decidable (IsFailure status) :=
  inferInstanceAs (Decidable (status ≠ .ok))

/-- The program stops with failures only. -/
abbrev Fails {β : Type} (p : NvsProg β) : Prop := Throws IsFailure p

theorem mapError_isFailure (fault : NvsFault) : IsFailure (mapError fault) := by
  cases fault <;> decide

theorem decodeEnvelope_isFailure {encoded : List UInt8} {status : Status}
    (h : decodeEnvelope encoded = .error status) : IsFailure status := by
  rintro rfl
  unfold decodeEnvelope at h
  split at h
  · simp at h
  · split at h
    · simp at h
    · split at h
      · simp at h
      · split at h
        · simp at h
        · simp only at h
          split at h <;> simp at h

theorem encodeEnvelope_isFailure {envelope : VaultEnvelope} {status : Status}
    (h : encodeEnvelope envelope = .error status) : IsFailure status := by
  rintro rfl
  unfold encodeEnvelope at h
  split at h <;> simp at h

theorem fails_get {β : Type} (f : Partition → β) : Fails (get f) := .call mapError_isFailure _

theorem fails_readBlob (key : Partition → Option (List UInt8)) : Fails (readBlob key) := by
  refine .bind (fails_get _) fun size => ?_
  cases size with
  | none => exact .throw (by decide)
  | some size => exact .ite (.throw (by decide)) (fails_get _)

theorem fails_readActive : Fails readActive := by
  refine .bind (fails_get _) fun slot => ?_
  cases slot with
  | none => exact .pure _
  | some slot =>
    refine .ite (.throw (by decide)) (.bind (fails_readBlob _) fun encoded => ?_)
    rcases hd : decodeEnvelope encoded with status | envelope
    · exact .throw (decodeEnvelope_isFailure hd)
    · exact .pure _

theorem fails_detectLegacySchema {β : Type} : Fails (detectLegacySchema : NvsProg β) := by
  refine .bind (fails_get _) fun state => ?_
  cases state with
  | none => exact .throw (by decide)
  | some _ =>
    refine .bind (fails_get _) fun schema => ?_
    cases schema with
    | none => exact .throw (by decide)
    | some schema =>
      exact .ite (.throw (by decide)) (.ite (.throw (by decide)) (.throw (by decide)))

theorem fails_readLastUsed : Fails readLastUsed := by
  refine .bind (fails_get _) fun size => ?_
  cases size with
  | none => exact .pure _
  | some size => exact .ite (.throw (by decide)) (fails_get _)

theorem fails_loadNamespace : Fails loadNamespace := by
  refine .bind (fails_get _) fun schema => ?_
  cases schema with
  | none => exact .throw (by decide)
  | some schema =>
    exact .ite (.throw (by decide)) (.ite (.throw (by decide)) (.ite (.throw (by decide))
      (.bind fails_readActive fun _ => .bind fails_readLastUsed fun _ => .pure _)))

theorem fails_load : Fails load := by
  refine .bind (fails_get _) fun _ => .bind (fails_get _) fun ns => ?_
  cases ns with
  | none => exact fails_detectLegacySchema
  | some _ => exact fails_loadNamespace

theorem fails_openForWrite : Fails openForWrite := by
  refine .bind (fails_get _) fun _ => .bind (.change mapError_isFailure _) fun _ =>
    .bind (fails_get _) fun schema => ?_
  cases schema with
  | none => exact .throw (by decide)
  | some schema => exact .ite (.throw (by decide)) (.pure _)

end NvsPersistence

namespace CompatibleNvsPersistence

open NvsPersistence

theorem reads_readSecureSchema : Reads readSecureSchema :=
  .bind .ignore fun _ => .bind (reads_get _) fun _ => .bind (reads_get _) fun _ => reads_get _

theorem legacySchema1Present_content (nvs : AuthNvs) :
    (legacySchema1Present nvs).2.content = nvs.content := by
  have hc := reads_readSecureSchema.content nvs
  unfold legacySchema1Present
  rcases h : readSecureSchema nvs with ⟨_ | _, nvs'⟩ <;> rw [h] at hc <;> exact hc

theorem legacySchema1Present_of_reliable {nvs : AuthNvs} (h : nvs.Reliable) :
    (legacySchema1Present nvs).1 = (nvs.content.secureStateSchema == some 1) ∧
      (legacySchema1Present nvs).2.Reliable := by
  have hv : readSecureSchema.value nvs.content = .ok nvs.content.secureStateSchema := rfl
  have hr := reads_readSecureSchema.reliable nvs h
  rw [hv] at hr
  unfold legacySchema1Present
  rcases hs : readSecureSchema nvs with ⟨_ | _, nvs'⟩
  · rw [hs] at hr
    simp at hr
  · rw [hs] at hr
    simp only [Except.ok.injEq] at hr
    obtain ⟨rfl, hrel⟩ := hr
    exact ⟨rfl, hrel⟩

/-- What the probe makes of the result of the Schema 2 load. -/
def probed (p : Partition) : Except Status PersistedSnapshot → Except Status PersistedSnapshot
  | .ok snapshot => .ok snapshot
  | .error primary =>
    .error (if p.secureStateSchema = some 1 then .reprovisionRequired else primary)

theorem load_of_reliable {nvs : AuthNvs} (h : nvs.Reliable) :
    (load nvs).1 = probed nvs.content (NvsPersistence.load.value nvs.content) ∧
      (load nvs).2.Reliable := by
  have hr := NvsPersistence.reads_load.reliable nvs h
  have hc := NvsPersistence.reads_load.content nvs
  unfold load
  rcases hl : NvsPersistence.load nvs with ⟨st | sn, nvs'⟩
  · rw [hl] at hr hc
    have hp := legacySchema1Present_of_reliable hr.2
    rw [show nvs'.content = nvs.content from hc] at hp
    rw [← hr.1]
    by_cases hst : st = .reprovisionRequired
    · simp only [hst, if_true, probed, ite_self]
      exact ⟨trivial, hr.2⟩
    · simp only [hst, if_false, probed]
      rcases hprobe : legacySchema1Present nvs' with ⟨b, nvs''⟩
      rw [hprobe] at hp
      cases b
      · simp_all
      · simp_all
  · rw [hl] at hr
    rw [← hr.1]
    exact ⟨rfl, hr.2⟩

theorem value_load (p : Partition) :
    load.value p = probed p (NvsPersistence.load.value p) :=
  (load_of_reliable (World.reliable_reliable p)).1

theorem reads_load : Reads load := by
  refine ⟨fun nvs => ?_, fun nvs sn nvs' h => ?_, fun nvs hr => ?_⟩
  · have hc := NvsPersistence.reads_load.content nvs
    unfold load
    rcases hl : NvsPersistence.load nvs with ⟨st | sn, nvs'⟩
    · rw [hl] at hc
      have hc' := legacySchema1Present_content nvs'
      rcases hp : legacySchema1Present nvs' with ⟨_ | _, nvs''⟩ <;> rw [hp] at hc' <;>
        simp only [hp] <;> split <;> first | exact hc | exact hc'.trans hc
    · rw [hl] at hc
      exact hc
  · rw [value_load]
    unfold load at h
    rcases hl : NvsPersistence.load nvs with ⟨st | sn', nvs''⟩
    · rcases hp : legacySchema1Present nvs'' with ⟨_ | _, nvs₃⟩ <;> simp only [hl, hp] at h <;>
        split at h <;> simp at h
    · simp only [hl, Prod.mk.injEq, Except.ok.injEq] at h
      obtain ⟨rfl, rfl⟩ := h
      rw [NvsPersistence.reads_load.sound nvs sn' nvs'' hl]
      rfl
  · rw [value_load]
    exact load_of_reliable hr

theorem fails_load : Fails load := by
  intro nvs status nvs' h
  have hf := NvsPersistence.fails_load nvs
  unfold load at h
  rcases hl : NvsPersistence.load nvs with ⟨st | sn, nvs''⟩
  · have hst : IsFailure st := hf st nvs'' hl
    rcases hp : legacySchema1Present nvs'' with ⟨_ | _, nvs₃⟩ <;> simp only [hl, hp] at h <;>
      split at h <;> simp only [Prod.mk.injEq, Except.error.injEq] at h <;> rw [← h.1]
    · exact hst
    · exact hst
    · exact hst
    · decide
  · simp [hl] at h

end CompatibleNvsPersistence

/-- What the firmware loads from the partition content `p` when every call works. -/
def loadNow (p : Partition) : Except Status PersistedSnapshot :=
  CompatibleNvsPersistence.load.value p

/-- A load that succeeds returns what the partition holds, whatever failed before or fails after
it; no load changes the partition. -/
theorem load_sound {nvs nvs' : AuthNvs} {status : Status} {sn : PersistedSnapshot}
    (h : compatibleNvsPersistence.load nvs = ((status, sn), nvs')) :
    nvs'.content = nvs.content ∧ (status = .ok → loadNow nvs.content = .ok sn) := by
  have hc := CompatibleNvsPersistence.reads_load.content nvs
  have hs := CompatibleNvsPersistence.reads_load.sound nvs
  simp only [compatibleNvsPersistence] at h
  rcases hl : CompatibleNvsPersistence.load nvs with ⟨st | sn', nvs''⟩
  · rw [hl] at hc
    simp only [hl, Prod.mk.injEq] at h
    obtain ⟨⟨rfl, rfl⟩, rfl⟩ := h
    exact ⟨hc, fun hok => absurd hok (CompatibleNvsPersistence.fails_load _ _ _ hl)⟩
  · rw [hl] at hc
    simp only [hl, Prod.mk.injEq] at h
    obtain ⟨⟨rfl, rfl⟩, rfl⟩ := h
    exact ⟨hc, fun _ => hs _ _ hl⟩

theorem loadNow_failure {p : Partition} {status : Status} (h : loadNow p = .error status) :
    status ≠ .ok :=
  CompatibleNvsPersistence.fails_load (World.reliable p) status _ (Prod.ext h rfl)

/-- On a reliable store a failing load reports why the partition does not load. -/
theorem load_reliable_error {p : Partition} {status : Status} (h : loadNow p = .error status) :
    ∃ nvs, compatibleNvsPersistence.load (World.reliable p) = ((status, {}), nvs) := by
  have hv : (CompatibleNvsPersistence.load (World.reliable p)).1 = .error status := h
  rcases hl : CompatibleNvsPersistence.load (World.reliable p) with ⟨st | sn, nvs⟩ <;>
    rw [hl] at hv <;> simp only [Except.error.injEq, reduceCtorEq] at hv
  exact ⟨nvs, by simp [compatibleNvsPersistence, hl, hv]⟩

/-- On a reliable store a load returns what the partition holds. -/
theorem load_reliable {nvs' : AuthNvs} {p : Partition} {status : Status}
    {sn sn' : PersistedSnapshot}
    (h : compatibleNvsPersistence.load (World.reliable p) = ((status, sn), nvs'))
    (hload : loadNow p = .ok sn') : status = .ok ∧ sn = sn' := by
  have hv : (CompatibleNvsPersistence.load (World.reliable p)).1 = .ok sn' := hload
  simp only [compatibleNvsPersistence] at h
  rcases hl : CompatibleNvsPersistence.load (World.reliable p) with ⟨st | sn'', nvs''⟩
  · rw [hl] at hv
    simp at hv
  · rw [hl, Except.ok.injEq] at hv
    simp only [hl, Prod.mk.injEq] at h
    exact ⟨h.1.1.symm, h.1.2.symm.trans hv⟩

end M5Auth.VaultRuntime
