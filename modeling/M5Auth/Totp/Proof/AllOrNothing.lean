import M5Auth.Time.Proof.Served
import M5Auth.Totp.VaultGenerator
import M5Auth.VaultRuntime.Proof.Cases

/-!
# When code generation is all or nothing

The callback writes the code and the time before `with_credential` records the use, and that record
can still fail. The main result is `all_or_nothing_iff`: a call writes exactly if it succeeds, and
then the RFC 6238 value at a trusted time, unless an account that a code is generated for cannot be
recorded as last used. `generate_cases` lists what a call can do.
-/

namespace M5Auth.Totp

open Vault (CredentialId CredentialRecord GcmOpen)
open VaultRuntime (Persistence Runtime Status)

/-! ## The callback -/

variable {provider : HmacSha1Provider} {readings : Readings} {output : Output}

/-- The callback generates a code for an account. -/
structure Codes (provider : HmacSha1Provider) (readings : Readings) (credential : CredentialRecord)
    (unixSeconds : UInt64) (code : UInt32) : Prop where
  ready : readings.current.readiness = .ready
  digits : credential.digits = digits
  period : credential.periodSeconds.toNat = periodSeconds.toNat
  time : readings.generation.unixSeconds = some unixSeconds
  code : generateKeyWithProvider provider credential.secret unixSeconds = .ok code

/-- The callback writes a code, or it fails and writes nothing. -/
theorem generateCode_cases (provider : HmacSha1Provider) (readings : Readings)
    (credential : CredentialRecord) (output : Output) :
    (∃ unixSeconds code, Codes provider readings credential unixSeconds code ∧
      generateCode provider readings credential output = (.ok, output.store code unixSeconds)) ∨
    ((∀ unixSeconds code, ¬Codes provider readings credential unixSeconds code) ∧
      (generateCode provider readings credential output).1 ≠ .ok ∧
      (generateCode provider readings credential output).2 = output) := by
  unfold generateCode
  cases hready : readings.current.readiness with
  | notSynced => exact .inr ⟨fun _ _ h => (by cases hready.symm.trans h.ready), by simp, rfl⟩
  | stale => exact .inr ⟨fun _ _ h => (by cases hready.symm.trans h.ready), by simp, rfl⟩
  | ready =>
    dsimp only
    split
    · rename_i hunsupported
      refine .inr ⟨fun unixSeconds code h => ?_, by simp, rfl⟩
      rcases hunsupported with hdigits | hperiod | hsecret
      · exact hdigits h.digits
      · exact hperiod h.period
      · have hcode := h.code
        rw [generateKeyWithProvider, if_pos hsecret] at hcode
        cases hcode
    · rename_i hsupported
      rw [not_or, not_or, not_not, not_not] at hsupported
      obtain ⟨hdigits, hperiod, -⟩ := hsupported
      cases htime : readings.generation.unixSeconds with
      | none => exact .inr ⟨fun _ _ h => (by cases htime.symm.trans h.time), by simp, rfl⟩
      | some unixSeconds =>
        have hfails {failure : CoreResult}
            (hkey : generateKeyWithProvider provider credential.secret unixSeconds = failure)
            (hfailure : ∀ code, failure ≠ .ok code) :
            ∀ unixSeconds code, ¬Codes provider readings credential unixSeconds code := by
          intro unixSeconds' code h
          have htime' := h.time
          rw [htime] at htime'
          cases htime'
          exact hfailure code (hkey.symm.trans h.code)
        dsimp only
        cases hkey : generateKeyWithProvider provider credential.secret unixSeconds with
        | ok code =>
          exact .inl ⟨unixSeconds, code, ⟨hready, hdigits, hperiod, htime, hkey⟩, rfl⟩
        | invalidSecret => exact .inr ⟨hfails hkey (by simp), by simp, rfl⟩
        | cryptoError => exact .inr ⟨hfails hkey (by simp), by simp, rfl⟩

/-! ## A call -/

variable {σ : Type} (P : Persistence σ) (gcm : GcmOpen) (provider : HmacSha1Provider)
  (rt : Runtime σ) (credentialId : CredentialId) (readings : Readings)

/-- The account that the callback gets. -/
def found : Option CredentialRecord :=
  match rt.openResident gcm with
  | .error _ => none
  | .ok plaintext => plaintext.credentials.find? (·.credentialId == credentialId)

/-- A code is generated for the account. -/
structure Generates (credential : CredentialRecord) (unixSeconds : UInt64) (code : UInt32) :
    Prop where
  ready : readings.beforeVault.readiness = .ready
  found : found gcm rt credentialId = some credential
  codes : Codes provider readings credential unixSeconds code

/-- The use of the account can be recorded. -/
def Recordable : Prop := (P.setLastUsed (some credentialId) rt.persistence).1 = .ok

variable {P gcm provider rt credentialId readings}

/-- Without an account nothing is called, and the status is an error. -/
theorem withCredential_none {α : Type} (hfound : found gcm rt credentialId = none)
    (consumer : CredentialRecord → α → Status × α) (before : α) :
    (withCredential P gcm rt credentialId consumer before).1.1 ≠ .ok ∧
      (withCredential P gcm rt credentialId consumer before).1.2 = before := by
  unfold withCredential
  unfold found at hfound
  cases hopen : rt.openResident gcm with
  | error failure =>
    refine ⟨?_, rfl⟩
    rcases rt.openResident_cases gcm with ⟨_, h, -⟩ | ⟨_, hne, h⟩ | ⟨_, hne, -, -, -, h⟩
    · cases hopen.symm.trans h
    · cases hopen.symm.trans h
      exact hne
    · cases hopen.symm.trans h
      exact hne
  | ok plaintext =>
    rw [hopen] at hfound
    dsimp only at hfound ⊢
    rw [hfound]
    exact ⟨by simp, rfl⟩

/-- With an account and a callback that succeeds, the status is that of the record. -/
theorem withCredential_some {α : Type} {credential : CredentialRecord}
    (hfound : found gcm rt credentialId = some credential)
    (consumer : CredentialRecord → α → α) (before : α) :
    ((withCredential P gcm rt credentialId
        (fun credential before => (.ok, consumer credential before)) before).1.1 = .ok ↔
      Recordable P rt credentialId) ∧
    (withCredential P gcm rt credentialId
      (fun credential before => (.ok, consumer credential before)) before).1.2 =
        consumer credential before := by
  unfold withCredential
  unfold found at hfound
  cases hopen : rt.openResident gcm with
  | error failure =>
    rw [hopen] at hfound
    cases hfound
  | ok plaintext =>
    rw [hopen] at hfound
    dsimp only at hfound ⊢
    rw [hfound]
    dsimp only
    rw [if_neg (by simp), Recordable]
    by_cases hstored : (P.setLastUsed (some credentialId) rt.persistence).1 = .ok
    · simp only [hstored, if_true, and_self]
    · simp only [hstored, if_false, and_self]

/-- What a call returns for the status of the access and what the callback left. -/
theorem generateForCredential_eq (hcode : output.code.isNone = false)
    (hready : readings.beforeVault.readiness = .ready) :
    (generateForCredential P gcm provider rt credentialId readings output).1 =
      let accessed := (withCredential P gcm rt credentialId
        (fun credential left => (.ok, generateCode provider readings credential left.2))
        (.storageError, output.clearTime)).1
      (if accessed.1 = .notFound then .accountNotFound
        else if accessed.1 ≠ .ok then .storageError else accessed.2.1, accessed.2.2) := by
  have htaken : output.clearTime.code.isNone = false := hcode
  unfold generateForCredential
  dsimp only
  rw [htaken, if_neg (by simp), hready]
  dsimp only
  split
  · rfl
  · split
    · rfl
    · rfl

/-- A call whose caller takes a code fails without one, or it generates one; then its result is that
of the record. -/
theorem generate_cases (P : Persistence σ) (gcm : GcmOpen) (provider : HmacSha1Provider)
    (rt : Runtime σ) (credentialId : CredentialId) (readings : Readings)
    (hcode : output.code.isNone = false) :
    ((∀ credential unixSeconds code,
        ¬Generates gcm provider rt credentialId readings credential unixSeconds code) ∧
      (generateForCredential P gcm provider rt credentialId readings output).1.1 ≠ .ok ∧
      (generateForCredential P gcm provider rt credentialId readings output).1.2 =
        output.clearTime) ∨
    ∃ credential unixSeconds code,
      Generates gcm provider rt credentialId readings credential unixSeconds code ∧
      ((generateForCredential P gcm provider rt credentialId readings output).1.1 = .ok ↔
        Recordable P rt credentialId) ∧
      (generateForCredential P gcm provider rt credentialId readings output).1.2 =
        output.store code unixSeconds := by
  have htaken : ¬output.clearTime.code.isNone = true := by
    rw [show output.clearTime.code = output.code from rfl, hcode]
    simp
  by_cases hready : readings.beforeVault.readiness = .ready
  · rw [generateForCredential_eq hcode hready]
    cases hfound : found gcm rt credentialId with
    | none =>
      obtain ⟨hstatus, hleft⟩ := withCredential_none (P := P) hfound
        (fun credential (left : GenerateResult × Output) =>
          (Status.ok, generateCode provider readings credential left.2))
        (.storageError, output.clearTime)
      refine .inl ⟨fun _ _ _ h => (by cases hfound.symm.trans h.found), ?_, congrArg Prod.snd hleft⟩
      dsimp only
      split
      · simp
      · simp
    | some credential =>
      obtain ⟨hstatus, hleft⟩ := withCredential_some (P := P) hfound
        (fun credential (left : GenerateResult × Output) =>
          generateCode provider readings credential left.2)
        (.storageError, output.clearTime)
      dsimp only
      rw [hleft]
      rcases generateCode_cases provider readings credential output.clearTime with
        ⟨unixSeconds, code, hcodes, hgen⟩ | ⟨hnone, hresult, hafter⟩
      · refine .inr ⟨credential, unixSeconds, code, ⟨hready, hfound, hcodes⟩, ?_, ?_⟩
        · rw [← hstatus, hgen]
          constructor
          · intro hresult
            by_contra hfailed
            rw [if_pos hfailed] at hresult
            split at hresult
            · cases hresult
            · cases hresult
          · intro hok
            rw [hok, if_neg (by simp), if_neg (by simp)]
        · rw [hgen]
          cases output with
          | mk taken metadata => cases metadata <;> rfl
      · refine .inl ⟨fun _ _ _ h => ?_, ?_, hafter⟩
        · cases hfound.symm.trans h.found
          exact hnone _ _ h.codes
        · split
          · simp
          · split
            · simp
            · exact hresult
  · refine .inl ⟨fun _ _ _ h => hready h.ready, ?_⟩
    unfold generateForCredential
    dsimp only
    rw [if_neg htaken]
    cases hbefore : readings.beforeVault.readiness with
    | notSynced => exact ⟨by simp, rfl⟩
    | stale => exact ⟨by simp, rfl⟩
    | ready => exact absurd hbefore hready

/-! ## All or nothing -/

/-- The same pointers, to any contents. -/
def Output.SamePointers (left right : Output) : Prop :=
  left.code.isSome = right.code.isSome ∧ left.unixSeconds.isSome = right.unixSeconds.isSome

/-- What a call that is all or nothing does to `output`. -/
def AllOrNothing (gcm : GcmOpen) (rt : Runtime σ) (credentialId : CredentialId)
    (readings : Readings) (mac : List UInt8 → List UInt8 → List UInt8) (output : Output)
    (result : GenerateResult × Output) : Prop :=
  if result.1 = .ok then
    ∃ credential unixSeconds code, found gcm rt credentialId = some credential ∧
      output.code.isSome = true ∧ result.2 = output.store code unixSeconds ∧ unixSeconds ≠ 0 ∧
      readings.generation.readiness = .ready ∧
      readings.generation.unixSeconds = some unixSeconds ∧
      code.toNat = Otp.totp mac 6 30 credential.secret unixSeconds.toNat
  else result.2 = output.clearTime

/-- At most one code is generated in a call. -/
theorem Generates.unique {credential credential' : CredentialRecord}
    {unixSeconds unixSeconds' : UInt64} {code code' : UInt32}
    (h : Generates gcm provider rt credentialId readings credential unixSeconds code)
    (h' : Generates gcm provider rt credentialId readings credential' unixSeconds' code') :
    unixSeconds = unixSeconds' ∧ code = code' := by
  cases h.found.symm.trans h'.found
  cases h.codes.time.symm.trans h'.codes.time
  cases h.codes.code.symm.trans h'.codes.code
  exact ⟨rfl, rfl⟩

/-- A code is written over another one. -/
theorem store_ne_clearTime {output : Output} (hcode : output.code.isSome = true) (code : UInt32)
    (unixSeconds : UInt64) :
    ∃ memory : Output, memory.SamePointers output ∧
      memory.store code unixSeconds ≠ memory.clearTime := by
  refine ⟨{ output with code := some (code + 1) }, ⟨hcode.symm, rfl⟩, fun h => ?_⟩
  have hsame : some code = some (code + 1) := congrArg Output.code h
  have hnat := congrArg UInt32.toNat (Option.some.inj hsame)
  have hone : (1 : UInt32).toNat = 1 := rfl
  have hlt := code.toNat_lt
  rw [UInt32.toNat_add] at hnat
  omega

/-- **Generation is all or nothing if and only if the use of an account that a code is generated for
can be recorded.** -/
theorem all_or_nothing_iff {mac : List UInt8 → List UInt8 → List UInt8}
    (hmac : provider.Computes mac) (hclock : Time.Served readings.generation.clock)
    (output : Output) :
    (∀ memory : Output, memory.SamePointers output →
      AllOrNothing gcm rt credentialId readings mac memory
        (generateForCredential P gcm provider rt credentialId readings memory).1) ↔
    (output.code.isSome = true → ∀ credential unixSeconds code,
      Generates gcm provider rt credentialId readings credential unixSeconds code →
        Recordable P rt credentialId) := by
  constructor
  · intro hall hcode credential unixSeconds code hgenerates
    obtain ⟨memory, hsame, hne⟩ := store_ne_clearTime hcode code unixSeconds
    have hmemory : memory.code.isNone = false := by
      rw [← Option.not_isSome, hsame.1, hcode]
      rfl
    rcases generate_cases P gcm provider rt credentialId readings hmemory with
      ⟨hnone, -, -⟩ | ⟨_, _, _, h, hresult, hwritten⟩
    · exact absurd hgenerates (hnone _ _ _)
    · obtain ⟨htime, hvalue⟩ := hgenerates.unique h
      have hdone := hall memory hsame
      unfold AllOrNothing at hdone
      split at hdone
      · rename_i hok
        exact hresult.1 hok
      · rw [hwritten, ← htime, ← hvalue] at hdone
        exact absurd hdone hne
  · intro hrecord memory hsame
    unfold AllOrNothing
    cases hcode : memory.code.isNone with
    | true =>
      have hcall : (generateForCredential P gcm provider rt credentialId readings memory).1 =
          (.accountNotFound, memory.clearTime) := by
        unfold generateForCredential
        dsimp only
        rw [show memory.clearTime.code = memory.code from rfl, hcode]
        rfl
      rw [hcall]
      simp
    | false =>
      have htaken : memory.code.isSome = true := by
        rw [← Option.not_isNone, hcode]
        rfl
      rcases generate_cases P gcm provider rt credentialId readings hcode with
        ⟨-, hfails, hleft⟩ | ⟨_, _, _, h, hresult, hwritten⟩
      · rw [if_neg hfails]
        exact hleft
      · have hok := hresult.2 (hrecord (hsame.1.symm.trans htaken) _ _ _ h)
        have hread := hclock.unixSeconds_some h.codes.time
        rw [if_pos hok]
        exact ⟨_, _, _, h.found, htaken, hwritten, hread.2, hread.1, h.codes.time,
          ((generateKey_ok hmac).1 h.codes.code).2.2⟩

/-! ## A use that is not recorded -/

/-- An account without a name. -/
def unnamed : CredentialRecord where
  credentialId := Bytes.zero 16
  secret := [1]
  issuer := []
  account := []
  displayName := []
  digits := digits
  periodSeconds := 30
  manualOrder := 0

/-- A decryption that gives the plaintext of one account. -/
def unnamedGcm : GcmOpen := fun _ _ _ _ _ =>
  Vault.encodePlaintext ⟨[unnamed], none, none⟩ Vault.vaultFormatVersion1

/-- A storage that gives `recorded` for the record of a use. -/
def recordingWith (recorded : Status) : Persistence Unit where
  load := fun st => ((.io, {}), st)
  formatSchema2 := fun st => (.io, st)
  replaceEnvelope := fun _ _ st => (.io, st)
  setLastUsed := fun _ st => (recorded, st)
  eraseAll := fun st => (.io, st)

/-- An unlocked runtime. -/
def unlocked : Runtime Unit where
  persistence := ()
  initialized := true
  hasVault := true
  state := .unlocked
  vmkPresent := true

/-- A reading of a clock that was just set. -/
def justSet : Reading where
  clock := (Time.syncFromUsb {} true true 1700000000 0).2
  timerUs := 0

/-- A provider of one digest. -/
def zeroDigest : HmacSha1Provider := fun _ _ => some (Bytes.zero 20)

theorem zeroDigest_computes : zeroDigest.Computes fun _ _ => (Bytes.zero 20).1 := by
  intro key message digest h
  cases h
  rfl

theorem all_or_nothing_recorded :
    AllOrNothing unnamedGcm unlocked (Bytes.zero 16) ⟨justSet, justSet, justSet⟩
      (fun _ _ => (Bytes.zero 20).1) ⟨some 7, some 7⟩
      (generateForCredential (recordingWith .ok) unnamedGcm zeroDigest unlocked (Bytes.zero 16)
        ⟨justSet, justSet, justSet⟩ ⟨some 7, some 7⟩).1 :=
  (all_or_nothing_iff (P := recordingWith .ok) zeroDigest_computes
    (.usb true true 1700000000 0 .initial) ⟨some 7, some 7⟩).2
    (fun _ _ _ _ _ => rfl) ⟨some 7, some 7⟩ ⟨rfl, rfl⟩

/-- The code and the time are written, and the call fails. -/
theorem unrecorded_code_written :
    (generateForCredential (recordingWith .io) unnamedGcm zeroDigest unlocked (Bytes.zero 16)
      ⟨justSet, justSet, justSet⟩ ⟨some 7, some 7⟩).1 =
        (.storageError, ⟨some 0, some 1700000000⟩) ∧
    ¬AllOrNothing unnamedGcm unlocked (Bytes.zero 16) ⟨justSet, justSet, justSet⟩
      (fun _ _ => (Bytes.zero 20).1) ⟨some 7, some 7⟩
      (generateForCredential (recordingWith .io) unnamedGcm zeroDigest unlocked (Bytes.zero 16)
        ⟨justSet, justSet, justSet⟩ ⟨some 7, some 7⟩).1 := by
  have hcall : (generateForCredential (recordingWith .io) unnamedGcm zeroDigest unlocked
      (Bytes.zero 16) ⟨justSet, justSet, justSet⟩ ⟨some 7, some 7⟩).1 =
        (.storageError, ⟨some 0, some 1700000000⟩) := by
    decide +kernel
  refine ⟨hcall, ?_⟩
  rw [hcall]
  simp [AllOrNothing, Output.clearTime]

end M5Auth.Totp
