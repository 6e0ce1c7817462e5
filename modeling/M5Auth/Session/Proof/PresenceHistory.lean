import M5Auth.Session.Presence

/-!
# What a consumed confirmation proves

`gateAfter calls` is the gate after any calls on a fresh one, the newest call first. The main result
is `presence_trace`: a confirmation is consumed only for the request of the latest `begin`, after

* two consecutive released samples (`ArmedBy`),
* a press edge whose release was not yet sampled and which no earlier `confirm_current` used
  (`HeldEdge`), and
* a `confirm_current` with a newer input generation, in time (`ConfirmedBy`),

in this order and with no cancel in between (`Authorized`); and at most once for each `begin`.

The invariant is `Tracks`: what each state of the gate says about the calls since its `begin`.
-/

namespace M5Auth.Session

/-- `constant_time_equal` on spans of any lengths. -/
def sameSpan (left right : List UInt8) : Bool :=
  left.length == right.length && (List.zipWith (· ^^^ ·) left right).foldl (· ||| ·) 0 == 0

theorem sameSpan_iff {left right : List UInt8} : sameSpan left right = true ↔ left = right := by
  rw [sameSpan, Bool.and_eq_true, beq_iff_eq, beq_iff_eq, Bytes.foldl_or_eq_zero]
  constructor
  · rintro ⟨hl, -, hz⟩
    exact (Bytes.zipWith_xor_zero hl).1 hz
  · rintro rfl
    exact ⟨rfl, rfl, (Bytes.zipWith_xor_zero rfl).2 rfl⟩

namespace UserPresenceGate

/-- `consume_confirmation` of a span of any length. -/
def consumeSpan (gate : UserPresenceGate) (attemptId : List UInt8) (nowMs : UInt64) :
    Bool × UserPresenceGate :=
  match gate.expire nowMs with
  | (expired, gate) =>
    if expired ∨ gate.state ≠ .confirmed then (false, gate)
    else if !sameSpan attemptId gate.attemptId.1 then (false, clear)
    else (true, clear)

/-- On an attempt id this is the consumption that the Device makes. -/
theorem consumeSpan_attemptId (gate : UserPresenceGate) (attemptId : AttemptId) (nowMs : UInt64) :
    gate.consumeSpan attemptId.1 nowMs = gate.consumeConfirmation attemptId nowMs := by
  unfold consumeSpan consumeConfirmation
  rcases gate.expire nowMs with ⟨expired, gate'⟩
  have hsame : sameSpan attemptId.1 gate'.attemptId.1 = attemptId.sameBytes gate'.attemptId := by
    rw [Bool.eq_iff_iff, sameSpan_iff, Bytes.sameBytes_iff, Subtype.ext_iff]
  simp only [hsame]

end UserPresenceGate

open UserPresenceGate (clear)

/-! ## Calls -/

/-- The calls on a gate. -/
inductive PresenceCall where
  | beginRequest (operation : PresenceOperation) (attemptId : AttemptId)
      (nowMs inputGeneration : UInt64)
  | observe (pressed : Bool)
  | confirm (nowMs inputGeneration : UInt64)
  | consume (attemptId : List UInt8) (nowMs : UInt64)
  | cancel
  | expire (nowMs : UInt64)
  deriving DecidableEq

namespace PresenceCall

/-- The gate after a call. -/
def apply (gate : UserPresenceGate) : PresenceCall → UserPresenceGate
  | .beginRequest operation attemptId nowMs inputGeneration =>
    .beginRequest operation attemptId nowMs inputGeneration
  | .observe pressed => gate.observeInputState pressed
  | .confirm nowMs inputGeneration => (gate.confirmCurrent nowMs inputGeneration).2
  | .consume attemptId nowMs => (gate.consumeSpan attemptId nowMs).2
  | .cancel => clear
  | .expire nowMs => (gate.expire nowMs).2

/-- Neither a `begin` nor a `cancel`. -/
def continues : PresenceCall → Bool
  | .beginRequest .. | .cancel => false
  | _ => true

def isSample : PresenceCall → Bool
  | .observe _ => true
  | _ => false

/-- A released sample or a `confirm_current`: what ends a press edge. -/
def endsEdge : PresenceCall → Bool
  | .observe false | .confirm .. => true
  | _ => false

end PresenceCall

open PresenceCall

/-- The gate after these calls, the newest first. -/
def gateAfter : List PresenceCall → UserPresenceGate
  | [] => {}
  | call :: before => call.apply (gateAfter before)

/-- The calls make a consumption with these arguments succeed. -/
def Consumes (calls : List PresenceCall) (attemptId : List UInt8) (nowMs : UInt64) : Prop :=
  ((gateAfter calls).consumeSpan attemptId nowMs).1 = true

instance (calls : List PresenceCall) (attemptId : List UInt8) (nowMs : UInt64) :
    Decidable (Consumes calls attemptId nowMs) :=
  inferInstanceAs (Decidable (_ = _))

/-! ## What the calls since `begin` show -/

/-- The latest sample is a released one. -/
def LastReleased (calls : List PresenceCall) : Prop :=
  ∃ since before, calls = since ++ .observe false :: before ∧ ∀ c ∈ since, c.isSample = false

/-- Two consecutive released samples. -/
def ArmedBy (calls : List PresenceCall) : Prop :=
  ∃ since before, calls = since ++ .observe false :: before ∧ LastReleased before

/-- A press edge after the arming samples, not released and not used since. -/
def HeldEdge (calls : List PresenceCall) : Prop :=
  ∃ since before, calls = since ++ .observe true :: before ∧ (∀ c ∈ since, c.endsEdge = false) ∧
    LastReleased before ∧ ArmedBy before

/-- A confirmation of such an edge, with a generation above `inputGeneration` and before the
deadline. -/
def ConfirmedBy (inputGeneration deadlineMs : UInt64) (calls : List PresenceCall) : Prop :=
  ∃ since nowMs generation before, calls = since ++ .confirm nowMs generation :: before ∧
    inputGeneration < generation ∧ nowMs < deadlineMs ∧ HeldEdge before

/-- The latest `begin`, for this attempt, was followed by a confirmation; neither it nor the
consumption is late, and no consumption has succeeded since. -/
def Authorized (calls : List PresenceCall) (attemptId : List UInt8) (nowMs : UInt64) : Prop :=
  ∃ since operation id startMs inputGeneration before,
    calls = since ++ .beginRequest operation id startMs inputGeneration :: before ∧
    (∀ c ∈ since, c.continues = true) ∧ attemptId = id.1 ∧ nowMs < deadlineFrom startMs ∧
    ConfirmedBy inputGeneration (deadlineFrom startMs) since ∧
    ∀ later other otherMs earlier, since = later ++ .consume other otherMs :: earlier →
      ¬ Consumes (earlier ++ .beginRequest operation id startMs inputGeneration :: before)
        other otherMs

theorem LastReleased.cons {calls : List PresenceCall} (h : LastReleased calls) {c : PresenceCall}
    (hc : c.isSample = false) : LastReleased (c :: calls) := by
  obtain ⟨since, before, rfl, hs⟩ := h
  refine ⟨c :: since, before, rfl, ?_⟩
  intro d hd
  rcases List.mem_cons.1 hd with rfl | hd
  · exact hc
  · exact hs d hd

theorem ArmedBy.cons {calls : List PresenceCall} (h : ArmedBy calls) (c : PresenceCall) :
    ArmedBy (c :: calls) := by
  obtain ⟨since, before, rfl, hl⟩ := h
  exact ⟨c :: since, before, rfl, hl⟩

theorem HeldEdge.cons {calls : List PresenceCall} (h : HeldEdge calls) {c : PresenceCall}
    (hc : c.endsEdge = false) : HeldEdge (c :: calls) := by
  obtain ⟨since, before, rfl, hs, hl⟩ := h
  refine ⟨c :: since, before, rfl, ?_, hl⟩
  intro d hd
  rcases List.mem_cons.1 hd with rfl | hd
  · exact hc
  · exact hs d hd

theorem ConfirmedBy.cons {inputGeneration deadlineMs : UInt64} {calls : List PresenceCall}
    (h : ConfirmedBy inputGeneration deadlineMs calls) (c : PresenceCall) :
    ConfirmedBy inputGeneration deadlineMs (c :: calls) := by
  obtain ⟨since, nowMs, generation, before, rfl, h⟩ := h
  exact ⟨c :: since, nowMs, generation, before, rfl, h⟩

theorem ArmedBy.released {calls : List PresenceCall} (h : ArmedBy calls) :
    .observe false ∈ calls := by
  obtain ⟨since, before, rfl, -⟩ := h
  simp

theorem ConfirmedBy.released {inputGeneration deadlineMs : UInt64} {calls : List PresenceCall}
    (h : ConfirmedBy inputGeneration deadlineMs calls) : .observe false ∈ calls := by
  obtain ⟨since, nowMs, generation, before, rfl, -, -, since', before', rfl, -, -, hl⟩ := h
  have := hl.released
  simp [this]

/-! ## The invariant -/

/-- What the sampling fields of a gate say about the calls since its `begin`. -/
structure Samples (gate : UserPresenceGate) (since : List PresenceCall) : Prop where
  neutral : gate.inputArmed = false → 0 < gate.neutralSamples → LastReleased since
  armed : gate.inputArmed = true → ArmedBy since
  released : gate.inputArmed = true → gate.lastInputPressed = false → LastReleased since
  edge : gate.inputArmed = true → gate.postArmPressEdge = true → HeldEdge since

/-- An active gate holds the request of the latest `begin`, and its state shows what the calls
since then were. -/
structure Tracks (gate : UserPresenceGate) (calls since before : List PresenceCall)
    (operation : PresenceOperation) (id : AttemptId) (startMs inputGeneration : UInt64) :
    Prop where
  split : calls = since ++ .beginRequest operation id startMs inputGeneration :: before
  continues : ∀ c ∈ since, c.continues = true
  attemptId : gate.attemptId = id
  deadline : gate.expiresAtMs = deadlineFrom startMs
  generation : gate.inputGenerationAtStart = inputGeneration
  awaiting : gate.state = .awaiting → Samples gate since
  confirmed : gate.state = .confirmed → ConfirmedBy inputGeneration (deadlineFrom startMs) since
  unconsumed : ∀ later other otherMs earlier, since = later ++ .consume other otherMs :: earlier →
    ¬ Consumes (earlier ++ .beginRequest operation id startMs inputGeneration :: before)
      other otherMs

/-- The gate is idle, or it tracks the latest `begin`. -/
def Tracked (calls : List PresenceCall) : Prop :=
  (gateAfter calls).state = .idle ∨
    ∃ since before operation id startMs inputGeneration,
      Tracks (gateAfter calls) calls since before operation id startMs inputGeneration

@[simp] theorem clear_state : clear.state = .idle := rfl

theorem expire_cases (gate : UserPresenceGate) (nowMs : UInt64) :
    (gate.expire nowMs = (false, gate) ∧ (gate.state = .idle ∨ nowMs < gate.expiresAtMs)) ∨
      gate.expire nowMs = (true, clear) := by
  unfold UserPresenceGate.expire
  split
  · exact .inl ⟨rfl, ‹_›⟩
  · exact .inr rfl

/-- A consumption succeeds on a confirmed gate of that attempt, in time. -/
theorem consumeSpan_cases (gate : UserPresenceGate) (attemptId : List UInt8) (nowMs : UInt64) :
    (gate.consumeSpan attemptId nowMs = (true, clear) ∧ gate.state = .confirmed ∧
      attemptId = gate.attemptId.1 ∧ nowMs < gate.expiresAtMs) ∨
    gate.consumeSpan attemptId nowMs = (false, clear) ∨
    (gate.consumeSpan attemptId nowMs = (false, gate) ∧ gate.state ≠ .confirmed) := by
  unfold UserPresenceGate.consumeSpan
  rcases expire_cases gate nowMs with ⟨he, ht⟩ | he
  · rw [he]
    by_cases hs : gate.state = .confirmed
    · have hlt : nowMs < gate.expiresAtMs := by
        rcases ht with hi | hlt
        · rw [hs] at hi
          cases hi
        · exact hlt
      by_cases hid : sameSpan attemptId gate.attemptId.1 = true
      · exact .inl ⟨by simp [hs, hid], hs, sameSpan_iff.1 hid, hlt⟩
      · exact .inr (.inl (by simp [hs, hid]))
    · exact .inr (.inr ⟨by simp [hs], hs⟩)
  · rw [he]
    exact .inr (.inl (by simp))

/-- A `confirm_current` clears a late gate, confirms a held edge, uses an edge up, or does
nothing. -/
theorem confirmCurrent_cases (gate : UserPresenceGate) (nowMs generation : UInt64) :
    (gate.confirmCurrent nowMs generation).2 = clear ∨
    ((gate.confirmCurrent nowMs generation).2 =
        { gate with postArmPressEdge := false, state := .confirmed } ∧
      gate.state = .awaiting ∧ nowMs < gate.expiresAtMs ∧ gate.inputArmed = true ∧
      gate.postArmPressEdge = true ∧ gate.inputGenerationAtStart < generation) ∨
    (gate.confirmCurrent nowMs generation).2 = { gate with postArmPressEdge := false } ∨
    ((gate.confirmCurrent nowMs generation).2 = gate ∧
      ¬ (gate.state = .awaiting ∧ gate.inputArmed = true ∧ gate.postArmPressEdge = true)) := by
  unfold UserPresenceGate.confirmCurrent
  rcases expire_cases gate nowMs with ⟨he, ht⟩ | he
  · rw [he]
    by_cases hs : gate.state = .awaiting
    · by_cases harm : gate.inputArmed = true ∧ gate.postArmPressEdge = true
      · by_cases hg : generation ≤ gate.inputGenerationAtStart
        · exact .inr (.inr (.inl (by simp [hs, harm, hg])))
        · have hlt : nowMs < gate.expiresAtMs := by
            rcases ht with hi | hlt
            · rw [hs] at hi
              cases hi
            · exact hlt
          refine .inr (.inl ⟨by simp [hs, harm, hg], hs, hlt, harm.1, harm.2, ?_⟩)
          exact UInt64.not_le.1 hg
      · refine .inr (.inr (.inr ⟨?_, fun h => harm h.2⟩))
        have hunarmed : gate.inputArmed = false ∨ gate.postArmPressEdge = false := by
          rcases hA : gate.inputArmed with _ | _
          · exact .inl rfl
          · exact .inr (Bool.eq_false_iff.2 fun hE => harm ⟨hA, hE⟩)
        simp [hs, hunarmed]
    · exact .inr (.inr (.inr ⟨by simp [hs], fun h => hs h.1⟩))
  · rw [he]
    exact .inl (by simp)

/-- A sample keeps what the sampling fields say. -/
theorem Samples.observe {gate : UserPresenceGate} {since : List PresenceCall}
    (h : Samples gate since) (hs : gate.state = .awaiting) (pressed : Bool) :
    Samples (gate.observeInputState pressed) (.observe pressed :: since) := by
  have hlast : LastReleased (.observe false :: since) :=
    ⟨[], since, rfl, by simp⟩
  unfold UserPresenceGate.observeInputState
  rw [if_neg (by simp [hs])]
  rcases hA : gate.inputArmed with _ | _
  · cases pressed with
    | true => constructor <;> simp
    | false =>
      rcases Nat.lt_or_ge 0 gate.neutralSamples with hpos | hzero
      · -- the second released sample in a row arms the gate
        have harmed : ArmedBy (.observe false :: since) :=
          ⟨[], since, rfl, h.neutral hA hpos⟩
        have hge : 2 ≤ if gate.neutralSamples < 2 then gate.neutralSamples + 1
            else gate.neutralSamples := by split <;> omega
        simp only [Bool.not_false, if_true, Bool.false_eq_true, if_false, if_pos hge]
        constructor
        · simp
        · exact fun _ => harmed
        · exact fun _ _ => hlast
        · simp
      · have hlt : ¬ 2 ≤ if gate.neutralSamples < 2 then gate.neutralSamples + 1
            else gate.neutralSamples := by split <;> omega
        simp only [Bool.not_false, if_true, Bool.false_eq_true, if_false, if_neg hlt]
        constructor
        · exact fun _ _ => hlast
        · simp
        · simp
        · simp
  · simp only [Bool.not_true, Bool.false_eq_true, if_false]
    constructor
    · simp
    · exact fun _ => (h.armed hA).cons _
    · rintro - hl
      simp only at hl
      subst hl
      exact hlast
    · rintro - he
      cases pressed with
      | false => simp at he
      | true =>
        rcases hp : gate.lastInputPressed with _ | _
        · exact ⟨[], since, rfl, by simp, h.released hA hp, h.armed hA⟩
        · simp only [hp, Bool.not_true, Bool.and_false, Bool.false_eq_true, if_false] at he
          exact (h.edge hA he).cons rfl

/-- What is no sample keeps what the sampling fields say, if they stay and the edge is not used. -/
theorem Samples.cons {gate gate' : UserPresenceGate} {since : List PresenceCall}
    (h : Samples gate since) {c : PresenceCall} (hc : c.isSample = false)
    (hn : gate'.neutralSamples = gate.neutralSamples) (ha : gate'.inputArmed = gate.inputArmed)
    (hl : gate'.lastInputPressed = gate.lastInputPressed)
    (he : gate'.postArmPressEdge = true → gate.postArmPressEdge = true ∧ c.endsEdge = false) :
    Samples gate' (c :: since) := by
  constructor
  · rw [ha, hn]
    exact fun h₁ h₂ => (h.neutral h₁ h₂).cons hc
  · rw [ha]
    exact fun h₁ => (h.armed h₁).cons c
  · rw [ha, hl]
    exact fun h₁ h₂ => (h.released h₁ h₂).cons hc
  · rw [ha]
    exact fun h₁ h₂ => (h.edge h₁ (he h₂).1).cons (he h₂).2

/-! ## The calls keep the invariant -/

section
variable {calls since before : List PresenceCall} {operation : PresenceOperation} {id : AttemptId}
  {startMs inputGeneration : UInt64}

/-- A call that is no successful consumption extends the calls that the gate tracks. -/
theorem Tracks.extend
    (h : Tracks (gateAfter calls) calls since before operation id startMs inputGeneration)
    {c : PresenceCall} (hc : c.continues = true) {gate : UserPresenceGate}
    (hid : gate.attemptId = (gateAfter calls).attemptId)
    (hdeadline : gate.expiresAtMs = (gateAfter calls).expiresAtMs)
    (hgeneration : gate.inputGenerationAtStart = (gateAfter calls).inputGenerationAtStart)
    (hawaiting : gate.state = .awaiting → Samples gate (c :: since))
    (hconfirmed : gate.state = .confirmed →
      ConfirmedBy inputGeneration (deadlineFrom startMs) (c :: since))
    (hconsume : ∀ other otherMs, c = .consume other otherMs → ¬ Consumes calls other otherMs) :
    Tracks gate (c :: calls) (c :: since) before operation id startMs inputGeneration where
  split := by rw [h.split, List.cons_append]
  continues := by
    intro d hd
    rcases List.mem_cons.1 hd with rfl | hd
    · exact hc
    · exact h.continues d hd
  attemptId := hid.trans h.attemptId
  deadline := hdeadline.trans h.deadline
  generation := hgeneration.trans h.generation
  awaiting := hawaiting
  confirmed := hconfirmed
  unconsumed := by
    intro later other otherMs earlier he
    cases later with
    | nil =>
      obtain ⟨rfl, rfl⟩ := List.cons.inj he
      rw [← h.split]
      exact hconsume _ _ rfl
    | cons d later =>
      obtain ⟨-, he⟩ := List.cons.inj he
      exact h.unconsumed later other otherMs earlier he

/-- The gate stays as it is under a call that is no sample and ends no edge it has. -/
theorem Tracks.same
    (h : Tracks (gateAfter calls) calls since before operation id startMs inputGeneration)
    {c : PresenceCall} (hc : c.continues = true) (hsample : c.isSample = false)
    (hedge : (gateAfter calls).state = .awaiting → (gateAfter calls).inputArmed = true →
      (gateAfter calls).postArmPressEdge = true → c.endsEdge = false)
    (hconsume : ∀ other otherMs, c = .consume other otherMs → ¬ Consumes calls other otherMs) :
    Tracks (gateAfter calls) (c :: calls) (c :: since) before operation id startMs
      inputGeneration := by
  refine h.extend hc rfl rfl rfl ?_ (fun hs => (h.confirmed hs).cons c) hconsume
  intro hs
  have hsam := h.awaiting hs
  constructor
  · exact fun h₁ h₂ => (hsam.neutral h₁ h₂).cons hsample
  · exact fun h₁ => (hsam.armed h₁).cons c
  · exact fun h₁ h₂ => (hsam.released h₁ h₂).cons hsample
  · exact fun h₁ h₂ => (hsam.edge h₁ h₂).cons (hedge hs h₁ h₂)

end

/-- A call on an idle gate that is no `begin` leaves it idle. -/
theorem apply_idle {gate : UserPresenceGate} (h : gate.state = .idle) {c : PresenceCall}
    (hc : c.continues = true) : (c.apply gate).state = .idle := by
  have hexpire : ∀ nowMs, gate.expire nowMs = (false, gate) := by
    intro nowMs
    simp [UserPresenceGate.expire, h]
  cases c with
  | beginRequest => simp [continues] at hc
  | cancel => rfl
  | observe pressed => simp [apply, UserPresenceGate.observeInputState, h]
  | confirm nowMs generation => simp [apply, UserPresenceGate.confirmCurrent, hexpire, h]
  | consume attemptId nowMs => simp [apply, UserPresenceGate.consumeSpan, hexpire, h]
  | expire nowMs => simp [apply, hexpire, h]

/-- A sample changes the sampling fields only. -/
theorem observeInputState_frame (gate : UserPresenceGate) (pressed : Bool) :
    (gate.observeInputState pressed).state = gate.state ∧
      (gate.observeInputState pressed).attemptId = gate.attemptId ∧
      (gate.observeInputState pressed).expiresAtMs = gate.expiresAtMs ∧
      (gate.observeInputState pressed).inputGenerationAtStart = gate.inputGenerationAtStart := by
  unfold UserPresenceGate.observeInputState
  split
  · exact ⟨rfl, rfl, rfl, rfl⟩
  · split
    · cases pressed with
      | true => exact ⟨rfl, rfl, rfl, rfl⟩
      | false =>
        simp only [Bool.false_eq_true, if_false]
        split <;> split <;> exact ⟨rfl, rfl, rfl, rfl⟩
    · exact ⟨rfl, rfl, rfl, rfl⟩

section
variable {calls since before : List PresenceCall} {operation : PresenceOperation} {id : AttemptId}
  {startMs inputGeneration : UInt64}

theorem Tracks.observe
    (h : Tracks (gateAfter calls) calls since before operation id startMs inputGeneration)
    (pressed : Bool) :
    Tracks ((gateAfter calls).observeInputState pressed) (.observe pressed :: calls)
      (.observe pressed :: since) before operation id startMs inputGeneration := by
  obtain ⟨hstate, hid, hdeadline, hgeneration⟩ := observeInputState_frame (gateAfter calls) pressed
  refine h.extend rfl hid hdeadline hgeneration ?_ ?_ (by simp)
  · intro hs
    rw [hstate] at hs
    exact (h.awaiting hs).observe hs pressed
  · intro hs
    rw [hstate] at hs
    exact (h.confirmed hs).cons _

theorem Tracks.confirm
    (h : Tracks (gateAfter calls) calls since before operation id startMs inputGeneration)
    (nowMs generation : UInt64) :
    ((gateAfter calls).confirmCurrent nowMs generation).2.state = .idle ∨
      Tracks ((gateAfter calls).confirmCurrent nowMs generation).2
        (.confirm nowMs generation :: calls) (.confirm nowMs generation :: since) before operation
        id startMs inputGeneration := by
  rcases confirmCurrent_cases (gateAfter calls) nowMs generation with
    he | ⟨he, hs, htime, harmed, hedge, hnewer⟩ | he | ⟨he, hno⟩ <;> rw [he]
  · exact .inl rfl
  · -- the edge is used up and confirms the request
    refine .inr (h.extend rfl rfl rfl rfl (by simp) (fun _ => ?_) (by simp))
    rw [h.generation] at hnewer
    rw [h.deadline] at htime
    exact ⟨[], nowMs, generation, since, rfl, hnewer, htime, (h.awaiting hs).edge harmed hedge⟩
  · refine .inr (h.extend rfl rfl rfl rfl (fun hs => ?_) (fun hs => (h.confirmed hs).cons _)
      (by simp))
    exact (h.awaiting hs).cons rfl rfl rfl rfl (by simp)
  · exact .inr (h.same rfl rfl (fun hs harmed hedge => absurd ⟨hs, harmed, hedge⟩ hno) (by simp))

theorem Tracks.consume
    (h : Tracks (gateAfter calls) calls since before operation id startMs inputGeneration)
    (attemptId : List UInt8) (nowMs : UInt64) :
    ((gateAfter calls).consumeSpan attemptId nowMs).2.state = .idle ∨
      Tracks ((gateAfter calls).consumeSpan attemptId nowMs).2 (.consume attemptId nowMs :: calls)
        (.consume attemptId nowMs :: since) before operation id startMs inputGeneration := by
  rcases consumeSpan_cases (gateAfter calls) attemptId nowMs with ⟨he, -⟩ | he | ⟨he, -⟩
  · rw [he]
    exact .inl rfl
  · rw [he]
    exact .inl rfl
  · have hfails : ¬ Consumes calls attemptId nowMs := by
      simp [Consumes, he]
    rw [he]
    refine .inr (h.same rfl rfl (fun _ _ _ => rfl) ?_)
    intro other otherMs hother
    obtain ⟨rfl, rfl⟩ := PresenceCall.consume.inj hother
    exact hfails

theorem Tracks.expire
    (h : Tracks (gateAfter calls) calls since before operation id startMs inputGeneration)
    (nowMs : UInt64) :
    ((gateAfter calls).expire nowMs).2.state = .idle ∨
      Tracks ((gateAfter calls).expire nowMs).2 (.expire nowMs :: calls) (.expire nowMs :: since)
        before operation id startMs inputGeneration := by
  rcases expire_cases (gateAfter calls) nowMs with ⟨he, -⟩ | he <;> rw [he]
  · exact .inr (h.same rfl rfl (fun _ _ _ => rfl) (by simp))
  · exact .inl rfl

end

/-- **Every gate is idle or tracks the latest `begin`.** -/
theorem tracked (calls : List PresenceCall) : Tracked calls := by
  induction calls with
  | nil => exact .inl rfl
  | cons c calls ih =>
    cases c with
    | beginRequest operation id startMs generation =>
      refine .inr ⟨[], calls, operation, id, startMs, generation, rfl, by simp, rfl, rfl, rfl,
        fun _ => ?_, ?_, by simp⟩
      · constructor <;> simp [gateAfter, apply, UserPresenceGate.beginRequest]
      · intro hs
        cases hs
    | cancel => exact .inl rfl
    | observe pressed =>
      rcases ih with hidle | ⟨since, before, operation, id, startMs, generation, h⟩
      · exact .inl (apply_idle hidle rfl)
      · exact .inr ⟨_, _, _, _, _, _, h.observe pressed⟩
    | confirm nowMs newer =>
      rcases ih with hidle | ⟨since, before, operation, id, startMs, generation, h⟩
      · exact .inl (apply_idle hidle rfl)
      · rcases h.confirm nowMs newer with hidle | h
        · exact .inl hidle
        · exact .inr ⟨_, _, _, _, _, _, h⟩
    | consume attemptId nowMs =>
      rcases ih with hidle | ⟨since, before, operation, id, startMs, generation, h⟩
      · exact .inl (apply_idle hidle rfl)
      · rcases h.consume attemptId nowMs with hidle | h
        · exact .inl hidle
        · exact .inr ⟨_, _, _, _, _, _, h⟩
    | expire nowMs =>
      rcases ih with hidle | ⟨since, before, operation, id, startMs, generation, h⟩
      · exact .inl (apply_idle hidle rfl)
      · rcases h.expire nowMs with hidle | h
        · exact .inl hidle
        · exact .inr ⟨_, _, _, _, _, _, h⟩

/-! ## What a consumption proves -/

theorem Consumes.authorized {calls : List PresenceCall} {attemptId : List UInt8} {nowMs : UInt64}
    (h : Consumes calls attemptId nowMs) : Authorized calls attemptId nowMs := by
  have hcases := consumeSpan_cases (gateAfter calls) attemptId nowMs
  rcases hcases with ⟨he, hstate, hid, htime⟩ | he | ⟨he, -⟩
  · rcases tracked calls with hidle | ⟨since, before, operation, id, startMs, generation, ht⟩
    · rw [hidle] at hstate
      cases hstate
    · rw [ht.attemptId] at hid
      rw [ht.deadline] at htime
      exact ⟨since, operation, id, startMs, generation, before, ht.split, ht.continues, hid, htime,
        ht.confirmed hstate, ht.unconsumed⟩
  · simp [Consumes, he] at h
  · simp [Consumes, he] at h

/-- A list of calls has one latest `begin`. -/
theorem split_unique {b b' : PresenceCall} (hb : b.continues = false) (hb' : b'.continues = false) :
    ∀ {since since' before before' : List PresenceCall},
      since ++ b :: before = since' ++ b' :: before' → (∀ c ∈ since, c.continues = true) →
      (∀ c ∈ since', c.continues = true) → since = since'
  | [], [], _, _, _, _, _ => rfl
  | [], c' :: since', _, _, he, _, hs' => by
    have hc' := hs' c' (List.mem_cons_self ..)
    obtain ⟨rfl, -⟩ := List.cons.inj he
    rw [hb] at hc'
    cases hc'
  | c :: since, [], _, _, he, hs, _ => by
    have hc := hs c (List.mem_cons_self ..)
    obtain ⟨rfl, -⟩ := List.cons.inj he
    rw [hb'] at hc
    cases hc
  | c :: since, c' :: since', _, _, he, hs, hs' => by
    obtain ⟨rfl, htail⟩ := List.cons.inj he
    have hsame := split_unique hb hb' htail (fun d hd => hs d (.tail _ hd))
      (fun d hd => hs' d (.tail _ hd))
    rw [hsame]

/-- A button that is down in every sample since the latest `begin` confirms nothing. -/
theorem held_not_confirmed {since before : List PresenceCall} {operation : PresenceOperation}
    {id : AttemptId} {startMs inputGeneration : UInt64}
    (hs : ∀ c ∈ since, c.continues = true) (hheld : .observe false ∉ since) :
    (gateAfter (since ++ .beginRequest operation id startMs inputGeneration :: before)).state ≠
      .confirmed := by
  intro hstate
  rcases tracked (since ++ .beginRequest operation id startMs inputGeneration :: before) with
    hidle | ⟨since', before', operation', id', startMs', generation', ht⟩
  · rw [hidle] at hstate
    cases hstate
  · obtain rfl := split_unique rfl rfl ht.split hs ht.continues
    exact hheld (ht.confirmed hstate).released

/-- A confirmed gate that is asked for another attempt refuses and is idle afterwards. -/
theorem consumeSpan_other {gate : UserPresenceGate} {attemptId : List UInt8} {nowMs : UInt64}
    (hs : gate.state = .confirmed) (hother : attemptId ≠ gate.attemptId.1) :
    gate.consumeSpan attemptId nowMs = (false, clear) := by
  rcases consumeSpan_cases gate attemptId nowMs with ⟨-, -, hid, -⟩ | he | ⟨-, hno⟩
  · exact absurd hid hother
  · exact he
  · exact absurd hs hno

/-- **The presence gate confirms one request of the latest `begin`.** After any calls: a
consumption that succeeds is `Authorized`; a button that is held since before `begin` never
confirms; and a confirmed gate asked for another attempt refuses and is idle. -/
theorem presence_trace (calls : List PresenceCall) (attemptId : List UInt8) (nowMs : UInt64) :
    (Consumes calls attemptId nowMs → Authorized calls attemptId nowMs) ∧
    (∀ since operation id startMs inputGeneration before,
      calls = since ++ .beginRequest operation id startMs inputGeneration :: before →
      (∀ c ∈ since, c.continues = true) → .observe false ∉ since →
      (gateAfter calls).state ≠ .confirmed) ∧
    ((gateAfter calls).state = .confirmed → attemptId ≠ (gateAfter calls).attemptId.1 →
      (gateAfter calls).consumeSpan attemptId nowMs = (false, clear)) := by
  refine ⟨Consumes.authorized, ?_, consumeSpan_other⟩
  rintro since operation id startMs generation before rfl hs hheld
  exact held_not_confirmed hs hheld

/-- A press after two released samples confirms the request, one generation later. -/
theorem presence_trace_sample :
    Authorized [.confirm 40 6, .observe true, .observe false, .observe false,
      .beginRequest .recovery (Bytes.zero 16) 10 5] (Bytes.zero 16).1 50 :=
  (presence_trace _ _ _).1 (by decide)

/-- At its deadline the request is gone. -/
example : ¬ Consumes [.confirm 40 6, .observe true, .observe false, .observe false,
    .beginRequest .recovery (Bytes.zero 16) 10 5] (Bytes.zero 16).1 30010 := by decide

end M5Auth.Session
