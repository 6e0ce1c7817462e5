import M5Auth.Provisioning.Proof.TransportPhase
import M5Auth.Provisioning.Proof.UnlockAuthorization

/-!
# Serial framing

On one connection, without read errors, the main loop does to the transport session what
`Link.serve` does for the frames of the stream in order, however the stream is cut into reads:
`framing_chunk_independent`. Each frame has exactly one action, of the fate that the frame has in the
phase of the session (`Handles`): dropped, dispatched or reported. The invariant is `Buffered`, which
says what of the stream the buffer still holds.

The content of a line alone does not decide its fate (`fitting_lines_not_dispatched`): a line with
many carriage returns overflows the buffer first, and before the handshake only a hello is
dispatched.
-/

namespace M5Auth.Provisioning

/-! ## Frames of a stream -/

theorem frames_ended {lines : List (List UInt8)} (h : ∀ line ∈ lines, newline ∉ line)
    (rest : List UInt8) :
    frames (Lines.ended newline lines ++ rest) = lines.map frameOf ++ frames rest := by
  unfold frames
  rw [Lines.split_ended h]
  simp [List.append_assoc]

theorem frames_short {input : List UInt8} (h : newline ∉ input)
    (hroom : input.length < inputCapacity) : frames input = [] := by
  unfold frames
  rw [Lines.split_open h]
  simp [Nat.not_le.2 hroom]

theorem frames_full {input : List UInt8} (h : newline ∉ input)
    (hfull : input.length ≥ inputCapacity) : frames input = [.oversized] := by
  unfold frames
  rw [Lines.split_open h]
  simp [hfull]

theorem frameOf_long {raw : List UInt8} (h : raw.length ≥ inputCapacity) :
    frameOf raw = .oversized := if_neg fun hfits => absurd hfits.1 (Nat.not_lt.2 h)

/-- A message is never too long. -/
def LineFrame.Fits : LineFrame → Prop
  | .message line => line.length ≤ maxCanonicalMessageBytes
  | .oversized => True

theorem frameOf_fits (raw : List UInt8) : (frameOf raw).Fits := by
  unfold frameOf
  split
  · rename_i hfits
    exact hfits.2
  · trivial

theorem frames_fit (stream : List UInt8) : ∀ f ∈ frames stream, f.Fits := by
  intro f hf
  rcases List.mem_append.1 hf with hline | htail
  · obtain ⟨raw, -, rfl⟩ := List.mem_map.1 hline
    exact frameOf_fits raw
  · split at htail
    · rw [List.mem_singleton.1 htail]
      trivial
    · cases htail

/-- How far a loop is through the stream: the frames it has handled, and what it holds. -/
inductive Buffered : List UInt8 → List LineFrame → List UInt8 → Bool → Prop where
  | lines (lines : List (List UInt8)) (input : List UInt8) :
    (∀ line ∈ lines, newline ∉ line) → input.length ≤ inputCapacity →
    Buffered (Lines.ended newline lines ++ input) (lines.map frameOf) input false
  | oversized (lines : List (List UInt8)) (tail : List UInt8) :
    (∀ line ∈ lines, newline ∉ line) → newline ∉ tail → tail.length ≥ inputCapacity →
    Buffered (Lines.ended newline lines ++ tail) (lines.map frameOf ++ [.oversized]) [] true

namespace Buffered

variable {stream input bytes raw rest : List UInt8} {done : List LineFrame} {discard : Bool}

theorem start : Buffered [] [] [] false := .lines [] [] nofun (Nat.zero_le _)

theorem length_le (h : Buffered stream done input discard) : input.length ≤ inputCapacity := by
  cases h with
  | lines _ _ _ hlen => exact hlen
  | oversized => exact Nat.zero_le _

/-- The frames that are still to be handled. -/
theorem frames_eq (h : Buffered stream done input discard) :
    frames stream = done ++ if discard then [] else frames input := by
  cases h with
  | lines lines input hlines => exact frames_ended hlines input
  | oversized lines tail hlines htail hfull =>
    rw [frames_ended hlines, frames_full htail hfull]
    simp

theorem discarded (h : Buffered stream done input true) (hbytes : newline ∉ bytes) :
    Buffered (stream ++ bytes) done input true := by
  cases h with
  | oversized lines tail hlines htail hfull =>
    rw [List.append_assoc]
    refine .oversized lines (tail ++ bytes) hlines ?_ ?_
    · rw [List.mem_append]
      exact fun hmem => hmem.elim htail hbytes
    · rw [List.length_append]
      omega

theorem append_line {lines : List (List UInt8)} (hlines : ∀ line ∈ lines, newline ∉ line)
    (hraw : newline ∉ raw) : ∀ line ∈ lines ++ [raw], newline ∉ line := by
  intro line hmem
  rcases List.mem_append.1 hmem with h | h
  · exact hlines line h
  · rw [List.mem_singleton.1 h]
    exact hraw

theorem resumed (h : Buffered stream done input true) (hraw : newline ∉ raw)
    (hlen : (raw ++ newline :: rest).length ≤ inputCapacity) :
    Buffered (stream ++ (raw ++ newline :: rest)) done rest false := by
  cases h with
  | oversized lines tail hlines htail hfull =>
    have hline : newline ∉ tail ++ raw := by
      rw [List.mem_append]
      exact fun hmem => hmem.elim htail hraw
    have hframe : frameOf (tail ++ raw) = .oversized :=
      frameOf_long (by rw [List.length_append]; omega)
    have hstream : Lines.ended newline lines ++ tail ++ (raw ++ newline :: rest) =
        Lines.ended newline (lines ++ [tail ++ raw]) ++ rest := by
      rw [Lines.ended_concat]
      simp [List.append_assoc]
    have hdone : lines.map frameOf ++ [.oversized] = (lines ++ [tail ++ raw]).map frameOf := by
      rw [List.map_append, List.map_singleton, hframe]
    rw [hstream, hdone]
    refine .lines _ rest (append_line hlines hline) ?_
    rw [List.length_append, List.length_cons] at hlen
    omega

theorem overflowed (h : Buffered stream done input false) (hopen : newline ∉ input)
    (hfull : input.length ≥ inputCapacity) : Buffered stream (done ++ [.oversized]) [] true := by
  cases h with
  | lines lines input hlines _ => exact .oversized lines input hlines hopen hfull

theorem received (h : Buffered stream done input false)
    (hlen : (input ++ bytes).length ≤ inputCapacity) :
    Buffered (stream ++ bytes) done (input ++ bytes) false := by
  cases h with
  | lines lines input hlines _ =>
    rw [List.append_assoc]
    exact .lines lines (input ++ bytes) hlines hlen

theorem served (h : Buffered stream done (raw ++ newline :: rest) false) (hraw : newline ∉ raw) :
    Buffered stream (done ++ [frameOf raw]) rest false := by
  generalize hinput : raw ++ newline :: rest = input at h
  cases h with
  | lines lines input hlines hlen =>
    have hstream : Lines.ended newline lines ++ input =
        Lines.ended newline (lines ++ [raw]) ++ rest := by
      rw [Lines.ended_concat, ← hinput]
      simp [List.append_assoc]
    have hdone : lines.map frameOf ++ [frameOf raw] = (lines ++ [raw]).map frameOf := by
      rw [List.map_append, List.map_singleton]
    rw [hstream, hdone]
    refine .lines _ rest (append_line hlines hraw) ?_
    rw [← hinput, List.length_append, List.length_cons] at hlen
    omega

end Buffered

/-! ## The line protocol -/

namespace LinkInput

def frame? : LinkInput → Option LineFrame
  | .frame f _ _ => some f
  | _ => none

/-- What is not a frame. -/
def ambient? : LinkInput → Option LinkInput
  | .frame _ _ _ => none
  | other => some other

end LinkInput

/-- What a step of the loop is for the session besides its frames. -/
def LoopInput.ambient : LoopInput → LinkInput
  | .turn t => .housekeeping t.nowMs
  | .user u => .user u

/-- What becomes of a line. -/
inductive LineFate where
  | dropped (line : List UInt8)
  | dispatched (line : List UInt8)
  | reported
  deriving DecidableEq

def LineAction.fate : LineAction → LineFate
  | .dropped line => .dropped line
  | .dispatched line _ _ => .dispatched line
  | .tooLarge _ => .reported

/-- The fate that a frame calls for: before the handshake only a hello is dispatched. -/
def LineFrame.fate (reader : JsonReader) (phase : SessionPhase) : LineFrame → LineFate
  | .message line =>
    let info := classifyProtocolFrame reader line
    if phase = .preHandshake ∧ !(info.valid && info.hello) then .dropped line else .dispatched line
  | .oversized => .reported

/-- The phase after an action. A response that does not go out faults the session, and so do, after
the handshake, an invalid frame and a line that is too large. -/
def SessionPhase.after (reader : JsonReader) (phase : SessionPhase) : LineAction → SessionPhase
  | .dropped _ => phase
  | .dispatched line response written =>
    let info := classifyProtocolFrame reader line
    if !written then .faulted
    else if info.valid && info.hello && response.ok && response.id == info.id then
      .strictPostHandshake
    else if phase == .strictPostHandshake && !info.valid then .faulted
    else phase
  | .tooLarge written =>
    if !written then .faulted else if phase == .strictPostHandshake then .faulted else phase

/-- The actions are those that the frames call for, in order and one for each frame: the action at a
place is about the frame at this place, and has the fate that this frame has in the phase that the
actions before it leave. Nothing is done on a faulted session; on any other no frame is left. -/
structure Handles (reader : JsonReader) (phase : SessionPhase) (fs : List LineFrame)
    (actions : List LineAction) (phase' : SessionPhase) : Prop where
  each : ∀ j action, actions[j]? = some action → ∃ f, fs[j]? = some f ∧
    (actions.take j).foldl (SessionPhase.after reader) phase ≠ .faulted ∧
    action.fate = f.fate reader ((actions.take j).foldl (SessionPhase.after reader) phase)
  phase : phase' = actions.foldl (SessionPhase.after reader) phase
  all : phase' ≠ .faulted → actions.length = fs.length

namespace Handles

variable {reader : JsonReader} {phase phase' : SessionPhase} {fs : List LineFrame}
  {actions : List LineAction}

theorem refl (phase : SessionPhase) : Handles reader phase [] [] phase :=
  ⟨nofun, rfl, fun _ => rfl⟩

theorem ignored (fs : List LineFrame) : Handles reader .faulted fs [] .faulted :=
  ⟨nofun, rfl, fun hne => absurd rfl hne⟩

theorem cons {f : LineFrame} {action : LineAction} (hphase : phase ≠ .faulted)
    (hfate : action.fate = f.fate reader phase)
    (h : Handles reader (phase.after reader action) fs actions phase') :
    Handles reader phase (f :: fs) (action :: actions) phase' where
  each j := by
    cases j with
    | zero =>
      rintro _ ⟨⟩
      exact ⟨f, rfl, hphase, hfate⟩
    | succ j => exact h.each j
  phase := h.phase
  all hne := congrArg (· + 1) (h.all hne)

end Handles

/-- The action of a turn. -/
def LoopEvent.actions : Option LoopEvent → List LineAction
  | some (.acted action) => [action]
  | _ => []

namespace Link

variable {σ : Type} {reader : JsonReader} {env : Env σ} {link link' link'' : Link σ}

theorem receiveFrame_faulted (hphase : link.phase = .faulted) (f : LineFrame) (m : Moment)
    (written : Bool) : link.receiveFrame reader env f m written = (none, link) := by
  unfold receiveFrame
  rw [if_pos hphase]

theorem serve_cons (i : LinkInput) (steps : List LinkInput) :
    link.serve reader env (i :: steps) =
      ((link.serveOne reader env i).1.toList ++
          ((link.serveOne reader env i).2.serve reader env steps).1,
        ((link.serveOne reader env i).2.serve reader env steps).2) := rfl

theorem serve_append (steps more : List LinkInput) :
    link.serve reader env (steps ++ more) =
      ((link.serve reader env steps).1 ++ ((link.serve reader env steps).2.serve reader env more).1,
        ((link.serve reader env steps).2.serve reader env more).2) := by
  induction steps generalizing link with
  | nil => rfl
  | cons i steps ih =>
    simp only [List.cons_append, serve_cons, ih, List.append_assoc]

/-- The session goes from `link` to `link'` by the frames `fs` in order, among the other inputs
`others`, and takes `actions` for the frames. The times and the writes are those of some run. -/
def Serves (reader : JsonReader) (env : Env σ) (link : Link σ) (fs : List LineFrame)
    (others : List LinkInput) (actions : List LineAction) (link' : Link σ) : Prop :=
  ∃ steps : List LinkInput, steps.filterMap LinkInput.frame? = fs ∧
    steps.filterMap LinkInput.ambient? = others ∧ link.serve reader env steps = (actions, link')

namespace Serves

variable {fs fs' : List LineFrame} {others others' : List LinkInput}
  {actions actions' : List LineAction}

theorem refl (link : Link σ) : Serves reader env link [] [] [] link := ⟨[], rfl, rfl, rfl⟩

theorem trans (h : Serves reader env link fs others actions link')
    (h' : Serves reader env link' fs' others' actions' link'') :
    Serves reader env link (fs ++ fs') (others ++ others') (actions ++ actions') link'' := by
  obtain ⟨steps, rfl, rfl, hserve⟩ := h
  obtain ⟨more, rfl, rfl, hmore⟩ := h'
  refine ⟨steps ++ more, List.filterMap_append, List.filterMap_append, ?_⟩
  rw [serve_append, hserve, hmore]

theorem ambient (reader : JsonReader) (env : Env σ) (link : Link σ) (i : LoopInput) :
    Serves reader env link [] [i.ambient] [] (link.ambient env i) := by
  refine ⟨[i.ambient], ?_, ?_, ?_⟩ <;> cases i <;> rfl

theorem frame (reader : JsonReader) (env : Env σ) (link : Link σ) (f : LineFrame) (m : Moment)
    (written : Bool) :
    Serves reader env link [f] [] (link.receiveFrame reader env f m written).1.toList
      (link.receiveFrame reader env f m written).2 :=
  ⟨[.frame f m written], rfl, rfl, by simp [serve, serveOne]⟩

/-- A faulted session ignores whatever else there is. -/
theorem ignored (h : Serves reader env link fs others actions link')
    (hphase : link'.phase = .faulted) (rest : List LineFrame) :
    Serves reader env link (fs ++ rest) others actions link' := by
  induction rest generalizing fs with
  | nil => rwa [List.append_nil]
  | cons f rest ih =>
    have hframe := frame reader env link' f { nowMs := 0 } true
    rw [receiveFrame_faulted hphase] at hframe
    have hnext := h.trans hframe
    simp only [Option.toList_none, List.append_nil] at hnext
    have hall := ih hnext
    rwa [List.append_assoc] at hall

end Serves

theorem reportTooLarge_phase (reader : JsonReader) (link : Link σ) (written : Bool) :
    (link.reportTooLarge written).phase = link.phase.after reader (.tooLarge written) := by
  unfold reportTooLarge SessionPhase.after
  cases written with
  | false => rfl
  | true => cases link.phase == .strictPostHandshake <;> rfl

/-- A line that fits a message has the fate of its frame, and leaves the phase it calls for. -/
theorem receiveLine_fate (reader : JsonReader) (env : Env σ) {line : List UInt8}
    (hphase : link.phase ≠ .faulted) (hshort : ¬line.length > maxCanonicalMessageBytes) (m : Moment)
    (written : Bool) :
    (link.lineAction reader env line m written).fate =
        (LineFrame.message line).fate reader link.phase ∧
      (link.receiveLine reader env line m written).phase =
        link.phase.after reader (link.lineAction reader env line m written) := by
  unfold lineAction receiveLine LineFrame.fate
  rw [if_neg hphase]
  dsimp only
  rw [if_neg hshort, if_neg hshort]
  split
  · exact ⟨rfl, rfl⟩
  · refine ⟨rfl, ?_⟩
    unfold SessionPhase.after
    dsimp only
    cases written with
    | false => rfl
    | true =>
      simp only [Bool.not_true, Bool.false_eq_true, if_false]
      split
      · rfl
      · split <;> rfl

/-- The action for a frame has the fate of the frame, and leaves the phase it calls for. -/
theorem receiveFrame_fate (reader : JsonReader) (env : Env σ) {f : LineFrame}
    (hphase : link.phase ≠ .faulted) (hf : f.Fits) (m : Moment) (written : Bool) :
    ∃ action, (link.receiveFrame reader env f m written).1 = some action ∧
      action.fate = f.fate reader link.phase ∧
      (link.receiveFrame reader env f m written).2.phase = link.phase.after reader action := by
  unfold receiveFrame
  rw [if_neg hphase]
  cases f with
  | oversized => exact ⟨_, rfl, rfl, reportTooLarge_phase reader link written⟩
  | message line =>
    exact ⟨_, rfl, receiveLine_fate reader env hphase (Nat.not_lt.2 hf) m written⟩

theorem serve_faulted (reader : JsonReader) (env : Env σ) (hphase : link.phase = .faulted)
    (steps : List LinkInput) :
    (link.serve reader env steps).1 = [] ∧ (link.serve reader env steps).2.phase = .faulted := by
  induction steps generalizing link with
  | nil => exact ⟨rfl, hphase⟩
  | cons i steps ih =>
    have hone : (link.serveOne reader env i).1 = none ∧
        (link.serveOne reader env i).2.phase = .faulted := by
      cases i with
      | frame f m written =>
        rw [serveOne, receiveFrame_faulted hphase]
        exact ⟨rfl, hphase⟩
      | housekeeping | user => exact ⟨rfl, hphase⟩
    have hrest := ih hone.2
    rw [serve_cons, hone.1, hrest.1]
    exact ⟨rfl, hrest.2⟩

/-- **One action for each frame**, in order, until the session is faulted. -/
theorem serve_handles (reader : JsonReader) (env : Env σ) (link : Link σ) (steps : List LinkInput)
    (hfit : ∀ f ∈ steps.filterMap LinkInput.frame?, f.Fits) :
    Handles reader link.phase (steps.filterMap LinkInput.frame?) (link.serve reader env steps).1
      (link.serve reader env steps).2.phase := by
  induction steps generalizing link with
  | nil => exact .refl link.phase
  | cons i steps ih =>
    cases i with
    | housekeeping nowMs => exact ih (link.housekeeping nowMs) hfit
    | user u => exact ih (link.user env u) hfit
    | frame f m written =>
      by_cases hphase : link.phase = .faulted
      · obtain ⟨hnone, hfaulted⟩ := serve_faulted reader env hphase
          (.frame f m written :: steps)
        rw [hnone, hfaulted, hphase]
        exact .ignored _
      · obtain ⟨hf, hrest⟩ := List.forall_mem_cons.1 hfit
        obtain ⟨action, haction, hfate, hafter⟩ :=
          receiveFrame_fate reader env hphase hf m written
        have hnext := ih (link.receiveFrame reader env f m written).2 hrest
        rw [hafter] at hnext
        rw [serve_cons, serveOne, haction]
        exact .cons hphase hfate hnext

theorem Serves.handles {done : List LineFrame} {stream : List UInt8} {others : List LinkInput}
    {actions : List LineAction} (h : link.Serves reader env done others actions link')
    (hdone : done <+: frames stream) : Handles reader link.phase done actions link'.phase := by
  obtain ⟨steps, rfl, -, hserve⟩ := h
  have hfit : ∀ f ∈ steps.filterMap LinkInput.frame?, f.Fits :=
    fun f hf => frames_fit stream f (hdone.subset hf)
  have hhandles := serve_handles reader env link steps hfit
  rwa [hserve] at hhandles

/-- A line that fits the buffer, with its frame. -/
theorem receiveFrame_line {raw : List UInt8} (hphase : link.phase ≠ .faulted)
    (hlen : raw.length < inputCapacity) (m : Moment) (written : Bool) :
    link.receiveFrame reader env (frameOf raw) m written =
      (some (link.lineAction reader env (trimLine raw) m written),
        link.receiveLine reader env (trimLine raw) m written) := by
  unfold receiveFrame frameOf
  rw [if_neg hphase]
  by_cases hshort : (trimLine raw).length ≤ maxCanonicalMessageBytes
  · rw [if_pos ⟨hlen, hshort⟩]
  · rw [if_neg fun h => hshort h.2]
    rw [Nat.not_le] at hshort
    rw [reportTooLarge_of_long hphase hshort, lineAction, if_pos hshort]

end Link

/-! ## One connection -/

/-- The step observes no disconnect and no read error. -/
def LoopInput.Connected : LoopInput → Prop
  | .turn t => t.connected = true ∧ ∀ capacity, t.read capacity ≠ none
  | .user _ => True

def LoopInput.turns : LoopInput → Nat
  | .turn _ => 1
  | .user _ => 0

namespace MainLoop

variable {σ : Type} {reader : JsonReader} {env : Env σ} {s : MainLoop σ} {link : Link σ}
  {stream : List UInt8} {done : List LineFrame} {others : List LinkInput}
  {actions : List LineAction}

/-- **A step of the loop is a step of the line protocol**, for the frame it completes if any. -/
theorem serves_step (reader : JsonReader) (env : Env σ)
    (h : Buffered stream done s.input s.discardOversizedInput)
    (hphase : s.link.phase ≠ .faulted) {i : LoopInput} (hi : i.Connected) :
    ∃ fs, s.link.Serves reader env fs [i.ambient] (LoopEvent.actions (s.event reader env i))
        (s.step reader env i).link ∧
      Buffered (stream ++ LoopEvent.bytes (s.event reader env i)) (done ++ fs)
        (s.step reader env i).input (s.step reader env i).discardOversizedInput := by
  have hambient := Link.Serves.ambient reader env s.link i
  have hquiet : ∀ {bytes : List UInt8} {input : List UInt8} {discard : Bool},
      Buffered (stream ++ bytes) done input discard →
      ∃ fs, s.link.Serves reader env fs [i.ambient] [] (s.link.ambient env i) ∧
        Buffered (stream ++ bytes) (done ++ fs) input discard := by
    intro bytes input discard hbuf
    exact ⟨[], hambient, by rwa [List.append_nil]⟩
  have hsame : Buffered (stream ++ []) done s.input s.discardOversizedInput := by
    rwa [List.append_nil]
  obtain ⟨t, rfl, hstep⟩ | ⟨hev, hs⟩ := step_cases reader env s i
  case inr =>
    rw [hev, hs]
    exact hquiet hsame
  obtain ⟨hconn, hread⟩ := hi
  revert hstep hambient hquiet
  have hne : (s.link.ambient env (.turn t)).phase ≠ .faulted := by rwa [Link.ambient_phase]
  revert hne
  generalize s.event reader env (.turn t) = e, s.step reader env (.turn t) = s',
    s.link.ambient env (.turn t) = link
  intro hne hambient hquiet hstep
  cases hstep with
  | disconnected hgone => rw [hconn] at hgone; cases hgone
  | readFailed capacity _ _ hfailed => exact absurd hfailed (hread capacity)
  | latched hfaulted => exact absurd hfaulted hne
  | discarded bytes _ hdiscard hbytes =>
    rw [hdiscard] at h
    have hbuf := h.discarded hbytes
    rw [← hdiscard] at hbuf
    exact hquiet hbuf
  | resumed raw rest _ hdiscard hraw hlen =>
    rw [hdiscard] at h
    exact hquiet (h.resumed hraw hlen)
  | received bytes _ hkeep _ _ hlen =>
    rw [hkeep] at h
    exact hquiet (h.received hlen)
  | overflowed _ hkeep hopen hfull =>
    rw [hkeep] at h
    have hframe := Link.Serves.frame reader env link .oversized t.m t.written
    rw [Link.receiveFrame, if_neg hne] at hframe
    refine ⟨[.oversized], hambient.trans hframe, ?_⟩
    show Buffered (stream ++ []) _ _ _
    rw [List.append_nil]
    exact h.overflowed hopen hfull
  | served raw rest _ hkeep hraw hinput =>
    have hlen := h.length_le
    rw [hinput, List.length_append, List.length_cons] at hlen
    rw [hkeep, hinput] at h
    have hframe := Link.Serves.frame reader env link (frameOf raw) t.m t.written
    rw [Link.receiveFrame_line hne (by omega)] at hframe
    refine ⟨[frameOf raw], hambient.trans hframe, ?_⟩
    show Buffered (stream ++ []) _ _ _
    rw [List.append_nil]
    exact h.served hraw

/-- A connected turn on a faulted session drops the input. -/
theorem faulted_step (reader : JsonReader) (env : Env σ) (hphase : s.link.phase = .faulted)
    {i : LoopInput} (hi : i.Connected) :
    s.event reader env i = none ∧ (s.step reader env i).link = s.link.ambient env i ∧
      (s.step reader env i).input.length ≤ s.input.length := by
  cases i with
  | user u => exact ⟨rfl, rfl, Nat.le_refl _⟩
  | turn t =>
    have hturn : s.turn reader env t = (none, { link := s.link.housekeeping t.nowMs }) := by
      have hhouse : (s.link.housekeeping t.nowMs).phase = .faulted := hphase
      unfold turn
      rw [hi.1]
      exact if_pos hhouse
    refine ⟨?_, ?_, ?_⟩
    · rw [event, hturn]
    · rw [step, hturn]
      rfl
    · rw [step, hturn]
      exact Nat.zero_le _

/-- The loop has followed the line protocol from `link` on: for some of the frames of the stream,
and its buffer never grew past its size. -/
def Follows (reader : JsonReader) (env : Env σ) (link : Link σ) (stream : List UInt8)
    (others : List LinkInput) (actions : List LineAction) (s : MainLoop σ) : Prop :=
  s.input.length ≤ inputCapacity ∧
    ∃ done, link.Serves reader env done others actions s.link ∧ done <+: frames stream ∧
      (s.link.phase ≠ .faulted → Buffered stream done s.input s.discardOversizedInput)

theorem Follows.step (h : Follows reader env link stream others actions s) {i : LoopInput}
    (hi : i.Connected) :
    Follows reader env link (stream ++ LoopEvent.bytes (s.event reader env i))
      (others ++ [i.ambient]) (actions ++ LoopEvent.actions (s.event reader env i))
      (s.step reader env i) := by
  obtain ⟨hlen, done, hserves, hinit, hbuf⟩ := h
  by_cases hphase : s.link.phase = .faulted
  · obtain ⟨hev, hlink, hinput⟩ := faulted_step reader env hphase hi
    have hambient := hserves.trans (Link.Serves.ambient reader env s.link i)
    rw [← hlink, List.append_nil] at hambient
    rw [hev]
    refine ⟨Nat.le_trans hinput hlen, done, hambient, ?_, fun hne => absurd ?_ hne⟩
    · show done <+: frames (stream ++ [])
      rwa [List.append_nil]
    · rw [hlink, Link.ambient_phase]
      exact hphase
  · obtain ⟨fs, hstep, hbuf'⟩ := serves_step reader env (hbuf hphase) hphase hi
    refine ⟨hbuf'.length_le, done ++ fs, hserves.trans hstep, ?_, fun _ => hbuf'⟩
    rw [hbuf'.frames_eq]
    exact List.prefix_append _ _

/-- Nothing is left to do with the bytes received. -/
def Settled (s : MainLoop σ) : Prop :=
  s.link.phase = .faulted ∨ s.discardOversizedInput = true ∨
    (newline ∉ s.input ∧ s.input.length < inputCapacity)

theorem Follows.settled (h : Follows reader env link stream others actions s) (hs : Settled s) :
    link.Serves reader env (frames stream) others actions s.link := by
  obtain ⟨-, done, hserves, ⟨rest, hrest⟩, hbuf⟩ := h
  by_cases hphase : s.link.phase = .faulted
  · rw [← hrest]
    exact hserves.ignored hphase rest
  have hframes := (hbuf hphase).frames_eq
  rcases hs with hfaulted | hdiscard | ⟨hopen, hroom⟩
  · exact absurd hfaulted hphase
  · rw [hdiscard, if_pos rfl, List.append_nil] at hframes
    rwa [hframes]
  · rw [frames_short hopen hroom, ite_self, List.append_nil] at hframes
    rwa [hframes]

/-- While the loop is not settled, a turn reads nothing and takes something out of the buffer. -/
theorem unsettled_step (reader : JsonReader) (env : Env σ) (h : ¬Settled s) {i : LoopInput}
    (hi : i.Connected) :
    LoopEvent.bytes (s.event reader env i) = [] ∧
      (Settled (s.step reader env i) ∨
        (s.step reader env i).input.length + i.turns ≤ s.input.length) := by
  unfold Settled at h
  rw [not_or, not_or] at h
  obtain ⟨hphase, hkeep, hopen⟩ := h
  cases i with
  | user u => exact ⟨rfl, .inr (Nat.le_refl _)⟩
  | turn t =>
  obtain ⟨hconn, hread⟩ := hi
  have hstep := turn_cases reader env s t
  revert hstep
  have hne : (s.link.housekeeping t.nowMs).phase ≠ .faulted := hphase
  revert hne
  show _ → TurnStep reader env s t _ (s.event reader env (.turn t))
    (s.step reader env (.turn t)) → _
  generalize s.event reader env (.turn t) = e, s.step reader env (.turn t) = s',
    s.link.housekeeping t.nowMs = link
  intro hne hstep
  cases hstep with
  | disconnected hgone => rw [hconn] at hgone; cases hgone
  | readFailed capacity _ _ hfailed => exact absurd hfailed (hread capacity)
  | latched hfaulted => exact absurd hfaulted hne
  | discarded _ _ hdiscard | resumed _ _ _ hdiscard => exact absurd hdiscard hkeep
  | received _ _ _ hnone hroom => exact absurd ⟨hnone, hroom⟩ hopen
  | overflowed => exact ⟨rfl, .inl (.inr (.inl rfl))⟩
  | served raw rest _ _ _ hinput =>
    refine ⟨rfl, .inr ?_⟩
    rw [hinput, List.length_append, List.length_cons]
    show rest.length + 1 ≤ _
    omega

/-! ## Runs -/

section
variable (reader : JsonReader) (env : Env σ) (device : Device σ) (inp : Nat → LoopInput)

/-- The bytes received in the first `n` steps. -/
def receivedBefore (n : Nat) : List UInt8 :=
  LoopEvent.receivedFrom (eventAt reader env device inp) 0 n

/-- The actions of the first `n` steps. -/
def actionsBefore (n : Nat) : List LineAction :=
  (List.range n).flatMap fun k => LoopEvent.actions (eventAt reader env device inp k)

/-- The housekeeping and the user's inputs of the first `n` steps. -/
def ambientBefore (n : Nat) : List LinkInput := (List.range n).map fun k => (inp k).ambient

def turnsBefore (n : Nat) : Nat := ((List.range n).map fun k => (inp k).turns).sum

theorem stateAt_succ (n : Nat) :
    stateAt reader env device inp (n + 1) =
      (stateAt reader env device inp n).step reader env (inp n) := rfl

theorem receivedBefore_succ (n : Nat) :
    receivedBefore reader env device inp (n + 1) =
      receivedBefore reader env device inp n ++
        LoopEvent.bytes (eventAt reader env device inp n) := rfl

theorem actionsBefore_succ (n : Nat) :
    actionsBefore reader env device inp (n + 1) =
      actionsBefore reader env device inp n ++
        LoopEvent.actions (eventAt reader env device inp n) := by
  simp [actionsBefore, List.range_succ]

theorem ambientBefore_succ (n : Nat) :
    ambientBefore inp (n + 1) = ambientBefore inp n ++ [(inp n).ambient] := by
  simp [ambientBefore, List.range_succ]

theorem turnsBefore_succ (n : Nat) :
    turnsBefore inp (n + 1) = turnsBefore inp n + (inp n).turns := by
  simp [turnsBefore, List.range_succ]

variable {inp}

theorem follows_stateAt (hconn : ∀ n, (inp n).Connected) (n : Nat) :
    Follows reader env { device } (receivedBefore reader env device inp n) (ambientBefore inp n)
      (actionsBefore reader env device inp n) (stateAt reader env device inp n) := by
  induction n with
  | zero => exact ⟨Nat.zero_le _, [], .refl _, List.nil_prefix, fun _ => .start⟩
  | succ n ih =>
    rw [receivedBefore_succ, actionsBefore_succ, ambientBefore_succ]
    exact ih.step (hconn n)

/-- After as many turns as there are bytes in the buffer, all of them are dealt with. -/
theorem settles (hconn : ∀ n, (inp n).Connected) {n m : Nat} (hnm : n ≤ m)
    (hturns : turnsBefore inp n + (stateAt reader env device inp n).input.length ≤
      turnsBefore inp m) :
    ∃ k, n ≤ k ∧ k ≤ m ∧ Settled (stateAt reader env device inp k) ∧
      receivedBefore reader env device inp k = receivedBefore reader env device inp n := by
  by_contra hnone
  have hunsettled : ∀ k, n ≤ k → k ≤ m →
      receivedBefore reader env device inp k = receivedBefore reader env device inp n →
      ¬Settled (stateAt reader env device inp k) :=
    fun k hnk hkm hsame hs => hnone ⟨k, hnk, hkm, hs, hsame⟩
  have hshrinks : ∀ k, n ≤ k → k ≤ m →
      receivedBefore reader env device inp k = receivedBefore reader env device inp n ∧
        turnsBefore inp k + (stateAt reader env device inp k).input.length ≤
          turnsBefore inp n + (stateAt reader env device inp n).input.length := by
    intro k hnk
    induction k, hnk using Nat.le_induction with
    | base => exact fun _ => ⟨rfl, Nat.le_refl _⟩
    | succ k hnk ih =>
      intro hkm
      obtain ⟨hsame, hle⟩ := ih (by omega)
      obtain ⟨hbytes, hprogress⟩ := unsettled_step reader env
        (hunsettled k hnk (by omega) hsame) (hconn k)
      have hsame' : receivedBefore reader env device inp (k + 1) =
          receivedBefore reader env device inp n := by
        rw [receivedBefore_succ, eventAt, hbytes, List.append_nil, hsame]
      have hless := hprogress.resolve_left (hunsettled (k + 1) (by omega) hkm hsame')
      refine ⟨hsame', ?_⟩
      rw [turnsBefore_succ, stateAt_succ]
      omega
  obtain ⟨hsame, hle⟩ := hshrinks m hnm (Nat.le_refl m)
  have hempty : (stateAt reader env device inp m).input = [] :=
    List.eq_nil_of_length_eq_zero (by omega)
  refine hunsettled m hnm (Nat.le_refl m) hsame (.inr (.inr ?_))
  rw [hempty]
  exact ⟨List.not_mem_nil, by decide⟩

/-- **Serial framing.** On one connection and without read errors the loop acts on the frames of
what it has received, in order and each once, as `Link.serve` does: each has the fate it calls for.
When the loop is settled it has acted on all of them, unless the session is faulted; it is settled
after as many turns as it holds bytes, before it reads any more; and the buffer never grows past its
size. -/
theorem framing_chunk_independent (hconn : ∀ n, (inp n).Connected) (n : Nat) :
    (∃ done, done <+: frames (receivedBefore reader env device inp n) ∧
      Link.Serves reader env { device } done (ambientBefore inp n)
        (actionsBefore reader env device inp n) (stateAt reader env device inp n).link ∧
      Handles reader .preHandshake done (actionsBefore reader env device inp n)
        (stateAt reader env device inp n).link.phase) ∧
    (Settled (stateAt reader env device inp n) →
      Link.Serves reader env { device } (frames (receivedBefore reader env device inp n))
        (ambientBefore inp n) (actionsBefore reader env device inp n)
        (stateAt reader env device inp n).link ∧
      Handles reader .preHandshake (frames (receivedBefore reader env device inp n))
        (actionsBefore reader env device inp n) (stateAt reader env device inp n).link.phase) ∧
    (∀ m, n ≤ m → turnsBefore inp n + (stateAt reader env device inp n).input.length ≤
        turnsBefore inp m →
      ∃ k, n ≤ k ∧ k ≤ m ∧ Settled (stateAt reader env device inp k) ∧
        receivedBefore reader env device inp k = receivedBefore reader env device inp n) ∧
    (stateAt reader env device inp n).input.length ≤ inputCapacity := by
  have hfollows := follows_stateAt reader env device hconn n
  refine ⟨?_, fun hs => ?_, fun m => settles reader env device hconn, hfollows.1⟩
  · obtain ⟨-, done, hserves, hinit, -⟩ := hfollows
    exact ⟨done, hinit, hserves, Link.Serves.handles hserves hinit⟩
  · have hserves := hfollows.settled hs
    exact ⟨hserves, Link.Serves.handles hserves List.prefix_rfl⟩

end

/-! ## Lines that are not dispatched -/

/-- The turns that read a line, and then its newline with what follows it. -/
def lineTurn (line rest : List UInt8) (n : Nat) : Turn where
  nowMs := 0
  connected := true
  read capacity :=
    some ⟨(if n = 0 then line else newline :: rest).take capacity, List.length_take_le ..⟩
  m := { nowMs := 0 }
  written := true

abbrev lineInputs (line rest : List UInt8) (n : Nat) : LoopInput := .turn (lineTurn line rest n)

theorem lineInputs_connected (line rest : List UInt8) (n : Nat) :
    (lineInputs line rest n).Connected := ⟨rfl, nofun⟩

section
variable (reader : JsonReader) (env : Env σ) (device : Device σ) (line rest : List UInt8)

/-- The loop that has reported a line, and holds what follows it. -/
def reportedLoop : MainLoop σ where
  link :=
    (({ device := device.housekeeping 0 } : Link σ).housekeeping 0 |>.reportTooLarge true
      ).housekeeping 0
  input := rest

variable {line}

/-- A line that fills the buffer is reported, and discarded with its newline. -/
theorem overflow_run (hopen : newline ∉ line) (hlen : line.length = inputCapacity)
    (hrest : rest.length < inputCapacity) :
    receivedBefore reader env device (lineInputs line rest) 3 = line ++ newline :: rest ∧
      actionsBefore reader env device (lineInputs line rest) 3 = [.tooLarge true] ∧
      stateAt reader env device (lineInputs line rest) 3 = reportedLoop device rest := by
  have htake : line.take inputCapacity = line := List.take_of_length_le (Nat.le_of_eq hlen)
  have htake' : (newline :: rest).take inputCapacity = newline :: rest :=
    List.take_of_length_le hrest
  have hcut : Lines.cut newline line = none := Lines.cut_eq_none.2 hopen
  have hcut' : Lines.cut newline (newline :: rest) = some ([], rest) :=
    Lines.cut_ended List.not_mem_nil rest
  let first : MainLoop σ := { link := { device := device.housekeeping 0 }, input := line }
  let second : MainLoop σ :=
    { link := (first.link.housekeeping 0).reportTooLarge true, discardOversizedInput := true }
  have hread : (powerOn device).turn reader env (lineTurn line rest 0) =
      (some (.received line), first) := by
    show (some (LoopEvent.received (line.take inputCapacity)),
      MainLoop.mk _ (line.take inputCapacity) false) = _
    rw [htake]
    rfl
  have hreport : first.turn reader env (lineTurn line rest 1) =
      (some (.acted (.tooLarge true)), second) := by
    show (first.withLink _).serveInput reader env (lineTurn line rest 1) = _
    have hinput : Lines.cut newline
        (first.withLink (first.link.housekeeping (lineTurn line rest 1).nowMs)).input = none :=
      hcut
    rw [serveInput, hinput]
    exact if_pos (Nat.le_of_eq hlen.symm)
  have hresume : second.turn reader env (lineTurn line rest 2) =
      (some (.received (newline :: rest)), reportedLoop device rest) := by
    show (second.withLink _).discard (lineTurn line rest 2) = _
    unfold discard lineTurn
    dsimp only
    rw [if_neg (by decide), htake', hcut']
    rfl
  have hfirst : stateAt reader env device (lineInputs line rest) 1 = first :=
    congrArg Prod.snd hread
  have hsecond : stateAt reader env device (lineInputs line rest) 2 = second := by
    rw [stateAt_succ, hfirst]
    exact congrArg Prod.snd hreport
  have hevent0 : eventAt reader env device (lineInputs line rest) 0 = some (.received line) :=
    congrArg Prod.fst hread
  have hevent1 : eventAt reader env device (lineInputs line rest) 1 =
      some (.acted (.tooLarge true)) := by
    rw [eventAt, hfirst]
    exact congrArg Prod.fst hreport
  have hevent2 : eventAt reader env device (lineInputs line rest) 2 =
      some (.received (newline :: rest)) := by
    rw [eventAt, hsecond]
    exact congrArg Prod.fst hresume
  refine ⟨?_, ?_, ?_⟩
  · rw [receivedBefore_succ, receivedBefore_succ, receivedBefore_succ, hevent0, hevent1, hevent2]
    show [] ++ line ++ [] ++ newline :: rest = _
    rw [List.nil_append, List.append_nil]
  · rw [actionsBefore_succ, actionsBefore_succ, actionsBefore_succ, hevent0, hevent1, hevent2]
    rfl
  · rw [stateAt_succ, hsecond]
    exact congrArg Prod.snd hresume

end

/-- A reader that takes the first byte for a hello. -/
def helloReader : JsonReader
  | [] => none
  | _ :: rest => some (.object [(ascii "v", .number (some 2)), (ascii "id", .number (some 1)),
    (ascii "op", .string (ascii "hello")), (ascii "params", .object [])], rest)

/-- A hello and as many carriage returns as fill the buffer. -/
def returnsLine : List UInt8 := 0 :: List.replicate (inputCapacity - 1) carriageReturn

theorem returnsLine_length : returnsLine.length = inputCapacity := by
  have hpos : 1 ≤ inputCapacity := by decide
  rw [returnsLine, List.length_cons, List.length_replicate, Nat.sub_add_cancel hpos]

theorem returnsLine_open : newline ∉ returnsLine := by
  simp [returnsLine, List.mem_replicate, newline, carriageReturn]

theorem trimLine_returnsLine : trimLine returnsLine = [0] := by
  have hdrop : List.dropWhile (· == carriageReturn)
      (List.replicate (inputCapacity - 1) carriageReturn ++ [0]) = [0] := by
    rw [List.dropWhile_append_of_pos fun byte hmem => by simp [List.eq_of_mem_replicate hmem]]
    rfl
  unfold trimLine List.rdropWhile returnsLine
  rw [List.reverse_cons, List.reverse_replicate, hdrop]
  rfl

/-- Two lines whose content fits a message are not dispatched. A hello with so many carriage returns
behind it that the line fills the buffer before its newline is reported as too large; and before the
handshake an empty line is dropped. -/
theorem fitting_lines_not_dispatched :
    ((∀ n, (lineInputs returnsLine [] n).Connected) ∧
    receivedBefore helloReader Device.sampleEnv Device.sampleBoot (lineInputs returnsLine []) 3 =
      returnsLine ++ [newline] ∧
    newline ∉ returnsLine ∧ (trimLine returnsLine).length ≤ maxCanonicalMessageBytes ∧
    (classifyProtocolFrame helloReader (trimLine returnsLine)).valid = true ∧
    (classifyProtocolFrame helloReader (trimLine returnsLine)).hello = true ∧
    Settled (stateAt helloReader Device.sampleEnv Device.sampleBoot (lineInputs returnsLine []) 3) ∧
    actionsBefore helloReader Device.sampleEnv Device.sampleBoot (lineInputs returnsLine []) 3 =
      [.tooLarge true]) ∧
    (∀ n, (lineInputs [] [] n).Connected) ∧
    receivedBefore helloReader Device.sampleEnv Device.sampleBoot (lineInputs [] []) 3 =
      [newline] ∧
    Settled (stateAt helloReader Device.sampleEnv Device.sampleBoot (lineInputs [] []) 3) ∧
    actionsBefore helloReader Device.sampleEnv Device.sampleBoot (lineInputs [] []) 3 =
      [.dropped []] := by
  obtain ⟨hreceived, hactions, hstate⟩ := overflow_run helloReader Device.sampleEnv
    Device.sampleBoot [] returnsLine_open returnsLine_length (by decide)
  have hsettled : Settled (stateAt helloReader Device.sampleEnv Device.sampleBoot
      (lineInputs returnsLine []) 3) := by
    have hroom : 0 < inputCapacity := by decide
    rw [hstate]
    exact .inr (.inr ⟨List.not_mem_nil, hroom⟩)
  refine ⟨⟨lineInputs_connected _ _, hreceived, returnsLine_open, ?_, ?_, ?_, hsettled, hactions⟩,
    lineInputs_connected _ _, rfl, .inr (.inr ⟨List.not_mem_nil, by decide⟩), rfl⟩ <;>
    rw [trimLine_returnsLine] <;> decide +kernel

/-- A hello that is written out is dispatched, and faults nothing. -/
theorem hello_served (env : Env σ) (link : Link σ) (hphase : link.phase = .preHandshake)
    (m : Moment) :
    (link.lineAction helloReader env [0] m true).fate = .dispatched [0] ∧
      (link.receiveLine helloReader env [0] m true).phase ≠ .faulted := by
  have hne : link.phase ≠ .faulted := by rw [hphase]; decide
  obtain ⟨hfate, hafter⟩ := Link.receiveLine_fate helloReader env hne
    (show ¬[(0 : UInt8)].length > maxCanonicalMessageBytes by decide) m true
  have hdispatched : (LineFrame.message [0]).fate helloReader .preHandshake = .dispatched [0] := by
    decide
  have haction : link.lineAction helloReader env [0] m true =
      .dispatched [0] (link.device.handleLine env [0] m).1 true := by
    unfold Link.lineAction
    rw [hphase]
    rfl
  refine ⟨by rw [hfate, hphase, hdispatched], ?_⟩
  rw [hafter, haction, hphase]
  unfold SessionPhase.after
  dsimp only
  rw [if_neg (by decide)]
  split
  · decide
  · rw [if_neg (by decide)]
    decide

/-- A line that fills the buffer, and a hello behind it: the line is reported, and the hello is
dispatched. -/
theorem overflow_hello_run (env : Env σ) (device : Device σ) {line : List UInt8}
    (hopen : newline ∉ line) (hlen : line.length = inputCapacity) :
    receivedBefore helloReader env device (lineInputs line [0, newline]) 4 =
        line ++ [newline, 0, newline] ∧
      (actionsBefore helloReader env device (lineInputs line [0, newline]) 4).map LineAction.fate =
        [.reported, .dispatched [0]] ∧
      (stateAt helloReader env device (lineInputs line [0, newline]) 4).link.phase ≠ .faulted ∧
      Settled (stateAt helloReader env device (lineInputs line [0, newline]) 4) := by
  obtain ⟨hreceived, hactions, hstate⟩ := overflow_run helloReader env device [0, newline] hopen
    hlen (by decide)
  let link := (reportedLoop device [0, newline]).link.housekeeping 0
  have hturn : (reportedLoop device [0, newline]).turn helloReader env
      (lineTurn line [0, newline] 3) =
      (some (.acted (link.lineAction helloReader env [0] { nowMs := 0 } true)),
        { link := link.receiveLine helloReader env [0] { nowMs := 0 } true }) := rfl
  obtain ⟨hfate, hphase⟩ := hello_served env link rfl { nowMs := 0 }
  have hevent : eventAt helloReader env device (lineInputs line [0, newline]) 3 =
      some (.acted (link.lineAction helloReader env [0] { nowMs := 0 } true)) := by
    rw [eventAt, hstate]
    exact congrArg Prod.fst hturn
  have hlast : stateAt helloReader env device (lineInputs line [0, newline]) 4 =
      { link := link.receiveLine helloReader env [0] { nowMs := 0 } true } := by
    rw [stateAt_succ, hstate]
    exact congrArg Prod.snd hturn
  refine ⟨?_, ?_, by rw [hlast]; exact hphase, ?_⟩
  · rw [receivedBefore_succ, hevent, hreceived]
    exact List.append_nil _
  · rw [actionsBefore_succ, hevent, hactions]
    show [LineFate.reported, _] = _
    rw [hfate]
  · have hroom : 0 < inputCapacity := by decide
    rw [hlast]
    exact .inr (.inr ⟨List.not_mem_nil, hroom⟩)

/-- As many blanks as fill the buffer. -/
def blankLine : List UInt8 := List.replicate inputCapacity 32

/-- The blank line is reported and discarded, and the hello behind it is dispatched. -/
theorem framing_chunk_independent_hello :
    receivedBefore helloReader Device.sampleEnv Device.sampleBoot
        (lineInputs blankLine [0, newline]) 4 = blankLine ++ [newline, 0, newline] ∧
      (actionsBefore helloReader Device.sampleEnv Device.sampleBoot
        (lineInputs blankLine [0, newline]) 4).map LineAction.fate =
          [.reported, .dispatched [0]] ∧
      (stateAt helloReader Device.sampleEnv Device.sampleBoot
        (lineInputs blankLine [0, newline]) 4).link.phase ≠ .faulted ∧
      Handles helloReader .preHandshake
        (frames (receivedBefore helloReader Device.sampleEnv Device.sampleBoot
          (lineInputs blankLine [0, newline]) 4))
        (actionsBefore helloReader Device.sampleEnv Device.sampleBoot
          (lineInputs blankLine [0, newline]) 4)
        (stateAt helloReader Device.sampleEnv Device.sampleBoot
          (lineInputs blankLine [0, newline]) 4).link.phase := by
  have hopen : newline ∉ blankLine := by simp [blankLine, List.mem_replicate, newline]
  obtain ⟨hreceived, hfates, hphase, hsettled⟩ := overflow_hello_run Device.sampleEnv
    Device.sampleBoot hopen List.length_replicate
  exact ⟨hreceived, hfates, hphase, ((framing_chunk_independent helloReader Device.sampleEnv
    Device.sampleBoot (lineInputs_connected blankLine [0, newline]) 4).2.1 hsettled).2⟩

end MainLoop

end M5Auth.Provisioning
