import Mathlib.Logic.Function.Iterate
import M5Auth.Provisioning.MainLoop
import M5Auth.Provisioning.Proof.Effects

/-!
# The phases of the transport

`transport_safe` is about every run of the main loop, with any connections, bytes, read results and
failed writes: before a hello has succeeded only hellos reach the handler; a faulted session serves
nothing until the next disconnect; and what ends a session leaves neither an authorization nor a
byte of its input behind.

`TurnStep` says once what a turn can do (`turn_cases`); the phases and the buffer follow from it by
cases.
-/

namespace M5Auth.Provisioning

/-- A line that the strict check takes for a hello. -/
def StrictHello (reader : JsonReader) (line : List UInt8) : Prop :=
  (classifyProtocolFrame reader line).valid = true ∧
    (classifyProtocolFrame reader line).hello = true

namespace LoopEvent

/-- A hello was answered with success, under its own id, and the response went out. -/
def Establishes (reader : JsonReader) (e : Option LoopEvent) : Prop :=
  ∃ line response, e = some (.acted (.dispatched line response true)) ∧ StrictHello reader line ∧
    response.ok = true ∧ response.id = (classifyProtocolFrame reader line).id

/-- A disconnect, a read error or a failed write. -/
inductive Breaks : Option LoopEvent → Prop where
  | disconnected : Breaks (some .disconnected)
  | readFailed : Breaks (some .readFailed)
  | unanswered (line : List UInt8) (response : Response) :
    Breaks (some (.acted (.dispatched line response false)))
  | unreported : Breaks (some (.acted (.tooLarge false)))

/-- The bytes that a turn received. -/
def bytes : Option LoopEvent → List UInt8
  | some (.received bytes) => bytes
  | _ => []

/-- The bytes received in the steps from `n` up to `m`. -/
def receivedFrom (ev : Nat → Option LoopEvent) (n : Nat) : Nat → List UInt8
  | 0 => []
  | m + 1 => receivedFrom ev n m ++ if n ≤ m then bytes (ev m) else []

end LoopEvent

/-! ## Lines -/

namespace Link

variable {σ : Type} {reader : JsonReader} {env : Env σ} {link : Link σ} {line : List UInt8}
  {m : Moment} {written : Bool}

/-- What happens to the session besides its lines. -/
def ambient (env : Env σ) (link : Link σ) : LoopInput → Link σ
  | .turn t => link.housekeeping t.nowMs
  | .user u => link.user env u

@[simp] theorem ambient_phase (i : LoopInput) : (link.ambient env i).phase = link.phase := by
  cases i <;> rfl

/-- The branches of a line, with the phase that each leaves. -/
inductive LineStep (reader : JsonReader) (env : Env σ) (link : Link σ) (line : List UInt8)
    (m : Moment) : Bool → LineAction → Link σ → Prop where
  | tooLarge (written : Bool) :
    LineStep reader env link line m written (.tooLarge written) (link.reportTooLarge written)
  | dropped (written : Bool) : LineStep reader env link line m written (.dropped line) link
  | answered (phase : SessionPhase) :
    (link.phase = .preHandshake → StrictHello reader line) →
    (phase = .strictPostHandshake → link.phase = .strictPostHandshake ∨
      (StrictHello reader line ∧ (link.device.handleLine env line m).1.ok = true ∧
        (link.device.handleLine env line m).1.id = (classifyProtocolFrame reader line).id)) →
    LineStep reader env link line m true
      (.dispatched line (link.device.handleLine env line m).1 true)
      { device := (link.device.handleLine env line m).2, phase }
  | unanswered : (link.phase = .preHandshake → StrictHello reader line) →
    LineStep reader env link line m false
      (.dispatched line (link.device.handleLine env line m).1 false)
      { device := (link.device.handleLine env line m).2.disconnect, phase := .faulted }

theorem reportTooLarge_of_long (hphase : link.phase ≠ .faulted)
    (hlong : line.length > maxCanonicalMessageBytes) :
    link.receiveLine reader env line m written = link.reportTooLarge written := by
  unfold receiveLine reportTooLarge
  rw [if_neg hphase, if_pos hlong]
  simp

/-- **What a line can do** on a session that is not faulted. -/
theorem receiveLine_cases (reader : JsonReader) (env : Env σ) (line : List UInt8) (m : Moment)
    (written : Bool) (hphase : link.phase ≠ .faulted) :
    LineStep reader env link line m written (link.lineAction reader env line m written)
      (link.receiveLine reader env line m written) := by
  by_cases hlong : line.length > maxCanonicalMessageBytes
  · rw [reportTooLarge_of_long hphase hlong, lineAction, if_pos hlong]
    exact .tooLarge written
  unfold lineAction receiveLine
  rw [if_neg hphase, if_neg hlong, if_neg hlong]
  dsimp only
  by_cases hdrop : link.phase = .preHandshake ∧
      (!((classifyProtocolFrame reader line).valid &&
        (classifyProtocolFrame reader line).hello)) = true
  · rw [if_pos hdrop, if_pos hdrop]
    exact .dropped written
  rw [if_neg hdrop, if_neg hdrop]
  have hhello : link.phase = .preHandshake → StrictHello reader line := by
    intro hpre
    rw [not_and] at hdrop
    have h := hdrop hpre
    rw [Bool.not_eq_true, Bool.not_eq_false', Bool.and_eq_true] at h
    exact h
  cases written with
  | false => exact .unanswered hhello
  | true =>
    simp only [Bool.not_true, Bool.false_eq_true, if_false]
    split
    · rename_i hest
      simp only [Bool.and_eq_true, beq_iff_eq] at hest
      exact .answered _ hhello fun _ => .inr ⟨hest.1.1, hest.1.2, hest.2⟩
    · split
      · exact .answered _ hhello fun h => by cases h
      · exact .answered _ hhello fun h => .inl h

theorem reportTooLarge_phase_ne (link : Link σ) (written : Bool) :
    (link.reportTooLarge written).phase ≠ .strictPostHandshake := by
  unfold reportTooLarge
  dsimp only
  split
  · exact fun h => by cases h
  · split
    · exact fun h => by cases h
    · rename_i hstrict
      exact fun h => hstrict (by rw [h]; rfl)

theorem reportTooLarge_device (link : Link σ) (written : Bool) :
    ∃ k, (link.reportTooLarge written).device = Device.disconnect^[k] link.device := by
  unfold reportTooLarge
  dsimp only
  split
  · exact ⟨2, rfl⟩
  · split <;> exact ⟨1, rfl⟩

end Link

/-! ## Turns -/

namespace MainLoop

variable {σ : Type} {reader : JsonReader} {env : Env σ} {s : MainLoop σ}

/-- What a turn can do; `link` is the session after the housekeeping. -/
inductive TurnStep (reader : JsonReader) (env : Env σ) (s : MainLoop σ) (t : Turn)
    (link : Link σ) : Option LoopEvent → MainLoop σ → Prop where
  | disconnected : t.connected = false →
    TurnStep reader env s t link (some .disconnected) { link := { device := link.device.disconnect } }
  | latched : link.phase = .faulted → TurnStep reader env s t link none { link }
  | readFailed (capacity : Nat) (input : List UInt8) :
    link.phase ≠ .faulted → t.read capacity = none →
    TurnStep reader env s t link (some .readFailed)
      { s with link := link.failTransportSession, input }
  | discarded (bytes : List UInt8) :
    link.phase ≠ .faulted → s.discardOversizedInput = true → newline ∉ bytes →
    TurnStep reader env s t link (some (.received bytes)) (s.withLink link)
  | resumed (raw rest : List UInt8) :
    link.phase ≠ .faulted → s.discardOversizedInput = true → newline ∉ raw →
    (raw ++ newline :: rest).length ≤ inputCapacity →
    TurnStep reader env s t link (some (.received (raw ++ newline :: rest))) { link, input := rest }
  | overflowed :
    link.phase ≠ .faulted → s.discardOversizedInput = false → newline ∉ s.input →
    s.input.length ≥ inputCapacity →
    TurnStep reader env s t link (some (.acted (.tooLarge t.written)))
      { link := link.reportTooLarge t.written, discardOversizedInput := true }
  | received (bytes : List UInt8) :
    link.phase ≠ .faulted → s.discardOversizedInput = false → newline ∉ s.input →
    s.input.length < inputCapacity → (s.input ++ bytes).length ≤ inputCapacity →
    TurnStep reader env s t link (some (.received bytes)) { link, input := s.input ++ bytes }
  | served (raw rest : List UInt8) :
    link.phase ≠ .faulted → s.discardOversizedInput = false → newline ∉ raw →
    s.input = raw ++ newline :: rest →
    TurnStep reader env s t link
      (some (.acted (link.lineAction reader env (trimLine raw) t.m t.written)))
      { link := link.receiveLine reader env (trimLine raw) t.m t.written, input := rest }

/-- **What a turn can do.** -/
theorem turn_cases (reader : JsonReader) (env : Env σ) (s : MainLoop σ) (t : Turn) :
    TurnStep reader env s t (s.link.housekeeping t.nowMs) (s.turn reader env t).1
      (s.turn reader env t).2 := by
  unfold turn
  dsimp only
  split
  · rename_i hconn
    exact .disconnected (by simpa using hconn)
  split
  · rename_i hphase
    exact .latched hphase
  rename_i hphase
  split
  · rename_i hdiscard
    unfold discard
    split
    · rename_i hread
      exact .readFailed _ _ hphase hread
    · rename_i bytes hlen _
      split
      · rename_i hcut
        exact .discarded bytes hphase hdiscard (Lines.cut_eq_none.1 hcut)
      · rename_i raw rest hcut
        obtain ⟨hraw, rfl⟩ := Lines.cut_eq_some.1 hcut
        exact .resumed raw rest hphase hdiscard hraw hlen
  · rename_i hdiscard
    have hkeep : s.discardOversizedInput = false := by
      rw [← Bool.not_eq_true]
      exact hdiscard
    unfold serveInput
    split
    · rename_i hcut
      have hopen := Lines.cut_eq_none.1 hcut
      split
      · rename_i hfull
        exact .overflowed hphase hkeep hopen hfull
      · rename_i hroom
        split
        · rename_i hread
          exact .readFailed _ _ hphase hread
        · rename_i bytes hlen _
          have hfits : (s.input ++ bytes).length ≤ inputCapacity := by
            rw [List.length_append]
            simp only [withLink] at hlen hroom
            omega
          simp only [withLink, hkeep]
          exact .received bytes hphase hkeep hopen (Nat.lt_of_not_le hroom) hfits
    · rename_i raw rest hcut
      obtain ⟨hraw, hinput⟩ := Lines.cut_eq_some.1 hcut
      simp only [withLink, hkeep]
      exact .served raw rest hphase hkeep hraw hinput

/-- A step is a turn, or it leaves the loop alone but for the Device. -/
theorem step_cases (reader : JsonReader) (env : Env σ) (s : MainLoop σ) (i : LoopInput) :
    (∃ t, i = .turn t ∧ TurnStep reader env s t (s.link.ambient env i) (s.event reader env i)
      (s.step reader env i)) ∨
    (s.event reader env i = none ∧ s.step reader env i = s.withLink (s.link.ambient env i)) := by
  cases i with
  | turn t => exact .inl ⟨t, rfl, turn_cases reader env s t⟩
  | user u => exact .inr ⟨rfl, rfl⟩

/-- The strict phase is entered by a hello, and left by a disconnect. -/
theorem strict_step (i : LoopInput)
    (h : (s.step reader env i).link.phase = .strictPostHandshake) :
    LoopEvent.Establishes reader (s.event reader env i) ∨
      (s.link.phase = .strictPostHandshake ∧ s.event reader env i ≠ some .disconnected) := by
  have hphase : (s.link.ambient env i).phase = s.link.phase := Link.ambient_phase i
  rw [← hphase]
  revert h
  obtain ⟨t, -, hstep⟩ | ⟨hev, hs⟩ := step_cases reader env s i
  case inr =>
    rw [hev, hs]
    exact fun h => .inr ⟨h, nofun⟩
  revert hstep
  generalize s.event reader env i = e, s.step reader env i = s', s.link.ambient env i = link
  intro hstep
  cases hstep with
  | disconnected => exact nofun
  | readFailed => exact nofun
  | latched _ | discarded | resumed | received => exact fun h => .inr ⟨h, nofun⟩
  | overflowed => exact fun h => absurd h (Link.reportTooLarge_phase_ne link _)
  | served raw rest hne =>
    have hline := Link.receiveLine_cases reader env (trimLine raw) t.m t.written hne
    revert hline
    generalize link.lineAction reader env (trimLine raw) t.m t.written = action
    generalize link.receiveLine reader env (trimLine raw) t.m t.written = link'
    generalize t.written = written
    rintro hline h
    cases hline with
    | tooLarge => exact absurd h (Link.reportTooLarge_phase_ne link _)
    | dropped => exact .inr ⟨h, nofun⟩
    | unanswered => cases h
    | answered phase _ hstrict =>
      rcases hstrict h with hbefore | ⟨hhello, hok, hid⟩
      · exact .inr ⟨hbefore, nofun⟩
      · exact .inl ⟨_, _, rfl, hhello, hok, hid⟩

/-- A line reaches the handler: the first of the buffer, on a session that is not faulted. -/
theorem dispatched_step {i : LoopInput} {line : List UInt8} {response : Response} {written : Bool}
    (h : s.event reader env i = some (.acted (.dispatched line response written))) :
    s.link.phase ≠ .faulted ∧ (s.link.phase = .preHandshake → StrictHello reader line) ∧
      ∃ raw rest, trimLine raw = line ∧ s.input = raw ++ newline :: rest := by
  have hphase : (s.link.ambient env i).phase = s.link.phase := Link.ambient_phase i
  rw [← hphase]
  obtain ⟨t, -, hstep⟩ | ⟨hev, -⟩ := step_cases reader env s i
  case inr =>
    rw [hev] at h
    cases h
  rw [h] at hstep
  revert hstep
  generalize s.step reader env i = s', s.link.ambient env i = link
  generalize he : some (LoopEvent.acted (.dispatched line response written)) = e
  intro hstep
  cases hstep with
  | served raw rest hne _ _ hinput =>
    have haction := LoopEvent.acted.inj (Option.some.inj he)
    have hline := Link.receiveLine_cases reader env (trimLine raw) t.m t.written hne
    rw [← haction] at hline
    generalize link.receiveLine reader env (trimLine raw) t.m t.written = link' at hline
    generalize t.written = written' at hline
    cases hline with
    | unanswered hhello => exact ⟨hne, hhello, raw, rest, rfl, hinput⟩
    | answered _ hhello => exact ⟨hne, hhello, raw, rest, rfl, hinput⟩
  | _ => cases he

/-- A faulted session waits for the disconnect. -/
theorem latched_step (reader : JsonReader) (env : Env σ) (i : LoopInput)
    (h : s.link.phase = .faulted) :
    s.event reader env i = some .disconnected ∨
      (s.event reader env i = none ∧
        (s.step reader env i).link = s.link.ambient env i) := by
  have hphase : (s.link.ambient env i).phase = .faulted := (Link.ambient_phase i).trans h
  obtain ⟨t, -, hstep⟩ | ⟨hev, hs⟩ := step_cases reader env s i
  case inr => exact .inr ⟨hev, by rw [hs]; rfl⟩
  revert hstep hphase
  generalize s.event reader env i = e, s.step reader env i = s', s.link.ambient env i = link
  intro hphase hstep
  cases hstep with
  | disconnected => exact .inl rfl
  | latched => exact .inr ⟨rfl, rfl⟩
  | readFailed _ _ hne | discarded _ hne | resumed _ _ hne | received _ hne | overflowed hne | served _ _ hne =>
    exact absurd hphase hne

/-- Without a dispatch, a step does no more to the Device than to tear the session down. -/
theorem undispatched_step (i : LoopInput)
    (h : ∀ line response written,
      s.event reader env i ≠ some (.acted (.dispatched line response written))) :
    ∃ k, (s.step reader env i).link.device =
      Device.disconnect^[k] (s.link.ambient env i).device := by
  obtain ⟨t, -, hstep⟩ | ⟨-, hs⟩ := step_cases reader env s i
  case inr => exact ⟨0, by rw [hs]; rfl⟩
  revert hstep h
  generalize s.event reader env i = e, s.step reader env i = s', s.link.ambient env i = link
  intro h hstep
  cases hstep with
  | disconnected | readFailed => exact ⟨1, rfl⟩
  | latched | discarded | resumed | received => exact ⟨0, rfl⟩
  | overflowed => exact Link.reportTooLarge_device link _
  | served raw rest hne =>
    have hline := Link.receiveLine_cases reader env (trimLine raw) t.m t.written hne
    revert hline h
    generalize link.lineAction reader env (trimLine raw) t.m t.written = action
    generalize link.receiveLine reader env (trimLine raw) t.m t.written = link'
    generalize t.written = written
    intro h hline
    cases hline with
    | tooLarge => exact Link.reportTooLarge_device link _
    | dropped => exact ⟨0, rfl⟩
    | answered | unanswered => exact absurd rfl (h _ _ _)

/-- What ends a session leaves nothing authorized, and the buffer is empty or never served. -/
theorem breaks_step {i : LoopInput} (h : LoopEvent.Breaks (s.event reader env i)) :
    Device.Idle (s.step reader env i).link.device ∧
      ((s.step reader env i).link.phase = .faulted ∨
        ((s.step reader env i).input = [] ∧
          (s.step reader env i).discardOversizedInput = false)) := by
  obtain ⟨t, -, hstep⟩ | ⟨hev, -⟩ := step_cases reader env s i
  case inr =>
    rw [hev] at h
    cases h
  revert hstep h
  generalize s.event reader env i = e, s.step reader env i = s', s.link.ambient env i = link
  intro h hstep
  have hreport : ∀ {link : Link σ}, Device.Idle (link.reportTooLarge false).device ∧
      (link.reportTooLarge false).phase = .faulted := ⟨Device.idle_disconnect _, rfl⟩
  cases hstep with
  | disconnected => exact ⟨Device.idle_disconnect _, .inr ⟨rfl, rfl⟩⟩
  | readFailed => exact ⟨Device.idle_disconnect _, .inl rfl⟩
  | latched | discarded | resumed | received => cases h
  | overflowed =>
    generalize t.written = written at h
    cases h
    exact ⟨hreport.1, .inl hreport.2⟩
  | served raw rest hne =>
    have hline := Link.receiveLine_cases reader env (trimLine raw) t.m t.written hne
    revert hline h
    generalize link.lineAction reader env (trimLine raw) t.m t.written = action
    generalize link.receiveLine reader env (trimLine raw) t.m t.written = link'
    generalize t.written = written
    intro h hline
    cases hline with
    | tooLarge =>
      cases h
      exact ⟨hreport.1, .inl hreport.2⟩
    | dropped | answered => cases h
    | unanswered => exact ⟨Device.idle_disconnect _, .inl rfl⟩

/-- The session is faulted, or what the buffer holds is the end of `bytes`. -/
def Holds (bytes : List UInt8) (s : MainLoop σ) : Prop :=
  s.link.phase = .faulted ∨
    (s.input <:+ bytes ∧ (s.discardOversizedInput = true → s.input = []))

theorem Holds.step {bytes : List UInt8} (h : Holds bytes s) (reader : JsonReader) (env : Env σ)
    (i : LoopInput) :
    Holds (bytes ++ LoopEvent.bytes (s.event reader env i)) (s.step reader env i) := by
  have hphase : (s.link.ambient env i).phase = s.link.phase := Link.ambient_phase i
  unfold Holds at h
  rw [← hphase] at h
  obtain ⟨t, -, hstep⟩ | ⟨hev, hs⟩ := step_cases reader env s i
  case inr =>
    rw [hev, hs]
    simpa [Holds, LoopEvent.bytes, withLink] using h
  revert hstep h
  generalize s.event reader env i = e, s.step reader env i = s', s.link.ambient env i = link
  intro h hstep
  cases hstep with
  | disconnected => exact .inr ⟨List.nil_suffix, nofun⟩
  | latched hfaulted => exact .inl hfaulted
  | readFailed => exact .inl rfl
  | discarded more hne hdiscard =>
    obtain ⟨-, hempty⟩ := h.resolve_left hne
    have hinput := hempty hdiscard
    exact .inr ⟨by rw [withLink, hinput]; exact List.nil_suffix, fun _ => hinput⟩
  | resumed raw rest =>
    have hrest : rest <:+ raw ++ newline :: rest :=
      (List.suffix_cons newline rest).trans (List.suffix_append raw _)
    exact .inr ⟨List.suffix_append_of_suffix hrest, nofun⟩
  | overflowed => exact .inr ⟨List.nil_suffix, fun _ => rfl⟩
  | received more hne =>
    obtain ⟨hsuffix, -⟩ := h.resolve_left hne
    exact .inr ⟨List.suffix_append_self_iff.2 hsuffix, nofun⟩
  | served raw rest hne _ _ hinput =>
    obtain ⟨hsuffix, -⟩ := h.resolve_left hne
    have hrest : rest <:+ s.input := by
      rw [hinput]
      exact (List.suffix_cons newline rest).trans (List.suffix_append raw _)
    refine .inr ⟨?_, nofun⟩
    show rest <:+ bytes ++ []
    rw [List.append_nil]
    exact hrest.trans hsuffix

/-! ## Runs -/

/-- The loop after power-on, around what the Device has loaded. -/
def powerOn (device : Device σ) : MainLoop σ := { link := { device } }

section
variable (reader : JsonReader) (env : Env σ) (device : Device σ) (inp : Nat → LoopInput)

/-- The loop after `n` steps. -/
abbrev stateAt (n : Nat) : MainLoop σ := Run.stateAt (step reader env) (powerOn device) inp n

/-- What step `n` does. -/
def eventAt (n : Nat) : Option LoopEvent := (stateAt reader env device inp n).event reader env (inp n)

/-- The rules of the transport phases for a run with the states `st` and the events `ev`. -/
structure TransportSafe (st : Nat → MainLoop σ) (ev : Nat → Option LoopEvent) : Prop where
  /-- A line at the handler is a strict hello, or a hello has succeeded since the last
  disconnect. -/
  handshake : ∀ n line response written,
    ev n = some (.acted (.dispatched line response written)) → StrictHello reader line ∨
      ∃ m < n, LoopEvent.Establishes reader (ev m) ∧
        ∀ k, m < k → k < n → ev k ≠ some .disconnected
  /-- Only a line at the handler executes anything. -/
  executed : ∀ n,
    (∀ line response written, ev n ≠ some (.acted (.dispatched line response written))) →
      ∃ k, (st (n + 1)).link.device =
        Device.disconnect^[k] ((st n).link.ambient env (inp n)).device
  /-- Until the disconnect a faulted session does nothing. -/
  latched : ∀ n m, (st n).link.phase = .faulted → n ≤ m →
    (∀ k, n ≤ k → k < m → ev k ≠ some .disconnected) →
      ev m = some .disconnected ∨
        (ev m = none ∧ (st (m + 1)).link = (st m).link.ambient env (inp m))
  /-- The strict phase is entered by a hello that was answered with success. -/
  established : ∀ n, (st n).link.phase ≠ .strictPostHandshake →
    (st (n + 1)).link.phase = .strictPostHandshake → LoopEvent.Establishes reader (ev n)
  /-- What ends a session leaves nothing authorized, and no byte of it is served later. -/
  torn : ∀ n, LoopEvent.Breaks (ev n) → Device.Idle (st (n + 1)).link.device ∧
    ∀ m line response written, n < m →
      ev m = some (.acted (.dispatched line response written)) →
        ∃ raw, trimLine raw = line ∧ raw ++ [newline] <:+: LoopEvent.receivedFrom ev (n + 1) m

/-- Nothing is left in the buffer of what was received before step `n + 1`. -/
theorem holds_stateAt {n : Nat} (h : LoopEvent.Breaks (eventAt reader env device inp n)) {m : Nat}
    (hnm : n < m) :
    Holds (LoopEvent.receivedFrom (eventAt reader env device inp) (n + 1) m)
      (stateAt reader env device inp m) := by
  induction m with
  | zero => omega
  | succ m ih =>
    rcases Nat.lt_or_ge n m with hlt | hge
    · have hstep := (ih hlt).step reader env (inp m)
      unfold LoopEvent.receivedFrom
      rw [if_pos (Nat.succ_le_of_lt hlt)]
      exact hstep
    · obtain rfl : n = m := by omega
      rcases (breaks_step h).2 with hfaulted | ⟨hinput, hkeep⟩
      · exact .inl hfaulted
      · refine .inr ⟨?_, fun _ => hinput⟩
        show (step reader env _ _).input <:+ _
        rw [hinput]
        exact List.nil_suffix

theorem faulted_stateAt {n : Nat} (h : (stateAt reader env device inp n).link.phase = .faulted)
    {m : Nat} (hnm : n ≤ m)
    (hconn : ∀ k, n ≤ k → k < m → eventAt reader env device inp k ≠ some .disconnected) :
    (stateAt reader env device inp m).link.phase = .faulted := by
  induction m, hnm using Nat.le_induction with
  | base => exact h
  | succ m hnm ih =>
    have hm := ih fun k hk hkm => hconn k hk (by omega)
    obtain hdisc | ⟨-, hlink⟩ := latched_step reader env (inp m) hm
    · exact absurd hdisc (hconn m hnm (Nat.lt_succ_self m))
    · show (step reader env _ _).link.phase = _
      rw [hlink, Link.ambient_phase]
      exact hm

/-- **Transport phase safety.** -/
theorem transport_safe :
    TransportSafe reader env inp (stateAt reader env device inp) (eventAt reader env device inp) where
  handshake := by
    intro n line response written hev
    obtain ⟨hne, hhello, -⟩ := dispatched_step hev
    rcases hphase : (stateAt reader env device inp n).link.phase with _ | _ | _
    · exact .inl (hhello hphase)
    · right
      have hstart : (powerOn device).link.phase ≠ .strictPostHandshake := nofun
      obtain ⟨m, hsince⟩ := Run.since
        (A := fun s : MainLoop σ => s.link.phase = .strictPostHandshake) (J := fun _ => True)
        (C := fun _ _ => True)
        (B := fun s i _ => LoopEvent.Establishes reader (s.event reader env i))
        (Q := fun s i _ => s.event reader env i ≠ some .disconnected) hstart (fun _ => trivial)
        (fun s i _ _ h => strict_step i h) (fun _ _ => trivial) hphase
      exact ⟨m, hsince.before, hsince.begun, hsince.kept⟩
    · exact absurd hphase hne
  executed n h := undispatched_step (inp n) h
  latched n m hfaulted hnm hconn :=
    latched_step reader env (inp m) (faulted_stateAt reader env device inp hfaulted hnm hconn)
  established n hbefore hafter := (strict_step (inp n) hafter).resolve_right fun h => hbefore h.1
  torn := by
    intro n hbreaks
    refine ⟨(breaks_step hbreaks).1, fun m line response written hnm hev => ?_⟩
    obtain ⟨hne, -, raw, rest, htrim, hinput⟩ := dispatched_step hev
    obtain ⟨hsuffix, -⟩ := (holds_stateAt reader env device inp hbreaks hnm).resolve_left hne
    refine ⟨raw, htrim, .trans ?_ hsuffix.isInfix⟩
    rw [hinput]
    exact ⟨[], rest, by simp⟩

end

end MainLoop

end M5Auth.Provisioning
