import M5Auth.Lib.Run
import M5Auth.Web.Serial

/-!
# Responses on the serial session

`responses_settle`: on a stream of well-formed responses, in any chunks that fit the limits, the
initial hello and every exchange after it settle from the response with their own id, and leave
nothing unread. What must not happen is that a late answer to a retried hello is an error, that a
chunk exceeds the limit together with what is already held (`Fits`), or that an id comes round to
the hello's while answers to it are still awaited.

`Unread` says what of the stream a session has yet to read: the text in `pending`, the first bytes of
a character in the decoder, and the chunks to come.
-/

namespace M5Auth.Web

open JsonValue Unicode

/-! ## Limits -/

/-- The bytes that count against a limit after a chunk. A newline starts the count again, without
the bytes of an unfinished character. -/
def heldAfter (held : Nat) (chunk : List UInt8) : Nat :=
  if 10 ∈ chunk then (encodeUtf8 (feed {} (Lines.split 10 chunk).2).1).length
  else held + chunk.length

/-- Each chunk fits the limit together with what is held before it. -/
def Fits (limit : Nat) : Nat → List (List UInt8) → Prop
  | _, [] => True
  | held, chunk :: chunks =>
    held + chunk.length ≤ limit ∧ Fits limit (heldAfter held chunk) chunks

/-- The same, up to the first newline. -/
def FitsLine (limit : Nat) : Nat → List (List UInt8) → Prop
  | _, [] => True
  | held, chunk :: chunks =>
    held + chunk.length ≤ limit ∧ (10 ∉ chunk → FitsLine limit (held + chunk.length) chunks)

theorem FitsLine.front {limit held : Nat} {chunks more : List (List UInt8)}
    (h : FitsLine limit held (chunks ++ more)) : FitsLine limit held chunks := by
  induction chunks generalizing held with
  | nil => trivial
  | cons chunk chunks ih => exact ⟨h.1, fun hnone => ih (h.2 hnone)⟩

theorem Fits.line {limit held : Nat} {chunks : List (List UInt8)} (h : Fits limit held chunks) :
    FitsLine limit held chunks := by
  induction chunks generalizing held with
  | nil => trivial
  | cons chunk chunks ih =>
    refine ⟨h.1, fun hnone => ih ?_⟩
    have hrest := h.2
    rwa [heldAfter, if_neg hnone] at hrest

/-! ## What is left to read -/

theorem keepsUtf8 : Lines.Keeps '\n' 10 String.utf8EncodeChar :=
  keeps_utf8 (by decide) (by decide)

theorem newline_low : (10 : UInt8) < 128 := by decide

theorem keepsUtf16 : Lines.Keeps '\n' 10 unitsOf := keeps_utf16 (by decide)

theorem encodeUtf16_append (text more : List Char) :
    encodeUtf16 (text ++ more) = encodeUtf16 text ++ encodeUtf16 more := List.flatMap_append

/-- The decoder gives out the characters that a chunk completes, but a byte order mark at the start
of the stream. -/
theorem TextDecoder.decode_eq {d : TextDecoder} {value : List UInt8} {text : List Char}
    {state : Pending} (h : feed d.state value = (text, state))
    (hbom : d.bomSeen = true ∨ text.head? ≠ some bom) :
    d.decode value = (encodeUtf16 text, { state, bomSeen := d.bomSeen || !text.isEmpty }) := by
  unfold decode
  rw [h]
  cases text with
  | nil => simp [encodeUtf16]
  | cons c text =>
    have hkeep : (!d.bomSeen && c == bom) = false := by
      rcases hbom with hseen | hc
      · rw [hseen]
        rfl
      · have hne : c ≠ bom := fun he => hc (by rw [he]; rfl)
        rw [beq_eq_false_iff_ne.2 hne, Bool.and_false]
    simp [hkeep]

namespace SerialSession

/-- The bytes that count against a limit. -/
def held (s : SerialSession) : Nat :=
  if 10 ∈ s.pending then (textEncode (Lines.split 10 s.pending).2).length else s.pendingBytes

/-- The session and the chunks to come hold `text`. -/
def Unread (s : SerialSession) (chunks : List (List UInt8)) (text : List Char) : Prop :=
  ∃ got front more, s.pending = encodeUtf16 got ∧ After front s.decoder.state ∧
    front ++ chunks.flatten = encodeUtf8 more ∧ got ++ more = text ∧
    (s.decoder.bomSeen = true ∨ (got = [] ∧ text.head? ≠ some bom))

/-- What a line leaves in `pending` is within the limit. -/
def Small (limit : Nat) (s : SerialSession) : Prop :=
  s.pendingBytes ≤ limit ∧
    ∀ line rest, Lines.cut 10 s.pending = some (line, rest) → (textEncode rest).length ≤ limit

variable {s : SerialSession} {chunk : List UInt8} {chunks : List (List UInt8)} {text : List Char}

theorem mem_encodeUtf16 : 10 ∈ encodeUtf16 text ↔ '\n' ∈ text :=
  Lines.mem_flatMap_iff keepsUtf16

/-- The newlines of a chunk are those of the characters it completes. -/
theorem mem_of_cut {done : List Char} {front front' : List UInt8} (hfront : Unfinished front)
    (hfront' : Unfinished front') (hcut : front ++ chunk = encodeUtf8 done ++ front') :
    10 ∈ chunk ↔ '\n' ∈ done := by
  have hmem : 10 ∈ front ++ chunk ↔ 10 ∈ encodeUtf8 done ++ front' := by rw [hcut]
  have hdone : 10 ∈ encodeUtf8 done ↔ '\n' ∈ done := Lines.mem_flatMap_iff keepsUtf8
  have hnot := hfront.not_mem newline_low
  have hnot' := hfront'.not_mem newline_low
  rw [List.mem_append, List.mem_append, hdone] at hmem
  simpa [hnot, hnot'] using hmem

/-- The complete characters behind the last newline of a chunk. -/
theorem tail_of_cut {done : List Char} {front front' : List UInt8} (hfront : Unfinished front)
    (hfront' : Unfinished front') (hcut : front ++ chunk = encodeUtf8 done ++ front')
    (hmem : 10 ∈ chunk) :
    (feed {} (Lines.split 10 chunk).2).1 = (Lines.split '\n' done).2 := by
  have hnot := hfront.not_mem newline_low
  have hnot' := hfront'.not_mem newline_low
  have htail : (Lines.split 10 chunk).2 = encodeUtf8 (Lines.split '\n' done).2 ++ front' := by
    have hleft := Lines.split_append hnot chunk
    rw [if_pos hmem, hcut] at hleft
    rw [← hleft]
    exact Lines.tail_flatMap keepsUtf8 hnot' done
  obtain ⟨htext, hzero⟩ := feed_encodeUtf8 (p := {}) rfl (Lines.split '\n' done).2
  rw [htail, feed_append, htext, feed_unfinished hzero hfront', List.append_nil]

/-- What a chunk puts behind a newline is no longer than the chunk. -/
theorem rest_of_cut {line rest : List Char} {front front' : List UInt8} (hfront : Unfinished front)
    (hcut : front ++ chunk = encodeUtf8 (line ++ '\n' :: rest) ++ front') :
    (encodeUtf8 rest).length ≤ chunk.length := by
  have hnot := hfront.not_mem newline_low
  have hsplit : front ++ chunk = encodeUtf8 line ++ (10 :: (encodeUtf8 rest ++ front')) := by
    rw [hcut, encodeUtf8_append, encodeUtf8_cons, keepsUtf8.ends]
    simp
  rcases List.append_eq_append_iff.1 hsplit with ⟨behind, -, hchunk⟩ | ⟨behind, hline, hrest⟩
  · rw [hchunk]
    simp only [List.length_append, List.length_cons]
    omega
  · rcases behind with _ | ⟨byte, behind⟩
    · rw [← List.nil_append chunk, ← hrest]
      simp only [List.length_append, List.length_cons]
      omega
    · obtain ⟨rfl, -⟩ := List.cons.inj hrest
      refine absurd ?_ hnot
      rw [hline]
      exact List.mem_append_right _ List.mem_cons_self

/-- A chunk arrives while no line is complete. -/
theorem Unread.receive (h : Unread s (chunk :: chunks) text) (hnone : 10 ∉ s.pending) :
    Unread (s.receive chunk) chunks text ∧
      (10 ∈ (s.receive chunk).pending ↔ 10 ∈ chunk) ∧
      (s.receive chunk).held = heldAfter s.pendingBytes chunk ∧
      ∀ line rest, Lines.cut 10 (s.receive chunk).pending = some (line, rest) →
        (textEncode rest).length ≤ chunk.length := by
  obtain ⟨got, front, more, hpending, hafter, hbytes, htext, hbom⟩ := h
  rw [List.flatten_cons, ← List.append_assoc] at hbytes
  obtain ⟨done, more', front', rfl, hcut, hrest, hfront'⟩ := cut_encodeUtf8 hbytes
  obtain ⟨hfeed, hafter'⟩ := feed_cut hafter hcut hfront'
  have hgot : '\n' ∉ got := by
    rw [hpending] at hnone
    exact fun hmem => hnone (mem_encodeUtf16.2 hmem)
  have hnewline : 10 ∈ chunk ↔ '\n' ∈ done := mem_of_cut hafter.1 hfront' hcut
  have hstart : s.decoder.bomSeen = true ∨ done.head? ≠ some bom := by
    refine hbom.imp_right fun ⟨hempty, hhead⟩ hmark => hhead ?_
    rw [← htext, hempty, List.nil_append, List.head?_append, hmark]
    rfl
  have hcomplete : feed s.decoder.state chunk = (done, (feed s.decoder.state chunk).2) :=
    Prod.ext hfeed rfl
  have hdecode := TextDecoder.decode_eq hcomplete hstart
  have hreceive : s.receive chunk =
      { s with decoder := (s.decoder.decode chunk).2, pending := encodeUtf16 (got ++ done)
               pendingBytes := s.pendingBytes + chunk.length } := by
    rw [encodeUtf16_append, ← hpending, SerialSession.receive, hdecode]
  rw [hreceive, hdecode]
  have hmem : 10 ∈ encodeUtf16 (got ++ done) ↔ 10 ∈ chunk := by
    rw [mem_encodeUtf16, hnewline, List.mem_append]
    simp [hgot]
  refine ⟨⟨got ++ done, front', more', rfl, hafter', hrest, ?_, ?_⟩, hmem, ?_, ?_⟩
  · rw [← htext, List.append_assoc]
  · cases done with
    | nil => simpa using hbom
    | cons c done => exact .inl (by simp)
  · unfold held heldAfter
    dsimp only
    by_cases hin : 10 ∈ chunk
    · rw [if_pos (hmem.2 hin), if_pos hin, tail_of_cut hafter.1 hfront' hcut hin]
      have htail := Lines.tail_flatMap keepsUtf16 (List.not_mem_nil (a := 10)) (got ++ done)
      rw [List.append_nil, List.append_nil] at htail
      rw [encodeUtf16, htail, Lines.split_append hgot, if_pos (hnewline.1 hin)]
      exact congrArg List.length (textEncode_encodeUtf16 _)
    · rw [if_neg fun hm => hin (hmem.1 hm), if_neg hin]
  · intro line rest hline
    change Lines.cut 10 ((got ++ done).flatMap unitsOf) = some (line, rest) at hline
    rw [Lines.cut_flatMap keepsUtf16] at hline
    obtain ⟨⟨line', rest'⟩, hcut', hpair⟩ := Option.map_eq_some_iff.1 hline
    cases hpair
    obtain ⟨hopen, heq⟩ := Lines.cut_eq_some.1 hcut'
    have hdone : ∃ before, done = before ++ '\n' :: rest' := by
      rcases List.append_eq_append_iff.1 heq with ⟨behind, -, hd⟩ | ⟨behind, hg, hd⟩
      · exact ⟨behind, hd⟩
      · rcases behind with _ | ⟨c, behind⟩
        · exact ⟨[], by rw [List.nil_append, ← List.nil_append done, ← hd]⟩
        · obtain ⟨rfl, -⟩ := List.cons.inj hd
          refine absurd ?_ hgot
          rw [hg]
          exact List.mem_append_right _ List.mem_cons_self
    obtain ⟨before, rfl⟩ := hdone
    have hlen := rest_of_cut hafter.1 hcut
    change (textEncode (encodeUtf16 rest')).length ≤ _
    rwa [textEncode_encodeUtf16]

/-- A complete line is taken. -/
theorem Unread.takeLine {line : List Char} (h : Unread s chunks (line ++ '\n' :: text))
    (hline : '\n' ∉ line) (hmem : 10 ∈ s.pending) :
    ∃ rest, Lines.cut 10 s.pending = some (encodeUtf16 line, encodeUtf16 rest) ∧
      Unread (s.takeLine (encodeUtf16 rest)) chunks text ∧
      (s.takeLine (encodeUtf16 rest)).held = s.held := by
  obtain ⟨got, front, more, hpending, hafter, hbytes, htext, hbom⟩ := h
  have hgot : '\n' ∈ got := by
    rwa [hpending, mem_encodeUtf16] at hmem
  obtain ⟨⟨line', rest⟩, hcut⟩ :=
    Option.ne_none_iff_exists'.1 fun hn => Lines.cut_eq_none.1 hn hgot
  obtain ⟨hline', rfl⟩ := Lines.cut_eq_some.1 hcut
  have hsame : Lines.cut '\n' (line ++ '\n' :: text) = some (line', rest ++ more) := by
    rw [← htext, List.append_assoc, List.cons_append, Lines.cut_ended hline']
  rw [Lines.cut_ended hline] at hsame
  obtain ⟨rfl, rfl⟩ := Prod.mk.inj (Option.some.inj hsame)
  have hpair : Lines.cut 10 s.pending = some (encodeUtf16 line, encodeUtf16 rest) := by
    rw [hpending, encodeUtf16, Lines.cut_flatMap keepsUtf16, hcut]
    rfl
  refine ⟨rest, hpair, ⟨rest, front, more, rfl, hafter, hbytes, rfl, ?_⟩, ?_⟩
  · refine hbom.imp_right fun ⟨hempty, _⟩ => ?_
    rw [hempty] at hgot
    cases hgot
  · have hopen : 10 ∉ encodeUtf16 line := fun hm => hline (mem_encodeUtf16.1 hm)
    obtain ⟨-, heq⟩ := Lines.cut_eq_some.1 hpair
    unfold held SerialSession.takeLine
    dsimp only
    rw [if_pos hmem, heq, Lines.split_line hopen]
    split
    · rfl
    · rename_i hnone
      rw [Lines.split_open hnone]

theorem Small.takeLine {limit : Nat} {line : JsString} {rest : List Char} (h : Small limit s)
    (hcut : Lines.cut 10 s.pending = some (line, encodeUtf16 rest)) :
    Small limit (s.takeLine (encodeUtf16 rest)) := by
  have hrest := h.2 _ _ hcut
  refine ⟨hrest, fun line' rest' hcut' => ?_⟩
  change Lines.cut 10 (rest.flatMap unitsOf) = some (line', rest') at hcut'
  rw [Lines.cut_flatMap keepsUtf16] at hcut'
  obtain ⟨⟨before, behind⟩, hpair, heq⟩ := Option.map_eq_some_iff.1 hcut'
  cases heq
  obtain ⟨-, rfl⟩ := Lines.cut_eq_some.1 hpair
  change (textEncode (encodeUtf16 behind)).length ≤ limit
  rw [textEncode_encodeUtf16] at hrest ⊢
  rw [encodeUtf8_append, encodeUtf8_cons] at hrest
  simp only [List.length_append] at hrest
  omega

/-- The fields that reading a line leaves alone. -/
structure SameIds (s s' : SerialSession) : Prop where
  nextId : s'.nextId = s.nextId
  closed : s'.closed = s.closed
  staleId : s'.staleInitialHelloResponseId = s.staleInitialHelloResponseId
  remaining : s'.staleInitialHelloResponsesRemaining = s.staleInitialHelloResponsesRemaining

theorem SameIds.trans {s s' s'' : SerialSession} (h : SameIds s s') (h' : SameIds s' s'') :
    SameIds s s'' :=
  ⟨h'.nextId.trans h.nextId, h'.closed.trans h.closed, h'.staleId.trans h.staleId,
    h'.remaining.trans h.remaining⟩

def delivered (chunks : List (List UInt8)) : List Arrival := chunks.map .chunk

section
variable {limit : Nat}

theorem readLine_line (hroom : s.pendingBytes ≤ limit) {line rest : JsString}
    (hcut : Lines.cut 10 s.pending = some (line, rest)) (arrivals : List Arrival) :
    s.readLine limit arrivals = (.ok (dropReturn line), s.takeLine rest, arrivals) := by
  unfold readLine
  rw [if_neg (Nat.not_lt.2 hroom), hcut]

theorem readLine_nil (hroom : s.pendingBytes ≤ limit) (hnone : 10 ∉ s.pending) :
    s.readLine limit [] = (.error responseTimeout, s, []) := by
  unfold readLine
  rw [if_neg (Nat.not_lt.2 hroom), Lines.cut_eq_none.2 hnone]

theorem readLine_chunk (hroom : s.pendingBytes ≤ limit) (hnone : 10 ∉ s.pending)
    (hfits : s.pendingBytes + chunk.length ≤ limit) (arrivals : List Arrival) :
    s.readLine limit (.chunk chunk :: arrivals) = (s.receive chunk).readLine limit arrivals := by
  conv => lhs; unfold readLine
  rw [if_neg (Nat.not_lt.2 hroom), Lines.cut_eq_none.2 hnone]
  exact if_neg (Nat.not_lt.2 hfits)

/-- **One line is read**, or the chunks at hand do not complete it. -/
theorem readLine_spec {now later : List (List UInt8)} {line : List Char}
    (h : Unread s (now ++ later) (line ++ '\n' :: text)) (hline : '\n' ∉ line)
    (hsmall : Small limit s) (hfits : 10 ∉ s.pending → FitsLine limit s.pendingBytes now) :
    (∃ s' left, s.readLine limit (delivered now) =
        (.ok (dropReturn (encodeUtf16 line)), s', delivered left) ∧
      Unread s' (left ++ later) text ∧ Small limit s' ∧ SameIds s s' ∧
      s'.pendingBytes = (textEncode s'.pending).length ∧
      (Fits limit s.held now → Fits limit s'.held left)) ∨
    (∃ s', s.readLine limit (delivered now) = (.error responseTimeout, s', []) ∧
      Unread s' later (line ++ '\n' :: text) ∧ Small limit s' ∧ SameIds s s' ∧
      10 ∉ s.pending ∧ 10 ∉ s'.pending ∧ 10 ∉ now.flatten ∧
      ∀ chunks, FitsLine limit s.pendingBytes (now ++ chunks) →
        FitsLine limit s'.pendingBytes chunks) := by
  induction now generalizing s with
  | nil =>
    by_cases hmem : 10 ∈ s.pending
    · left
      obtain ⟨rest, hcut, hunread, -⟩ := h.takeLine hline hmem
      exact ⟨_, [], readLine_line hsmall.1 hcut [], hunread, hsmall.takeLine hcut,
        ⟨rfl, rfl, rfl, rfl⟩, rfl, fun _ => trivial⟩
    · right
      exact ⟨s, readLine_nil hsmall.1 hmem, h, hsmall, ⟨rfl, rfl, rfl, rfl⟩, hmem, hmem,
        List.not_mem_nil, fun _ hf => hf⟩
  | cons chunk now ih =>
    by_cases hmem : 10 ∈ s.pending
    · left
      obtain ⟨rest, hcut, hunread, hheld⟩ := h.takeLine hline hmem
      exact ⟨_, chunk :: now, readLine_line hsmall.1 hcut _, hunread, hsmall.takeLine hcut,
        ⟨rfl, rfl, rfl, rfl⟩, rfl, fun hf => by rwa [hheld]⟩
    · obtain ⟨hchunk, hnext⟩ := hfits hmem
      obtain ⟨hunread, hnewline, hheld, hrest⟩ := h.receive hmem
      have hbytes : (s.receive chunk).pendingBytes = s.pendingBytes + chunk.length := rfl
      have hsmall' : Small limit (s.receive chunk) := by
        refine ⟨by rwa [hbytes], fun line rest hcut => ?_⟩
        have hle := hrest line rest hcut
        omega
      have hids : SameIds s (s.receive chunk) := ⟨rfl, rfl, rfl, rfl⟩
      have hfits' : 10 ∉ (s.receive chunk).pending →
          FitsLine limit (s.receive chunk).pendingBytes now :=
        fun hm => hnext fun hin => hm (hnewline.2 hin)
      have hread := readLine_chunk hsmall.1 hmem hchunk (delivered now)
      rcases ih hunread hsmall' hfits' with
        ⟨s', left, hline', hleft, hsm, hsame, hexact, hheld'⟩ |
        ⟨s', htimeout, hleft, hsm, hsame, hbefore, hopen, hnone, hlines⟩
      · left
        refine ⟨s', left, hread.trans hline', hleft, hsm, hids.trans hsame, hexact, fun hf => ?_⟩
        refine hheld' ?_
        rw [hheld]
        have hheld0 : s.held = s.pendingBytes := if_neg hmem
        rw [← hheld0]
        exact hf.2
      · right
        have hin : 10 ∉ chunk := fun hin => hbefore (hnewline.2 hin)
        refine ⟨s', hread.trans htimeout, hleft, hsm, hids.trans hsame, hmem, hopen, ?_,
          fun chunks hf => hlines chunks (hf.2 hin)⟩
        rw [List.flatten_cons, List.mem_append]
        exact fun hm => hm.elim hin hnone

end

theorem Unread.pending_eq (h : Unread s chunks text) (hnone : chunks.flatten = []) :
    s.pending = encodeUtf16 text := by
  obtain ⟨got, front, more, hpending, hafter, hbytes, htext, -⟩ := h
  rw [hnone, List.append_nil] at hbytes
  rw [hafter.1.text_eq_nil hbytes, List.append_nil] at htext
  rw [hpending, htext]

/-- Nothing is left to read. -/
theorem Unread.nil (h : Unread s chunks []) : s.pending = [] ∧ chunks.flatten = [] := by
  obtain ⟨got, front, more, hpending, -, hbytes, htext, -⟩ := h
  obtain ⟨rfl, rfl⟩ := List.append_eq_nil_iff.1 htext
  exact ⟨hpending, (List.append_eq_nil_iff.1 hbytes).2⟩

end SerialSession

/-! ## Responses -/

variable {parseJson : JsString → Option JsonValue} {protocol : Protocol} {id : Nat}
  {text : List Char} {outcome : CanonicalOutcome}

/-- The line that the reader makes of a text. -/
def lineOf (text : List Char) : JsString := dropReturn (encodeUtf16 text)

/-- The text of a well-formed response to the request `id`, within the size limit. -/
structure Responds (parseJson : JsString → Option JsonValue) (protocol : Protocol) (id : Nat)
    (text : List Char) (outcome : CanonicalOutcome) : Prop where
  oneLine : '\n' ∉ text
  object : text.head? = some '\x7b'
  size : (encodeUtf8 text).length ≤ maxResponseBytes
  parsed : protocol.parse parseJson (lineOf text) (.integer id) = .ok outcome

theorem lineOf_head (h : text.head? = some '\x7b') : ∃ rest, lineOf text = 0x7b :: rest := by
  obtain ⟨rest, rfl⟩ := List.head?_eq_some_iff.1 h
  have hunits : encodeUtf16 ('\x7b' :: rest) = 0x7b :: encodeUtf16 rest := by
    rw [encodeUtf16_cons]
    rfl
  rw [lineOf, dropReturn, hunits]
  split
  · rename_i hlast
    cases hrest : encodeUtf16 rest with
    | nil =>
      rw [hrest] at hlast
      cases hlast
    | cons unit units => exact ⟨(unit :: units).dropLast, rfl⟩
  · exact ⟨_, rfl⟩

theorem Responds.startsObject (h : Responds parseJson protocol id text outcome) :
    startsObject (lineOf text) = true := by
  obtain ⟨rest, hline⟩ := lineOf_head h.object
  rw [hline]
  rfl

/-- The reader takes at most a carriage return off a line. -/
theorem lineOf_length (text : List Char) :
    (textEncode (lineOf text)).length ≤ (encodeUtf8 text).length := by
  have hreturn : Lines.Keeps '\r' 13 unitsOf := keeps_utf16 (by decide)
  unfold lineOf dropReturn
  split
  · rename_i hlast
    rcases List.eq_nil_or_concat' text with rfl | ⟨front, c, rfl⟩
    · cases hlast
    · have hunits : encodeUtf16 (front ++ [c]) = encodeUtf16 front ++ unitsOf c := by
        rw [encodeUtf16_append, encodeUtf16_cons]
        exact congrArg _ (List.append_nil _)
      have hc : c = '\r' := by
        by_contra hne
        refine hreturn.other c hne ?_
        rw [hunits, List.getLast?_append] at hlast
        rcases unitsOf_cases c with ⟨unit, hu, -⟩ | ⟨lead, trail, hu, -⟩
        · rw [hu] at hlast ⊢
          cases hlast
          exact List.mem_singleton_self _
        · rw [hu] at hlast ⊢
          cases hlast
          exact List.mem_cons_of_mem _ (List.mem_singleton_self _)
      rw [hunits, hc, hreturn.ends, List.dropLast_concat, textEncode_encodeUtf16,
        encodeUtf8_append]
      simp only [List.length_append]
      omega
  · exact Nat.le_of_eq (congrArg List.length (textEncode_encodeUtf16 text))

theorem parseCanonicalV2Response_eq : parseCanonicalV2Response = parseResponse
    { version := 2, maximumChars := none, tooLarge := "", invalidId := "Invalid request id"
      invalidJson := "Device returned invalid JSON"
      invalidResponse := "Device returned invalid response"
      unsupportedVersion := "Unsupported protocol version", idMismatch := "Response id mismatch"
      invalidError := "Device returned invalid error response" } := rfl

/-- An accepted response names the request. -/
theorem parseResponse_id {texts : ResponseTexts} {raw : JsString}
    (h : parseResponse texts parseJson raw (.integer id) = .ok outcome) :
    responseIdCandidate parseJson raw = some (.integer id) := by
  unfold parseResponse at h
  obtain ⟨hrange, h⟩ := require_bind.1 h
  obtain ⟨-, h⟩ := require_bind.1 h
  unfold responseIdCandidate
  cases hparse : parseJson raw with
  | none =>
    rw [hparse] at h
    cases h
  | some parsed =>
    rw [hparse] at h
    obtain ⟨hrecord, h⟩ := require_bind.1 h
    obtain ⟨-, h⟩ := require_bind.1 h
    obtain ⟨hid, -⟩ := require_bind.1 h
    have hsafe : Number.isSafeInteger (.integer id) = true := by
      rw [Number.inRange_iff] at hrange
      obtain ⟨n, hn, hlow, hhigh⟩ := hrange
      refine Number.inRange_iff.2 ⟨n, hn, ?_, hhigh⟩
      omega
    dsimp only
    rw [if_pos hrecord, beq_iff_eq.1 hid, Option.filter_some, if_pos hsafe]

theorem Responds.candidate (h : Responds parseJson protocol id text outcome) :
    responseIdCandidate parseJson (lineOf text) = some (.integer id) := by
  have hparsed := h.parsed
  cases protocol with
  | legacy => exact parseResponse_id hparsed
  | session => exact parseResponse_id hparsed
  | canonical =>
    rw [Protocol.parse, parseCanonicalV2Response_eq] at hparsed
    exact parseResponse_id hparsed

namespace SerialSession

variable {s : SerialSession} {chunks : List (List UInt8)} {staleId : Nat}

/-- The id of the stale responses is kept while some may come. -/
def Awaits (staleId : Nat) (s : SerialSession) : Prop :=
  s.staleInitialHelloResponseId =
    if s.staleInitialHelloResponsesRemaining = 0 then none else some staleId

theorem held_open (hnone : 10 ∉ s.pending) : s.held = s.pendingBytes := if_neg hnone

/-- More chunks arrive when nothing is left to read. -/
theorem Unread.append {left : List (List UInt8)} (h : Unread s left [])
    (hmore : chunks.flatten = encodeUtf8 text) (hhead : text.head? ≠ some bom) :
    Unread s (left ++ chunks) text := by
  obtain ⟨got, front, more, hpending, hafter, hbytes, htext, -⟩ := h
  obtain ⟨rfl, rfl⟩ := List.append_eq_nil_iff.1 htext
  refine ⟨[], front, text, hpending, hafter, ?_, rfl, .inr ⟨rfl, hhead⟩⟩
  obtain ⟨hfront, hleft⟩ := List.append_eq_nil_iff.1 hbytes
  rw [List.flatten_append, hleft, hfront, hmore]
  rfl

/-- The chunks at hand complete the line. -/
theorem readLine_complete {limit : Nat} {line : List Char}
    (h : Unread s chunks (line ++ '\n' :: text)) (hline : '\n' ∉ line) (hsmall : Small limit s)
    (hfits : Fits limit s.held chunks) :
    ∃ s' left, s.readLine limit (delivered chunks) = (.ok (lineOf line), s', delivered left) ∧
      Unread s' left text ∧ Small limit s' ∧ SameIds s s' ∧
      s'.pendingBytes = (textEncode s'.pending).length ∧ Fits limit s'.held left := by
  have hall : Unread s (chunks ++ []) (line ++ '\n' :: text) := by rwa [List.append_nil]
  have hfirst : 10 ∉ s.pending → FitsLine limit s.pendingBytes chunks := by
    intro hnone
    rw [← held_open hnone]
    exact hfits.line
  rcases readLine_spec hall hline hsmall hfirst with
    ⟨s', left, hread, hleft, hsm, hsame, hexact, hheld⟩ | ⟨s', -, hleft, -, -, -, hopen, -⟩
  · rw [List.append_nil] at hleft
    exact ⟨s', left, hread, hleft, hsm, hsame, hexact, hheld hfits⟩
  · rw [hleft.pending_eq rfl, mem_encodeUtf16] at hopen
    exact absurd (List.mem_append_right line List.mem_cons_self) hopen

/-- **The stale responses are skipped**, and the reader returns the line behind them. -/
theorem readResponseLoop_spec {late : List (List Char)} {own : List Char} {remaining : Nat}
    (hremaining : s.staleInitialHelloResponsesRemaining = remaining)
    (h : Unread s chunks (Lines.ended '\n' late ++ (own ++ ['\n'])))
    (hsmall : Small maxResponseBytes s) (hfits : Fits maxResponseBytes s.held chunks)
    (hawaits : Awaits staleId s) (hcount : late.length ≤ remaining)
    (hlate : ∀ t ∈ late, ∃ data, Responds parseJson .canonical staleId t (.data data))
    (hown : Responds parseJson protocol id own outcome) (hid : 0 < remaining → staleId ≠ id) :
    ∃ s' left, readResponseLoop parseJson remaining s (delivered chunks) =
        (.ok (lineOf own), s', delivered left) ∧
      Unread s' left [] ∧ s'.nextId = s.nextId ∧ s'.closed = s.closed ∧ Awaits staleId s' ∧
      s'.pendingBytes = (textEncode s'.pending).length ∧
      s'.staleInitialHelloResponsesRemaining + late.length = remaining := by
  induction late generalizing s chunks remaining with
  | nil =>
    obtain ⟨s', left, hread, hleft, -, hsame, hexact, -⟩ :=
      readLine_complete h hown.oneLine hsmall hfits
    have hawaits' : Awaits staleId s' := by
      unfold Awaits
      rw [hsame.staleId, hsame.remaining]
      exact hawaits
    refine ⟨s', left, ?_, hleft, hsame.nextId, hsame.closed, hawaits', hexact,
      hsame.remaining.trans hremaining⟩
    unfold readResponseLoop
    rw [hread]
    cases remaining with
    | zero => rfl
    | succ remaining =>
      have hstale : s'.staleInitialHelloResponseId = some staleId := by
        rw [hawaits', hsame.remaining, hremaining]
        rfl
      have hother : (!startsObject (lineOf own) ||
          responseIdCandidate parseJson (lineOf own) ≠ some (.integer staleId)) = true := by
        have hne : (id : Int) ≠ staleId := fun he =>
          hid (Nat.succ_pos _) (Int.ofNat.inj he).symm
        rw [hown.candidate]
        simp [hne]
      dsimp only
      rw [hstale]
      exact if_pos hother
  | cons t late ih =>
    obtain ⟨data, ht⟩ := hlate t List.mem_cons_self
    have hrest := fun t' ht' => hlate t' (List.mem_cons_of_mem t ht')
    have htext : Lines.ended '\n' (t :: late) ++ (own ++ ['\n']) =
        t ++ '\n' :: (Lines.ended '\n' late ++ (own ++ ['\n'])) := by
      simp [Lines.ended]
    rw [htext] at h
    obtain ⟨read, left, hread, hleft, hsm, hsame, -, hfits'⟩ :=
      readLine_complete h ht.oneLine hsmall hfits
    obtain ⟨rest, rfl⟩ : ∃ rest, remaining = rest + 1 := ⟨remaining - 1, by
      rw [List.length_cons] at hcount
      omega⟩
    have hstale : read.staleInitialHelloResponseId = some staleId := by
      rw [hsame.staleId, hawaits, hremaining]
      rfl
    let next : SerialSession :=
      { read with
        staleInitialHelloResponsesRemaining := rest
        staleInitialHelloResponseId := if rest = 0 then none else some staleId }
    have hskip : readResponseLoop parseJson (rest + 1) s (delivered chunks) =
        readResponseLoop parseJson rest next (delivered left) := by
      conv => lhs; unfold readResponseLoop
      rw [hread]
      dsimp only
      rw [hstale]
      have hmine : (!startsObject (lineOf t) ||
          responseIdCandidate parseJson (lineOf t) ≠ some (.integer staleId)) = false := by
        rw [ht.startsObject, ht.candidate]
        simp
      have hparsed : parseCanonicalV2Response parseJson (lineOf t) (.integer staleId) =
        .ok (.data data) := ht.parsed
      dsimp only
      rw [hmine, hparsed]
      rfl
    have hnext : Unread next left (Lines.ended '\n' late ++ (own ++ ['\n'])) := hleft
    obtain ⟨s', left', hloop, hend, hnextId, hclosed, hawaits', hexact, hleftover⟩ :=
      ih rfl hnext hsm hfits' rfl (by simpa using hcount) hrest fun _ => hid (Nat.succ_pos _)
    refine ⟨s', left', hskip.trans hloop, hend, hnextId.trans hsame.nextId,
      hclosed.trans hsame.closed, hawaits', hexact, ?_⟩
    rw [List.length_cons, ← Nat.add_assoc, hleftover]

/-! ## The initial hello -/

/-- A round in which chunks arrive. -/
def helloRound (round : Bool × List (List UInt8)) : HelloRound := ⟨round.1, delivered round.2⟩

theorem delivered_rounds (left : List (List UInt8)) (rounds : List (Bool × List (List UInt8))) :
    delivered left ++ (rounds.map helloRound).flatMap HelloRound.arrivals =
      delivered (left ++ rounds.flatMap (·.2)) := by
  simp [delivered, helloRound, List.flatMap_map, List.map_flatMap]

/-- **The initial hello settles from the first response to it**, however often it was written. -/
theorem helloLoop_spec {hello : List Char} {rounds : List (Bool × List (List UInt8))}
    {future : List (List UInt8)} {attempts lines bytes : Nat}
    (hhello : Responds parseJson .canonical id hello outcome)
    (h : Unread s (rounds.flatMap (·.2) ++ future) (hello ++ '\n' :: text))
    (hsmall : Small maxStartupNoiseBytes s) (hnone : 10 ∉ s.pending)
    (hfits : FitsLine maxStartupNoiseBytes s.pendingBytes (rounds.flatMap (·.2)))
    (hanswered : 10 ∈ (rounds.flatMap (·.2)).flatten)
    (hstale : s.staleInitialHelloResponseId = none ∧ s.staleInitialHelloResponsesRemaining = 0) :
    ∃ attempts' s' left, 0 < attempts' ∧
      helloLoop parseJson id attempts lines bytes s [] (rounds.map helloRound) =
        (settle .canonical (.ok outcome), attempts', s', delivered left) ∧
      Unread s' (left ++ future) text ∧ s'.nextId = s.nextId ∧ s'.closed = s.closed ∧
      s'.pendingBytes = (textEncode s'.pending).length ∧
      ∀ data, outcome = .data data →
        Awaits id s' ∧ s'.staleInitialHelloResponsesRemaining = attempts' - 1 := by
  induction rounds generalizing attempts s with
  | nil => cases hanswered
  | cons round rounds ih =>
    rw [List.flatMap_cons] at h hfits hanswered
    rw [List.append_assoc] at h
    rw [List.map_cons]
    unfold helloLoop
    dsimp only
    generalize hattempts : (if (attempts = 0 || (helloRound round).retryDue) = true then
      attempts + 1 else attempts) = attempts'
    have hpos : 0 < attempts' := by
      rw [← hattempts]
      split
      · omega
      · rename_i hno
        simp only [Bool.or_eq_true, decide_eq_true_eq, not_or] at hno
        omega
    rcases readLine_spec h hhello.oneLine hsmall fun _ => hfits.front with
      ⟨read, left, hread, hleft, -, hsame, hexact, -⟩ |
      ⟨read, hread, hleft, hsm, hsame, -, hopen, hround, hlines⟩
    · have hread' : s.readLine maxStartupNoiseBytes ([] ++ (helloRound round).arrivals) =
          (.ok (lineOf hello), read, delivered left) := hread
      have hsize : ¬(textEncode (lineOf hello)).length > maxResponseBytes := by
        have hle := lineOf_length hello
        have hmax := hhello.size
        omega
      have hparsed : parseCanonicalV2Response parseJson (lineOf hello) (.integer id) =
        .ok outcome := hhello.parsed
      rw [hread']
      dsimp only
      rw [hhello.startsObject, if_neg (by simp), if_neg hsize, hparsed, delivered_rounds]
      rw [← List.append_assoc] at hleft
      cases outcome with
      | rejected code =>
        exact ⟨attempts', read, _, hpos, rfl, hleft, hsame.nextId, hsame.closed, hexact,
          fun data hdata => by cases hdata⟩
      | data data =>
        refine ⟨attempts', _, _, hpos, rfl, ?_⟩
        by_cases hmany : attempts' > 1
        · rw [if_pos hmany]
          have hsome : attempts' - 1 ≠ 0 := by omega
          exact ⟨hleft, hsame.nextId, hsame.closed, hexact,
            fun _ _ => ⟨(if_neg hsome).symm, rfl⟩⟩
        · rw [if_neg hmany]
          have hzero : attempts' - 1 = 0 := by omega
          have hremaining := hsame.remaining.trans hstale.2
          refine ⟨hleft, hsame.nextId, hsame.closed, hexact, fun _ _ => ⟨?_, ?_⟩⟩
          · unfold Awaits
            rw [hsame.staleId, hstale.1, hremaining]
            rfl
          · rw [hremaining, hzero]
    · have hread' : s.readLine maxStartupNoiseBytes ([] ++ (helloRound round).arrivals) =
          (.error responseTimeout, read, []) := hread
      rw [hread']
      dsimp only
      rw [if_pos rfl]
      have hlater : 10 ∈ (rounds.flatMap (·.2)).flatten := by
        rw [List.flatten_append, List.mem_append] at hanswered
        exact hanswered.resolve_left hround
      obtain ⟨attempts'', s', left, hpos', hloop, hend, hnext, hclosed, hexact, hdata⟩ :=
        ih hleft hsm hopen (hlines _ hfits) hlater
          ⟨hsame.staleId.trans hstale.1, hsame.remaining.trans hstale.2⟩
      exact ⟨attempts'', s', left, hpos', hloop, hend, hnext.trans hsame.nextId,
        hclosed.trans hsame.closed, hexact, hdata⟩

/-! ## The exchanges -/

/-- An exchange, and what the port delivers in it: late answers to the initial hello, and the
answer to the exchange. -/
structure Call where
  protocol : Protocol
  late : List (List Char)
  own : List Char
  outcome : CanonicalOutcome
  chunks : List (List UInt8)

/-- The text on the wire. -/
def Call.wire (c : Call) : List Char := Lines.ended '\n' (c.late ++ [c.own])

variable (parseJson) in
/-- The exchange on a session that has some arrivals left to read. -/
def call (st : SerialSession × List Arrival) (c : Call) :
    Except ExchangeError JsonValue × SerialSession × List Arrival :=
  st.1.exchange parseJson c.protocol (.ok ()) (st.2 ++ delivered c.chunks)

def chunksOf (arrivals : List Arrival) : List (List UInt8) :=
  arrivals.filterMap fun
    | .chunk value => some value
    | .done => none

@[simp] theorem chunksOf_delivered : chunksOf (delivered chunks) = chunks := by
  simp [chunksOf, delivered, List.filterMap_map]

/-- What the late answers and the own answer of an exchange are. -/
structure Answers (parseJson : JsString → Option JsonValue) (s : SerialSession) (c : Call) :
    Prop where
  late : ∀ t ∈ c.late, ∃ outcome, Responds parseJson .canonical 1 t outcome
  own : Responds parseJson c.protocol s.nextId c.own c.outcome

/-- The condition on an exchange: no late answer is an error, the limit holds for what is buffered,
and the id is not the one of the answers that are still awaited. -/
structure Clean (parseJson : JsString → Option JsonValue) (st : SerialSession × List Arrival)
    (c : Call) : Prop where
  late : ∀ t ∈ c.late, ∃ data, Responds parseJson .canonical 1 t (.data data)
  room : st.1.pendingBytes ≤ maxResponseBytes
  fits : Fits maxResponseBytes st.1.held (chunksOf st.2 ++ c.chunks)
  id : st.1.staleInitialHelloResponseId ≠ some st.1.nextId

/-- The exchange settles from its own response, and nothing is left to read. -/
structure Settles (parseJson : JsString → Option JsonValue) (st : SerialSession × List Arrival)
    (c : Call) : Prop where
  result : (call parseJson st c).1 = settle c.protocol (.ok c.outcome)
  stays : (call parseJson st c).2.1.closed = false
  pending : (call parseJson st c).2.1.pending = []
  arrivals : (chunksOf (call parseJson st c).2.2).flatten = []

/-- The session is open, has the answers to an exchange to read, and counts the answers to the
initial hello that may come. -/
structure Ready (st : SerialSession × List Arrival) (c : Call) (remaining : Nat) : Prop where
  unread : Unread st.1 (chunksOf st.2 ++ c.chunks) c.wire
  chunks : st.2 = delivered (chunksOf st.2)
  stays : st.1.closed = false
  awaits : Awaits 1 st.1
  remaining : st.1.staleInitialHelloResponsesRemaining = remaining
  exact : st.1.pendingBytes = (textEncode st.1.pending).length

theorem Small.of_exact {limit : Nat} (hexact : s.pendingBytes = (textEncode s.pending).length)
    (hroom : s.pendingBytes ≤ limit) (h : Unread s chunks text) : Small limit s := by
  refine ⟨hroom, fun line rest hcut => ?_⟩
  obtain ⟨got, -, -, hpending, -⟩ := h
  rw [hexact, hpending, textEncode_encodeUtf16] at hroom
  rw [hpending, encodeUtf16, Lines.cut_flatMap keepsUtf16] at hcut
  obtain ⟨⟨before, behind⟩, hpair, heq⟩ := Option.map_eq_some_iff.1 hcut
  cases heq
  obtain ⟨-, rfl⟩ := Lines.cut_eq_some.1 hpair
  change (textEncode (encodeUtf16 behind)).length ≤ limit
  rw [textEncode_encodeUtf16]
  rw [encodeUtf8_append, encodeUtf8_cons] at hroom
  simp only [List.length_append] at hroom
  omega

/-- **An exchange settles from its own response.** -/
theorem call_settles {st : SerialSession × List Arrival} {c : Call} {remaining : Nat}
    (h : Ready st c remaining) (hcount : c.late.length ≤ remaining)
    (hanswers : Answers parseJson st.1 c) (hclean : Clean parseJson st c) :
    Settles parseJson st c ∧ ∀ next : Call, next.chunks.flatten = encodeUtf8 next.wire →
      next.wire.head? ≠ some bom →
      Ready (call parseJson st c).2 next (remaining - c.late.length) := by
  have htext : c.wire = Lines.ended '\n' c.late ++ (c.own ++ ['\n']) := Lines.ended_concat _ _ _
  have hunread := h.unread
  rw [htext] at hunread
  have hid : 0 < remaining → 1 ≠ st.1.nextId := by
    intro hpos he
    refine hclean.id ?_
    rw [h.awaits, h.remaining, if_neg (Nat.pos_iff_ne_zero.1 hpos), ← he]
  obtain ⟨s', left, hread, hend, hnext, hclosed, hawaits, hexact, hleftover⟩ :=
    readResponseLoop_spec (s := st.1.allocateRequestId) h.remaining hunread
      (.of_exact h.exact hclean.room h.unread) hclean.fits h.awaits hcount hclean.late
      hanswers.own hid
  have harrivals : st.2 ++ delivered c.chunks = delivered (chunksOf st.2 ++ c.chunks) := by
    conv => lhs; rw [h.chunks]
    simp [delivered]
  have hline : st.1.allocateRequestId.readResponseLine parseJson (st.2 ++ delivered c.chunks) =
      (.ok (lineOf c.own), s', delivered left) := by
    have hcount : st.1.allocateRequestId.staleInitialHelloResponsesRemaining = remaining :=
      h.remaining
    rw [readResponseLine, harrivals, hcount, hread]
  have hcall : call parseJson st c = (settle c.protocol (.ok c.outcome), s', delivered left) := by
    unfold call exchange
    rw [h.stays, if_neg (by simp)]
    dsimp only
    rw [hline]
    dsimp only
    rw [hanswers.own.parsed]
    cases c.outcome with
    | data data => rfl
    | rejected code =>
      have hown : isDeviceRejection c.protocol (.rejected c.protocol code) = true :=
        beq_self_eq_true _
      change (_, s'.failWith c.protocol (.rejected c.protocol code), _) = _
      rw [failWith, if_pos hown]
      rfl
  have hopen : s'.closed = false := hclosed.trans h.stays
  obtain ⟨hpending, hleft⟩ := hend.nil
  constructor
  · exact ⟨by rw [hcall], by rw [hcall]; exact hopen, by rw [hcall]; exact hpending, by
      rw [hcall]
      simpa using hleft⟩
  · intro next hwire hhead
    rw [hcall]
    refine ⟨?_, by simp, hopen, hawaits, ?_, hexact⟩
    · rw [chunksOf_delivered]
      exact hend.append hwire hhead
    · change s'.staleInitialHelloResponsesRemaining = _
      omega

theorem Answers.head {c : Call} (h : Answers parseJson s c) : c.wire.head? ≠ some bom := by
  have hfront : ∀ {p : Protocol} {i : Nat} {t : List Char} {o : CanonicalOutcome},
      Responds parseJson p i t o → ∀ more : List Char, (t ++ more).head? ≠ some bom := by
    intro p i t o ht more hhead
    rw [List.head?_append, ht.object] at hhead
    cases hhead
  unfold Call.wire Lines.ended
  cases hlate : c.late with
  | nil =>
    rw [List.nil_append, List.flatMap_cons, List.append_assoc]
    exact hfront h.own _
  | cons t late =>
    obtain ⟨outcome, ht⟩ := h.late t (by rw [hlate]; exact List.mem_cons_self)
    rw [List.cons_append, List.flatMap_cons, List.append_assoc]
    exact hfront ht _

/-! ## Whole sessions -/

/-- What `connect` makes of the answer to the initial hello. -/
def helloResult (outcome : CanonicalOutcome) : Except ExchangeError JsonValue :=
  match settle .canonical (.ok outcome) with
  | .error e => .error e
  | .ok data =>
    match parseCanonicalHelloData data with
    | .error e => .error (.thrown e)
    | .ok _ => .ok data

/-- How many late answers arrive in the first exchanges. -/
def lateBefore (calls : Nat → Call) : Nat → Nat
  | 0 => 0
  | n + 1 => lateBefore calls n + (calls n).late.length

variable (parseJson) in
/-- The session before exchange `n`. -/
def stateBefore (rounds : List (Bool × List (List UInt8))) (calls : Nat → Call) (n : Nat) :
    SerialSession × List Arrival :=
  Run.stateAt (fun st c => (call parseJson st c).2)
    (connect parseJson (rounds.map helloRound)).2.2 calls n

/-- What the port delivers until exchange `n` is answered: the answer to the initial hello while it
is awaited, further answers to its retries, and one answer to each exchange, in this order and in
any chunks. -/
structure Wire (parseJson : JsString → Option JsonValue) (rounds : List (Bool × List (List UInt8)))
    (hello : List Char) (outcome : CanonicalOutcome) (calls : Nat → Call) (n : Nat) : Prop where
  greets : Responds parseJson .canonical 1 hello outcome
  answered : 10 ∈ (rounds.flatMap (·.2)).flatten
  first : (rounds.flatMap (·.2)).flatten ++ (calls 0).chunks.flatten =
    encodeUtf8 (hello ++ '\n' :: (calls 0).wire)
  next : ∀ k, k < n → (calls (k + 1)).chunks.flatten = encodeUtf8 (calls (k + 1)).wire
  answers : ∀ k, k ≤ n → Answers parseJson (stateBefore parseJson rounds calls k).1 (calls k)
  count : lateBefore calls (n + 1) < (connect parseJson (rounds.map helloRound)).2.1

variable {hello : List Char} {rounds : List (Bool × List (List UInt8))} {calls : Nat → Call}
  {n : Nat}

theorem lateBefore_mono (calls : Nat → Call) {k : Nat} (h : k ≤ n) :
    lateBefore calls k ≤ lateBefore calls n := by
  induction h with
  | refl => exact Nat.le_refl _
  | step _ ih => exact Nat.le_trans ih (Nat.le_add_right _ _)

theorem connect_eq (rounds : List HelloRound) : connect parseJson rounds =
    match helloLoop parseJson 1 0 0 0 ({} : SerialSession).allocateRequestId [] rounds with
    | (.error e, attempts, s, arrivals) => (.error e, attempts, s.close, arrivals)
    | (.ok data, attempts, s, arrivals) =>
      match parseCanonicalHelloData data with
      | .error e => (.error (.thrown e), attempts, s.close, arrivals)
      | .ok _ => (.ok data, attempts, s, arrivals) := rfl

/-- The session that `connect` opens. -/
theorem connect_spec (h : Wire parseJson rounds hello outcome calls n)
    (hfits : FitsLine maxStartupNoiseBytes 0 (rounds.flatMap (·.2))) :
    (connect parseJson (rounds.map helloRound)).1 = helloResult outcome ∧
      ∀ data, helloResult outcome = .ok data → Ready (stateBefore parseJson rounds calls 0) (calls 0)
        ((connect parseJson (rounds.map helloRound)).2.1 - 1) := by
  have hbytes : (rounds.flatMap (·.2) ++ (calls 0).chunks).flatten =
      encodeUtf8 (hello ++ '\n' :: (calls 0).wire) := by
    rw [List.flatten_append]
    exact h.first
  have hhead : (hello ++ '\n' :: (calls 0).wire).head? ≠ some bom := by
    intro hmark
    rw [List.head?_append, h.greets.object] at hmark
    cases hmark
  let fresh : SerialSession := {}
  have hopened : Unread fresh.allocateRequestId [] [] :=
    ⟨[], [], [], rfl, after_nil rfl, rfl, rfl, .inr ⟨rfl, fun hmark => by cases hmark⟩⟩
  have hunread := hopened.append hbytes hhead
  rw [List.nil_append] at hunread
  obtain ⟨attempts, s', left, hpos, hloop, hleft, hnext, hclosed, hexact, hdata⟩ :=
    helloLoop_spec h.greets hunread
      (.of_exact rfl (Nat.zero_le _) hunread) List.not_mem_nil hfits h.answered ⟨rfl, rfl⟩
  have hconnect : connect parseJson (rounds.map helloRound) =
      match settle .canonical (.ok outcome) with
      | .error e => (.error e, attempts, s'.close, delivered left)
      | .ok data =>
        match parseCanonicalHelloData data with
        | .error e => (.error (.thrown e), attempts, s'.close, delivered left)
        | .ok _ => (.ok data, attempts, s', delivered left) := by
    rw [connect_eq, hloop]
    cases settle .canonical (.ok outcome) <;> rfl
  unfold stateBefore helloResult
  rw [Run.stateAt_zero, hconnect]
  cases outcome with
  | rejected code => exact ⟨rfl, fun data hok => by cases hok⟩
  | data data =>
    dsimp only [settle]
    cases hparse : parseCanonicalHelloData data with
    | error e => exact ⟨rfl, fun data hok => by cases hok⟩
    | ok value =>
      refine ⟨rfl, fun _ _ => ?_⟩
      obtain ⟨hawaits, hremaining⟩ := hdata data rfl
      refine ⟨?_, ?_, hclosed, hawaits, hremaining, hexact⟩
      · rw [chunksOf_delivered]
        exact hleft
      · rw [chunksOf_delivered]

theorem Wire.late_le (h : Wire parseJson rounds hello outcome calls n) {k : Nat} (hk : k ≤ n) :
    (calls k).late.length ≤
      (connect parseJson (rounds.map helloRound)).2.1 - 1 - lateBefore calls k := by
  have hsum := h.count
  have hmono : lateBefore calls (k + 1) ≤ lateBefore calls (n + 1) :=
    lateBefore_mono calls (by omega)
  have hstep : lateBefore calls (k + 1) = lateBefore calls k + (calls k).late.length := rfl
  omega

/-- The session before each exchange, while the exchanges before it are clean. -/
theorem ready_before (h : Wire parseJson rounds hello outcome calls n)
    (hfits : FitsLine maxStartupNoiseBytes 0 (rounds.flatMap (·.2))) {data : JsonValue}
    (hdata : helloResult outcome = .ok data) {k : Nat} (hk : k ≤ n)
    (hclean : ∀ j, j < k → Clean parseJson (stateBefore parseJson rounds calls j) (calls j)) :
    Ready (stateBefore parseJson rounds calls k) (calls k)
      ((connect parseJson (rounds.map helloRound)).2.1 - 1 - lateBefore calls k) := by
  induction k with
  | zero => exact (connect_spec h hfits).2 data hdata
  | succ k ih =>
    have hready := ih (by omega) fun j hj => hclean j (by omega)
    have hnext := (call_settles hready (h.late_le (by omega)) (h.answers k (by omega))
      (hclean k (Nat.lt_succ_self k))).2 (calls (k + 1)) (h.next k (by omega))
      (h.answers (k + 1) hk).head
    rw [Nat.sub_sub] at hnext
    exact hnext

/-- **Each exchange settles from its own response**, the initial hello and every exchange after it,
while the exchanges are clean; and it leaves nothing unread. -/
theorem responses_settle (parseJson : JsString → Option JsonValue)
    (rounds : List (Bool × List (List UInt8))) (hello : List Char) (outcome : CanonicalOutcome)
    (calls : Nat → Call) (n : Nat) (h : Wire parseJson rounds hello outcome calls n)
    (hfits : FitsLine maxStartupNoiseBytes 0 (rounds.flatMap (·.2))) :
    (connect parseJson (rounds.map helloRound)).1 = helloResult outcome ∧
      ∀ data, helloResult outcome = .ok data →
        (∀ k, k ≤ n → Clean parseJson (stateBefore parseJson rounds calls k) (calls k)) →
          ∀ k, k ≤ n → Settles parseJson (stateBefore parseJson rounds calls k) (calls k) := by
  refine ⟨(connect_spec h hfits).1, fun data hdata hclean k hk => ?_⟩
  have hready := ready_before h hfits hdata hk fun j hj => hclean j (by omega)
  exact (call_settles hready (h.late_le hk) (h.answers k hk) (hclean k hk)).1

/-! ## A retried hello -/

/-- The response of a Device without Vault and registration to the request 1. -/
def helloText : List Char :=
  ["\x7b\"v\":2,\"id\":1,\"ok\":true,", "\"data\":\x7b\"device\":\"m5sticks3\",",
    "\"device_id\":\"d\",", "\"firmware\":\"1\",", "\"protocol\":2,", "\"storage_schema\":2,",
    "\"vault_format\":2,", "\"build_commit\":\"c\",", "\"state\":\"unprovisioned\",",
    "\"storage_ready\":true,", "\"vault_present\":false,", "\"vault_id\":null,",
    "\"generation\":\"0\",", "\"registration_present\":false,", "\"registration_id\":null,",
    "\"brk_public_key\":null,", "\"registration_epoch\":0\x7d\x7d"].flatMap String.toList

/-- The response that rejects the request 1. -/
def rejectedText : List Char :=
  ["\x7b\"v\":2,\"id\":1,\"ok\":false,", "\"error\":\x7b\"code\":",
    "\"invalid_state\"\x7d\x7d"].flatMap String.toList

/-- The responses to the requests 2 and 3. -/
def secondText : List Char := "\x7b\"v\":2,\"id\":2,\"ok\":true,\"data\":\x7b\x7d\x7d".toList

def thirdText : List Char := "\x7b\"v\":2,\"id\":3,\"ok\":true,\"data\":\x7b\x7d\x7d".toList

def helloMembers : List (JsString × JsonValue) :=
  [ (literal "device", .string (literal "m5sticks3")), (literal "device_id", .string (literal "d")),
    (literal "firmware", .string (literal "1")), (literal "protocol", .number (.integer 2)),
    (literal "storage_schema", .number (.integer 2)),
    (literal "vault_format", .number (.integer 2)),
    (literal "build_commit", .string (literal "c")),
    (literal "state", .string (literal "unprovisioned")), (literal "storage_ready", .bool true),
    (literal "vault_present", .bool false), (literal "vault_id", .null),
    (literal "generation", .string (literal "0")), (literal "registration_present", .bool false),
    (literal "registration_id", .null), (literal "brk_public_key", .null),
    (literal "registration_epoch", .number (.integer 0))]

def helloData : JsonValue := .object helloMembers

/-- A response as `JSON.parse` reads it. -/
def responseValue (id : Int) (ok : Bool) (name : String) (value : JsonValue) : JsonValue :=
  .object [(literal "v", .number (.integer 2)), (literal "id", .number (.integer id)),
    (literal "ok", .bool ok), (literal name, value)]

/-- `JSON.parse` on these texts. -/
def sampleParse (raw : JsString) : Option JsonValue :=
  if raw = encodeUtf16 helloText then some (responseValue 1 true "data" helloData)
  else if raw = encodeUtf16 rejectedText then
    some (responseValue 1 false "error"
      (.object [(literal "code", .string (literal "invalid_state"))]))
  else if raw = encodeUtf16 secondText then some (responseValue 2 true "data" (.object []))
  else if raw = encodeUtf16 thirdText then some (responseValue 3 true "data" (.object []))
  else none

/-- The hello is retried once before its first answer comes. -/
def retriedRounds : List (Bool × List (List UInt8)) :=
  [(true, []), (true, [encodeUtf8 (helloText ++ ['\n'])])]

/-- The exchanges 2 and 3, with `late` answered to the retry of the hello. -/
def sampleCalls (late : List Char) (n : Nat) : Call :=
  if n = 0 then
    { protocol := .canonical, late := [late], own := secondText, outcome := .data (.object [])
      chunks := [encodeUtf8 (late ++ '\n' :: secondText ++ ['\n'])] }
  else
    { protocol := .canonical, late := [], own := thirdText, outcome := .data (.object [])
      chunks := [encodeUtf8 (thirdText ++ ['\n'])] }

theorem parse_eq {raw : JsString} {value : JsonValue} (hparse : parseJson raw = some value)
    (expectedId : Number) :
    parseCanonicalV2Response parseJson raw expectedId =
      parseCanonicalV2Response (fun _ => some value) [] expectedId := by
  unfold parseCanonicalV2Response
  rw [hparse]

/-- What the text of a response keeps to, and what its line is. -/
abbrev Plain (text : List Char) : Prop :=
  '\n' ∉ text ∧ text.head? = some '\x7b' ∧ (encodeUtf8 text).length ≤ maxResponseBytes ∧
    lineOf text = encodeUtf16 text

theorem responds_plain {raw : List Char} {value : JsonValue} (hplain : Plain raw)
    (hparse : parseJson (encodeUtf16 raw) = some value)
    (h : parseCanonicalV2Response (fun _ => some value) [] (.integer id) = .ok outcome) :
    Responds parseJson .canonical id raw outcome := by
  obtain ⟨hline, hobject, hsize, hraw⟩ := hplain
  refine ⟨hline, hobject, hsize, ?_⟩
  rw [hraw]
  exact (parse_eq hparse _).trans h

theorem parse_one (members : List (JsString × JsonValue)) :
    parseCanonicalV2Response (fun _ => some (responseValue 1 true "data" (.object members))) []
      (.integer 1) = .ok (.data (.object members)) := rfl

/-- The session that the retried hello opens. -/
def retriedSession : SerialSession :=
  { decoder := { state := { codePoint := 10 }, bomSeen := true }, nextId := 2, staleInitialHelloResponseId := some 1
    staleInitialHelloResponsesRemaining := 1 }

/-- The session after the first exchange, which has skipped the answer to the retry. -/
def skippedSession : SerialSession :=
  { decoder := { state := { codePoint := 10 }, bomSeen := true }, nextId := 3 }

theorem toList_flatMap (chars : List Char) (more : List String) :
    (String.ofList chars :: more).flatMap String.toList = chars ++ more.flatMap String.toList := by
  rw [List.flatMap_cons, String.toList_ofList]

/-- What these texts evaluate to, in one evaluation and with their characters written out: the kernel
is slow to decode a literal. -/
theorem texts_evaluated :
    (Plain helloText ∧ Plain rejectedText ∧ Plain secondText ∧ Plain thirdText) ∧
      ([helloText, rejectedText, secondText, thirdText].Pairwise
        fun text other => encodeUtf16 other ≠ encodeUtf16 text) ∧
      (connect sampleParse (retriedRounds.map helloRound)).2 = (2, retriedSession, []) ∧
      (call sampleParse (retriedSession, []) (sampleCalls helloText 0)).2 =
        (skippedSession, []) ∧
      retriedSession.held + (encodeUtf8 (helloText ++ '\n' :: secondText ++ ['\n'])).length ≤
        maxResponseBytes ∧
      skippedSession.held + (encodeUtf8 (thirdText ++ ['\n'])).length ≤ maxResponseBytes := by
  unfold sampleParse retriedRounds helloText rejectedText secondText thirdText
  repeat rewrite [toList_flatMap]
  repeat rewrite [String.toList_ofList]
  decide +kernel

theorem texts_plain :
    Plain helloText ∧ Plain rejectedText ∧ Plain secondText ∧ Plain thirdText :=
  texts_evaluated.1

theorem texts_differ : [helloText, rejectedText, secondText, thirdText].Pairwise
    fun text other => encodeUtf16 other ≠ encodeUtf16 text :=
  texts_evaluated.2.1

theorem responds_hello : Responds sampleParse .canonical 1 helloText (.data helloData) :=
  responds_plain texts_plain.1 (if_pos rfl) (parse_one helloMembers)

theorem responds_rejected :
    Responds sampleParse .canonical 1 rejectedText (.rejected (literal "invalid_state")) := by
  have hhello : encodeUtf16 rejectedText ≠ encodeUtf16 helloText :=
    (List.pairwise_cons.1 texts_differ).1 _ (by simp)
  exact responds_plain texts_plain.2.1 ((if_neg hhello).trans (if_pos rfl)) rfl

theorem responds_second : Responds sampleParse .canonical 2 secondText (.data (.object [])) := by
  obtain ⟨hhello, hrest⟩ := List.pairwise_cons.1 texts_differ
  obtain ⟨hrejected, -⟩ := List.pairwise_cons.1 hrest
  have hparse : sampleParse (encodeUtf16 secondText) =
      some (responseValue 2 true "data" (.object [])) := by
    rw [sampleParse, if_neg (hhello _ (by simp)), if_neg (hrejected _ (by simp)), if_pos rfl]
  exact responds_plain texts_plain.2.2.1 hparse rfl

theorem responds_third : Responds sampleParse .canonical 3 thirdText (.data (.object [])) := by
  obtain ⟨hhello, hrest⟩ := List.pairwise_cons.1 texts_differ
  obtain ⟨hrejected, hrest⟩ := List.pairwise_cons.1 hrest
  obtain ⟨hsecond, -⟩ := List.pairwise_cons.1 hrest
  have hparse : sampleParse (encodeUtf16 thirdText) =
      some (responseValue 3 true "data" (.object [])) := by
    rw [sampleParse, if_neg (hhello _ (by simp)), if_neg (hrejected _ (by simp)),
      if_neg (hsecond _ (by simp)), if_pos rfl]
  exact responds_plain texts_plain.2.2.2 hparse rfl

theorem connect_retried :
    (connect sampleParse (retriedRounds.map helloRound)).2 = (2, retriedSession, []) :=
  texts_evaluated.2.2.1

theorem stateBefore_retried (calls : Nat → Call) :
    stateBefore sampleParse retriedRounds calls 0 = (retriedSession, []) := by
  rw [stateBefore, Run.stateAt_zero, connect_retried]

theorem stateBefore_next (calls : Nat → Call) :
    stateBefore sampleParse retriedRounds calls 1 =
      (call sampleParse (retriedSession, []) (calls 0)).2 := by
  rw [← stateBefore_retried calls]
  unfold stateBefore
  rw [Run.stateAt_succ]

/-- The wire of these exchanges. -/
theorem sampleWire {late : List Char} {lateOutcome : CanonicalOutcome}
    (hlate : Responds sampleParse .canonical 1 late lateOutcome)
    (hid : (call sampleParse (retriedSession, []) (sampleCalls late 0)).2.1.nextId = 3) :
    Wire sampleParse retriedRounds helloText (.data helloData) (sampleCalls late) 1 where
  greets := responds_hello
  answered := by
    change 10 ∈ [encodeUtf8 (helloText ++ ['\n'])].flatten
    rw [List.flatten_singleton, encodeUtf8_append]
    exact List.mem_append_right _ (by decide)
  first := by
    change [encodeUtf8 (helloText ++ ['\n'])].flatten ++
      [encodeUtf8 (late ++ '\n' :: secondText ++ ['\n'])].flatten = _
    rw [List.flatten_singleton, List.flatten_singleton, ← encodeUtf8_append]
    simp [Call.wire, Lines.ended, sampleCalls]
  next := by
    intro k hk
    obtain rfl : k = 0 := by omega
    rfl
  answers := by
    intro k hk
    rcases k with _ | k
    · rw [stateBefore_retried]
      constructor
      · intro t ht
        rw [List.mem_singleton.1 ht]
        exact ⟨lateOutcome, hlate⟩
      · exact responds_second
    · obtain rfl : k = 0 := by omega
      rw [stateBefore_next]
      constructor
      · intro t ht
        cases ht
      · rw [hid]
        exact responds_third
  count := by
    rw [connect_retried]
    exact Nat.lt_succ_self 1

theorem fits_retried : FitsLine maxStartupNoiseBytes 0 (retriedRounds.flatMap (·.2)) := by
  have hsize := responds_hello.size
  change 0 + (encodeUtf8 (helloText ++ ['\n'])).length ≤ 8192 ∧ _
  rw [encodeUtf8_append, List.length_append]
  constructor
  · have hone : (encodeUtf8 ['\n']).length = 1 := rfl
    unfold maxResponseBytes at hsize
    omega
  · exact fun hnone => absurd (List.mem_append_right _ (by decide)) hnone

/-- What an exchange throws. -/
def failure {ε α : Type} : Except ε α → Option ε
  | .error e => some e
  | .ok _ => none

/-- The hello is retried, and the Device rejects the second request. The next exchange fails with
this rejection, the session stays open, and the response to that exchange is left for the one after
it, which finds the wrong id. -/
theorem late_rejection_fails_exchange :
    Wire sampleParse retriedRounds helloText (.data helloData) (sampleCalls rejectedText) 1 ∧
      FitsLine maxStartupNoiseBytes 0 (retriedRounds.flatMap (·.2)) ∧
      helloResult (.data helloData) = .ok helloData ∧
      failure (call sampleParse (stateBefore sampleParse retriedRounds (sampleCalls rejectedText) 0)
        (sampleCalls rejectedText 0)).1 = some (.rejected .canonical (literal "invalid_state")) ∧
      (stateBefore sampleParse retriedRounds (sampleCalls rejectedText) 1).1.closed = false ∧
      ¬Settles sampleParse (stateBefore sampleParse retriedRounds (sampleCalls rejectedText) 0)
        (sampleCalls rejectedText 0) ∧
      failure (call sampleParse (stateBefore sampleParse retriedRounds (sampleCalls rejectedText) 1)
        (sampleCalls rejectedText 1)).1 = some (.thrown (.error "Response id mismatch")) := by
  rw [stateBefore_retried, stateBefore_next]
  let first := call sampleParse (retriedSession, []) (sampleCalls rejectedText 0)
  have hrun : first.2.1.nextId = 3 ∧
      failure first.1 = some (.rejected .canonical (literal "invalid_state")) ∧
      first.2.1.closed = false ∧
      failure (call sampleParse first.2 (sampleCalls rejectedText 1)).1 =
        some (.thrown (.error "Response id mismatch")) := by
    decide +kernel
  refine ⟨sampleWire responds_rejected hrun.1, fits_retried, rfl, hrun.2.1, hrun.2.2.1, ?_, hrun.2.2.2⟩
  intro hsettles
  have hfailure := hrun.2.1
  rw [hsettles.result] at hfailure
  cases hfailure

theorem call_retried :
    (call sampleParse (retriedSession, []) (sampleCalls helloText 0)).2 = (skippedSession, []) :=
  texts_evaluated.2.2.2.1

theorem clean_first : Clean sampleParse (retriedSession, []) (sampleCalls helloText 0) where
  late := fun t ht => ⟨helloData, by
    rw [List.mem_singleton.1 ht]
    exact responds_hello⟩
  room := Nat.zero_le _
  fits := by
    change Fits maxResponseBytes retriedSession.held
      [encodeUtf8 (helloText ++ '\n' :: secondText ++ ['\n'])]
    rw [Fits]
    exact ⟨texts_evaluated.2.2.2.2.1, trivial⟩
  id := by decide

theorem clean_second : Clean sampleParse (skippedSession, []) (sampleCalls helloText 1) where
  late := fun t ht => by cases ht
  room := Nat.zero_le _
  fits := by
    change Fits maxResponseBytes skippedSession.held [encodeUtf8 (thirdText ++ ['\n'])]
    rw [Fits]
    exact ⟨texts_evaluated.2.2.2.2.2, trivial⟩
  id := by decide

/-- The same retry, answered with a second success. -/
theorem responses_settle_retried :
    Settles sampleParse (stateBefore sampleParse retriedRounds (sampleCalls helloText) 0)
        (sampleCalls helloText 0) ∧
      Settles sampleParse (stateBefore sampleParse retriedRounds (sampleCalls helloText) 1)
        (sampleCalls helloText 1) := by
  have hwire : Wire sampleParse retriedRounds helloText (.data helloData) (sampleCalls helloText)
      1 := by
    refine sampleWire responds_hello ?_
    rw [call_retried]
    rfl
  have hsettles := (responses_settle sampleParse retriedRounds helloText (.data helloData)
    (sampleCalls helloText) 1 hwire fits_retried).2 helloData rfl (by
      intro k hk
      rcases k with _ | k
      · rw [stateBefore_retried]
        exact clean_first
      · obtain rfl : k = 0 := by omega
        rw [stateBefore_next, call_retried]
        exact clean_second)
  exact ⟨hsettles 0 (Nat.zero_le _), hsettles 1 (Nat.le_refl _)⟩

end SerialSession

end M5Auth.Web
