import M5Auth.Lib.Lines
import M5Auth.Lib.Unicode

/-!
# UTF-8 in chunks

`feed` is the decoder of a stream that arrives in chunks: it never fails but gives U+FFFD for an
error, and between two chunks it keeps an unfinished character. `feed_cut` says what it makes of a
chunk of an encoded text, wherever that is cut.
-/

namespace Unicode

def replacement : Char := Char.ofNat 0xfffd

/-- The first byte of a character, with what is decoded at once. -/
def Pending.first (byte : UInt8) : List Char × Pending :=
  match lead byte with
  | some p => (p.emit [], p)
  | none => ([replacement], {})

/-- The decoder's handler for one byte. A byte that does not continue a character is read again as
the first of the next one. -/
def Pending.step (p : Pending) (byte : UInt8) : List Char × Pending :=
  if p.needed = 0 then first byte
  else
    match p.continue byte with
    | some q => (q.emit [], q)
    | none => (replacement :: (first byte).1, (first byte).2)

/-- The text of a chunk, and the state after it. -/
def feed (p : Pending) : List UInt8 → List Char × Pending
  | [] => ([], p)
  | byte :: bytes =>
    match p.step byte with
    | (text, q) =>
      match feed q bytes with
      | (more, r) => (text ++ more, r)

theorem feed_append (p : Pending) (a b : List UInt8) :
    feed p (a ++ b) = ((feed p a).1 ++ (feed (feed p a).2 b).1, (feed (feed p a).2 b).2) := by
  induction a generalizing p with
  | nil => simp [feed]
  | cons x a ih => simp [feed, ih, List.append_assoc]

/-! ## Characters -/

/-- The bytes are the first ones of a character, but not all of them. -/
def Unfinished (bytes : List UInt8) : Prop :=
  ∃ c rest, rest ≠ [] ∧ String.utf8EncodeChar c = bytes ++ rest

theorem unfinished_nil : Unfinished [] := by
  refine ⟨'a', String.utf8EncodeChar 'a', ?_, rfl⟩
  exact List.ne_nil_of_length_pos (spells_encode 'a').length_pos

theorem step_first {p : Pending} (hp : p.needed = 0) (byte : UInt8) :
    p.step byte = Pending.first byte := if_pos hp

theorem step_more {p : Pending} {n : Nat} (hp : p.needed = n + 1) {byte : UInt8}
    (hb : Between p.lower p.upper byte) :
    p.step byte = ((p.push byte n).emit [], p.push byte n) := by
  have hn : p.needed ≠ 0 := by omega
  have hnext : p.needed - 1 = n := by omega
  have hb' : p.lower ≤ byte ∧ byte ≤ p.upper := hb
  simp [Pending.step, Pending.continue, Pending.push, hn, hb', hnext]

theorem step_lead {p q : Pending} (hp : p.needed = 0) {byte : UInt8}
    (h : Pending.lead byte = some q) : p.step byte = (q.emit [], q) := by
  rw [step_first hp, Pending.first, h]

/-- The states between the bytes of a character. -/
inductive Reads : Pending → List UInt8 → Pending → Prop where
  | last {p q : Pending} {byte : UInt8} :
    p.step byte = (q.emit [], q) → q.needed = 0 → Reads p [byte] q
  | more {p q r : Pending} {byte : UInt8} {bytes : List UInt8} :
    p.step byte = (q.emit [], q) → q.needed ≠ 0 → Reads q bytes r → Reads p (byte :: bytes) r

theorem Spells.reads {bytes : List UInt8} {v : Nat} (h : Spells bytes v) {p : Pending}
    (hp : p.needed = 0) : Reads p bytes { codePoint := v } := by
  cases h with
  | one ha => exact .last (step_lead hp (lead_one ha)) rfl
  | two ha hb => exact .more (step_lead hp (lead_two ha)) nofun (.last (step_more rfl hb) rfl)
  | three ha hb hc =>
    exact .more (step_lead hp (lead_three ha)) nofun
      (.more (step_more rfl hb) nofun (.last (step_more rfl hc) rfl))
  | four ha hb hc hd =>
    exact .more (step_lead hp (lead_four ha)) nofun
      (.more (step_more rfl hb) nofun
        (.more (step_more rfl hc) nofun (.last (step_more rfl hd) rfl)))

theorem feed_more {p q : Pending} {byte : UInt8} (h : p.step byte = (q.emit [], q))
    (hq : q.needed ≠ 0) (bytes : List UInt8) : feed p (byte :: bytes) = feed q bytes := by
  rw [feed, h, Pending.emit, if_neg hq]
  rfl

/-- **A character comes out with its last byte.** -/
theorem Reads.feed {p r : Pending} {bytes : List UInt8} (h : Reads p bytes r) :
    Unicode.feed p bytes = ([Char.ofNat r.codePoint], r) ∧ r.needed = 0 := by
  induction h with
  | last hstep hq =>
    refine ⟨?_, hq⟩
    rw [Unicode.feed, hstep, Pending.emit, if_pos hq]
    rfl
  | more hstep hq _ ih => rwa [feed_more hstep hq]

theorem Reads.feed_front {p r : Pending} {bytes : List UInt8} (h : Reads p bytes r) :
    ∀ {front rest : List UInt8}, bytes = front ++ rest → rest ≠ [] →
      (Unicode.feed p front).1 = [] := by
  induction h with
  | last hstep hq =>
    intro front rest hsplit hrest
    rcases front with _ | ⟨x, front⟩
    · rfl
    · have hnil := (List.cons.inj hsplit).2
      exact absurd (List.append_eq_nil_iff.1 hnil.symm).2 hrest
  | more hstep hq _ ih =>
    intro front rest hsplit hrest
    rcases front with _ | ⟨x, front⟩
    · rfl
    · obtain ⟨rfl, htail⟩ := List.cons.inj hsplit
      rw [feed_more hstep hq]
      exact ih htail hrest

/-! ## Texts -/

variable {p : Pending} {text : List Char} {bytes rest front : List UInt8}

theorem feed_encodeUtf8 (hp : p.needed = 0) (text : List Char) :
    (feed p (encodeUtf8 text)).1 = text ∧ (feed p (encodeUtf8 text)).2.needed = 0 := by
  induction text generalizing p with
  | nil => exact ⟨rfl, hp⟩
  | cons c text ih =>
    obtain ⟨hfeed, hzero⟩ := ((spells_encode c).reads hp).feed
    obtain ⟨htext, hend⟩ := ih hzero
    rw [encodeUtf8_cons, feed_append, hfeed, htext, Char.ofNat_toNat]
    exact ⟨rfl, hend⟩

theorem feed_unfinished (hp : p.needed = 0) (h : Unfinished front) : (feed p front).1 = [] := by
  obtain ⟨c, rest, hrest, hsplit⟩ := h
  exact ((spells_encode c).reads hp).feed_front hsplit hrest

/-- An unfinished character is not a text. -/
theorem Unfinished.text_eq_nil (h : Unfinished front) (heq : front = encodeUtf8 text) :
    text = [] := by
  have hnone := feed_unfinished (p := {}) rfl h
  rw [heq, (feed_encodeUtf8 rfl text).1] at hnone
  exact hnone

/-- **A cut through an encoding** goes between two characters, or through one. -/
theorem cut_encodeUtf8 (h : bytes ++ rest = encodeUtf8 text) :
    ∃ done more front, text = done ++ more ∧ bytes = encodeUtf8 done ++ front ∧
      front ++ rest = encodeUtf8 more ∧ Unfinished front := by
  induction text generalizing bytes with
  | nil =>
    obtain ⟨rfl, rfl⟩ := List.append_eq_nil_iff.1 h
    exact ⟨[], [], [], rfl, rfl, rfl, unfinished_nil⟩
  | cons c text ih =>
    rw [encodeUtf8_cons] at h
    rcases List.append_eq_append_iff.1 h with ⟨behind, hchar, hrest⟩ | ⟨behind, hbytes, htail⟩
    · by_cases hbehind : behind = []
      · subst hbehind
        rw [List.append_nil] at hchar
        refine ⟨[c], text, [], rfl, by simp [hchar], ?_, unfinished_nil⟩
        simpa using hrest
      · refine ⟨[], c :: text, bytes, rfl, rfl, ?_, c, behind, hbehind, hchar⟩
        rw [encodeUtf8_cons]
        exact h
    · obtain ⟨done, more, front, htext, hdone, hmore, hfront⟩ := ih htail.symm
      refine ⟨c :: done, more, front, by rw [htext]; rfl, ?_, hmore, hfront⟩
      rw [hbytes, hdone, encodeUtf8_cons, List.append_assoc]

/-- The state of the decoder after the first bytes of a character. -/
def After (front : List UInt8) (q : Pending) : Prop :=
  Unfinished front ∧ ∃ p : Pending, p.needed = 0 ∧ q = (feed p front).2

theorem after_nil {q : Pending} (hq : q.needed = 0) : After [] q := ⟨unfinished_nil, q, hq, rfl⟩

/-- **A chunk of an encoding**: the characters that it completes come out, and the decoder keeps the
first bytes of the next. -/
theorem feed_cut {done : List Char} {front' : List UInt8} {q : Pending} (h : After front q)
    (heq : front ++ bytes = encodeUtf8 done ++ front') (hfront' : Unfinished front') :
    (feed q bytes).1 = done ∧ After front' (feed q bytes).2 := by
  obtain ⟨hfront, p, hp, rfl⟩ := h
  obtain ⟨hdone, hzero⟩ := feed_encodeUtf8 hp done
  have hleft := feed_append p front bytes
  have hright := feed_append p (encodeUtf8 done) front'
  rw [heq, hright, hdone, feed_unfinished hzero hfront', feed_unfinished hp hfront,
    List.append_nil, List.nil_append] at hleft
  obtain ⟨htext, hstate⟩ := Prod.mk.inj hleft
  exact ⟨htext.symm, hfront', _, hzero, hstate.symm⟩

/-! ## Separators -/

theorem Between.high {lower upper byte : UInt8} (h : Between lower upper byte)
    (hlower : 0x80 ≤ lower) : 0x80 ≤ byte := UInt8.le_trans hlower h.1

/-- A byte below 0x80 stands for itself, and for nothing else. -/
theorem Spells.ascii {v : Nat} (h : Spells bytes v) :
    (∃ byte, bytes = [byte] ∧ v = byte.toNat) ∨ ∀ byte ∈ bytes, 0x80 ≤ byte := by
  have hsecond : ∀ {a lower : UInt8} {lead : UInt8}, 0x80 ≤ lower →
      (0x80 : UInt8) ≤ if a = lead then lower else 0x80 := by
    intro a lower lead hlower
    split
    · exact hlower
    · exact UInt8.le_refl _
  cases h with
  | one ha => exact .inl ⟨_, rfl, rfl⟩
  | two ha hb =>
    right
    simp only [List.forall_mem_cons]
    exact ⟨ha.high (by decide), hb.high (by decide), nofun⟩
  | three ha hb hc =>
    right
    simp only [List.forall_mem_cons]
    exact ⟨ha.high (by decide), hb.high (hsecond (by decide)), hc.high (by decide), nofun⟩
  | four ha hb hc hd =>
    right
    simp only [List.forall_mem_cons]
    exact ⟨ha.high (by decide), hb.high (hsecond (by decide)), hc.high (by decide),
      hd.high (by decide), nofun⟩

/-- The two encodings of an ASCII separator. -/
theorem keeps_utf8 {sep : Char} {mark : UInt8} (hsep : String.utf8EncodeChar sep = [mark])
    (hmark : mark < 0x80) : Lines.Keeps sep mark String.utf8EncodeChar where
  ends := hsep
  other := by
    intro c hc hmem
    rcases (spells_encode c).ascii with ⟨byte, hbytes, hcode⟩ | hhigh
    · rw [hbytes, List.mem_singleton] at hmem
      have hsame : encodeUtf8 [c] = encodeUtf8 [sep] := by
        simp [hsep, hbytes, hmem]
      exact hc (List.cons.inj (encodeUtf8_injective hsame)).1
    · exact absurd hmark (UInt8.not_lt.2 (hhigh mark hmem))

theorem Unfinished.not_mem {mark : UInt8} (h : Unfinished front) (hmark : mark < 0x80) :
    mark ∉ front := by
  obtain ⟨c, rest, hrest, hsplit⟩ := h
  intro hmem
  rcases (spells_encode c).ascii with ⟨byte, hbytes, -⟩ | hhigh
  · rw [hbytes] at hsplit
    rcases front with _ | ⟨x, front⟩
    · cases hmem
    · have hnil := (List.cons.inj hsplit).2
      exact hrest (List.append_eq_nil_iff.1 hnil.symm).2
  · refine absurd hmark (UInt8.not_lt.2 (hhigh mark ?_))
    rw [hsplit]
    exact List.mem_append_left _ hmem

theorem keeps_utf16 {sep : Char} {mark : UInt16} (hsep : unitsOf sep = [mark]) :
    Lines.Keeps sep mark unitsOf where
  ends := hsep
  other := by
    intro c hc hmem
    rcases unitsOf_cases sep with ⟨unit, hunit, hl, ht, hcode⟩ | ⟨lead, trail, hpair, -⟩
    · obtain rfl : unit = mark := (List.cons.inj (hunit.symm.trans hsep)).1
      rcases unitsOf_cases c with ⟨other, hother, -, -, hc'⟩ | ⟨lead, trail, hpair, hl', ht', -⟩
      · rw [hother, List.mem_singleton] at hmem
        exact hc (by rw [← hc', ← hmem, hcode])
      · rw [hpair] at hmem
        simp only [List.mem_cons, List.not_mem_nil, or_false] at hmem
        rcases hmem with rfl | rfl
        · rw [hl] at hl'
          cases hl'
        · rw [ht] at ht'
          cases ht'
    · rw [hsep] at hpair
      cases hpair

end Unicode
