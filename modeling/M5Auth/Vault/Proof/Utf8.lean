import M5Auth.Lib.Unicode
import M5Auth.Vault.Format

/-!
# The firmware's UTF-8 check

`is_valid_utf8` accepts the encodings of texts, and nothing else (`isValidUtf8_iff`).
-/

namespace M5Auth.Vault

open Unicode

theorem isContinuation_iff {byte : UInt8} : isContinuation byte = true ↔ Between 0x80 0xbf byte := by
  have hall : ∀ n < 256, (n &&& 0xc0 = 0x80 ↔ 0x80 ≤ n ∧ n ≤ 0xbf) := by decide +kernel
  rw [between_iff, isContinuation, decide_eq_true_eq, ← UInt8.toNat_inj, UInt8.toNat_and]
  exact hall byte.toNat byte.toNat_lt

/-- The second byte of a three-byte character. -/
theorem second_three_iff {first second : UInt8} :
    (if first = 0xe0 then 0xa0 ≤ second && second ≤ 0xbf
      else if first = 0xed then 0x80 ≤ second && second ≤ 0x9f
      else isContinuation second) = true ↔
    Between (if first = 0xe0 then 0xa0 else 0x80) (if first = 0xed then 0x9f else 0xbf) second := by
  by_cases h1 : first = 0xe0
  · subst h1
    simp [Between]
  · by_cases h2 : first = 0xed
    · subst h2
      simp [Between]
    · simp [h1, h2, isContinuation_iff]

/-- The second byte of a four-byte character. -/
theorem second_four_iff {first second : UInt8} :
    (if first = 0xf0 then 0x90 ≤ second && second ≤ 0xbf
      else if first = 0xf4 then 0x80 ≤ second && second ≤ 0x8f
      else isContinuation second) = true ↔
    Between (if first = 0xf0 then 0x90 else 0x80) (if first = 0xf4 then 0x8f else 0xbf) second := by
  by_cases h1 : first = 0xf0
  · subst h1
    simp [Between]
  · by_cases h2 : first = 0xf4
    · subst h2
      simp [Between]
    · simp [h1, h2, isContinuation_iff]

/-- The check passes a character. -/
theorem isValidUtf8_spells {char : List UInt8} {v : Nat} (h : Spells char v) (rest : List UInt8) :
    isValidUtf8 (char ++ rest) = isValidUtf8 rest := by
  cases h with
  | one ha =>
    conv_lhs => unfold isValidUtf8
    exact if_pos ha
  | two ha hb =>
    conv_lhs => unfold isValidUtf8
    simp only [List.cons_append, List.nil_append]
    rw [if_neg (ha.not_le (by decide)), if_pos (And.intro ha.1 ha.2)]
    simp [isContinuation_iff.2 hb]
  | three ha hb hc =>
    have hsecond := second_three_iff.2 hb
    conv_lhs => unfold isValidUtf8
    simp only [List.cons_append, List.nil_append]
    rw [if_neg (ha.not_le (by decide)),
      if_neg fun hle => ha.not_le (by decide) hle.2, if_pos (And.intro ha.1 ha.2)]
    rw [hsecond, isContinuation_iff.2 hc, Bool.true_and, Bool.true_and]
  | four ha hb hc hd =>
    have hsecond := second_four_iff.2 hb
    conv_lhs => unfold isValidUtf8
    simp only [List.cons_append, List.nil_append]
    rw [if_neg (ha.not_le (by decide)),
      if_neg fun hle => ha.not_le (by decide) hle.2,
      if_neg fun hle => ha.not_le (by decide) hle.2, if_pos (And.intro ha.1 ha.2)]
    rw [hsecond, isContinuation_iff.2 hc, isContinuation_iff.2 hd, Bool.true_and, Bool.true_and,
      Bool.true_and]

/-- What passes the check begins with a character. -/
theorem isValidUtf8_cases {bytes : List UInt8} (h : isValidUtf8 bytes = true) :
    bytes = [] ∨ ∃ char v rest, bytes = char ++ rest ∧ Spells char v ∧ isValidUtf8 rest = true := by
  cases bytes with
  | nil => exact .inl rfl
  | cons first rest =>
    right
    unfold isValidUtf8 at h
    split at h
    · rename_i h1
      exact ⟨[first], _, rest, rfl, .one h1, h⟩
    · split at h
      · rename_i h2
        split at h
        · rename_i second rest
          simp only [Bool.and_eq_true, isContinuation_iff] at h
          exact ⟨[first, second], _, rest, rfl, .two h2 h.1, h.2⟩
        · cases h
      · split at h
        · rename_i h3
          split at h
          · rename_i second third rest
            rw [Bool.and_eq_true, Bool.and_eq_true, second_three_iff, isContinuation_iff] at h
            exact ⟨[first, second, third], _, rest, rfl, .three h3 h.1.2 h.1.1, h.2⟩
          · cases h
        · split at h
          · rename_i h4
            split at h
            · rename_i second third fourth rest
              rw [Bool.and_eq_true, Bool.and_eq_true, Bool.and_eq_true, second_four_iff,
                isContinuation_iff, isContinuation_iff] at h
              exact ⟨[first, second, third, fourth], _, rest, rfl,
                .four h4 h.1.2 h.1.1.1 h.1.1.2, h.2⟩
            · cases h
          · cases h

/-- **The firmware accepts the encodings of texts.** -/
theorem isValidUtf8_iff {bytes : List UInt8} :
    isValidUtf8 bytes = true ↔ ∃ text, bytes = encodeUtf8 text := by
  constructor
  · intro h
    induction hn : bytes.length using Nat.strongRecOn generalizing bytes with
    | ind n ih =>
      rcases isValidUtf8_cases h with rfl | ⟨char, v, rest, rfl, hspells, hrest⟩
      · exact ⟨[], rfl⟩
      · have hlength : rest.length < n := by
          have hpos := hspells.length_pos
          rw [List.length_append] at hn
          omega
        obtain ⟨text, rfl⟩ := ih _ hlength hrest rfl
        exact ⟨Char.ofNat v :: text, by rw [encodeUtf8_cons, hspells.encode]⟩
  · rintro ⟨text, rfl⟩
    induction text with
    | nil => rfl
    | cons c text ih => rw [encodeUtf8_cons, isValidUtf8_spells (spells_encode c), ih]

end M5Auth.Vault
