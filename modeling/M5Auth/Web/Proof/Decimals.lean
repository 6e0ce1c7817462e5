import M5Auth.Web.CanonicalProtocol

/-!
# Decimals between the Web application and the Device

A 64-bit number travels as the text of its decimal. Both sides read back what was printed:
`parseU64Decimal_toString` is the Web application's reader, `readU64Decimal_toString` the firmware's.
-/

namespace M5Auth.Web

open JsonValue Unicode

/-! ## Digits -/

theorem unitsOf_digit {c : Char} (h : c.isDigit = true) :
    unitsOf c = [UInt16.ofNat c.toNat] ∧ (UInt16.ofNat c.toNat).toNat = c.toNat ∧
      isDigit (UInt16.ofNat c.toNat) = true := by
  simp only [Char.isDigit, Bool.and_eq_true, decide_eq_true_eq] at h
  have hlower : 48 ≤ c.toNat := UInt32.le_iff_toNat_le.1 h.1
  have hupper : c.toNat ≤ 57 := UInt32.le_iff_toNat_le.1 h.2
  have hnat : (UInt16.ofNat c.toNat).toNat = c.toNat := toNat_ofNat16 (by omega)
  refine ⟨by rw [unitsOf, if_pos (by omega)], hnat, ?_⟩
  simp only [isDigit, Bool.and_eq_true, decide_eq_true_eq, UInt16.le_iff_toNat_le, hnat]
  exact ⟨hlower, hupper⟩

/-- The units of decimal digits. -/
theorem encodeUtf16_digits {text : List Char} (h : ∀ c ∈ text, c.isDigit = true) :
    (encodeUtf16 text).all isDigit = true ∧ (encodeUtf16 text).length = text.length ∧
      ∀ parsed, (encodeUtf16 text).foldl (fun parsed unit => 10 * parsed + (unit.toNat - 48)) parsed =
        Nat.ofDigitChars 10 text parsed := by
  induction text with
  | nil => exact ⟨rfl, rfl, fun _ => rfl⟩
  | cons c text ih =>
    obtain ⟨hall, hlen, hfold⟩ := ih fun c hc => h c (by simp [hc])
    obtain ⟨hunits, hnat, hdigit⟩ := unitsOf_digit (h c (by simp))
    rw [encodeUtf16_cons, hunits]
    refine ⟨by simp [hdigit, hall], by simp [hlen], fun parsed => ?_⟩
    simp only [List.singleton_append, List.foldl_cons, hnat, Nat.ofDigitChars_cons]
    exact hfold _

/-- The decimal of a positive number begins with another digit than 0. -/
theorem toDigits_head {n : Nat} (h : 0 < n) : (Nat.toDigits 10 n).head? ≠ some '0' := by
  induction n using Nat.strongRecOn with
  | ind n ih =>
    rw [Nat.toDigits_eq_if (by decide)]
    split
    · rename_i hlt
      have hall : ∀ n < 10, 0 < n → Nat.digitChar n ≠ '0' := by decide
      simpa using hall n hlt h
    · rename_i hge
      have hne : Nat.toDigits 10 (n / 10) ≠ [] := Nat.toDigits_ne_nil
      rw [List.head?_append_of_ne_nil _ hne]
      exact ih (n / 10) (by omega) (by omega)

/-! ## Printed decimals -/

section

variable (n : Nat)

theorem toString_digits : (toString n).toList = Nat.toDigits 10 n ∧
    ∀ c ∈ Nat.toDigits 10 n, c.isDigit = true := by
  refine ⟨by rw [Nat.toString_eq_ofList_toDigits, String.toList_ofList], fun c hc => ?_⟩
  exact Nat.isDigit_of_mem_toDigits (by decide) (by decide) hc

theorem decimal_digits : (literal (toString n)).all isDigit = true := by
  obtain ⟨htext, hdigits⟩ := toString_digits n
  rw [literal, htext]
  exact (encodeUtf16_digits hdigits).1

theorem bigInt_toString : bigInt (literal (toString n)) = n := by
  obtain ⟨htext, hdigits⟩ := toString_digits n
  rw [literal, htext, bigInt, (encodeUtf16_digits hdigits).2.2, Nat.ofDigitChars_ten_toDigits]

/-- A printed decimal has no leading zero. -/
theorem decimal_head : ∃ first rest, literal (toString n) = first :: rest ∧
    (first = 48 → rest = []) := by
  obtain ⟨htext, hdigits⟩ := toString_digits n
  rcases Nat.eq_zero_or_pos n with rfl | hpos
  · exact ⟨48, [], rfl, fun _ => rfl⟩
  · have hhead := toDigits_head hpos
    rw [literal, htext]
    cases ht : Nat.toDigits 10 n with
    | nil => exact absurd ht Nat.toDigits_ne_nil
    | cons c text =>
      rw [ht] at hdigits hhead
      obtain ⟨hunits, hnat, -⟩ := unitsOf_digit (hdigits c (by simp))
      refine ⟨UInt16.ofNat c.toNat, encodeUtf16 text, by rw [encodeUtf16_cons, hunits]; rfl,
        fun he => ?_⟩
      have hc : c.toNat = 48 := hnat.symm.trans (congrArg UInt16.toNat he)
      exact absurd (by rw [List.head?_cons, ← Char.ofNat_toNat c, hc]) hhead

/-- A decimal below 2^64 has at most twenty digits. -/
theorem decimal_length {n : Nat} (h : n < 2 ^ 64) : (literal (toString n)).length ≤ 20 := by
  obtain ⟨htext, hdigits⟩ := toString_digits n
  rw [literal, htext, (encodeUtf16_digits hdigits).2.1]
  exact (Nat.length_toDigits_le_iff (by decide) (by decide)).2 (by omega)

end

theorem isU64Decimal_toString {n : Nat} (h : n < 2 ^ 64) :
    isU64Decimal (literal (toString n)) = true := by
  have hlength := decimal_length h
  have hall := decimal_digits n
  obtain ⟨first, rest, htext, hzero⟩ := decimal_head n
  rw [htext] at hlength hall ⊢
  rw [List.all_cons, Bool.and_eq_true] at hall
  by_cases hf : first = 48
  · simp [isU64Decimal, hf, hzero hf]
  · have hshort : rest.length ≤ 19 := by rw [List.length_cons] at hlength; omega
    simp [isU64Decimal, hf, hall.1, hall.2, hshort]

/-! ## The Web application's reader -/

/-- A printed generation is read back. -/
theorem parseU64Decimal_toString {n : Nat} (h : n < 2 ^ 64) (field : String) :
    parseU64Decimal (some (.string (literal (toString n)))) field = .ok n := by
  simp only [parseU64Decimal, string?, isU64Decimal_toString h, bigInt_toString, Bool.true_and]
  rw [if_pos (by simp only [decide_eq_true_eq]; omega)]

/-! ## The firmware's reader -/

theorem utf8_digit {c : Char} (h : c.isDigit = true) :
    ∃ ch : UInt8, String.utf8EncodeChar c = [ch] ∧ ch.toNat = c.toNat ∧ 48 ≤ ch.toNat ∧
      ch.toNat ≤ 57 := by
  simp only [Char.isDigit, Bool.and_eq_true, decide_eq_true_eq] at h
  have hlower : 48 ≤ c.toNat := UInt32.le_iff_toNat_le.1 h.1
  have hupper : c.toNat ≤ 57 := UInt32.le_iff_toNat_le.1 h.2
  have hnat : (UInt8.ofNat c.toNat).toNat = c.toNat := by
    rw [UInt8.toNat_ofNat']
    omega
  have hlow : UInt8.ofNat c.toNat < 128 := by
    rw [UInt8.lt_iff_toNat_lt, hnat]
    have h128 : (128 : UInt8).toNat = 128 := rfl
    omega
  obtain ⟨hbytes, -⟩ := bytesOf_ascii _ hlow
  rw [hnat, Char.ofNat_toNat] at hbytes
  exact ⟨_, hbytes, hnat, by omega, by omega⟩

theorem le_ofDigitChars (text : List Char) (parsed : Nat) :
    parsed ≤ Nat.ofDigitChars 10 text parsed := by
  induction text generalizing parsed with
  | nil => exact Nat.le_refl parsed
  | cons c text ih =>
    rw [Nat.ofDigitChars_cons]
    refine Nat.le_trans ?_ (ih _)
    omega

/-- The overflow test never fails below 2^64. -/
theorem decimalLoop_digits {text : List Char} (h : ∀ c ∈ text, c.isDigit = true) {parsed : Nat}
    (hmax : Nat.ofDigitChars 10 text parsed ≤ 18446744073709551615) :
    decimalLoop (encodeUtf8 text) parsed = some (Nat.ofDigitChars 10 text parsed) := by
  induction text generalizing parsed with
  | nil => rfl
  | cons c text ih =>
    obtain ⟨ch, hbytes, hnat, hlower, hupper⟩ := utf8_digit (h c (by simp))
    have hzero : '0'.toNat = 48 := rfl
    rw [Nat.ofDigitChars_cons, hzero, ← hnat] at hmax ⊢
    have hle := le_ofDigitChars text (10 * parsed + (ch.toNat - 48))
    have hrange : ¬(ch < 48 ∨ 57 < ch) := by
      simp only [UInt8.lt_iff_toNat_lt, not_or, Nat.not_lt]
      exact ⟨hlower, hupper⟩
    rw [encodeUtf8_cons, hbytes, List.singleton_append, decimalLoop, if_neg hrange]
    dsimp only
    rw [if_neg (by omega), Nat.mul_comm parsed 10]
    exact ih (fun d hd => h d (by simp [hd])) hmax

/-- A printed generation is read back by the firmware. -/
theorem readU64Decimal_toString (n : UInt64) :
    readU64Decimal (some (.string (textEncode (literal (toString n.toNat))))) = some n := by
  have htext : (toString n.toNat).toList = Nat.toDigits 10 n.toNat := by
    rw [Nat.toString_eq_ofList_toDigits, String.toList_ofList]
  have hdigits : ∀ c ∈ Nat.toDigits 10 n.toNat, c.isDigit = true := fun c hc =>
    Nat.isDigit_of_mem_toDigits (by decide) (by decide) hc
  have hvalue : Nat.ofDigitChars 10 (Nat.toDigits 10 n.toNat) 0 = n.toNat :=
    Nat.ofDigitChars_ten_toDigits
  have hlt := n.toNat_lt
  have hloop : decimalLoop (encodeUtf8 (Nat.toDigits 10 n.toNat)) 0 = _ :=
    decimalLoop_digits hdigits (by omega)
  rw [hvalue] at hloop
  rw [readU64Decimal, Json.string?, Option.bind_some, literal, textEncode_encodeUtf16, htext]
  cases ht : Nat.toDigits 10 n.toNat with
  | nil => exact absurd ht Nat.toDigits_ne_nil
  | cons c text =>
    rw [ht] at hloop hdigits
    obtain ⟨ch, hbytes, hnat, -, -⟩ := utf8_digit (hdigits c (by simp))
    rw [encodeUtf8_cons, hbytes, List.singleton_append] at hloop ⊢
    have hhead : ¬(ch = 48 ∧ encodeUtf8 text ≠ []) := by
      rintro ⟨rfl, hrest⟩
      have hc : c = '0' := by rw [← Char.ofNat_toNat c, ← hnat]; rfl
      rcases Nat.eq_zero_or_pos n.toNat with hzero | hpos
      · rw [hzero] at ht
        cases ht
        exact hrest rfl
      · exact toDigits_head hpos (by rw [ht, hc]; rfl)
    unfold M5Auth.parseU64Decimal
    dsimp only
    rw [if_neg hhead, hloop]
    exact congrArg some (UInt64.ofNat_toNat)

end M5Auth.Web
