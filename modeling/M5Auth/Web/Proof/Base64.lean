import M5Auth.Web.BrowserVault

/-!
# Base64url of the Recovery Package

`fromBase64Url_toBase64Url`: the package's base64url text is decoded to its bytes. `btoa` writes the
sextets of the bytes (`sextets`) and equals signs up to a multiple of four; `atob` reads them back.
-/

namespace M5Auth.Web

/-! ## The platform's codec -/

/-- The sextets that `btoa` writes. -/
def sextets : List UInt8 → List Nat
  | a :: b :: c :: rest =>
    let group := a.toNat * 65536 + b.toNat * 256 + c.toNat
    group / 262144 :: group / 4096 % 64 :: group / 64 % 64 :: group % 64 :: sextets rest
  | [a, b] =>
    let group := a.toNat * 1024 + b.toNat * 4
    [group / 4096, group / 64 % 64, group % 64]
  | [a] => [a.toNat / 4, a.toNat * 16 % 64]
  | [] => []

/-- The number of equals signs. -/
def padding (value : List UInt8) : Nat := (3 - value.length % 3) % 3

theorem btoa_eq (value : List UInt8) :
    btoa value = (sextets value).map base64Char ++ List.replicate (padding value) equalsSign := by
  fun_induction btoa value with
  | case1 a b c rest group ih =>
    have hpadding : padding (a :: b :: c :: rest) = padding rest := by
      simp only [padding, List.length_cons]
      omega
    rw [ih, sextets, hpadding]
    rfl
  | case2 a b group => rfl
  | case3 a => rfl
  | case4 => rfl

theorem sextets_lt (value : List UInt8) : ∀ n ∈ sextets value, n < 64 := by
  fun_induction sextets value with
  | case1 a b c rest group ih =>
    have ha := a.toNat_lt
    have hb := b.toNat_lt
    have hc := c.toNat_lt
    intro n hn
    simp only [List.mem_cons] at hn
    rcases hn with rfl | rfl | rfl | rfl | hn
    · omega
    · omega
    · omega
    · omega
    · exact ih n hn
  | case2 a b group =>
    have ha := a.toNat_lt
    have hb := b.toNat_lt
    intro n hn
    simp only [List.mem_cons, List.not_mem_nil, or_false] at hn
    rcases hn with rfl | rfl | rfl
    · omega
    · omega
    · omega
  | case3 a =>
    have ha := a.toNat_lt
    intro n hn
    simp only [List.mem_cons, List.not_mem_nil, or_false] at hn
    rcases hn with rfl | rfl
    · omega
    · omega
  | case4 => simp

theorem ofNat_eq {n : Nat} {a : UInt8} (h : n % 256 = a.toNat) : UInt8.ofNat n = a := by
  apply UInt8.toNat_inj.1
  rw [UInt8.toNat_ofNat']
  exact h

theorem fromSextets_sextets (value : List UInt8) : fromSextets (sextets value) = value := by
  fun_induction sextets value with
  | case1 a b c rest group ih =>
    have ha := a.toNat_lt
    have hb := b.toNat_lt
    have hc := c.toNat_lt
    rw [fromSextets, ih, ofNat_eq (a := a) (by omega), ofNat_eq (a := b) (by omega),
      ofNat_eq (a := c) (by omega)]
  | case2 a b group =>
    have ha := a.toNat_lt
    have hb := b.toNat_lt
    rw [fromSextets, ofNat_eq (a := a) (by omega), ofNat_eq (a := b) (by omega)]
  | case3 a =>
    have ha := a.toNat_lt
    rw [fromSextets, ofNat_eq (a := a) (by omega)]
  | case4 => rfl

/-- The length of the text: padded, it is a multiple of four. -/
theorem sextets_length (value : List UInt8) :
    (sextets value).length + padding value = (value.length + 2) / 3 * 4 := by
  fun_induction sextets value with
  | case1 a b c rest group ih =>
    simp only [padding, List.length_cons] at ih ⊢
    omega
  | case2 a b group => simp [padding]
  | case3 a => simp [padding]
  | case4 => rfl

theorem base64Alphabet_codes : base64Alphabet =
    (List.range' 65 26 ++ List.range' 97 26 ++ List.range' 48 10 ++ [43, 47]).map UInt16.ofNat := by
  rw [base64Alphabet, literal, String.toList_ofList]
  rfl

/-- The characters of the alphabet. -/
theorem base64Char_spec {n : Nat} (h : n < 64) :
    base64Alphabet.idxOf? (base64Char n) = some n ∧ isAsciiSpace (base64Char n) = false ∧
      base64Char n ≠ equalsSign := by
  have hall : ∀ n < 64, base64Alphabet.idxOf? (base64Char n) = some n ∧
      isAsciiSpace (base64Char n) = false ∧ base64Char n ≠ equalsSign := by
    simp only [base64Char, base64Alphabet_codes]
    decide +kernel
  exact hall n h

section

variable {body : JsString}

theorem dropPadding_replicate (hbody : ∀ unit ∈ body, unit ≠ equalsSign) {n : Nat} (hn : n ≤ 2)
    (hlength : (body.length + n) % 4 = 0) :
    dropPadding (body ++ List.replicate n equalsSign) = body := by
  have hlast : body.getLast? ≠ some equalsSign := fun h =>
    hbody _ (List.mem_of_getLast? h) rfl
  unfold dropPadding
  rw [if_neg (by rw [List.length_append, List.length_replicate, not_not]; exact hlength)]
  match n with
  | 0 =>
    rw [List.replicate_zero, List.append_nil, if_pos hlast]
  | 1 =>
    simp [hlast]
  | 2 =>
    have htwo : body ++ List.replicate 2 equalsSign = body ++ [equalsSign] ++ [equalsSign] := by
      simp [List.replicate]
    rw [htwo, List.getLast?_concat, List.dropLast_concat, List.getLast?_concat,
      List.dropLast_concat]
    rfl

end

/-- **`atob` reads what `btoa` wrote.** -/
theorem atob_btoa (value : List UInt8) : atob (btoa value) = some value := by
  have hlt := sextets_lt value
  have hlength := sextets_length value
  have hpadding : padding value ≤ 2 := by
    unfold padding
    omega
  have hbody : ∀ unit ∈ (sextets value).map base64Char,
      unit ≠ equalsSign ∧ isAsciiSpace unit = false := by
    intro unit hunit
    obtain ⟨n, hn, rfl⟩ := List.mem_map.1 hunit
    obtain ⟨-, hspace, hequals⟩ := base64Char_spec (hlt n hn)
    exact ⟨hequals, hspace⟩
  have hfilter : (btoa value).filter (fun unit => !isAsciiSpace unit) = btoa value := by
    apply List.filter_eq_self.2
    intro unit hunit
    rw [btoa_eq, List.mem_append] at hunit
    rcases hunit with hunit | hunit
    · simp [(hbody unit hunit).2]
    · rw [List.eq_of_mem_replicate hunit]
      rfl
  have hdrop : dropPadding (btoa value) = (sextets value).map base64Char := by
    rw [btoa_eq]
    apply dropPadding_replicate (fun unit hunit => (hbody unit hunit).1) hpadding
    rw [List.length_map, hlength]
    omega
  have hread : ∀ ns : List Nat, (∀ n ∈ ns, n < 64) →
      (ns.map base64Char).mapM (fun unit => base64Alphabet.idxOf? unit) = some ns := by
    intro ns hns
    induction ns with
    | nil => rfl
    | cons n ns ih =>
      rw [List.map_cons, List.mapM_cons, (base64Char_spec (hns n (by simp))).1,
        ih fun m hm => hns m (by simp [hm])]
      rfl
  unfold atob
  simp only [hfilter, hdrop, hread _ hlt, List.length_map, Option.map_some, fromSextets_sextets]
  rw [if_neg (by unfold padding at hlength; omega)]

/-! ## The package's form -/

/-- `+` and `/` become `-` and `_`, and the other way round. -/
def urlUnit (unit : UInt16) : UInt16 :=
  if (if unit = 43 then 45 else unit) = 47 then 95 else if unit = 43 then 45 else unit

def plainUnit (unit : UInt16) : UInt16 :=
  if (if unit = 45 then 43 else unit) = 95 then 47 else if unit = 45 then 43 else unit

theorem urlUnit_spec {n : Nat} (h : n < 64) :
    plainUnit (urlUnit (base64Char n)) = base64Char n ∧ urlUnit (base64Char n) ≠ equalsSign ∧
      isBase64Url [urlUnit (base64Char n)] = true := by
  have hall : ∀ n < 64, plainUnit (urlUnit (base64Char n)) = base64Char n ∧
      urlUnit (base64Char n) ≠ equalsSign ∧ isBase64Url [urlUnit (base64Char n)] = true := by
    simp only [base64Char, base64Alphabet_codes]
    decide +kernel
  exact hall n h

/-- The text without the equals signs. -/
theorem toBase64Url_eq (value : List UInt8) :
    toBase64Url value = (sextets value).map fun n => urlUnit (base64Char n) := by
  have hmap : ((btoa value).map fun unit => if unit = 43 then 45 else unit).map
      (fun unit => if unit = 47 then 95 else unit) =
      ((sextets value).map fun n => urlUnit (base64Char n)) ++
        List.replicate (padding value) equalsSign := by
    rw [btoa_eq, List.map_map, List.map_append, List.map_map, List.map_replicate]
    rfl
  unfold toBase64Url
  rw [hmap, List.rdropWhile, List.reverse_append, List.reverse_replicate,
    List.dropWhile_append_of_pos (fun unit hunit => by
      rw [List.eq_of_mem_replicate hunit]
      rfl)]
  cases hreverse : ((sextets value).map fun n => urlUnit (base64Char n)).reverse with
  | nil =>
    rw [List.reverse_eq_nil_iff] at hreverse
    rw [hreverse]
    rfl
  | cons last rest =>
    have hlast : last ≠ equalsSign := by
      have hmem : last ∈ ((sextets value).map fun n => urlUnit (base64Char n)).reverse := by
        rw [hreverse]
        simp
      rw [List.mem_reverse] at hmem
      obtain ⟨n, hn, rfl⟩ := List.mem_map.1 hmem
      exact (urlUnit_spec (sextets_lt value n hn)).2.1
    rw [List.dropWhile_cons_of_neg (by simpa using hlast), ← hreverse, List.reverse_reverse]

/-- **The base64url texts of the package are read back.** -/
theorem fromBase64Url_toBase64Url (value : List UInt8) (field : String) :
    fromBase64Url (some (.string (toBase64Url value))) field = .ok value := by
  have hlt := sextets_lt value
  have hlength := sextets_length value
  have hchars : isBase64Url (toBase64Url value) = true := by
    rw [toBase64Url_eq, isBase64Url, List.all_eq_true]
    intro unit hunit
    obtain ⟨n, hn, rfl⟩ := List.mem_map.1 hunit
    have hunit := (urlUnit_spec (hlt n hn)).2.2
    rwa [isBase64Url, List.all_cons, List.all_nil, Bool.and_true] at hunit
  have hback : ((toBase64Url value).map fun unit => if unit = 45 then 43 else unit).map
      (fun unit => if unit = 95 then 47 else unit) = (sextets value).map base64Char := by
    rw [toBase64Url_eq, List.map_map, List.map_map]
    refine List.map_congr_left fun n hn => ?_
    have hunit := (urlUnit_spec (hlt n hn)).1
    rw [plainUnit] at hunit
    simp only [Function.comp_apply, hunit]
  have hpad : padEnd ((sextets value).map base64Char)
      (((toBase64Url value).length + 3) / 4 * 4) = btoa value := by
    rw [padEnd, btoa_eq, toBase64Url_eq, List.length_map, List.length_map]
    congr 2
    unfold padding at hlength ⊢
    omega
  simp only [fromBase64Url, JsonValue.string?, hchars, hback, hpad, atob_btoa, require_true]
  rfl

end M5Auth.Web
