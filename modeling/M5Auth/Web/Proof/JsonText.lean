import Mathlib.Data.List.Nodup
import Mathlib.Data.List.TakeDrop
import M5Auth.Web.JsonText
import M5Auth.Web.Proof.Decimals

/-!
# What is printed is parsed back

`jsonParse_stringify`: `JSON.parse` of `JSON.stringify` is the value that was printed
(`Printable.parsed`), where the members of each object have different names and its numbers are
safe integers (`Printable.Parsable`).
-/

namespace M5Auth.Web

/-! ## Scanning -/

theorem skipSpace_cons {unit : UInt16} (h : isJsonSpace unit = false) (rest : JsString) :
    skipSpace (unit :: rest) = unit :: rest := by
  simp [skipSpace, h]

theorem skipSpace_newline (indent : Nat) (text : JsString) :
    skipSpace (newline indent ++ text) = skipSpace text := by
  have hspaces : ∀ n, skipSpace (List.replicate n 32 ++ text) = skipSpace text := by
    intro n
    induction n with
    | zero => rfl
    | succ n ih =>
      rw [List.replicate_succ, List.cons_append, skipSpace, List.dropWhile_cons_of_pos (by rfl)]
      exact ih
  rw [newline, List.cons_append, skipSpace, List.dropWhile_cons_of_pos (by rfl)]
  exact hspaces indent

theorem expectUnit_cons {unit next : UInt16} (h : isJsonSpace next = false) (rest : JsString) :
    expectUnit unit (next :: rest) = if next = unit then some rest else none := by
  simp only [expectUnit, skipSpace_cons h]

theorem expectUnit_newline (unit : UInt16) (indent : Nat) (text : JsString) :
    expectUnit unit (newline indent ++ text) = expectUnit unit text := by
  rw [expectUnit, expectUnit, skipSpace_newline]

/-! ## Strings -/

theorem hexValue_hexUnit {n : UInt16} (h : n < 16) : hexValue? (hexUnit n) = some n := by
  have hall : ∀ k < 16, hexValue? (hexUnit (UInt16.ofNat k)) = some (UInt16.ofNat k) := by
    decide +kernel
  have hn := hall n.toNat (UInt16.lt_iff_toNat_lt.1 h)
  rwa [UInt16.ofNat_toNat] at hn

theorem hexUnits_unicodeEscape (unit : UInt16) :
    hexUnits? (hexUnit (unit / 4096)) (hexUnit (unit / 256 % 16)) (hexUnit (unit / 16 % 16))
      (hexUnit (unit % 16)) = some unit := by
  have hunit : unit.toNat < 65536 := unit.toNat_lt
  have h0 : unit / 4096 < 16 := by
    simp only [UInt16.lt_iff_toNat_lt, UInt16.toNat_div]
    simp
    omega
  have hlow : ∀ n : UInt16, n % 16 < 16 := by
    intro n
    simp only [UInt16.lt_iff_toNat_lt, UInt16.toNat_mod]
    exact Nat.mod_lt _ (by decide)
  simp only [hexUnits?, hexValue_hexUnit h0, hexValue_hexUnit (hlow _), bind, Option.bind]
  congr 1
  apply UInt16.toNat_inj.1
  simp
  omega

theorem parseString_quote (rest : JsString) : parseString (34 :: rest) = some ([], rest) := by
  rw [parseString.eq_def]
  simp

/-- A unit that stands for itself. -/
theorem parseString_unit {unit : UInt16} (h32 : ¬unit < 32) (h34 : unit ≠ 34) (h92 : unit ≠ 92)
    (rest : JsString) : parseString (unit :: rest) =
      (parseString rest).map fun (units, rest) => (unit :: units, rest) := by
  rw [parseString.eq_def]
  simp only [h34, h92, h32, if_false]
  cases parseString rest <;> rfl

theorem parseString_escapeUnit (unit : UInt16) (rest : JsString) :
    parseString (escapeUnit unit ++ rest) =
      (parseString rest).map fun (units, rest) => (unit :: units, rest) := by
  have hsimple : ∀ kind, kind ≠ 117 → escaped? kind = some unit →
      parseString ([92, kind] ++ rest) =
        (parseString rest).map fun (units, rest) => (unit :: units, rest) := by
    intro kind hkind hescaped
    simp only [List.cons_append, List.nil_append]
    rw [parseString.eq_def]
    simp only [hkind, hescaped]
    cases parseString rest <;> rfl
  unfold escapeUnit
  split
  · exact hsimple 98 (by decide) (by simp_all [escaped?])
  split
  · exact hsimple 116 (by decide) (by simp_all [escaped?])
  split
  · exact hsimple 110 (by decide) (by simp_all [escaped?])
  split
  · exact hsimple 102 (by decide) (by simp_all [escaped?])
  split
  · exact hsimple 114 (by decide) (by simp_all [escaped?])
  split
  · exact hsimple 34 (by decide) (by simp_all [escaped?])
  split
  · exact hsimple 92 (by decide) (by simp_all [escaped?])
  split
  · simp only [unicodeEscape, List.cons_append, List.nil_append]
    rw [parseString.eq_def]
    simp only [hexUnits_unicodeEscape unit]
    cases parseString rest <;> rfl
  · rename_i h34 h92 h
    simp only [Bool.or_eq_true, decide_eq_true_eq, not_or] at h
    exact parseString_unit h.1.1 h34 h92 rest

theorem surrogate_plain {unit : UInt16}
    (h : Unicode.isLead unit = true ∨ Unicode.isTrail unit = true) : ¬unit < 32 ∧ unit ≠ 34 ∧ unit ≠ 92 := by
  have hlow : 0xd800 ≤ unit.toNat := by
    rcases h with h | h
    · simp only [Unicode.isLead, Bool.and_eq_true, decide_eq_true_eq, UInt16.le_iff_toNat_le] at h
      exact h.1
    · simp only [Unicode.isTrail, Bool.and_eq_true, decide_eq_true_eq, UInt16.le_iff_toNat_le] at h
      exact Nat.le_trans (by decide) h.1
  refine ⟨?_, ?_, ?_⟩
  · rw [UInt16.lt_iff_toNat_lt]
    exact fun hlt => absurd (Nat.lt_of_le_of_lt hlow hlt) (by decide)
  · exact fun he => absurd (he ▸ hlow) (by decide)
  · exact fun he => absurd (he ▸ hlow) (by decide)

/-- A printed string is read up to its closing quote. -/
theorem parseString_escapeUnits (s rest : JsString) :
    parseString (escapeUnits s ++ 34 :: rest) = some (s, rest) := by
  fun_induction escapeUnits s with
  | case1 => exact parseString_quote rest
  | case2 unit =>
    rw [parseString_escapeUnit, parseString_quote]
    rfl
  | case3 unit second tail hpair ih =>
    rw [Bool.and_eq_true] at hpair
    obtain ⟨h32, h34, h92⟩ := surrogate_plain (.inl hpair.1)
    obtain ⟨h32', h34', h92'⟩ := surrogate_plain (.inr hpair.2)
    rw [List.cons_append, List.cons_append, parseString_unit h32 h34 h92,
      parseString_unit h32' h34' h92', ih]
    rfl
  | case4 unit second tail hpair ih =>
    rw [List.append_assoc, parseString_escapeUnit, ih]
    rfl

/-! ## Numbers -/

/-- What may follow a number. -/
def EndsNumber (rest : JsString) : Prop :=
  ∀ unit ∈ rest.head?, isDigit unit = false ∧ unit ≠ 46 ∧ unit ≠ 101 ∧ unit ≠ 69

theorem span_digits {digits rest : JsString} (hdigits : digits.all isDigit = true)
    (hrest : EndsNumber rest) : (digits ++ rest).span isDigit = (digits, rest) := by
  have hstop : rest.takeWhile isDigit = [] ∧ rest.dropWhile isDigit = rest := by
    cases rest with
    | nil => exact ⟨rfl, rfl⟩
    | cons unit rest =>
      have hunit := (hrest unit rfl).1
      exact ⟨List.takeWhile_cons_of_neg (by simp [hunit]),
        List.dropWhile_cons_of_neg (by simp [hunit])⟩
  rw [List.span_eq_takeWhile_dropWhile, List.takeWhile_append_of_pos (List.all_eq_true.1 hdigits),
    List.dropWhile_append_of_pos (List.all_eq_true.1 hdigits), hstop.1, hstop.2, List.append_nil]

theorem parseFraction_none {rest : JsString} (h : EndsNumber rest) :
    parseFraction rest = some ([], rest) := by
  cases rest with
  | nil => rfl
  | cons unit rest => simp only [parseFraction, (h unit rfl).2.1, if_false]

theorem parseExponent_none {rest : JsString} (h : EndsNumber rest) :
    parseExponent rest = some (false, 0, rest) := by
  cases rest with
  | nil => rfl
  | cons unit rest =>
    obtain ⟨-, -, h101, h69⟩ := h unit rfl
    simp [parseExponent, h101, h69]

theorem nearestDouble_natCast {n : Nat} (h : n ≤ 9007199254740991) :
    nearestDouble false n 1 = .integer n := by
  unfold nearestDouble
  rw [if_pos ⟨Nat.mod_one n, by omega⟩]
  simp

/-- A printed number is read up to what follows it. -/
theorem parseNumber_toString {n : Nat} (h : n ≤ 9007199254740991) {rest : JsString}
    (hrest : EndsNumber rest) :
    parseNumber (literal (toString n) ++ rest) = some (.integer n, rest) := by
  have hall := decimal_digits n
  have hvalue := bigInt_toString n
  obtain ⟨first, tail, htext, hzero⟩ := decimal_head n
  have hunsigned : parseUnsigned false (literal (toString n) ++ rest) =
      some (.integer n, rest) := by
    have hwhole : ((literal (toString n)).isEmpty || ((literal (toString n)).head? == some 48 &&
        decide (1 < (literal (toString n)).length))) = false := by
      rw [htext]
      by_cases hf : first = 48
      · simp [hzero hf]
      · simp [hf]
    unfold parseUnsigned
    rw [span_digits hall hrest]
    dsimp only
    rw [hwhole, parseFraction_none hrest]
    simp only [bind, Option.bind, parseExponent_none hrest, List.append_nil, hvalue, Nat.pow_zero,
      Nat.mul_one, List.length_nil, nearestDouble_natCast h, Bool.false_eq_true, if_false]
  have hminus : first ≠ 45 := by
    rw [htext, List.all_cons, Bool.and_eq_true] at hall
    intro he
    rw [he] at hall
    exact absurd hall.1 (by decide)
  rw [htext, List.cons_append] at hunsigned ⊢
  simp only [parseNumber, if_neg hminus]
  exact hunsigned

/-! ## Values -/

namespace Printable

mutual

/-- The value that the printed text is parsed to. -/
def parsed : Printable → JsonValue
  | .null => .null
  | .integer value => .number (.integer value)
  | .string value => .string value
  | .object members => .object (parsedMembers members)

def parsedMembers : List (String × Printable) → List (JsString × JsonValue)
  | [] => []
  | (name, value) :: members => (literal name, parsed value) :: parsedMembers members

end

mutual

/-- The members of each object have different names, and the numbers are safe integers. -/
def Parsable : Printable → Prop
  | .null => True
  | .integer value => value ≤ 9007199254740991
  | .string _ => True
  | .object members => (members.map (·.1)).Nodup ∧ ParsableMembers members

def ParsableMembers : List (String × Printable) → Prop
  | [] => True
  | (_, value) :: members => Parsable value ∧ ParsableMembers members

end

mutual

/-- The fuel with which the printed text is parsed. -/
def fuel : Printable → Nat
  | .object members => 1 + fuelMembers members
  | _ => 1

def fuelMembers : List (String × Printable) → Nat
  | [] => 0
  | (_, value) :: members => 1 + fuel value + fuelMembers members

end

end Printable

theorem setMember_new {name : JsString} {value : JsonValue} {members : List (JsString × JsonValue)}
    (h : name ∉ members.map (·.1)) : setMember name value members = members ++ [(name, value)] := by
  induction members with
  | nil => rfl
  | cons member members ih =>
    rw [List.map_cons, List.mem_cons, not_or] at h
    rw [setMember, if_neg (Ne.symm h.1), ih h.2, List.cons_append]

/-- What follows a value in a printed text. -/
def Follows (rest : JsString) : Prop := rest = [] ∨ ∃ tail, rest = 44 :: tail ∨ rest = 10 :: tail

theorem Follows.endsNumber {rest : JsString} (h : Follows rest) : EndsNumber rest := by
  intro unit hunit
  rcases h with rfl | ⟨tail, rfl | rfl⟩
  · cases hunit
  · cases hunit
    decide
  · cases hunit
    decide

theorem parseValue_string (fuel : Nat) (s rest : JsString) :
    parseValue (fuel + 1) (quote s ++ rest) = some (.string s, rest) := by
  have htext : quote s ++ rest = 34 :: (escapeUnits s ++ 34 :: rest) := by simp [quote]
  rw [htext, parseValue, skipSpace_cons (by decide)]
  simp only [if_true, parseString_escapeUnits, Option.map_some]

theorem parseValue_integer (fuel : Nat) {n : Nat} (h : n ≤ 9007199254740991) {rest : JsString}
    (hrest : Follows rest) :
    parseValue (fuel + 1) (literal (toString n) ++ rest) = some (.number (.integer n), rest) := by
  have hnumber := parseNumber_toString h hrest.endsNumber
  have hall := decimal_digits n
  obtain ⟨first, tail, htext, -⟩ := decimal_head n
  rw [htext] at hnumber hall ⊢
  rw [List.all_cons, Bool.and_eq_true, isDigit, Bool.and_eq_true, decide_eq_true_eq,
    decide_eq_true_eq, UInt16.le_iff_toNat_le, UInt16.le_iff_toNat_le] at hall
  have hne : ∀ unit : UInt16, unit.toNat < 48 ∨ 57 < unit.toNat → first ≠ unit := by
    intro unit hunit he
    have h48 : (48 : UInt16).toNat = 48 := rfl
    have h57 : (57 : UInt16).toNat = 57 := rfl
    rw [← he] at hunit
    omega
  have hspace : isJsonSpace first = false := by
    simp [isJsonSpace, hne 9 (by decide), hne 10 (by decide), hne 13 (by decide),
      hne 32 (by decide)]
  rw [List.cons_append] at hnumber ⊢
  rw [parseValue, skipSpace_cons hspace]
  simp only [hne 34 (by decide), hne 123 (by decide), hne 91 (by decide), hne 110 (by decide),
    hne 116 (by decide), hne 102 (by decide), if_false, hnumber, Option.map_some]

theorem parseValue_space (fuel : Nat) (text : JsString) :
    parseValue fuel (32 :: text) = parseValue fuel text := by
  cases fuel with
  | zero => rfl
  | succ fuel =>
    have hskip : skipSpace (32 :: text) = skipSpace text := List.dropWhile_cons_of_pos (by rfl)
    rw [parseValue, parseValue, hskip]

section

variable {fuel indent : Nat} {name : String} {value : JsonValue} {text rest : JsString}
  {members : List (JsString × JsonValue)}

/-- The start of a printed member, up to its value. -/
theorem parseMembers_name : parseMembers (fuel + 1) members
    (newline indent ++ quote (literal name) ++ [58, 32] ++ text) = (do
      let (value, rest) ← parseValue fuel text
      match expectUnit 44 rest with
      | some rest => parseMembers fuel (setMember (literal name) value members) rest
      | none => do
        let rest ← expectUnit 125 rest
        some (.object (setMember (literal name) value members), rest)) := by
  have htext : newline indent ++ quote (literal name) ++ [58, 32] ++ text =
      newline indent ++ 34 :: (escapeUnits (literal name) ++ 34 :: 58 :: 32 :: text) := by
    simp [quote]
  rw [htext, parseMembers, expectUnit_newline, expectUnit_cons (by decide), if_pos rfl]
  simp only [bind, Option.bind, parseString_escapeUnits,
    expectUnit_cons (show isJsonSpace 58 = false by decide), if_true]
  rewrite [parseValue_space]
  rfl

theorem parseMembers_comma (hvalue : parseValue fuel (text ++ 44 :: rest) =
    some (value, 44 :: rest)) : parseMembers (fuel + 1) members
      (newline indent ++ quote (literal name) ++ [58, 32] ++ (text ++ 44 :: rest)) =
        parseMembers fuel (setMember (literal name) value members) rest := by
  rw [parseMembers_name, hvalue]
  simp only [bind, Option.bind, expectUnit_cons (show isJsonSpace 44 = false by decide), if_true]

theorem parseMembers_close {outer : Nat} (hvalue : parseValue fuel
    (text ++ (newline outer ++ 125 :: rest)) = some (value, newline outer ++ 125 :: rest)) :
    parseMembers (fuel + 1) members
      (newline indent ++ quote (literal name) ++ [58, 32] ++
        (text ++ (newline outer ++ 125 :: rest))) =
        some (.object (setMember (literal name) value members), rest) := by
  rw [parseMembers_name, hvalue]
  simp only [bind, Option.bind, expectUnit_newline,
    expectUnit_cons (show isJsonSpace 125 = false by decide), if_true]
  rw [if_neg (by decide)]

end

theorem printMembers_head (indent : Nat) (member : String × Printable)
    (members : List (String × Printable)) :
    ∃ tail, printMembers indent (member :: members) = newline indent ++ 34 :: tail := by
  obtain ⟨name, value⟩ := member
  cases members with
  | nil =>
    rw [printMembers, quote]
    exact ⟨_, by simp only [List.append_assoc, List.cons_append]; rfl⟩
  | cons member members =>
    rw [printMembers, quote]
    exact ⟨_, by simp only [List.append_assoc, List.cons_append]; rfl⟩

open Printable in
mutual

/-- A printed value is read up to what follows it. -/
theorem parseValue_print (indent : Nat) (value : Printable) (hplain : Parsable value) {n : Nat}
    (hn : value.fuel ≤ n) {rest : JsString} (hrest : Follows rest) :
    parseValue n (printIndented indent value ++ rest) = some (parsed value, rest) := by
  cases n with
  | zero => cases value <;> simp [Printable.fuel] at hn
  | succ n =>
    match value with
    | .null =>
      have hnull : literal "null" = [110, 117, 108, 108] := by
        rw [literal, String.toList_ofList]
        rfl
      have hull : literal "ull" = [117, 108, 108] := by
        rw [literal, String.toList_ofList]
        rfl
      rw [printIndented, hnull]
      simp only [List.cons_append, List.nil_append]
      rw [parseValue, skipSpace_cons (by decide)]
      simp [expectWord, hull, parsed, List.isPrefixOf]
    | .integer value => exact parseValue_integer n hplain hrest
    | .string value => exact parseValue_string n value rest
    | .object [] =>
      rw [printIndented]
      simp only [List.cons_append, List.nil_append]
      rw [parseValue, skipSpace_cons (by decide)]
      simp only [expectUnit_cons (show isJsonSpace 125 = false by decide), if_true]
      rfl
    | .object (member :: members) =>
      have hnames : (((member :: members).map (·.1)).map literal).Nodup :=
        List.Nodup.map (fun _ _ h => literal_injective h) hplain.1
      have hfuel : fuelMembers (member :: members) ≤ n := by
        rw [Printable.fuel] at hn
        omega
      obtain ⟨tail, htail⟩ := printMembers_head (indent + 2) member members
      have hmembers := parseMembers_print (indent + 2) indent (member :: members) hplain.2
        (by simp) [] (by simpa using hnames) hfuel rest
      have htext : printIndented indent (.object (member :: members)) ++ rest = 123 ::
          (printMembers (indent + 2) (member :: members) ++ (newline indent ++ 125 :: rest)) := by
        simp [printIndented]
      -- The object is not empty: a name follows the brace.
      have hbrace : expectUnit 125 (printMembers (indent + 2) (member :: members) ++
          (newline indent ++ 125 :: rest)) = none := by
        rw [htail, List.append_assoc, expectUnit_newline, List.cons_append,
          expectUnit_cons (by decide), if_neg (by decide)]
      rw [htext, parseValue, skipSpace_cons (by decide)]
      simp only [if_true, hbrace, hmembers]
      rfl

theorem parseMembers_print (indent outer : Nat) (members : List (String × Printable))
    (hplain : ParsableMembers members) (hne : members ≠ []) (before : List (JsString × JsonValue))
    (hnames : (before.map (·.1) ++ (members.map (·.1)).map literal).Nodup) {n : Nat}
    (hn : fuelMembers members ≤ n) (rest : JsString) :
    parseMembers n before (printMembers indent members ++ (newline outer ++ 125 :: rest)) =
      some (.object (before ++ parsedMembers members), rest) := by
  match members with
  | [] => exact absurd rfl hne
  | (name, value) :: members =>
    have hset : setMember (literal name) (parsed value) before =
        before ++ [(literal name, parsed value)] := by
      apply setMember_new
      have hdisjoint := (List.nodup_append.1 hnames).2.2
      exact fun hmem => hdisjoint _ hmem _ (by simp) rfl
    rw [fuelMembers] at hn
    obtain ⟨n, rfl⟩ : ∃ m, n = m + 1 := ⟨n - 1, by omega⟩
    match members with
    | [] =>
      have hfollows : Follows (newline outer ++ 125 :: rest) := .inr ⟨_, .inr rfl⟩
      have hvalue := parseValue_print indent value hplain.1 (n := n) (by omega) hfollows
      rw [printMembers, List.append_assoc, parseMembers_close hvalue, hset]
      rfl
    | member :: members =>
      have hfollows : Follows (44 :: (printMembers indent (member :: members) ++
          (newline outer ++ 125 :: rest))) := .inr ⟨_, .inl rfl⟩
      have hvalue := parseValue_print indent value hplain.1 (n := n) (by omega) hfollows
      have hrest := parseMembers_print indent outer (member :: members) hplain.2 (by simp)
        (before ++ [(literal name, parsed value)]) (by simpa using hnames) (n := n) (by omega) rest
      rw [printMembers, List.append_assoc, List.append_assoc, List.cons_append,
        parseMembers_comma hvalue, hset, hrest, List.append_assoc]
      rfl

end

/-! ## Whole texts -/

open Printable in
mutual

theorem fuel_le_length (indent : Nat) (value : Printable) :
    value.fuel ≤ (printIndented indent value).length := by
  match value with
  | .null =>
    have hnull : literal "null" = [110, 117, 108, 108] := by
      rw [literal, String.toList_ofList]
      rfl
    rw [printIndented, hnull]
    decide
  | .integer n =>
    obtain ⟨first, tail, htext, -⟩ := decimal_head n
    rw [printIndented, htext, Printable.fuel, List.length_cons]
    · omega
    · simp
  | .string s =>
    rw [printIndented, quote, Printable.fuel, List.length_cons]
    · omega
    · simp
  | .object [] => simp [printIndented, Printable.fuel, fuelMembers]
  | .object (member :: members) =>
    have hmembers := fuelMembers_le_length (indent + 2) (member :: members)
    simp only [printIndented, Printable.fuel, List.length_cons, List.length_append]
    omega

theorem fuelMembers_le_length (indent : Nat) (members : List (String × Printable)) :
    fuelMembers members ≤ (printMembers indent members).length := by
  match members with
  | [] => exact Nat.zero_le _
  | [(name, value)] =>
    have hvalue := fuel_le_length indent value
    simp only [printMembers, fuelMembers, newline, List.length_append, List.length_cons]
    omega
  | (name, value) :: member :: members =>
    have hvalue := fuel_le_length indent value
    have hmembers := fuelMembers_le_length indent (member :: members)
    rw [printMembers, fuelMembers]
    simp only [newline, List.length_append, List.length_cons]
    omega

end

/-- **`JSON.parse` reads what `JSON.stringify` printed.** -/
theorem jsonParse_stringify {value : Printable} (h : value.Parsable) :
    jsonParse (jsonStringify value) = some value.parsed := by
  have hfuel := fuel_le_length 0 value
  have hend : Follows [] := .inl rfl
  have hvalue := parseValue_print 0 value h (n := (jsonStringify value).length + 1)
    (Nat.le_succ_of_le hfuel) hend
  rw [List.append_nil] at hvalue
  rw [jsonParse]
  simp only [bind, Option.bind, jsonStringify] at hvalue ⊢
  rw [hvalue]
  rfl

end M5Auth.Web
