import M5Auth.Web.Import.Base32

/-!
# Base32 secrets

`base32_secrets`: when `decodeBase32Secret` accepts exactly the Base32 encodings of the non-empty
byte strings. It maps its input with `toUpperCase`, so that a character outside ASCII is read as the
ASCII letters that are its upper case (`decode_iff`); the strings that become an encoding in this way
are the only ones that it wrongly accepts.

Both loops keep the bits: the bits of the output and of the buffer are the bits of the input
(`decodeBase32Loop_bits`, `encodeBase32Loop_bits`), and the encoding is the only text with these bits
(`BitGroups.eq_groups`).
-/

namespace M5Auth.Web.Import

open BitGroups

/-! ## The alphabet -/

theorem base32Alphabet_codes :
    base32Alphabet = (List.range' 65 26 ++ List.range' 50 6).map UInt16.ofNat := by
  rw [base32Alphabet, literal, String.toList_ofList]
  rfl

theorem idxOf_base32Letter {v : Nat} (h : v < 32) : base32Alphabet.idxOf? (base32Letter v) = some v := by
  have hall : ∀ v < 32, base32Alphabet.idxOf? (base32Letter v) = some v := by
    simp only [base32Letter, base32Alphabet_codes]
    decide
  exact hall v h

theorem base32Letter_mem {v : Nat} (h : v < 32) : base32Letter v ∈ base32Alphabet :=
  List.mem_iff_getElem?.2 ⟨v, by
    have hlt : v < base32Alphabet.length := by rwa [base32Alphabet_codes]
    rw [base32Letter, List.getD_eq_getElem?_getD, List.getElem?_eq_getElem hlt]
    rfl⟩

theorem mem_alphabet {unit : UInt16} (h : unit ∈ base32Alphabet) :
    ∃ v < 32, base32Letter v = unit := by
  obtain ⟨v, hv, rfl⟩ := List.mem_iff_getElem.1 h
  refine ⟨v, by rwa [base32Alphabet_codes] at hv, ?_⟩
  rw [base32Letter, List.getD_eq_getElem?_getD, List.getElem?_eq_getElem hv]
  rfl

/-- The letters are ASCII, none of them is small, and none of them is the padding. -/
theorem alphabet_ascii {unit : UInt16} (h : unit ∈ base32Alphabet) :
    unit < 128 ∧ ¬(97 ≤ unit ∧ unit ≤ 122) ∧ unit ≠ 0x3d := by
  rw [base32Alphabet_codes, List.mem_map] at h
  obtain ⟨code, hcode, rfl⟩ := h
  simp only [List.mem_append, List.mem_range'_1] at hcode
  have hmod : code % 2 ^ 16 = code := Nat.mod_eq_of_lt (by omega)
  simp only [ne_eq, ← UInt16.toNat_inj, UInt16.lt_iff_toNat_lt, UInt16.le_iff_toNat_le,
    UInt16.toNat_ofNat', UInt16.reduceToNat, hmod]
  omega

/-- A text in the alphabet is made of groups of five bits. -/
theorem exists_numbers {data : JsString} (h : ∀ unit ∈ data, unit ∈ base32Alphabet) :
    ∃ numbers : List Nat, (∀ v ∈ numbers, v < 32) ∧ numbers.map base32Letter = data := by
  induction data with
  | nil => exact ⟨[], by simp, rfl⟩
  | cons unit data ih =>
    obtain ⟨v, hv, rfl⟩ := mem_alphabet (h unit List.mem_cons_self)
    obtain ⟨numbers, hlt, rfl⟩ := ih fun u hu => h u (List.mem_cons_of_mem _ hu)
    exact ⟨v :: numbers, List.forall_mem_cons.2 ⟨hv, hlt⟩, rfl⟩

theorem map_letter_inj {xs ys : List Nat} (hx : ∀ v ∈ xs, v < 32) (hy : ∀ v ∈ ys, v < 32)
    (h : xs.map base32Letter = ys.map base32Letter) : xs = ys := by
  induction xs generalizing ys with
  | nil => exact (List.map_eq_nil_iff.1 h.symm).symm
  | cons x xs ih =>
    cases ys with
    | nil => cases h
    | cons y ys =>
      rw [List.map_cons, List.map_cons, List.cons.injEq] at h
      have hx' := List.forall_mem_cons.1 hx
      have hy' := List.forall_mem_cons.1 hy
      have hhead := congrArg base32Alphabet.idxOf? h.1
      rw [idxOf_base32Letter hx'.1, idxOf_base32Letter hy'.1] at hhead
      rw [Option.some.inj hhead, ih hx'.2 hy'.2 h.2]

/-! ## The bits of bytes -/

@[simp] theorem byteBits_nil : byteBits [] = [] := rfl

@[simp] theorem byteBits_append (xs ys : List UInt8) :
    byteBits (xs ++ ys) = byteBits xs ++ byteBits ys := List.flatMap_append

theorem byteBits_eq (bytes : List UInt8) :
    byteBits bytes = (bytes.map UInt8.toNat).flatMap (bits 8) :=
  (List.flatMap_map ..).symm

@[simp] theorem length_byteBits (bytes : List UInt8) :
    (byteBits bytes).length = 8 * bytes.length := by
  rw [byteBits_eq, length_flatMap_bits, List.length_map]

theorem byteBits_inj {xs ys : List UInt8} (h : byteBits xs = byteBits ys) : xs = ys := by
  have hlength := congrArg List.length h
  rw [length_byteBits, length_byteBits] at hlength
  rw [byteBits_eq, byteBits_eq] at h
  have hlt (bytes : List UInt8) : ∀ n ∈ bytes.map UInt8.toNat, n < 2 ^ 8 := by
    intro n hn
    obtain ⟨byte, -, rfl⟩ := List.mem_map.1 hn
    exact byte.toNat_lt
  have hmap := flatMap_bits_inj (by rw [List.length_map, List.length_map]; omega) (hlt xs) (hlt ys) h
  exact List.map_injective_iff.2 (fun a b => UInt8.toNat_inj.1) hmap

theorem byteBits_singleton {n : Nat} (h : n < 256) : byteBits [UInt8.ofNat n] = bits 8 n := by
  rw [byteBits, List.flatMap_singleton, UInt8.toNat_ofNat', Nat.mod_eq_of_lt h]

/-! ## The encoding -/

theorem length_base32 (bytes : List UInt8) :
    (base32 bytes).length = (8 * bytes.length + 4) / 5 := by
  rw [base32, List.length_map, length_groups, length_byteBits]

theorem base32_mem {bytes : List UInt8} {unit : UInt16} (h : unit ∈ base32 bytes) :
    unit ∈ base32Alphabet := by
  obtain ⟨v, hv, rfl⟩ := List.mem_map.1 h
  exact base32Letter_mem (groups_lt hv)

/-- **The encoding is the only text with the bits of the bytes**, and fewer than five zeros. -/
theorem eq_base32 {numbers : List Nat} {bytes : List UInt8} {zeros : Nat} (hzeros : zeros < 5)
    (hlt : ∀ v ∈ numbers, v < 32)
    (h : numbers.flatMap (bits 5) = byteBits bytes ++ List.replicate zeros false) :
    numbers.map base32Letter = base32 bytes := by
  rw [base32, ← eq_groups hzeros hlt h]

/-- The bits of the encoding. -/
theorem base32_bits {numbers : List Nat} {bytes : List UInt8} (hlt : ∀ v ∈ numbers, v < 32)
    (h : numbers.map base32Letter = base32 bytes) :
    ∃ zeros < 5, numbers.flatMap (bits 5) = byteBits bytes ++ List.replicate zeros false := by
  have hnumbers : numbers = groups 5 (byteBits bytes) :=
    map_letter_inj hlt (fun v hv => groups_lt hv) h
  exact ⟨_, filling_lt _ (by decide), by rw [hnumbers, flatMap_groups _ (by decide)]⟩

/-- A byte string is known from its bits with fewer than eight zeros after them. -/
theorem bytes_of_bits {xs ys : List UInt8} {below : List Bool} {zeros : Nat}
    (hbelow : below.length < 8) (hzeros : zeros < 8)
    (h : byteBits xs ++ below = byteBits ys ++ List.replicate zeros false) :
    xs = ys ∧ below = List.replicate zeros false := by
  have hlength := congrArg List.length h
  simp only [List.length_append, length_byteBits, List.length_replicate] at hlength
  obtain ⟨hbytes, hrest⟩ := List.append_inj h (by rw [length_byteBits, length_byteBits]; omega)
  exact ⟨byteBits_inj hbytes, hrest⟩

/-- The encoding tells the byte strings apart. -/
theorem base32_inj {xs ys : List UInt8} (h : base32 xs = base32 ys) : xs = ys := by
  obtain ⟨zeros, hzeros, hx⟩ := base32_bits (fun v hv => groups_lt hv) (h := (rfl : _ = base32 xs))
  obtain ⟨zeros', hzeros', hy⟩ := base32_bits (fun v hv => groups_lt hv) (h : _ = base32 ys)
  rw [hx] at hy
  exact (bytes_of_bits (by rw [List.length_replicate]; omega) (by omega) hy).1

/-- The padding is not a letter. -/
theorem takeWhile_base32 (bytes : List UInt8) (n : Nat) :
    (base32 bytes ++ List.replicate n 0x3d).takeWhile (· != 0x3d) = base32 bytes ∧
      (base32 bytes ++ List.replicate n 0x3d).dropWhile (· != 0x3d) = List.replicate n 0x3d := by
  have hdata : ∀ unit ∈ base32 bytes, (unit != 0x3d) = true := by
    intro unit hunit
    exact bne_iff_ne.2 (alphabet_ascii (base32_mem hunit)).2.2
  rw [List.takeWhile_append_of_pos hdata, List.dropWhile_append_of_pos hdata]
  cases n <;> simp [List.replicate_succ]

theorem isBase32_iff {text : JsString} {bytes : List UInt8} :
    IsBase32 text bytes ↔ ∃ n, (n = 0 ∨ n = (8 - (base32 bytes).length % 8) % 8) ∧
      text = base32 bytes ++ List.replicate n 0x3d := by
  constructor
  · rintro (rfl | rfl)
    · exact ⟨0, .inl rfl, by simp⟩
    · exact ⟨_, .inr rfl, rfl⟩
  · rintro ⟨n, rfl | rfl, rfl⟩
    · exact .inl (by simp)
    · exact .inr rfl

/-- **A text is the encoding of one byte string only.** -/
theorem IsBase32.unique {text : JsString} {xs ys : List UInt8} (hx : IsBase32 text xs)
    (hy : IsBase32 text ys) : xs = ys := by
  obtain ⟨n, -, rfl⟩ := isBase32_iff.1 hx
  obtain ⟨m, -, h⟩ := isBase32_iff.1 hy
  have hdata := congrArg (List.takeWhile (· != 0x3d)) h
  rw [(takeWhile_base32 xs n).1, (takeWhile_base32 ys m).1] at hdata
  exact base32_inj hdata

theorem IsBase32.ascii {text : JsString} {bytes : List UInt8} (h : IsBase32 text bytes) :
    ∀ unit ∈ text, unit < 128 := by
  obtain ⟨n, -, rfl⟩ := isBase32_iff.1 h
  intro unit hunit
  rcases List.mem_append.1 hunit with hunit | hunit
  · exact (alphabet_ascii (base32_mem hunit)).1
  · rw [List.eq_of_mem_replicate hunit]
    decide

/-! ## The decoder -/

/-- **The loop keeps the bits**: those it has written and those it holds are those it was given. -/
theorem decodeBase32Loop_bits {numbers : List Nat} (hlt : ∀ v ∈ numbers, v < 32)
    (output : List UInt8) {buffer held : Nat} (hheld : held < 8) (hbuffer : buffer < 2 ^ held) :
    ∃ output' buffer' held', decodeBase32Loop (numbers.map base32Letter) output buffer held =
        some (output', buffer', held') ∧ held' < 8 ∧ buffer' < 2 ^ held' ∧
      byteBits output' ++ bits held' buffer' =
        byteBits output ++ bits held buffer ++ numbers.flatMap (bits 5) := by
  induction numbers generalizing output buffer held with
  | nil => exact ⟨output, buffer, held, rfl, hheld, hbuffer, by simp⟩
  | cons v numbers ih =>
    obtain ⟨hv, hrest⟩ := List.forall_mem_cons.1 hlt
    have hpushed : bits held buffer ++ bits 5 v = bits (held + 5) (buffer * 32 + v) :=
      (bits_append held buffer hv).symm
    simp only [List.map_cons, decodeBase32Loop, idxOf_base32Letter hv, Option.bind_eq_bind,
      Option.bind_some, List.flatMap_cons]
    rw [← List.append_assoc, List.append_assoc (byteBits output), hpushed]
    split
    · rename_i hfull
      have hsplit : held + 5 = 8 + (held + 5 - 8) := by omega
      have hnumber : buffer * 32 + v < 2 ^ (held + 5) := by
        rw [Nat.pow_add]
        omega
      have hbyte : (buffer * 32 + v) / 2 ^ (held + 5 - 8) < 256 := by
        rw [Nat.div_lt_iff_lt_mul (Nat.two_pow_pos _)]
        calc buffer * 32 + v < 2 ^ (held + 5) := hnumber
          _ = 256 * 2 ^ (held + 5 - 8) := by rw [hsplit, Nat.pow_add, Nat.add_sub_cancel_left]
      obtain ⟨output', buffer', held', hloop, hheld', hbuffer', hbits⟩ :=
        ih hrest (output ++ [UInt8.ofNat ((buffer * 32 + v) / 2 ^ (held + 5 - 8))])
          (by omega) (Nat.mod_lt (buffer * 32 + v) (Nat.two_pow_pos (held + 5 - 8)))
      refine ⟨output', buffer', held', hloop, hheld', hbuffer', ?_⟩
      rw [hbits, byteBits_append, byteBits_singleton hbyte, bits_mod, List.append_assoc (byteBits _),
        ← bits_add, ← hsplit]
    · rename_i hfew
      have hnumber : buffer * 32 + v < 2 ^ (held + 5) := by
        rw [Nat.pow_add]
        omega
      exact ih hrest output (by omega) hnumber

/-- The loop over the letters of an encoding. -/
theorem decodeBase32Loop_base32 (bytes : List UInt8) :
    ∃ held, decodeBase32Loop (base32 bytes) [] 0 0 = some (bytes, 0, held) := by
  have hlt : ∀ v ∈ groups 5 (byteBits bytes), v < 32 := fun v hv => groups_lt hv
  obtain ⟨zeros, hzeros, hgroups⟩ := base32_bits hlt (rfl : _ = base32 bytes)
  obtain ⟨output, buffer, held, hloop, hheld, hbuffer, hbits⟩ :=
    decodeBase32Loop_bits hlt [] (by decide : 0 < 8) (by decide : 0 < 2 ^ 0)
  rw [hgroups] at hbits
  obtain ⟨rfl, hzero⟩ := bytes_of_bits (by rwa [length_bits]) (by omega) hbits
  obtain rfl := eq_zero_of_bits hbuffer hzero
  exact ⟨held, hloop⟩

/-- The remainders that an encoding leaves, and the padding that each needs. -/
theorem requiredPadding_iff {n padding : Nat} :
    requiredPaddingByRemainder (n % 8) = some padding ↔
      (n % 8 = 0 ∨ n % 8 = 2 ∨ n % 8 = 4 ∨ n % 8 = 5 ∨ n % 8 = 7) ∧
        padding = (8 - n % 8) % 8 := by
  have hlt : n % 8 < 8 := Nat.mod_lt n (by decide)
  generalize n % 8 = remainder at hlt
  have hall : ∀ remainder < 8, requiredPaddingByRemainder remainder =
      if remainder = 0 ∨ remainder = 2 ∨ remainder = 4 ∨ remainder = 5 ∨ remainder = 7 then
        some ((8 - remainder) % 8)
      else none := by decide
  rw [hall remainder hlt]
  split
  · rename_i hremainder
    simp [hremainder, eq_comm]
  · rename_i hremainder
    simp [hremainder]

/-- What `decodeBase32Secret` accepts is the encoding of what it returns. -/
theorem isBase32_of_decode {map : JsString → JsString} {value : JsString} {bytes : List UInt8}
    (h : decodeBase32Secret map value = .ok bytes) : bytes ≠ [] ∧ IsBase32 (map value) bytes := by
  unfold decodeBase32Secret at h
  dsimp only at h
  generalize htext : map value = text at h
  generalize hdata : text.takeWhile (· != 0x3d) = data at h
  generalize hpadding : text.dropWhile (· != 0x3d) = padding at h
  have hwhole : text = data ++ padding := by rw [← hdata, ← hpadding, List.takeWhile_append_dropWhile]
  split at h
  · cases h
  rename_i hform
  simp only [not_or, not_and, List.any_eq_true, not_exists, Bool.not_eq_true', List.contains_eq_mem,
    decide_eq_false_iff_not, not_not, bne_iff_ne, ne_eq] at hform
  obtain ⟨-, hletters, hequals, hremainder, hlength⟩ := hform
  obtain ⟨numbers, hlt, rfl⟩ := exists_numbers fun unit hunit => hletters unit hunit
  obtain ⟨output, buffer, held, hloop, hheld, hbuffer, hbits⟩ :=
    decodeBase32Loop_bits hlt [] (by decide : 0 < 8) (by decide : 0 < 2 ^ 0)
  simp only [hloop] at h
  split at h
  · cases h
  rename_i hzero
  split at h
  · cases h
  rename_i houtput
  cases h
  -- No bit is lost: the buffer holds zeros, and fewer than five of them.
  have hzeros : buffer = 0 := by
    rcases Nat.eq_zero_or_pos held with rfl | hpos
    · omega
    · exact not_not.1 fun hne => hzero ⟨hpos, hne⟩
  subst hzeros
  obtain ⟨required, hrequired⟩ := Option.ne_none_iff_exists'.1 hremainder
  rw [List.length_map] at hrequired hlength
  obtain ⟨hrest, -⟩ := requiredPadding_iff.1 hrequired
  rw [byteBits_nil, List.nil_append, bits, List.nil_append, bits_zero] at hbits
  have hcount := congrArg List.length hbits
  simp only [List.length_append, length_byteBits, List.length_replicate,
    length_flatMap_bits] at hcount
  have hnumbers := eq_base32 (by omega) hlt hbits.symm
  refine ⟨fun hnil => houtput (by rw [hnil]; rfl), isBase32_iff.2 ⟨padding.length, ?_, ?_⟩⟩
  · rcases Nat.eq_zero_or_pos padding.length with hnone | hsome
    · exact .inl hnone
    · rw [← hnumbers, List.length_map]
      exact .inr (requiredPadding_iff.1 (hlength hsome)).2
  · rw [hwhole, hnumbers, ← List.eq_replicate_iff.2 ⟨rfl, hequals⟩]

/-- An encoding is accepted, and the bytes are returned. -/
theorem decode_of_isBase32 {map : JsString → JsString} {value : JsString} {bytes : List UInt8}
    (hne : bytes ≠ []) (h : IsBase32 (map value) bytes) :
    decodeBase32Secret map value = .ok bytes := by
  obtain ⟨n, hn, htext⟩ := isBase32_iff.1 h
  obtain ⟨hdata, hpadding⟩ := takeWhile_base32 bytes n
  obtain ⟨held, hloop⟩ := decodeBase32Loop_base32 bytes
  have hlength := length_base32 bytes
  have hpos : bytes.length ≠ 0 := fun hzero => hne (List.eq_nil_of_length_eq_zero hzero)
  have hrequired : requiredPaddingByRemainder ((base32 bytes).length % 8) =
      some ((8 - (base32 bytes).length % 8) % 8) :=
    requiredPadding_iff.2 ⟨by omega, rfl⟩
  have hletters : (base32 bytes).any (fun unit => !base32Alphabet.contains unit) = false := by
    rw [List.any_eq_false]
    intro unit hunit
    simp [base32_mem hunit]
  have hequals : (List.replicate n (0x3d : UInt16)).any (· != 0x3d) = false := by simp
  unfold decodeBase32Secret
  dsimp only
  rw [htext, hdata, hpadding, if_neg]
  · simp only [hloop]
    rw [if_neg (by simp), if_neg hpos]
  · rw [hrequired, hletters, hequals, List.length_replicate]
    simp only [Bool.false_eq_true, reduceCtorEq, false_or, not_or, not_and, ne_eq,
      Option.some.injEq, not_not]
    exact ⟨by omega, fun hn0 => by omega⟩

/-! ## The encoder -/

theorem shiftLeft_or_byte (buffer : Nat) (byte : UInt8) :
    (buffer <<< 8) ||| byte.toNat = buffer * 2 ^ 8 + byte.toNat := by
  rw [← Nat.shiftLeft_add_eq_or_of_lt byte.toNat_lt, Nat.shiftLeft_eq]

/-- **The inner loop keeps the bits**, and leaves fewer than five of them. -/
theorem drainBase32_bits (output : JsString) {buffer held : Nat} (hbuffer : buffer < 2 ^ held) :
    ∃ (numbers : List Nat) (buffer' held' : Nat), drainBase32 output buffer held =
        (output ++ numbers.map base32Letter, buffer', held') ∧ (∀ v ∈ numbers, v < 32) ∧
      held' < 5 ∧ buffer' < 2 ^ held' ∧
      numbers.flatMap (bits 5) ++ bits held' buffer' = bits held buffer := by
  induction held using Nat.strong_induction_on generalizing output buffer with
  | h held ih =>
    rcases Nat.lt_or_ge held 5 with hfew | hfull
    · refine ⟨[], buffer, held, ?_, by simp, hfew, hbuffer, by simp⟩
      rw [List.map_nil, List.append_nil]
      match held, hfew with
      | 0, _ | 1, _ | 2, _ | 3, _ | 4, _ => rfl
    · obtain ⟨rest, rfl⟩ := Nat.exists_eq_add_of_le' hfull
      have hmask : buffer &&& ((1 <<< rest) - 1) = buffer % 2 ^ rest := by
        rw [Nat.one_shiftLeft, Nat.and_two_pow_sub_one_eq_mod]
      have hletter : (buffer >>> rest) &&& 0x1f = buffer / 2 ^ rest := by
        have hlt : buffer / 2 ^ rest < 2 ^ 5 := by
          rw [Nat.div_lt_iff_lt_mul (Nat.two_pow_pos rest), ← Nat.pow_add, Nat.add_comm]
          exact hbuffer
        rw [Nat.shiftRight_eq_div_pow, Nat.and_two_pow_sub_one_eq_mod _ 5, Nat.mod_eq_of_lt hlt]
      obtain ⟨numbers, buffer', held', hdrain, hlt, hheld', hbuffer', hbits⟩ :=
        ih rest (by omega) (output ++ [base32Letter (buffer / 2 ^ rest)])
          (Nat.mod_lt buffer (Nat.two_pow_pos rest))
      refine ⟨buffer / 2 ^ rest :: numbers, buffer', held', ?_, ?_, hheld', hbuffer', ?_⟩
      · rw [drainBase32, hletter, hmask, hdrain, List.append_assoc]
        rfl
      · refine List.forall_mem_cons.2 ⟨?_, hlt⟩
        rw [Nat.div_lt_iff_lt_mul (Nat.two_pow_pos rest)]
        rw [Nat.pow_add] at hbuffer
        omega
      · rw [List.flatMap_cons, List.append_assoc, hbits, bits_mod, ← bits_add, Nat.add_comm]

/-- **The outer loop keeps the bits** of the bytes. -/
theorem encodeBase32Loop_bits (bytes : List UInt8) (output : JsString) {buffer held : Nat}
    (hheld : held < 5) (hbuffer : buffer < 2 ^ held) :
    ∃ (numbers : List Nat) (buffer' held' : Nat), encodeBase32Loop bytes output buffer held =
        (output ++ numbers.map base32Letter, buffer', held') ∧ (∀ v ∈ numbers, v < 32) ∧
      held' < 5 ∧ buffer' < 2 ^ held' ∧
      numbers.flatMap (bits 5) ++ bits held' buffer' = bits held buffer ++ byteBits bytes := by
  induction bytes generalizing output buffer held with
  | nil => exact ⟨[], buffer, held, by simp [encodeBase32Loop], by simp, hheld, hbuffer, by simp⟩
  | cons byte bytes ih =>
    have hpushed : bits (held + 8) ((buffer <<< 8) ||| byte.toNat) =
        bits held buffer ++ bits 8 byte.toNat := by
      rw [shiftLeft_or_byte]
      exact bits_append held buffer byte.toNat_lt
    have hlt : (buffer <<< 8) ||| byte.toNat < 2 ^ (held + 8) := by
      have hbyte : byte.toNat < 2 ^ 8 := byte.toNat_lt
      rw [shiftLeft_or_byte, Nat.pow_add]
      calc buffer * 2 ^ 8 + byte.toNat < (buffer + 1) * 2 ^ 8 := by omega
        _ ≤ 2 ^ held * 2 ^ 8 := Nat.mul_le_mul_right _ hbuffer
    obtain ⟨numbers, buffer', held', hdrain, hnumbers, hheld', hbuffer', hbits⟩ :=
      drainBase32_bits output hlt
    obtain ⟨rest, buffer'', held'', hloop, hrest, hheld'', hbuffer'', hbits'⟩ :=
      ih (output ++ numbers.map base32Letter) hheld' hbuffer'
    refine ⟨numbers ++ rest, buffer'', held'', ?_, ?_, hheld'', hbuffer'', ?_⟩
    · rw [encodeBase32Loop, hdrain, List.map_append, ← List.append_assoc]
      exact hloop
    · intro v hv
      rcases List.mem_append.1 hv with hv | hv
      · exact hnumbers v hv
      · exact hrest v hv
    · rw [List.flatMap_append, List.append_assoc, hbits', ← List.append_assoc, hbits, hpushed,
        List.append_assoc]
      rfl

/-- **`encodeBase32Secret` writes the encoding without padding.** -/
theorem encodeBase32Secret_eq {bytes : List UInt8} (hne : bytes ≠ []) :
    encodeBase32Secret bytes = .ok (base32 bytes) := by
  obtain ⟨numbers, buffer, held, hloop, hlt, hheld, hbuffer, hbits⟩ :=
    encodeBase32Loop_bits bytes [] (by decide : 0 < 5) (by decide : 0 < 2 ^ 0)
  rw [bits, List.nil_append] at hbits
  have hpos : bytes.length ≠ 0 := fun hzero => hne (List.eq_nil_of_length_eq_zero hzero)
  rw [encodeBase32Secret, if_neg hpos, hloop]
  dsimp only
  rw [List.nil_append]
  split
  · -- The bits that are left are filled with zeros.
    have hlast : buffer * 2 ^ (5 - held) < 2 ^ 5 := by
      calc buffer * 2 ^ (5 - held) < 2 ^ held * 2 ^ (5 - held) :=
            Nat.mul_lt_mul_of_pos_right hbuffer (Nat.two_pow_pos _)
        _ = 2 ^ 5 := by rw [← Nat.pow_add, Nat.add_sub_cancel' (by omega)]
    have hletter : (buffer <<< (5 - held)) &&& 0x1f = buffer * 2 ^ (5 - held) := by
      rw [Nat.shiftLeft_eq, Nat.and_two_pow_sub_one_eq_mod _ 5, Nat.mod_eq_of_lt hlast]
    have hfilled : bits 5 (buffer * 2 ^ (5 - held)) =
        bits held buffer ++ List.replicate (5 - held) false := by
      rw [← bits_shift, Nat.add_sub_cancel' (by omega)]
    have hall : ∀ v ∈ numbers ++ [buffer * 2 ^ (5 - held)], v < 32 := by
      intro v hv
      rcases List.mem_append.1 hv with hv | hv
      · exact hlt v hv
      · rwa [List.mem_singleton.1 hv]
    have hwritten : (numbers ++ [buffer * 2 ^ (5 - held)]).flatMap (bits 5) =
        byteBits bytes ++ List.replicate (5 - held) false := by
      rw [List.flatMap_append, List.flatMap_singleton, hfilled, ← List.append_assoc, hbits]
    rw [hletter, ← eq_base32 (by omega) hall hwritten, List.map_append]
    rfl
  · have hzero : held = 0 := by omega
    subst hzero
    rw [bits, List.append_nil] at hbits
    rw [← eq_base32 (by decide : 0 < 5) hlt (by simpa using hbits)]

/-! ## Case mapping -/

theorem fromCodePoint_small {c : Nat} (h : c < 0x10000) : fromCodePoint c = [UInt16.ofNat c] :=
  if_pos h

/-- The units of a code point outside ASCII are outside ASCII. -/
theorem fromCodePoint_ascii {c : Nat} (h : ∀ unit ∈ fromCodePoint c, unit < 128) : c < 128 := by
  unfold fromCodePoint at h
  split at h
  · have hunit := h _ List.mem_cons_self
    rw [UInt16.lt_iff_toNat_lt, UInt16.toNat_ofNat'] at hunit
    have h128 : (128 : UInt16).toNat = 128 := rfl
    omega
  · have hunit := h _ (List.mem_cons_of_mem _ List.mem_cons_self)
    rw [UInt16.lt_iff_toNat_lt, UInt16.toNat_ofNat'] at hunit
    have h128 : (128 : UInt16).toNat = 128 := rfl
    omega

/-- A code point is one unit, or a pair that begins with a lead surrogate. -/
theorem codePoints_cases {value point : JsString} (h : point ∈ codePoints value) :
    (∃ unit, point = [unit]) ∨
      ∃ lead trail, Unicode.isLead lead = true ∧ point = [lead, trail] := by
  induction value using codePoints.induct with
  | case1 => simp [codePoints] at h
  | case2 unit => exact .inl ⟨unit, by simpa [codePoints] using h⟩
  | case3 lead trail rest hpair ih =>
    rw [codePoints, if_pos hpair] at h
    rcases List.mem_cons.1 h with rfl | h
    · exact .inr ⟨lead, trail, (Bool.and_eq_true _ _ ▸ hpair).1, rfl⟩
    · exact ih h
  | case4 lead trail rest hpair ih =>
    rw [codePoints, if_neg hpair] at h
    rcases List.mem_cons.1 h with rfl | h
    · exact .inl ⟨lead, rfl⟩
    · exact ih h

theorem flatten_codePoints (value : JsString) : (codePoints value).flatten = value := by
  induction value using codePoints.induct with
  | case1 => rfl
  | case2 unit => rfl
  | case3 lead trail rest hpair ih =>
    rw [codePoints, if_pos hpair, List.flatten_cons, ih]
    rfl
  | case4 lead trail rest hpair ih =>
    rw [codePoints, if_neg hpair, List.flatten_cons, ih]
    rfl

theorem isLead_not_ascii {unit : UInt16} (h : Unicode.isLead unit = true) :
    0xd800 ≤ unit.toNat := by
  simp only [Unicode.isLead, Bool.and_eq_true, decide_eq_true_eq, UInt16.le_iff_toNat_le] at h
  exact h.1

/-- Without surrogates a unit is a code point. -/
theorem codePoints_eq {value : JsString} (h : ∀ unit ∈ value, Unicode.isLead unit = false) :
    codePoints value = value.map ([·]) := by
  induction value using codePoints.induct with
  | case1 => rfl
  | case2 unit => rfl
  | case3 lead trail rest hpair ih =>
    rw [h lead List.mem_cons_self] at hpair
    cases hpair
  | case4 lead trail rest hpair ih =>
    rw [codePoints, if_neg hpair, ih fun u hu => h u (List.mem_cons_of_mem _ hu)]
    rfl

/-- An ASCII character, or one that has ASCII letters as its upper case. -/
def Spells (unit : UInt16) : Prop := unit < 128 ∨ isAsciiForm unit = true

theorem asciiForm_of_form {unit : UInt16} (h : isAsciiForm unit = true) :
    ∃ letters, (unit.toNat, letters) ∈ Unicode.asciiForms ∧
      asciiForm unit = letters.map UInt16.ofNat := by
  obtain ⟨letters, hletters⟩ := Option.isSome_iff_exists.1 h
  obtain ⟨before, after, hsplit, -⟩ := List.lookup_eq_some_iff.1 hletters
  refine ⟨letters, by rw [hsplit]; simp, ?_⟩
  rw [asciiForm, hletters]

theorem asciiForm_of_not {unit : UInt16} (h : isAsciiForm unit = false) :
    asciiForm unit = [unit] := by
  unfold isAsciiForm at h
  unfold asciiForm
  cases hlookup : Unicode.asciiForms.lookup unit.toNat with
  | none => rfl
  | some letters =>
    rw [hlookup] at h
    cases h

theorem isAsciiForm_of_mem {unit : UInt16} {letters : List Nat}
    (h : (unit.toNat, letters) ∈ Unicode.asciiForms) : isAsciiForm unit = true := by
  have hall : ∀ form ∈ Unicode.asciiForms, (Unicode.asciiForms.lookup form.1).isSome = true := by
    decide
  exact hall _ h

/-- The characters of `asciiForms` are outside ASCII, and are not surrogates. -/
theorem isAsciiForm_range {unit : UInt16} (h : isAsciiForm unit = true) :
    128 ≤ unit.toNat ∧ Unicode.isLead unit = false := by
  have hall : ∀ form ∈ Unicode.asciiForms, 128 ≤ form.1 ∧ (form.1 < 0xd800 ∨ 0xdbff < form.1) := by
    decide
  obtain ⟨letters, hmem, -⟩ := asciiForm_of_form h
  obtain ⟨hlarge, hsurrogate⟩ := hall _ hmem
  refine ⟨hlarge, ?_⟩
  rw [Unicode.isLead, Bool.and_eq_false_iff, decide_eq_false_iff_not, decide_eq_false_iff_not,
    UInt16.le_iff_toNat_le, UInt16.le_iff_toNat_le]
  rcases hsurrogate with hlow | hhigh
  · exact .inl (Nat.not_le.2 hlow)
  · exact .inr (Nat.not_le.2 hhigh)

theorem asciiUpper_singleton {unit : UInt16} (h : unit < 128) :
    asciiUpper [unit] =
      [UInt16.ofNat (if 97 ≤ unit.toNat ∧ unit.toNat ≤ 122 then unit.toNat - 32 else unit.toNat)] := by
  have hall : ∀ n < 128, asciiUpper [UInt16.ofNat n] =
      [UInt16.ofNat (if 97 ≤ n ∧ n ≤ 122 then n - 32 else n)] := by decide +kernel
  have hunit := hall unit.toNat (UInt16.lt_iff_toNat_lt.1 h)
  rwa [UInt16.ofNat_toNat] at hunit

/-- The upper case of such a character is the letters that stand for it. -/
theorem upperCase_of_spells {unit : UInt16} (h : Spells unit) :
    (Unicode.upperCase unit.toNat).flatMap fromCodePoint = asciiUpper (asciiForm unit) := by
  cases hform : isAsciiForm unit with
  | true =>
    have hall : ∀ form ∈ Unicode.asciiForms,
        form.2.flatMap fromCodePoint = asciiUpper (form.2.map UInt16.ofNat) := by decide
    obtain ⟨letters, hmem, hletters⟩ := asciiForm_of_form hform
    rw [Unicode.upperCase_asciiForms hmem, hletters]
    exact hall _ hmem
  | false =>
    have hascii : unit < 128 := h.resolve_right (by rw [hform]; decide)
    have hlt : unit.toNat < 128 := UInt16.lt_iff_toNat_lt.1 hascii
    rw [asciiForm_of_not hform, asciiUpper_singleton hascii, Unicode.upperCase_of_ascii hlt,
      List.flatMap_singleton, fromCodePoint_small (by split <;> omega)]

theorem asciiUpper_flatMap (value : JsString) (f : UInt16 → JsString) :
    asciiUpper (value.flatMap f) = value.flatMap fun unit => asciiUpper (f unit) := by
  rw [asciiUpper, List.map_flatMap]
  rfl

/-- A text of such characters is mapped to the letters that stand for them. -/
theorem toUpperCase_of_spells {value : JsString} (h : ∀ unit ∈ value, Spells unit) :
    toUpperCase value = asciiLetters value := by
  have hlead : ∀ unit ∈ value, Unicode.isLead unit = false := by
    intro unit hunit
    rcases h unit hunit with hascii | hform
    · rw [← Bool.not_eq_true]
      intro htrue
      have hlarge := isLead_not_ascii htrue
      have hsmall : unit.toNat < 128 := UInt16.lt_iff_toNat_lt.1 hascii
      omega
    · exact (isAsciiForm_range hform).2
  rw [toUpperCase, codePoints_eq hlead, List.flatMap_map, asciiLetters, asciiUpper_flatMap]
  exact List.flatMap_congr fun unit hunit => upperCase_of_spells (h unit hunit)

/-- **What is ASCII in upper case is made of such characters.** -/
theorem spells_of_toUpperCase {value : JsString} (h : ∀ unit ∈ toUpperCase value, unit < 128) :
    ∀ unit ∈ value, Spells unit := by
  intro unit hunit
  rw [← flatten_codePoints value] at hunit
  obtain ⟨point, hpoint, hin⟩ := List.mem_flatten.1 hunit
  have himage : ∀ d ∈ Unicode.upperCase (codePointAt point), d < 128 := by
    intro d hd
    refine fromCodePoint_ascii fun u hu => h u ?_
    exact List.mem_flatMap.2 ⟨point, hpoint, List.mem_flatMap.2 ⟨d, hd, hu⟩⟩
  rcases codePoints_cases hpoint with ⟨single, rfl⟩ | ⟨lead, trail, hlead, rfl⟩
  · rw [List.mem_singleton.1 hin]
    rcases Unicode.upperCase_cases himage with hascii | hform
    · exact .inl (UInt16.lt_iff_toNat_lt.2 hascii)
    · exact .inr (isAsciiForm_of_mem hform)
  · -- A code point outside the basic plane is neither.
    have hlarge : 0x10000 ≤ codePointAt [lead, trail] :=
      Nat.le_add_right_of_le (Nat.le_add_right _ _)
    have hall : ∀ form ∈ Unicode.asciiForms, form.1 < 0x10000 := by decide +kernel
    rcases Unicode.upperCase_cases himage with hascii | hform
    · omega
    · have hsmall := hall _ hform
      omega

theorem asciiUpper_ascii {value : JsString} (h : ∀ unit ∈ asciiUpper value, unit < 128) :
    ∀ unit ∈ value, unit < 128 := by
  intro unit hunit
  have hmapped := h _ (List.mem_map_of_mem hunit)
  split at hmapped
  · rename_i hsmall
    simp only [Bool.and_eq_true, decide_eq_true_eq] at hsmall
    exact UInt16.lt_of_le_of_lt hsmall.2 (by decide)
  · exact hmapped

theorem spells_of_asciiLetters {value : JsString} (h : ∀ unit ∈ asciiLetters value, unit < 128) :
    ∀ unit ∈ value, Spells unit := by
  intro unit hunit
  cases hform : isAsciiForm unit with
  | true => exact .inr hform
  | false =>
    refine .inl (asciiUpper_ascii h unit (List.mem_flatMap.2 ⟨unit, hunit, ?_⟩))
    rw [asciiForm_of_not hform]
    exact List.mem_singleton_self unit

/-- Without the characters of `asciiForms` only the case of ASCII letters is changed. -/
theorem asciiLetters_eq {value : JsString} (h : ∀ unit ∈ value, isAsciiForm unit = false) :
    asciiLetters value = asciiUpper value := by
  have hsame : value.flatMap asciiForm = value.flatMap ([·]) :=
    List.flatMap_congr fun unit hunit => asciiForm_of_not (h unit hunit)
  rw [asciiLetters, hsame, List.flatMap_singleton']

/-! ## What is accepted -/

/-- **The decoder reads the letters** that the characters stand for. -/
theorem decode_iff {value : JsString} {bytes : List UInt8} :
    decodeBase32Secret toUpperCase value = .ok bytes ↔
      bytes ≠ [] ∧ IsBase32 (asciiLetters value) bytes := by
  constructor
  · intro h
    obtain ⟨hne, hbase32⟩ := isBase32_of_decode h
    rw [toUpperCase_of_spells (spells_of_toUpperCase hbase32.ascii)] at hbase32
    exact ⟨hne, hbase32⟩
  · rintro ⟨hne, hbase32⟩
    refine decode_of_isBase32 hne ?_
    rwa [toUpperCase_of_spells (spells_of_asciiLetters hbase32.ascii)]

/-- An encoding is in capitals. -/
theorem asciiLetters_base32 (bytes : List UInt8) : asciiLetters (base32 bytes) = base32 bytes := by
  have hascii : ∀ unit ∈ base32 bytes, isAsciiForm unit = false := by
    intro unit hunit
    rw [← Bool.not_eq_true]
    intro hform
    have hlarge := (isAsciiForm_range hform).1
    have hsmall : unit.toNat < 128 :=
      UInt16.lt_iff_toNat_lt.1 (alphabet_ascii (base32_mem hunit)).1
    omega
  rw [asciiLetters_eq hascii, asciiUpper, ← List.map_id (base32 bytes), List.map_map]
  refine List.map_congr_left fun unit hunit => if_neg ?_
  simpa using (alphabet_ascii (base32_mem hunit)).2.1

/-- On this string the decoder accepts exactly the encodings: it returns the non-empty byte string
whose encoding the string is, in capitals, and reads nothing else as a letter. -/
structure AcceptsBase32 (value : JsString) : Prop where
  accepts : ∀ bytes, decodeBase32Secret toUpperCase value = .ok bytes ↔
    bytes ≠ [] ∧ IsBase32 (asciiUpper value) bytes
  ascii : ∀ bytes, decodeBase32Secret toUpperCase value = .ok bytes → ∀ unit ∈ value, unit < 128

/-- The text is read correctly unless it has one of the characters of `asciiForms` and is an encoding
with the letters that stand for them. -/
theorem acceptsBase32_iff (value : JsString) :
    AcceptsBase32 value ↔ (∀ unit ∈ value, isAsciiForm unit = false) ∨
      ¬∃ bytes, bytes ≠ [] ∧ IsBase32 (asciiLetters value) bytes := by
  -- An encoding has ASCII characters only, and none of `asciiForms` is ASCII.
  have hnone (hascii : ∀ unit ∈ value, unit < 128) : ∀ unit ∈ value, isAsciiForm unit = false := by
    intro unit hunit
    rw [← Bool.not_eq_true]
    intro hform
    have hlarge := (isAsciiForm_range hform).1
    have hsmall : unit.toNat < 128 := UInt16.lt_iff_toNat_lt.1 (hascii unit hunit)
    omega
  constructor
  · intro h
    by_cases hbytes : ∃ bytes, bytes ≠ [] ∧ IsBase32 (asciiLetters value) bytes
    · obtain ⟨bytes, hbase32⟩ := hbytes
      exact .inl (hnone (h.ascii bytes (decode_iff.2 hbase32)))
    · exact .inr hbytes
  · rintro (hplain | hreject)
    · have hiff (bytes : List UInt8) : decodeBase32Secret toUpperCase value = .ok bytes ↔
          bytes ≠ [] ∧ IsBase32 (asciiUpper value) bytes := by
        rw [decode_iff, asciiLetters_eq hplain]
      exact ⟨hiff, fun bytes hdecode => asciiUpper_ascii ((hiff bytes).1 hdecode).2.ascii⟩
    · refine ⟨fun bytes => ⟨fun hdecode => ?_, fun hbase32 => ?_⟩, fun bytes hdecode => ?_⟩
      · exact absurd ⟨bytes, decode_iff.1 hdecode⟩ hreject
      · have hplain := hnone (asciiUpper_ascii hbase32.2.ascii)
        rw [← asciiLetters_eq hplain] at hbase32
        exact absurd ⟨bytes, hbase32⟩ hreject
      · exact absurd ⟨bytes, decode_iff.1 hdecode⟩ hreject

/-- When a text is read as Base32; and that it encodes these bytes only, if at all, and that they are
read back from what is written for them. -/
structure Base32Secrets (value : JsString) (bytes : List UInt8) : Prop where
  accepts : AcceptsBase32 value ↔ (∀ unit ∈ value, isAsciiForm unit = false) ∨
    ¬∃ encoded, encoded ≠ [] ∧ IsBase32 (asciiLetters value) encoded
  unique : IsBase32 value bytes → ∀ other, IsBase32 value other → other = bytes
  roundTrip : bytes ≠ [] → ∃ text, encodeBase32Secret bytes = .ok text ∧
    decodeBase32Secret toUpperCase text = .ok bytes

/-- **Secrets are read as Base32**, but for the characters whose upper case is ASCII. -/
theorem base32_secrets (value : JsString) (bytes : List UInt8) : Base32Secrets value bytes where
  accepts := acceptsBase32_iff value
  unique := fun h _ hother => hother.unique h
  roundTrip := by
    intro hne
    refine ⟨base32 bytes, encodeBase32Secret_eq hne, decode_iff.2 ⟨hne, ?_⟩⟩
    rw [asciiLetters_base32]
    exact .inl rfl

/-- A dotless i is read as the letter I. -/
theorem acceptsBase32_dotless : ¬AcceptsBase32 [0x131, 0x41] := by
  intro h
  have hdecode : decodeBase32Secret toUpperCase [0x131, 0x41] = .ok [0x40] := by decide +kernel
  have hascii := h.ascii [0x40] hdecode 0x131 List.mem_cons_self
  exact absurd hascii (by decide)

end M5Auth.Web.Import
