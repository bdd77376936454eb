import Mathlib.Data.List.DropRight
import Mathlib.Data.List.TakeWhile
import TwoFactorLogin.Proofs.CodeGrammar
import TwoFactorLogin.Value.Printer
import TwoFactorLogin.Value.Reader

/-!
# Values are read back from their JSON text

A value without doubles is what its JSON text spells, whatever texts it holds and however deep it
goes: the reader gives it back, and nothing else has the same text.

**Texts.** A character is written as itself, as a letter behind a backslash, or by its UTF-16 units,
two of them beyond the basic plane. The reader collects units (`units`), and joins the pairs at the
end of the string.

**Numbers.** An integer is written as a numeral without needless zeros, with a minus in front if it
is negative.

**Arrays and objects.** The reader takes fuel, one for each level and each item. The text of a value
is at least as long as that, so its length is fuel enough (`readValue?_jsonAt`).

The main results are `ofJson?_json` and `json_inj`.
-/

namespace TwoFactorLogin

namespace Text

/-! ## Hexadecimal digits -/

/-- A padded numeral is that of a sixteenth of the number, and one digit more. -/
theorem hexDigits_succ {width : Nat} (hw : 0 < width) (n : Nat) :
    hexDigits (width + 1) n = hexDigits width (n / 16) ++ [Nat.digitChar (n % 16)] := by
  rw [hexDigits, hexDigits]
  by_cases hn : n < 16
  · rw [Nat.toDigits_of_lt_base hn, Nat.div_eq_of_lt hn, Nat.mod_eq_of_lt hn, Nat.toDigits_zero]
    obtain ⟨width, rfl⟩ : ∃ k, width = k + 1 := ⟨width - 1, by omega⟩
    simp [List.replicate_succ']
  · rw [Nat.toDigits_of_base_le (by decide) (by omega)]
    simp

theorem hexDigits_four {unit : Nat} (h : unit < 0x10000) :
    hexDigits 4 unit = [Nat.digitChar (unit / 16 / 16 / 16), Nat.digitChar (unit / 16 / 16 % 16),
      Nat.digitChar (unit / 16 % 16), Nat.digitChar (unit % 16)] := by
  have hone : hexDigits 1 (unit / 16 / 16 / 16) = [Nat.digitChar (unit / 16 / 16 / 16)] := by
    rw [hexDigits, Nat.toDigits_of_lt_base (by omega)]
    rfl
  rw [hexDigits_succ (by decide), hexDigits_succ (by decide), hexDigits_succ (by decide), hone]
  rfl

end Text

namespace Value

open Text

variable {cs rest : List Char} {c : Char}

theorem hexValue?_digitChar : ∀ d < 16, hexValue? (Nat.digitChar d) = some d := by
  decide

theorem readCodes?_unitEscape {unit : Nat} (h : unit < 0x10000) (rest : List Char) :
    readCodes? (unitEscape unit ++ rest) =
      (readCodes? rest).map fun p => (unit :: p.1, p.2) := by
  have hunit : hexUnit? (Nat.digitChar (unit / 16 / 16 / 16)) (Nat.digitChar (unit / 16 / 16 % 16))
      (Nat.digitChar (unit / 16 % 16)) (Nat.digitChar (unit % 16)) = some unit := by
    simp only [hexUnit?, hexValue?_digitChar _ (show unit / 16 / 16 / 16 < 16 by omega),
      hexValue?_digitChar _ (Nat.mod_lt _ (show 16 > 0 by decide)), Option.bind_eq_bind,
      Option.bind_some]
    congr 1
    omega
  rw [unitEscape, hexDigits_four h]
  simp only [List.cons_append, List.nil_append, readCodes?, hunit]
  rcases readCodes? rest with _ | ⟨codes, rest'⟩ <;> rfl

/-! ## Strings -/

/-- The UTF-16 units of a character. -/
def units (c : Char) : List Nat :=
  if c.toNat < 0x10000 then [c.toNat]
  else [0xD800 + (c.toNat - 0x10000) / 0x400, 0xDC00 + (c.toNat - 0x10000) % 0x400]

theorem units_of_lt (h : c.toNat < 0x10000) : units c = [c.toNat] := if_pos h

theorem char_toNat_lt (c : Char) : c.toNat < 0x110000 := by
  rcases c.valid with h | h
  · have : c.toNat < 0xd800 := h
    omega
  · exact h.2

theorem readCodes?_codeEscape (c : Char) (rest : List Char) :
    readCodes? (codeEscape c.toNat ++ rest) =
      (readCodes? rest).map fun p => (units c ++ p.1, p.2) := by
  have hlt := char_toNat_lt c
  by_cases h : c.toNat < 0x10000
  · rw [codeEscape, if_pos h, units, if_pos h, readCodes?_unitEscape h]
    rfl
  · rw [codeEscape, if_neg h, units, if_neg h, List.append_assoc,
      readCodes?_unitEscape (by omega), readCodes?_unitEscape (by omega), Option.map_map]
    rfl

theorem readCodes?_simpleEscape {e : Char} {code : Nat} (he : simpleEscape? e = some code)
    (rest : List Char) :
    readCodes? ('\\' :: e :: rest) = (readCodes? rest).map fun p => (code :: p.1, p.2) := by
  have hu : e ≠ 'u' := by
    rintro rfl
    cases he
  rw [readCodes?, he]
  · rcases readCodes? rest with _ | ⟨codes, rest'⟩ <;> rfl
  · intro a b c d rest' h _
    exact hu h

theorem readCodes?_plain (hlow : 0x20 ≤ c.toNat) (hquote : c ≠ '"') (hslash : c ≠ '\\')
    (rest : List Char) :
    readCodes? (c :: rest) = (readCodes? rest).map fun p => (c.toNat :: p.1, p.2) := by
  rw [readCodes?, if_neg (by omega)]
  · rcases readCodes? rest with _ | ⟨codes, rest'⟩ <;> rfl
  · exact hquote
  · exact fun _ _ _ _ _ h _ => hslash h
  · exact fun _ _ h _ => hslash h

/-- The reader takes a written character off the text, and keeps its units. -/
theorem readCodes?_jsonChar (c : Char) (rest : List Char) :
    readCodes? (jsonChar c ++ rest) = (readCodes? rest).map fun p => (units c ++ p.1, p.2) := by
  have hescape {e : Char} {code : Nat} (he : simpleEscape? e = some code) (hc : units c = [code]) :
      readCodes? (['\\', e] ++ rest) = (readCodes? rest).map fun p => (units c ++ p.1, p.2) := by
    rw [hc]
    exact readCodes?_simpleEscape he rest
  unfold jsonChar
  by_cases hquote : c = '"'
  · rw [if_pos hquote]
    exact hescape rfl (by rw [hquote]; rfl)
  by_cases hslash : c = '\\'
  · rw [if_neg hquote, if_pos hslash]
    exact hescape rfl (by rw [hslash]; rfl)
  rw [if_neg hquote, if_neg hslash]
  by_cases hn : c = '\n'
  · rw [if_pos hn]
    exact hescape rfl (by rw [hn]; rfl)
  by_cases hr : c = '\r'
  · rw [if_neg hn, if_pos hr]
    exact hescape rfl (by rw [hr]; rfl)
  by_cases ht : c = '\t'
  · rw [if_neg hn, if_neg hr, if_pos ht]
    exact hescape rfl (by rw [ht]; rfl)
  rw [if_neg hn, if_neg hr, if_neg ht]
  by_cases hb : c.toNat = 0x08
  · rw [if_pos hb]
    exact hescape rfl (by rw [units_of_lt (by omega), hb])
  by_cases hf : c.toNat = 0x0C
  · rw [if_neg hb, if_pos hf]
    exact hescape rfl (by rw [units_of_lt (by omega), hf])
  rw [if_neg hb, if_neg hf]
  by_cases hprint : (' ' ≤ c && c ≤ '~') = true
  · rw [if_pos hprint]
    rw [Bool.and_eq_true, decide_eq_true_eq, decide_eq_true_eq] at hprint
    have hlow : 0x20 ≤ c.toNat := hprint.1
    have hhigh : c.toNat ≤ 0x7E := hprint.2
    rw [units_of_lt (by omega)]
    exact readCodes?_plain hlow hquote hslash rest
  · rw [if_neg hprint]
    exact readCodes?_codeEscape c rest

theorem readCodes?_chars (cs rest : List Char) :
    readCodes? (cs.flatMap jsonChar ++ '"' :: rest) = some (cs.flatMap units, rest) := by
  induction cs with
  | nil => rw [List.flatMap_nil, List.nil_append, readCodes?, List.flatMap_nil]
  | cons c cs ih =>
    rw [List.flatMap_cons, List.append_assoc, readCodes?_jsonChar, ih, List.flatMap_cons]
    rfl

theorem joinSurrogates?_single {code : Nat} (h : code < 0xD800 ∨ 0xE000 ≤ code)
    (codes : List Nat) :
    joinSurrogates? (code :: codes) = (joinSurrogates? codes).map (Char.ofNat code :: ·) := by
  have hhigh : ¬ ((0xD800 ≤ code && code < 0xDC00) = true) := by
    rw [Bool.and_eq_true, decide_eq_true_eq, decide_eq_true_eq]
    omega
  have hlow : ¬ ((0xDC00 ≤ code && code < 0xE000) = true) := by
    rw [Bool.and_eq_true, decide_eq_true_eq, decide_eq_true_eq]
    omega
  have halone : ¬ ((0xD800 ≤ code && code < 0xE000) = true) := by
    rw [Bool.and_eq_true, decide_eq_true_eq, decide_eq_true_eq]
    omega
  cases codes with
  | nil => simp only [joinSurrogates?, if_neg halone, Option.map_some]
  | cons code' codes => rw [joinSurrogates?, if_neg hhigh, if_neg hlow]

theorem joinSurrogates?_pair {high low : Nat} (hhigh : high < 0x400) (hlow : low < 0x400)
    (codes : List Nat) :
    joinSurrogates? ((0xD800 + high) :: (0xDC00 + low) :: codes) =
      (joinSurrogates? codes).map (Char.ofNat (0x10000 + high * 0x400 + low) :: ·) := by
  have hfirst : (0xD800 ≤ 0xD800 + high && 0xD800 + high < 0xDC00) = true := by
    rw [Bool.and_eq_true, decide_eq_true_eq, decide_eq_true_eq]
    omega
  have hsecond : (0xDC00 ≤ 0xDC00 + low && 0xDC00 + low < 0xE000) = true := by
    rw [Bool.and_eq_true, decide_eq_true_eq, decide_eq_true_eq]
    omega
  rw [joinSurrogates?, if_pos hfirst, if_pos hsecond, Nat.add_sub_cancel_left,
    Nat.add_sub_cancel_left]

/-- Joining the pairs gives back the characters whose units they are. -/
theorem joinSurrogates?_units (cs : List Char) : joinSurrogates? (cs.flatMap units) = some cs := by
  induction cs with
  | nil => rw [List.flatMap_nil, joinSurrogates?]
  | cons c cs ih =>
    have hlt := char_toNat_lt c
    rw [List.flatMap_cons]
    by_cases h : c.toNat < 0x10000
    · have hplane : c.toNat < 0xD800 ∨ 0xE000 ≤ c.toNat := by
        rcases c.valid with hv | hv
        · exact .inl hv
        · exact .inr (Nat.succ_le_of_lt hv.1)
      rw [units_of_lt h, List.singleton_append, joinSurrogates?_single hplane, ih,
        Char.ofNat_toNat]
      rfl
    · have hcode : 0x10000 + (c.toNat - 0x10000) / 0x400 * 0x400 + (c.toNat - 0x10000) % 0x400 =
          c.toNat := by omega
      rw [units, if_neg h, List.cons_append, List.singleton_append,
        joinSurrogates?_pair (by omega) (by omega), hcode, ih, Char.ofNat_toNat]
      rfl

/-- A string is read back from behind its opening quote. -/
theorem readString?_jsonString (s : String) (rest : List Char) :
    readString? (s.toList.flatMap jsonChar ++ '"' :: rest) = some (s, rest) := by
  rw [readString?, readCodes?_chars]
  simp [joinSurrogates?_units]

/-! ## Integers -/

theorem toDigits_head?_ne (n : Nat) (h : 0 < n) : (Nat.toDigits 10 n).head? ≠ some '0' := by
  induction n using Nat.strongRecOn with
  | ind n ih =>
    by_cases hn : n < 10
    · rw [Nat.toDigits_of_lt_base hn]
      have hdigit : ∀ d < 10, 0 < d → Nat.digitChar d ≠ '0' := by decide
      simpa using hdigit n hn h
    · have hfront := ih (n / 10) (by omega) (by omega)
      rw [Nat.toDigits_of_base_le (by decide) (by omega), List.head?_append]
      rwa [List.head?_eq_some_head Nat.toDigits_ne_nil] at hfront ⊢

/-- A numeral as an integer is written has no needless zeros. -/
theorem wholeAllowed_toDigits (n : Nat) : wholeAllowed (Nat.toDigits 10 n) = true := by
  have hdigits : (Nat.toDigits 10 n).takeWhile isAsciiDigit = Nat.toDigits 10 n :=
    List.takeWhile_eq_self_iff.2 (numeral_toDigits n).digits
  rw [wholeAllowed, hdigits]
  rcases Nat.eq_zero_or_pos n with rfl | hn
  · rfl
  · have hhead := toDigits_head?_ne n hn
    cases hd : Nat.toDigits 10 n with
    | nil => exact (Nat.toDigits_ne_nil hd).elim
    | cons c cs =>
      rw [hd, List.head?_cons] at hhead
      have hc : c ≠ '0' := fun h => hhead (congrArg some h)
      split
      · contradiction
      · rfl
      · rename_i heq
        obtain ⟨rfl, -⟩ := List.cons.inj heq
        simpa using hc

/-- The characters of an integer as it is written. -/
def intChars (i : Int) : List Char :=
  if 0 ≤ i then Nat.toDigits 10 i.toNat else '-' :: Nat.toDigits 10 (-i).toNat

theorem toList_toString (i : Int) : (toString i).toList = intChars i := by
  rw [Int.toString_eq_repr, Int.repr_eq_if, intChars]
  by_cases h : 0 ≤ i
  · rw [if_pos h, if_pos h, Nat.repr_eq_ofList_toDigits, String.toList_ofList]
  · rw [if_neg h, if_neg h, Nat.repr_eq_ofList_toDigits, String.toList_append]
    exact congrArg ('-' :: ·) (String.toList_ofList)

/-- A numeral without needless zeros is a number in JSON, with or without a minus in front. -/
theorem numberOfChars?_numeral {n : Nat} (h : Numeral cs n) (hwhole : wholeAllowed cs = true) :
    numberOfChars? cs = some (int n) ∧ numberOfChars? ('-' :: cs) = some (int (-n)) := by
  have hall : cs.all isAsciiDigit = true := List.all_eq_true.2 h.digits
  have hvalue : asciiValue cs = n := (asciiValue_eq cs).trans h.value_eq
  have hminus : ∀ rest, cs ≠ '-' :: rest := by
    rintro rest rfl
    cases h.digits '-' (by simp)
  constructor
  · rw [numberOfChars?]
    · simp [hwhole, hall, hvalue]
    · exact hminus
  · simp [numberOfChars?, hwhole, hall, hvalue]

/-- The characters of an integer are a number in JSON, and that integer. -/
theorem numberOfChars?_intChars (i : Int) : numberOfChars? (intChars i) = some (int i) := by
  unfold intChars
  by_cases h : 0 ≤ i
  · rw [if_pos h, (numberOfChars?_numeral (numeral_toDigits _) (wholeAllowed_toDigits _)).1,
      Int.toNat_of_nonneg h]
  · rw [if_neg h, (numberOfChars?_numeral (numeral_toDigits _) (wholeAllowed_toDigits _)).2,
      Int.toNat_of_nonneg (by omega), Int.neg_neg]

theorem isNumberChar_of_mem_intChars {i : Int} (h : c ∈ intChars i) : isNumberChar c = true := by
  have hdigit {n : Nat} (hc : c ∈ Nat.toDigits 10 n) : isNumberChar c = true := by
    have hc : isAsciiDigit c = true := (numeral_toDigits n).digits c hc
    simp [isNumberChar, hc]
  unfold intChars at h
  by_cases hi : 0 ≤ i
  · rw [if_pos hi] at h
    exact hdigit h
  · rw [if_neg hi] at h
    rcases List.mem_cons.1 h with rfl | h
    · rfl
    · exact hdigit h

/-- No character of a number stands at the beginning of a text. -/
def EndsNumber (rest : List Char) : Prop := ∀ c ∈ rest.head?, isNumberChar c = false

theorem readNumber?_intChars (i : Int) (hrest : EndsNumber rest) :
    readNumber? (intChars i ++ rest) = some (int i, rest) := by
  have hall : ∀ c ∈ intChars i, isNumberChar c = true := fun c hc => isNumberChar_of_mem_intChars hc
  have hstop : rest.takeWhile isNumberChar = [] ∧ rest.dropWhile isNumberChar = rest := by
    cases rest with
    | nil => exact ⟨rfl, rfl⟩
    | cons c rest =>
      have hc := hrest c (by simp)
      exact ⟨List.takeWhile_cons_of_neg (by simp [hc]), List.dropWhile_cons_of_neg (by simp [hc])⟩
  rw [readNumber?, List.takeWhile_append_of_pos hall, List.dropWhile_append_of_pos hall, hstop.1,
    hstop.2, List.append_nil, numberOfChars?_intChars]
  rfl

/-- An integer begins with a digit, or with a minus and a digit. -/
theorem exists_intChars_eq (i : Int) : ∃ d ds, d.isDigit = true ∧
    (intChars i = d :: ds ∨ intChars i = '-' :: d :: ds) := by
  have hdigits (n : Nat) : ∃ d ds, d.isDigit = true ∧ Nat.toDigits 10 n = d :: ds := by
    obtain ⟨d, ds, h⟩ := List.exists_cons_of_ne_nil (numeral_toDigits n).ne_nil
    exact ⟨d, ds, (numeral_toDigits n).digits d (by simp [h]), h⟩
  unfold intChars
  by_cases hi : 0 ≤ i
  · obtain ⟨d, ds, hd, h⟩ := hdigits i.toNat
    exact ⟨d, ds, hd, .inl (by rw [if_pos hi, h])⟩
  · obtain ⟨d, ds, hd, h⟩ := hdigits (-i).toNat
    exact ⟨d, ds, hd, .inr (by rw [if_neg hi, h])⟩

theorem readScalar?_digit {d : Char} (hd : d.isDigit = true) (ds : List Char) :
    readScalar? (d :: ds) = readNumber? (d :: ds) := by
  rw [readScalar?]
  -- No word and no string begins with a digit.
  all_goals
    intro rest' heq
    obtain ⟨rfl, -⟩ := List.cons.inj heq
    cases hd

theorem readScalar?_minus {d : Char} (hd : d.isDigit = true) (ds : List Char) :
    readScalar? ('-' :: d :: ds) = readNumber? ('-' :: d :: ds) := by
  rw [readScalar?]
  -- Of these only the negative infinity begins with a minus, and no digit comes next.
  all_goals
    intro rest' heq
    simp only [List.cons.injEq, Char.reduceEq, false_and, true_and] at heq
  obtain ⟨rfl, -⟩ := heq
  cases hd

theorem readScalar?_intChars (i : Int) (hrest : EndsNumber rest) :
    readScalar? (intChars i ++ rest) = some (int i, rest) := by
  rw [← readNumber?_intChars i hrest]
  obtain ⟨d, ds, hd, hi | hi⟩ := exists_intChars_eq i
  · rw [hi, List.cons_append, readScalar?_digit hd]
  · rw [hi, List.cons_append, List.cons_append, readScalar?_minus hd]

/-! ## Values without doubles -/

mutual

/-- Whether a value holds no double. -/
def isExact : Value → Bool
  | double _ => false
  | array items => areExact items
  | object fields => haveExact fields
  | _ => true

/-- Whether no item of a row holds a double. -/
def areExact : List Value → Bool
  | [] => true
  | v :: rest => isExact v && areExact rest

/-- Whether no field of a row holds a double. -/
def haveExact : List (String × Value) → Bool
  | [] => true
  | (_, v) :: rest => isExact v && haveExact rest

end

@[simp] theorem areExact_iff {items : List Value} :
    areExact items = true ↔ ∀ v ∈ items, v.isExact = true := by
  induction items with
  | nil => simp [areExact]
  | cons v items ih => simp [areExact, ih]

@[simp] theorem haveExact_iff {fields : List (String × Value)} :
    haveExact fields = true ↔ ∀ f ∈ fields, f.2.isExact = true := by
  induction fields with
  | nil => simp [haveExact]
  | cons f fields ih => simp [haveExact, ih]

/-! ## Blanks between tokens -/

theorem skipBlanks_of_head {c : Char} (h : isJsonBlank c = false) (cs : List Char) :
    skipBlanks (c :: cs) = c :: cs := List.dropWhile_cons_of_neg (by simp [h])

theorem skipBlanks_skipBlanks (cs : List Char) : skipBlanks (skipBlanks cs) = skipBlanks cs :=
  List.dropWhile_idempotent _ cs

theorem skipBlanks_lineBreak (depth : Nat) (cs : List Char) :
    skipBlanks (lineBreak depth ++ cs) = skipBlanks cs := by
  refine List.dropWhile_append_of_pos fun c hc => ?_
  rcases List.mem_cons.1 hc with rfl | hc
  · rfl
  · rw [(List.mem_replicate.1 hc).2]
    rfl

theorem skipBlanks_space (cs : List Char) : skipBlanks (' ' :: cs) = skipBlanks cs :=
  List.dropWhile_cons_of_pos rfl

/-- Blanks in front of a value do not matter. -/
theorem readValue?_congr {cs cs' : List Char} (h : skipBlanks cs = skipBlanks cs') (fuel : Nat) :
    readValue? fuel cs = readValue? fuel cs' := by
  cases fuel with
  | zero => rw [readValue?, readValue?]
  | succ fuel => rw [readValue?, readValue?, h]

theorem readItems?_congr {cs cs' : List Char} (h : skipBlanks cs = skipBlanks cs') (fuel : Nat) :
    readItems? fuel cs = readItems? fuel cs' := by
  cases fuel with
  | zero => rw [readItems?, readItems?]
  | succ fuel => rw [readItems?, readItems?, readValue?_congr h]

theorem readFields?_congr {cs cs' : List Char} (h : skipBlanks cs = skipBlanks cs') (fuel : Nat) :
    readFields? fuel cs = readFields? fuel cs' := by
  cases fuel with
  | zero => rw [readFields?, readFields?]
  | succ fuel => rw [readFields?, readFields?, h]

theorem isJsonBlank_of_isDigit (h : c.isDigit = true) : isJsonBlank c = false := by
  cases hb : isJsonBlank c with
  | false => rfl
  | true =>
    simp only [isJsonBlank, Bool.or_eq_true, decide_eq_true_eq] at hb
    rcases hb with ((rfl | rfl) | rfl) | rfl <;> cases h

/-- A value begins with neither a blank nor a closing bracket. -/
theorem exists_jsonAt_eq (v : Value) (hv : v.isExact = true) (depth : Nat) :
    ∃ c cs, jsonAt depth v = c :: cs ∧ isJsonBlank c = false ∧ c ≠ ']' := by
  cases v with
  | null => exact ⟨_, _, rfl, rfl, by decide⟩
  | bool b => cases b <;> exact ⟨_, _, rfl, rfl, by decide⟩
  | int i =>
    obtain ⟨d, ds, hd, hi | hi⟩ := exists_intChars_eq i
    · refine ⟨d, ds, by rw [jsonAt, toList_toString, hi], isJsonBlank_of_isDigit hd, ?_⟩
      rintro rfl
      cases hd
    · exact ⟨_, _, by rw [jsonAt, toList_toString, hi], rfl, by decide⟩
  | double d => cases hv
  | string s => exact ⟨_, _, rfl, rfl, by decide⟩
  | array items => cases items <;> exact ⟨_, _, rfl, rfl, by decide⟩
  | object fields => cases fields <;> exact ⟨_, _, rfl, rfl, by decide⟩

theorem head?_jsonAt_ne {v : Value} (hv : v.isExact = true) (depth : Nat) (rest : List Char) :
    (skipBlanks (jsonAt depth v ++ rest)).head? ≠ some ']' := by
  obtain ⟨c, cs, hc, hblank, hclose⟩ := exists_jsonAt_eq v hv depth
  rw [hc, List.cons_append, skipBlanks_of_head hblank, List.head?_cons]
  exact fun h => hclose (Option.some.inj h)

/-! ## The texts of rows -/

theorem jsonAt_array_append (depth : Nat) (v : Value) (items : List Value) (rest : List Char) :
    jsonAt depth (array (v :: items)) ++ rest = '[' :: (lineBreak (depth + 1) ++
      (jsonAt (depth + 1) v ++ (jsonItems (depth + 1) items ++
        (lineBreak depth ++ ']' :: rest)))) := by
  simp [jsonAt]

theorem jsonAt_object_append (depth : Nat) (name : String) (v : Value)
    (fields : List (String × Value)) (rest : List Char) :
    jsonAt depth (object ((name, v) :: fields)) ++ rest = '\x7b' :: (lineBreak (depth + 1) ++
      (jsonString name ++ ':' :: ' ' :: (jsonAt (depth + 1) v ++
        (jsonFields (depth + 1) fields ++ (lineBreak depth ++ '\x7d' :: rest))))) := by
  simp [jsonAt]

theorem jsonItems_cons_append (depth : Nat) (v : Value) (items : List Value) (rest : List Char) :
    jsonItems depth (v :: items) ++ rest =
      ',' :: (lineBreak depth ++ (jsonAt depth v ++ (jsonItems depth items ++ rest))) := by
  simp [jsonItems]

theorem jsonFields_cons_append (depth : Nat) (name : String) (v : Value)
    (fields : List (String × Value)) (rest : List Char) :
    jsonFields depth ((name, v) :: fields) ++ rest =
      ',' :: (lineBreak depth ++ (jsonString name ++ ':' :: ' ' :: (jsonAt depth v ++
        (jsonFields depth fields ++ rest)))) := by
  simp [jsonFields]

/-! ## One step of the reader -/

theorem readValue?_scalar (hblank : isJsonBlank c = false) (harray : c ≠ '[')
    (hobject : c ≠ '\x7b') (fuel : Nat) (cs : List Char) :
    readValue? (fuel + 1) (c :: cs) = readScalar? (c :: cs) := by
  rw [readValue?, skipBlanks_of_head hblank]
  split
  · rename_i h
    exact (harray (List.cons.inj h).1).elim
  · rename_i h
    exact (hobject (List.cons.inj h).1).elim
  · rfl

theorem readValue?_array {text : List Char} (h : (skipBlanks text).head? ≠ some ']')
    (fuel : Nat) : readValue? (fuel + 1) ('[' :: text) =
      (readItems? fuel text).map fun p => (array p.1, p.2) := by
  have hopen : skipBlanks ('[' :: text) = '[' :: text := skipBlanks_of_head rfl text
  simp only [readValue?, hopen]
  split
  · rename_i hclose
    exact (h (by rw [hclose]; rfl)).elim
  · rw [readItems?_congr (skipBlanks_skipBlanks text)]

theorem readValue?_object {text : List Char} (h : (skipBlanks text).head? ≠ some '\x7d')
    (fuel : Nat) : readValue? (fuel + 1) ('\x7b' :: text) =
      (readFields? fuel text).map fun p => (object p.1, p.2) := by
  have hopen : skipBlanks ('\x7b' :: text) = '\x7b' :: text := skipBlanks_of_head rfl text
  simp only [readValue?, hopen]
  split
  · rename_i hclose
    exact (h (by rw [hclose]; rfl)).elim
  · rw [readFields?_congr (skipBlanks_skipBlanks text)]

theorem readItems?_last {fuel : Nat} {text after : List Char} {v : Value}
    (hv : readValue? fuel text = some (v, after)) (hafter : skipBlanks after = ']' :: rest) :
    readItems? (fuel + 1) text = some ([v], rest) := by
  simp [readItems?, hv, hafter]

theorem readItems?_comma {fuel : Nat} {text after : List Char} {v : Value}
    (hv : readValue? fuel text = some (v, after)) (hafter : skipBlanks after = ',' :: rest) :
    readItems? (fuel + 1) text = (readItems? fuel rest).map fun p => (v :: p.1, p.2) := by
  simp only [readItems?, hv, Option.bind_eq_bind, Option.bind_some, hafter]
  rcases readItems? fuel rest with _ | ⟨items, rest'⟩ <;> rfl

theorem jsonString_append (s : String) (rest : List Char) :
    jsonString s ++ rest = '"' :: (s.toList.flatMap jsonChar ++ '"' :: rest) := by
  simp [jsonString]

theorem readFields?_last {fuel : Nat} {text behind after : List Char} {name : String} {v : Value}
    (htext : skipBlanks text = jsonString name ++ ':' :: behind)
    (hv : readValue? fuel behind = some (v, after)) (hafter : skipBlanks after = '\x7d' :: rest) :
    readFields? (fuel + 1) text = some ([(name, v)], rest) := by
  have hcolon : skipBlanks (':' :: behind) = ':' :: behind := skipBlanks_of_head rfl behind
  simp only [readFields?, htext, jsonString_append, readString?_jsonString, Option.bind_eq_bind,
    Option.bind_some, hcolon, hv, hafter]

theorem readFields?_comma {fuel : Nat} {text behind after : List Char} {name : String} {v : Value}
    (htext : skipBlanks text = jsonString name ++ ':' :: behind)
    (hv : readValue? fuel behind = some (v, after)) (hafter : skipBlanks after = ',' :: rest) :
    readFields? (fuel + 1) text =
      (readFields? fuel rest).map fun p => ((name, v) :: p.1, p.2) := by
  have hcolon : skipBlanks (':' :: behind) = ':' :: behind := skipBlanks_of_head rfl behind
  simp only [readFields?, htext, jsonString_append, readString?_jsonString, Option.bind_eq_bind,
    Option.bind_some, hcolon, hv, hafter]
  rcases readFields? fuel rest with _ | ⟨fields, rest'⟩ <;> rfl

/-! ## Reading back -/

theorem skipBlanks_jsonString (s : String) (rest : List Char) :
    skipBlanks (jsonString s ++ rest) = jsonString s ++ rest := by
  rw [jsonString_append, skipBlanks_of_head rfl]

theorem endsNumber_cons (h : isNumberChar c = false) (rest : List Char) :
    EndsNumber (c :: rest) := by
  intro d hd
  obtain rfl : c = d := by simpa using hd
  exact h

theorem endsNumber_lineBreak (depth : Nat) (rest : List Char) :
    EndsNumber (lineBreak depth ++ rest) := endsNumber_cons rfl _

theorem endsNumber_jsonItems (depth : Nat) (items : List Value) (hrest : EndsNumber rest) :
    EndsNumber (jsonItems depth items ++ rest) := by
  cases items with
  | nil => exact hrest
  | cons v items => exact endsNumber_cons rfl _

theorem endsNumber_jsonFields (depth : Nat) (fields : List (String × Value))
    (hrest : EndsNumber rest) : EndsNumber (jsonFields depth fields ++ rest) := by
  cases fields with
  | nil => exact hrest
  | cons f fields => exact endsNumber_cons rfl _

theorem readValue?_intChars (i : Int) (fuel : Nat) (hrest : EndsNumber rest) :
    readValue? (fuel + 1) (intChars i ++ rest) = some (int i, rest) := by
  have hscalar := readScalar?_intChars i hrest
  obtain ⟨d, ds, hd, hi | hi⟩ := exists_intChars_eq i
  · rw [hi] at hscalar ⊢
    have hne {b : Char} (hb : b.isDigit = false) : d ≠ b := by
      rintro rfl
      rw [hd] at hb
      cases hb
    exact (readValue?_scalar (isJsonBlank_of_isDigit hd) (hne rfl) (hne rfl) fuel _).trans hscalar
  · rw [hi] at hscalar ⊢
    exact (readValue?_scalar rfl (by decide) (by decide) fuel _).trans hscalar

mutual

/-- A value is read back from its text, whatever stands behind it, if that does not go on with a
number; the length of the text is fuel enough. -/
theorem readValue?_jsonAt : ∀ (v : Value) (depth fuel : Nat) (rest : List Char),
    v.isExact = true → EndsNumber rest → (jsonAt depth v).length ≤ fuel →
      readValue? fuel (jsonAt depth v ++ rest) = some (v, rest)
  | v, depth, 0, rest, hv, _, hfuel => by
    obtain ⟨c, cs, h, -⟩ := exists_jsonAt_eq v hv depth
    rw [h] at hfuel
    cases hfuel
  | null, _, fuel + 1, _, _, _, _ => readValue?_scalar rfl (by decide) (by decide) fuel _
  | bool true, _, fuel + 1, _, _, _, _ => readValue?_scalar rfl (by decide) (by decide) fuel _
  | bool false, _, fuel + 1, _, _, _, _ => readValue?_scalar rfl (by decide) (by decide) fuel _
  | int i, _, fuel + 1, _, _, hrest, _ => by
    rw [jsonAt, toList_toString]
    exact readValue?_intChars i fuel hrest
  | double _, _, _, _, hv, _, _ => by cases hv
  | string s, _, fuel + 1, rest, _, _, _ => by
    rw [jsonAt, jsonString_append, readValue?_scalar rfl (by decide) (by decide), readScalar?,
      readString?_jsonString]
    rfl
  | array [], _, _ + 1, _, _, _, _ => rfl
  | array (v :: items), depth, fuel + 1, rest, hv, _, hfuel => by
    rw [isExact, areExact, Bool.and_eq_true] at hv
    simp only [jsonAt, List.length_append, List.length_cons] at hfuel
    obtain ⟨fuel, rfl⟩ : ∃ k, fuel = k + 1 := ⟨fuel - 1, by omega⟩
    have hitem := readValue?_jsonAt v (depth + 1) fuel
      (jsonItems (depth + 1) items ++ (lineBreak depth ++ ']' :: rest)) hv.1
      (endsNumber_jsonItems _ _ (endsNumber_lineBreak _ _)) (by omega)
    have hitems := readItems?_jsonItems items (depth + 1) depth fuel rest _ v hv.2 hitem (by omega)
    rw [jsonAt_array_append, readValue?_array, readItems?_congr (skipBlanks_lineBreak _ _), hitems]
    · rfl
    · rw [skipBlanks_lineBreak]
      exact head?_jsonAt_ne hv.1 _ _
  | object [], _, _ + 1, _, _, _, _ => rfl
  | object ((name, v) :: fields), depth, fuel + 1, rest, hv, _, hfuel => by
    rw [isExact, haveExact, Bool.and_eq_true] at hv
    simp only [jsonAt, List.length_append, List.length_cons] at hfuel
    obtain ⟨fuel, rfl⟩ : ∃ k, fuel = k + 1 := ⟨fuel - 1, by omega⟩
    have hfield := readValue?_jsonAt v (depth + 1) fuel
      (jsonFields (depth + 1) fields ++ (lineBreak depth ++ '\x7d' :: rest)) hv.1
      (endsNumber_jsonFields _ _ (endsNumber_lineBreak _ _)) (by omega)
    rw [← readValue?_congr (skipBlanks_space _)] at hfield
    have hfields := readFields?_jsonFields fields (depth + 1) depth fuel rest _ _ name v hv.2
      (skipBlanks_jsonString name _) hfield (by omega)
    rw [jsonAt_object_append, readValue?_object, readFields?_congr (skipBlanks_lineBreak _ _),
      hfields]
    · rfl
    · rw [skipBlanks_lineBreak, skipBlanks_jsonString, jsonString_append]
      simp

/-- Behind an item that was read, the reader takes the other items and the closing bracket. -/
theorem readItems?_jsonItems : ∀ (items : List Value) (depth outer fuel : Nat)
    (rest text : List Char) (v : Value), areExact items = true →
      readValue? fuel text =
        some (v, jsonItems depth items ++ (lineBreak outer ++ ']' :: rest)) →
      (jsonItems depth items).length ≤ fuel → readItems? (fuel + 1) text = some (v :: items, rest)
  | [], _, outer, _, rest, _, _, _, hv, _ => by
    have hclose : skipBlanks (lineBreak outer ++ ']' :: rest) = ']' :: rest := by
      rw [skipBlanks_lineBreak, skipBlanks_of_head rfl]
    exact readItems?_last hv hclose
  | w :: items, depth, outer, fuel, rest, text, v, hitems, hv, hfuel => by
    rw [areExact, Bool.and_eq_true] at hitems
    simp only [jsonItems, List.length_append, List.length_cons] at hfuel
    obtain ⟨fuel, rfl⟩ : ∃ k, fuel = k + 1 := ⟨fuel - 1, by omega⟩
    have hitem := readValue?_jsonAt w depth fuel
      (jsonItems depth items ++ (lineBreak outer ++ ']' :: rest)) hitems.1
      (endsNumber_jsonItems _ _ (endsNumber_lineBreak _ _)) (by omega)
    have hrest := readItems?_jsonItems items depth outer fuel rest _ w hitems.2 hitem (by omega)
    rw [jsonItems_cons_append] at hv
    rw [readItems?_comma hv (skipBlanks_of_head rfl _),
      readItems?_congr (skipBlanks_lineBreak _ _), hrest]
    rfl

/-- Behind a field that was read, the reader takes the other fields and the closing brace. -/
theorem readFields?_jsonFields : ∀ (fields : List (String × Value)) (depth outer fuel : Nat)
    (rest text behind : List Char) (name : String) (v : Value), haveExact fields = true →
      skipBlanks text = jsonString name ++ ':' :: behind →
      readValue? fuel behind =
        some (v, jsonFields depth fields ++ (lineBreak outer ++ '\x7d' :: rest)) →
      (jsonFields depth fields).length ≤ fuel →
      readFields? (fuel + 1) text = some ((name, v) :: fields, rest)
  | [], _, outer, _, rest, _, _, _, _, _, htext, hv, _ => by
    have hclose : skipBlanks (lineBreak outer ++ '\x7d' :: rest) = '\x7d' :: rest := by
      rw [skipBlanks_lineBreak, skipBlanks_of_head rfl]
    exact readFields?_last htext hv hclose
  | (name', w) :: fields, depth, outer, fuel, rest, text, behind, name, v, hfields, htext, hv,
    hfuel => by
    rw [haveExact, Bool.and_eq_true] at hfields
    simp only [jsonFields, List.length_append, List.length_cons] at hfuel
    obtain ⟨fuel, rfl⟩ : ∃ k, fuel = k + 1 := ⟨fuel - 1, by omega⟩
    have hfield := readValue?_jsonAt w depth fuel
      (jsonFields depth fields ++ (lineBreak outer ++ '\x7d' :: rest)) hfields.1
      (endsNumber_jsonFields _ _ (endsNumber_lineBreak _ _)) (by omega)
    rw [← readValue?_congr (skipBlanks_space _)] at hfield
    have hrest := readFields?_jsonFields fields depth outer fuel rest _ _ name' w hfields.2
      (skipBlanks_jsonString name' _) hfield (by omega)
    rw [jsonFields_cons_append] at hv
    rw [readFields?_comma htext hv (skipBlanks_of_head rfl _),
      readFields?_congr (skipBlanks_lineBreak _ _), hrest]
    rfl

end

end Value

end TwoFactorLogin
