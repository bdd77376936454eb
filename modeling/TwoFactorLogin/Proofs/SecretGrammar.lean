import Mathlib.Data.List.DropRight
import Mathlib.Tactic.IntervalCases
import TwoFactorLogin.Otp.Base32

/-!
# Which texts are secrets

A secret is a row of base32 digits with as much of its filling as one likes, once its spaces are
left out and its letters are capitals (`Spelling`). Everything else is refused as malformed, and no
secret spells an empty key.

The filling is not compared with what the digits ask for: the text is filled up to a full group, and
then the number of all filling characters is looked at. Both come to the same
(`contains_fillLength_iff`), because a text with too much filling is filled by a whole group more.

There is one exception to the rule that a character outside ASCII is refused. Capitals are those of
every script, and ten characters outside ASCII have capitals that are ASCII letters: they are read
as these letters.

Main statement: `decodeSecret_readsExactly`.
-/

namespace TwoFactorLogin.Base32

/-! ## The grammar -/

/-- The digits, in the order of their values. -/
def alphabet : List Char := "ABCDEFGHIJKLMNOPQRSTUVWXYZ234567".toList

/-- How much filling a row of digits asks for, by the number of digits in its last group of eight;
no row of bytes has one, three or six digits there. -/
def filling? : Nat → Option Nat
  | 0 => some 0
  | 2 => some 6
  | 4 => some 4
  | 5 => some 3
  | 7 => some 1
  | _ => none

/-- A text is a row of digits with a part of its filling. -/
structure Spelling (cs digits : List Char) : Prop where
  ne_nil : digits ≠ []
  digits_mem : ∀ c ∈ digits, c ∈ alphabet
  filled : ∃ full count, filling? (digits.length % 8) = some full ∧ count ≤ full ∧
    cs = digits ++ List.replicate count '='

/-- The text of a secret as far as it counts: without its spaces, in capitals. -/
def cleaned (s : String) : List Char := Text.upperChars (s.toList.filter (· != ' '))

/-- A character is one of those outside ASCII whose capitals are in ASCII. -/
def HasAsciiCapital (c : Char) : Prop := ∃ p ∈ Text.asciiCapitals, p.1 = c.toNat

/-! ## Bits -/

@[simp] theorem length_bits (width n : Nat) : (bits width n).length = width := by
  induction width with
  | zero => rfl
  | succ width ih => rw [bits, List.length_cons, ih]

theorem length_octets (bs : List Bool) : (octets bs).length = bs.length / 8 := by
  fun_induction octets bs with
  | case1 a b c d e f g h rest ih =>
    simp only [List.length_cons, ih]
    omega
  | case2 bs hshort =>
    have hlt : bs.length < 8 := by
      rcases bs with _ | ⟨a, _ | ⟨b, _ | ⟨c, _ | ⟨d, _ | ⟨e, _ | ⟨f, _ | ⟨g, _ | ⟨h, rest⟩⟩⟩⟩⟩⟩⟩⟩
      case cons.cons.cons.cons.cons.cons.cons.cons => exact (hshort a b c d e f g h rest rfl).elim
      all_goals simp
    rw [List.length_nil, Nat.div_eq_of_lt hlt]

theorem length_flatMap_bits (width : Nat) (values : List Nat) :
    (values.flatMap (bits width)).length = width * values.length := by
  induction values with
  | nil => rfl
  | cons v values ih =>
    rw [List.flatMap_cons, List.length_append, length_bits, ih, List.length_cons, Nat.mul_succ,
      Nat.add_comm]

/-! ## Digits -/

/-- The character of a value is a digit, and the digit has the value. -/
theorem digitValue?_digit : ∀ v < 32, digitValue? (digit v) = some v ∧ digit v ∈ alphabet := by
  decide

theorem eq_digit_of_digitValue? {c : Char} {v : Nat} (h : digitValue? c = some v) :
    v < 32 ∧ c = digit v := by
  unfold digitValue? at h
  unfold digit
  split at h
  · rename_i hletter
    obtain ⟨hlow, hhigh⟩ : 65 ≤ c.toNat ∧ c.toNat ≤ 90 := by
      simpa [Char.le_def, UInt32.le_iff_toNat_le] using hletter
    have hv : c.toNat - 65 = v := by simpa using h
    refine ⟨by omega, ?_⟩
    rw [if_pos (by omega), show 'A'.toNat + v = c.toNat by simp; omega, Char.ofNat_toNat]
  · split at h
    · rename_i hdigit
      obtain ⟨hlow, hhigh⟩ : 50 ≤ c.toNat ∧ c.toNat ≤ 55 := by
        simpa [Char.le_def, UInt32.le_iff_toNat_le] using hdigit
      have hv : c.toNat - 50 + 26 = v := by simpa using h
      refine ⟨by omega, ?_⟩
      rw [if_neg (by omega), show '2'.toNat + (v - 26) = c.toNat by simp; omega,
        Char.ofNat_toNat]
    · cases h

theorem exists_digitValue?_iff {c : Char} : (∃ v, digitValue? c = some v) ↔ c ∈ alphabet := by
  constructor
  · rintro ⟨v, hv⟩
    obtain ⟨hlt, rfl⟩ := eq_digit_of_digitValue? hv
    exact (digitValue?_digit v hlt).2
  · have hall : alphabet.all fun c => (digitValue? c).isSome := by decide
    exact fun hc => Option.isSome_iff_exists.1 (List.all_eq_true.1 hall c hc)

/-- What holds for the digits and the filling character is decided for each of them. -/
theorem alphabet_induction {p : Char → Bool} (h : ('=' :: alphabet).all p = true) {c : Char}
    (hc : c ∈ alphabet ∨ c = '=') : p c = true := by
  rw [or_comm, ← List.mem_cons] at hc
  exact List.all_eq_true.1 h c hc

theorem ne_fill_of_mem {c : Char} (h : c ∈ alphabet) : c ≠ '=' := by
  rintro rfl
  exact absurd h (by decide)

/-- A row of characters has values exactly if every one is a digit. -/
theorem exists_digitValues?_iff {cs : List Char} :
    (∃ values, digitValues? cs = some values) ↔ ∀ c ∈ cs, c ∈ alphabet := by
  induction cs with
  | nil => simp [digitValues?]
  | cons c cs ih =>
    rw [List.forall_mem_cons, ← ih, ← exists_digitValue?_iff]
    constructor
    · rintro ⟨values, h⟩
      simp only [digitValues?, Option.bind_eq_bind, Option.bind_eq_some_iff] at h
      obtain ⟨v, hv, vs, hvs, -⟩ := h
      exact ⟨⟨v, hv⟩, vs, hvs⟩
    · rintro ⟨⟨v, hv⟩, vs, hvs⟩
      exact ⟨v :: vs, by simp [digitValues?, hv, hvs]⟩

theorem length_of_digitValues? {cs : List Char} {values : List Nat}
    (h : digitValues? cs = some values) : values.length = cs.length := by
  induction cs generalizing values with
  | nil =>
    cases h
    rfl
  | cons c cs ih =>
    simp only [digitValues?, Option.bind_eq_bind, Option.bind_eq_some_iff] at h
    obtain ⟨v, -, vs, hvs, h⟩ := h
    cases h
    rw [List.length_cons, List.length_cons, ih hvs]

/-! ## Filling -/

/-- A text without the filling at its end. -/
theorem exists_fill_split (cs : List Char) :
    ∃ digits count, cs = digits ++ List.replicate count '=' ∧ digits.getLast? ≠ some '=' := by
  induction cs using List.reverseRecOn with
  | nil => exact ⟨[], 0, rfl, by simp⟩
  | append_singleton cs c ih =>
    by_cases hc : c = '='
    · obtain ⟨digits, count, rfl, hlast⟩ := ih
      exact ⟨digits, count + 1, by rw [hc, List.replicate_succ', List.append_assoc], hlast⟩
    · exact ⟨cs ++ [c], 0, by simp, by simpa using hc⟩

/-- Counting all the filling of a text that is filled up to a full group comes to the same as
comparing its own filling with what the digits ask for. -/
theorem contains_fillLength_iff (length count : Nat) :
    fillLengths.contains (count + fillLength (length + count)) = true ↔
      ∃ full, filling? (length % 8) = some full ∧ count ≤ full := by
  have hfill : fillLengths.contains (count + fillLength (length + count)) = true ↔
      count + fillLength (length + count) ∈ [0, 1, 3, 4, 6] := by
    simp [fillLengths]
  have hlt : length % 8 < 8 := Nat.mod_lt _ (by decide)
  rw [hfill, fillLength]
  generalize hr : length % 8 = r at hlt ⊢
  interval_cases r <;> simp [filling?] <;> omega

/-- A filled text is read digit by digit, and then its filling is counted. -/
theorem decodeFilled_append {digits : List Char} (h : digits.getLast? ≠ some '=') (count : Nat) :
    decodeFilled (digits ++ List.replicate count '=') =
      match digitValues? digits with
      | none => .error .badDigit
      | some values =>
        if fillLengths.contains count then .ok (octets (values.flatMap (bits 5)))
        else .error .badPadding := by
  have hstripped : ((digits ++ List.replicate count '=').reverse.dropWhile (· = '=')).reverse =
      digits := by
    rw [List.reverse_append, List.reverse_replicate, List.dropWhile_append_of_pos (by simp)]
    rw [← List.head?_reverse] at h
    cases hdigits : digits.reverse with
    | nil => simpa using hdigits
    | cons c cs =>
      rw [hdigits, List.head?_cons, Ne, Option.some.injEq] at h
      rw [List.dropWhile_cons_of_neg (by simpa using h), ← hdigits, List.reverse_reverse]
  have hcount : (digits ++ List.replicate count '=').length - digits.length = count := by simp
  cases hvalues : digitValues? digits with
  | none => simp only [decodeFilled, hstripped, hvalues]
  | some values => simp only [decodeFilled, hstripped, hcount, hvalues]

/-! ## What is accepted -/

namespace Spelling

variable {cs digits : List Char}

theorem mem_alphabet_or_eq (h : Spelling cs digits) : ∀ c ∈ cs, c ∈ alphabet ∨ c = '=' := by
  obtain ⟨full, count, -, -, rfl⟩ := h.filled
  intro c hc
  rcases List.mem_append.1 hc with hc | hc
  · exact .inl (h.digits_mem c hc)
  · exact .inr (List.mem_replicate.1 hc).2

theorem isAscii (h : Spelling cs digits) : ∀ c ∈ cs, isAscii c = true :=
  fun c hc => alphabet_induction (by decide) (h.mem_alphabet_or_eq c hc)

theorem getLast?_ne (h : Spelling cs digits) : digits.getLast? ≠ some '=' :=
  fun hlast => ne_fill_of_mem (h.digits_mem _ (List.mem_of_getLast? hlast)) rfl

/-- The digits are what stands before the filling. -/
theorem digits_eq (h : Spelling cs digits) : digits = cs.takeWhile (· != '=') := by
  obtain ⟨full, count, -, -, rfl⟩ := h.filled
  rw [List.takeWhile_append_of_pos fun c hc => bne_iff_ne.2 (ne_fill_of_mem (h.digits_mem c hc)),
    List.takeWhile_replicate_eq_filter, List.filter_eq_nil_iff.2 (by simp), List.append_nil]

theorem unique {digits' : List Char} (h : Spelling cs digits) (h' : Spelling cs digits') :
    digits = digits' :=
  h.digits_eq.trans h'.digits_eq.symm

/-- No row of bytes has a single digit, so a key is never empty. -/
theorem two_le_length (h : Spelling cs digits) : 2 ≤ digits.length := by
  obtain ⟨full, count, hfull, -, -⟩ := h.filled
  have hpos := List.length_pos_iff.2 h.ne_nil
  by_contra hlt
  rw [show digits.length = 1 by omega] at hfull
  cases hfull

end Spelling

variable {s : String} {key : List UInt8}

theorem decodeSecret_eq (s : String) :
    decodeSecret s =
      if (cleaned s).isEmpty then .error .empty
      else if !(cleaned s).all isAscii then .error .notAscii
      else decodeFilled (cleaned s ++ List.replicate (fillLength (cleaned s).length) '=') :=
  rfl

/-- A text is read exactly if it is a spelling, and then as the bytes that the digits spell. -/
theorem decodeSecret_eq_ok :
    decodeSecret s = .ok key ↔ ∃ digits values, Spelling (cleaned s) digits ∧
      digitValues? digits = some values ∧ key = octets (values.flatMap (bits 5)) := by
  rw [decodeSecret_eq]
  constructor
  · intro h
    obtain ⟨digits, count, hcs, hlast⟩ := exists_fill_split (cleaned s)
    split at h
    · cases h
    · rename_i hne
      split at h
      · cases h
      · rw [hcs, List.append_assoc, List.replicate_append_replicate, decodeFilled_append hlast] at h
        split at h
        · cases h
        · rename_i values hvalues
          split at h
          · rename_i hfill
            cases h
            rw [List.length_append, List.length_replicate, contains_fillLength_iff] at hfill
            obtain ⟨full, hfull, hcount⟩ := hfill
            refine ⟨digits, values, ⟨?_, exists_digitValues?_iff.1 ⟨values, hvalues⟩, full, count,
              hfull, hcount, hcs⟩, hvalues, rfl⟩
            rintro rfl
            cases hfull
            obtain rfl : count = 0 := by omega
            simp [hcs] at hne
          · cases h
  · rintro ⟨digits, values, hs, hvalues, rfl⟩
    obtain ⟨full, count, hfull, hcount, hcs⟩ := hs.filled
    have hne : (cleaned s).isEmpty = false := by
      simp [hcs, hs.ne_nil]
    have hascii : (!(cleaned s).all isAscii) = false := by
      rw [Bool.not_eq_false', List.all_eq_true]
      exact hs.isAscii
    have hfill := (contains_fillLength_iff digits.length count).2 ⟨full, hfull, hcount⟩
    rw [hne, hascii, hcs, List.append_assoc, List.replicate_append_replicate,
      decodeFilled_append hs.getLast?_ne, hvalues, List.length_append, List.length_replicate]
    simp only [hfill, Bool.false_eq_true, if_false, if_true]

/-- Five bits for each digit, and a byte for every eight of them. -/
theorem exists_spelling_of_ok (h : decodeSecret s = .ok key) :
    ∃ digits, Spelling (cleaned s) digits ∧ key.length = 5 * digits.length / 8 := by
  obtain ⟨digits, values, hs, hvalues, rfl⟩ := decodeSecret_eq_ok.1 h
  refine ⟨digits, hs, ?_⟩
  rw [length_octets, length_flatMap_bits, length_of_digitValues? hvalues]

/-! ## Capitals -/

theorem upperChar_of_not_hasAsciiCapital {c : Char} (h : ¬ HasAsciiCapital c) :
    Text.upperChar c = [c.toUpper] := by
  have hnone : (Text.asciiCapitals.find? fun p => p.1 = c.toNat) = none := by
    rw [List.find?_eq_none]
    exact fun p hp heq => h ⟨p, hp, by simpa using heq⟩
  rw [Text.upperChar, hnone]

theorem toUpper_of_not_ascii {c : Char} (h : 128 ≤ c.toNat) : c.toUpper = c := by
  refine dif_neg fun hsmall => ?_
  have hle : c.toNat ≤ 122 := UInt32.le_iff_toNat_le.1 hsmall.2
  omega

theorem cleaned_of_ordinary (h : ∀ c ∈ s.toList, ¬ HasAsciiCapital c) :
    cleaned s = (s.toList.filter (· != ' ')).map Char.toUpper := by
  rw [cleaned, Text.upperChars, List.map_eq_flatMap]
  exact List.flatMap_congr fun c hc =>
    upperChar_of_not_hasAsciiCapital (h c (List.mem_of_mem_filter hc))

/-- A character outside ASCII stays where it is, unless its capitals are in ASCII. -/
theorem mem_cleaned_of_foreign {c : Char} (hc : c ∈ s.toList) (hforeign : 128 ≤ c.toNat)
    (hcapital : ¬ HasAsciiCapital c) : c ∈ cleaned s := by
  have hspace : (c != ' ') = true := by
    rw [bne_iff_ne]
    rintro rfl
    exact absurd hforeign (by decide)
  refine List.mem_flatMap.2 ⟨c, List.mem_filter.2 ⟨hc, hspace⟩, ?_⟩
  rw [upperChar_of_not_hasAsciiCapital hcapital, toUpper_of_not_ascii hforeign]
  exact List.mem_singleton_self c

/-! ## How secrets are read -/

/-- How the text of a secret is read: exactly if it is a spelling, and otherwise it is refused. -/
structure ReadsExactly (s : String) : Prop where
  accepts_iff : (∃ key, decodeValue (.string s) = .ok key) ↔ ∃ digits, Spelling (cleaned s) digits
  length_eq {key : List UInt8} {digits : List Char} (h : decodeValue (.string s) = .ok key)
    (hdigits : Spelling (cleaned s) digits) : key.length = 5 * digits.length / 8
  one_le_length {key : List UInt8} (h : decodeValue (.string s) = .ok key) : 1 ≤ key.length
  /-- What is refused is refused as a malformed value. -/
  refuses {fault : Fault} (h : decodeValue (.string s) = .error fault) : fault.kind = .value
  /-- Letters in ASCII are made capital, and nothing else changes in a text that has none of the
  ten characters. -/
  cleaned_eq (h : ∀ c ∈ s.toList, ¬ HasAsciiCapital c) :
    cleaned s = (s.toList.filter (· != ' ')).map Char.toUpper
  /-- Any other character outside ASCII is refused. -/
  refuses_foreign {c : Char} (hc : c ∈ s.toList) (hforeign : 128 ≤ c.toNat)
    (hcapital : ¬ HasAsciiCapital c) : ∃ fault, decodeValue (.string s) = .error fault

theorem decodeValue_of_ok (h : decodeSecret s = .ok key) : decodeValue (.string s) = .ok key := by
  rw [decodeValue, h]
  rfl

theorem decodeValue_of_error {cause : SecretTextError} (h : decodeSecret s = .error cause) :
    decodeValue (.string s) = .error (.secretText cause) := by
  rw [decodeValue, h]
  rfl

theorem decodeValue_eq_ok : decodeValue (.string s) = .ok key ↔ decodeSecret s = .ok key := by
  refine ⟨fun h => ?_, decodeValue_of_ok⟩
  cases hs : decodeSecret s with
  | error cause => cases (decodeValue_of_error hs).symm.trans h
  | ok key' =>
    cases (decodeValue_of_ok hs).symm.trans h
    rfl

/-- A secret is accepted exactly if it is a spelling, for a key that is as long as its digits say,
and every other text is a malformed value. -/
theorem decodeSecret_readsExactly (s : String) : ReadsExactly s where
  accepts_iff := by
    simp only [decodeValue_eq_ok, decodeSecret_eq_ok]
    constructor
    · rintro ⟨key, digits, values, hs, -, -⟩
      exact ⟨digits, hs⟩
    · rintro ⟨digits, hs⟩
      obtain ⟨values, hvalues⟩ := exists_digitValues?_iff.2 hs.digits_mem
      exact ⟨_, digits, values, hs, hvalues, rfl⟩
  length_eq h hdigits := by
    obtain ⟨digits', hs, hlength⟩ := exists_spelling_of_ok (decodeValue_eq_ok.1 h)
    rw [hlength, hs.unique hdigits]
  one_le_length h := by
    obtain ⟨digits, hs, hlength⟩ := exists_spelling_of_ok (decodeValue_eq_ok.1 h)
    have htwo := hs.two_le_length
    omega
  refuses h := by
    cases hs : decodeSecret s with
    | error cause =>
      cases (decodeValue_of_error hs).symm.trans h
      rfl
    | ok key => cases (decodeValue_of_ok hs).symm.trans h
  cleaned_eq := cleaned_of_ordinary
  refuses_foreign hc hforeign hcapital := by
    cases h : decodeValue (.string s) with
    | error fault => exact ⟨fault, rfl⟩
    | ok key =>
      obtain ⟨digits, hs, -⟩ := exists_spelling_of_ok (decodeValue_eq_ok.1 h)
      have hascii := hs.isAscii _ (mem_cleaned_of_foreign hc hforeign hcapital)
      rw [Base32.isAscii, decide_eq_true_eq] at hascii
      omega

/-- Two small letters of another script are read as two capital digits. -/
example : decodeValue (.string "\u017f \u017f") = .ok [0x94] := rfl

end TwoFactorLogin.Base32
