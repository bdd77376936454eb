import TwoFactorLogin.Proofs.CodeGrammar

/-!
# Texts that spell no number

A text is read as the double that is not a number exactly if it is the word `nan`, in either case,
with or without a sign and with nothing but blanks around it (`readDouble?_eq_nan_iff`). A decimal
is never read so, however large or small it is.

Digits of other scripts and underscores between digits are rewritten before a text is read. Neither
can be part of a word without digits, so for these words the rewriting does nothing.
-/

namespace TwoFactorLogin

open Text

/-- The words for the double that is not a number, in small letters. -/
def nanWords : List (List Char) := [['n', 'a', 'n'], ['+', 'n', 'a', 'n'], ['-', 'n', 'a', 'n']]

/-! ## Decimals -/

theorem Double.ofUnits_ne_nan (negative : Bool) (num den : Nat) :
    ofUnits negative num den ≠ nan := by
  simp only [ofUnits]
  split <;> exact fun h => by cases h

theorem Double.ofDecimal_ne_nan (negative : Bool) (digits : Nat) (exponent : Int) :
    ofDecimal negative digits exponent ≠ nan := by
  unfold ofDecimal
  split
  · exact fun h => by cases h
  · split
    · exact fun h => by cases h
    · split
      · exact fun h => by cases h
      · split <;> exact ofUnits_ne_nan _ _ _

theorem readDecimal?_ne_nan (negative : Bool) (cs : List Char) :
    readDecimal? negative cs ≠ some .nan := by
  simp only [readDecimal?]
  split
  · exact fun h => by cases h
  · intro h
    obtain ⟨exponent, -, hd⟩ := Option.bind_eq_some_iff.1 h
    exact Double.ofDecimal_ne_nan _ _ _ (Option.some.inj hd)

/-! ## Words -/

theorem readDouble?_eq_nan {s : String} :
    readDouble? s = some .nan ↔
      ∃ cs, numberChars? s = some cs ∧ (splitSign cs).2.map Char.toLower = ['n', 'a', 'n'] := by
  simp only [readDouble?, bind, Option.bind_eq_some_iff]
  refine exists_congr fun cs => and_congr_right fun _ => ?_
  have hword : String.ofList ((splitSign cs).2.map Char.toLower) = "nan" ↔
      (splitSign cs).2.map Char.toLower = ['n', 'a', 'n'] := by
    rw [← String.toList_inj, String.toList_ofList]
    rfl
  rw [← hword]
  split
  · rename_i hinf
    constructor
    · intro h
      cases h
    · intro h
      simp [h] at hinf
  · split
    · rename_i hnan
      simp [hnan]
    · rename_i hnan
      simp [hnan, readDecimal?_ne_nan]

/-- What becomes a letter of such a word, or its sign, in small letters. -/
theorem eq_of_toLower_mem {c : Char} (h : c.toLower ∈ ['n', 'a', '+', '-']) :
    c = 'n' ∨ c = 'N' ∨ c = 'a' ∨ c = 'A' ∨ c = '+' ∨ c = '-' := by
  have hascii : ∀ n < 128, (Char.ofNat n).toLower ∈ ['n', 'a', '+', '-'] →
      Char.ofNat n = 'n' ∨ Char.ofNat n = 'N' ∨ Char.ofNat n = 'a' ∨ Char.ofNat n = 'A' ∨
        Char.ofNat n = '+' ∨ Char.ofNat n = '-' := by
    decide +kernel
  have hlt : c.toNat < 128 := by
    refine Nat.lt_of_not_le fun hle => ?_
    have hlower : c.toLower = c := by
      refine dif_neg fun hcapital => ?_
      have hle' : c.toNat ≤ 90 := UInt32.le_iff_toNat_le.1 hcapital.2
      omega
    rw [hlower] at h
    simp only [List.mem_cons, List.not_mem_nil, or_false] at h
    rcases h with rfl | rfl | rfl | rfl <;> exact absurd hle (by decide)
  have hmem := hascii c.toNat hlt
  rw [Char.ofNat_toNat] at hmem
  exact hmem h

/-- What follows the sign of a text is the word exactly if the whole text is one of the words. -/
theorem splitSign_spells_nan {cs : List Char} :
    (splitSign cs).2.map Char.toLower = ['n', 'a', 'n'] ↔ cs.map Char.toLower ∈ nanWords := by
  constructor
  · intro h
    unfold splitSign at h
    split at h <;> simp_all [nanWords]
  · intro h
    have hletter {c : Char} (hc : c.toLower ∈ ['n', 'a', '+', '-']) :
        (c.toLower = '+' → c = '+') ∧ (c.toLower = '-' → c = '-') ∧
          (c.toLower = 'n' → c ≠ '+' ∧ c ≠ '-') := by
      obtain rfl | rfl | rfl | rfl | rfl | rfl := eq_of_toLower_mem hc <;> decide
    simp only [nanWords, List.mem_cons, List.not_mem_nil, or_false] at h
    rcases h with h | h | h <;> obtain ⟨c, rest, rfl, hc, hrest⟩ := List.map_eq_cons_iff.1 h
    · obtain ⟨hplus, hminus⟩ := (hletter (by simp [hc])).2.2 hc
      rw [splitSign.eq_3 _ (by rintro _ ⟨⟩; exact hminus rfl) (by rintro _ ⟨⟩; exact hplus rfl)]
      exact h
    · rw [(hletter (by simp [hc])).1 hc]
      exact hrest
    · rw [(hletter (by simp [hc])).2.1 hc]
      exact hrest

theorem decimalValue?_lt {c : Char} {d : Nat} (h : decimalValue? c = some d) : d < 10 := by
  obtain ⟨start, hstart, rfl⟩ := Option.map_eq_some_iff.1 h
  have hrange := List.find?_some hstart
  rw [Bool.and_eq_true, decide_eq_true_eq, decide_eq_true_eq] at hrange
  omega

theorem asciiDigit_eq {c : Char} (h : isAsciiDigit (asciiDigit c) = false) : asciiDigit c = c := by
  unfold asciiDigit at h ⊢
  split
  · rename_i d hd
    have hdigit : ∀ d < 10, isAsciiDigit (Char.ofNat ('0'.toNat + d)) = true := by decide
    simp only [hd] at h
    exact absurd ((hdigit d (decimalValue?_lt hd)).symm.trans h) (by decide)
  · rfl

/-- Where there are no digits, no underscore is left out. -/
theorem joinDigits?_eq {cs joined : List Char} (h : joinDigits? false cs = some joined)
    (hdigits : ∀ c ∈ joined, isAsciiDigit c = false) : joined = cs := by
  induction cs generalizing joined with
  | nil => exact (Option.some.inj h).symm
  | cons c cs ih =>
    by_cases hc : c = '_'
    · simp [hc, joinDigits?] at h
    · rw [joinDigits?.eq_3 _ _ _ (fun hc' => hc hc')] at h
      obtain ⟨rest, hrest, rfl⟩ := Option.map_eq_some_iff.1 h
      rw [hdigits c (by simp)] at hrest
      rw [ih hrest fun d hd => hdigits d (List.mem_cons_of_mem _ hd)]

theorem joinDigits?_of_no_digits {cs : List Char}
    (h : ∀ c ∈ cs, isAsciiDigit c = false ∧ c ≠ '_') : joinDigits? false cs = some cs := by
  induction cs with
  | nil => rfl
  | cons c cs ih =>
    obtain ⟨hdigit, hc⟩ := h c (by simp)
    rw [joinDigits?.eq_3 _ _ _ (fun hc' => hc hc'), hdigit,
      ih fun d hd => h d (List.mem_cons_of_mem _ hd)]
    rfl

/-- A text is read as the double that is not a number exactly if it is one of the words for it. -/
theorem readDouble?_eq_nan_iff {s : String} :
    readDouble? s = some .nan ↔ (stripChars s.toList).map Char.toLower ∈ nanWords := by
  have hword {cs : List Char} (h : cs.map Char.toLower ∈ nanWords) :
      ∀ c ∈ cs, asciiDigit c = c ∧ isAsciiDigit c = false ∧ c ≠ '_' := by
    intro c hc
    have hmem : ∀ word ∈ nanWords, ∀ d ∈ word, d ∈ ['n', 'a', '+', '-'] := by simp [nanWords]
    have hlower := hmem _ h _ (List.mem_map_of_mem hc)
    obtain rfl | rfl | rfl | rfl | rfl | rfl := eq_of_toLower_mem hlower <;> decide
  have hsame (h : ∀ c ∈ stripChars s.toList, asciiDigit c = c) :
      (stripChars s.toList).map asciiDigit = stripChars s.toList :=
    (List.map_congr_left (g := id) h).trans (List.map_id _)
  simp only [readDouble?_eq_nan, splitSign_spells_nan, numberChars?]
  constructor
  · rintro ⟨cs, hread, hcs⟩
    obtain rfl := joinDigits?_eq hread fun c hc => (hword hcs c hc).2.1
    rwa [hsame fun c hc => asciiDigit_eq (hword hcs _ (List.mem_map_of_mem hc)).2.1] at hcs
  · intro h
    rw [hsame fun c hc => (hword h c hc).1]
    exact ⟨_, joinDigits?_of_no_digits fun c hc => (hword h c hc).2, h⟩

end TwoFactorLogin
