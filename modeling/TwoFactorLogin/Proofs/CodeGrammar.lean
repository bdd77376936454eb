import TwoFactorLogin.Proofs.Reckoning

/-!
# Which codes can be read

A submitted code denotes a number if it is a numeral, a row of the digits `0` to `9`, with nothing
but blanks around it. Reading it succeeds exactly if the number has a code, that is, if it is below
the power of ten with as many zeros as a code has digits, and the result is the one numeral of full
length that spells the number. So how a number is written does not matter: zeros in front are
neither needed nor harmful.

* `Numeral`: a row of digits and the number that it spells.
* `Denotes`: a submitted text and its number.
* `parseCode_readsExactly`: what can be read, what comes of it, and how everything else is refused.

Numerals of one length that spell one number are the same, digit by digit (`Numeral.eq_of_length`);
that makes the result unique, and is why reading a result again gives it back.
-/

namespace TwoFactorLogin

namespace Text

/-! ## Numerals -/

/-- A row of the digits `0` to `9`, at least one, that spells a number. -/
structure Numeral (cs : List Char) (value : Nat) : Prop where
  ne_nil : cs ≠ []
  digits : ∀ c ∈ cs, c.isDigit = true
  value_eq : Nat.ofDigitChars 10 cs 0 = value

theorem asciiValue_eq (cs : List Char) : asciiValue cs = Nat.ofDigitChars 10 cs 0 := by
  rw [asciiValue, digitsValue, List.foldl_map, Nat.ofDigitChars_eq_foldl]

/-- Whether a character is a digit can be seen from its code point. -/
theorem isDigit_iff {c : Char} : c.isDigit = true ↔ 48 ≤ c.toNat ∧ c.toNat ≤ 57 := by
  rw [Char.isDigit, Bool.and_eq_true, decide_eq_true_eq, decide_eq_true_eq, ge_iff_le,
    UInt32.le_iff_toNat_le, UInt32.le_iff_toNat_le]
  rfl

theorem isBlank_of_isDigit {c : Char} (h : c.isDigit = true) : isBlank c = false := by
  have hapart : ∀ r ∈ blankRanges, r.2 < 48 ∨ 57 < r.1 := by decide
  rw [isDigit_iff] at h
  refine List.any_eq_false.2 fun r hr => ?_
  have hr := hapart r hr
  rw [Bool.and_eq_true, decide_eq_true_eq, decide_eq_true_eq]
  omega

/-- The number of a numeral has no more digits than the numeral. -/
theorem ofDigitChars_lt {cs : List Char} (h : ∀ c ∈ cs, c.isDigit = true) :
    Nat.ofDigitChars 10 cs 0 < 10 ^ cs.length := by
  induction cs with
  | nil => decide
  | cons c cs ih =>
    have hrest := ih fun d hd => h d (List.mem_cons_of_mem _ hd)
    have hdigit := isDigit_iff.1 (h c (by simp))
    rw [Nat.ofDigitChars_cons, Nat.ofDigitChars_eq_ofDigitChars_zero, List.length_cons,
      Nat.pow_succ]
    have hhead : 10 ^ cs.length * (10 * 0 + (c.toNat - '0'.toNat)) ≤ 10 ^ cs.length * 9 :=
      Nat.mul_le_mul_left _ (by simp; omega)
    omega

/-- Numerals of one length that spell one number are the same. -/
theorem eq_of_ofDigitChars_eq {cs ds : List Char} (hcs : ∀ c ∈ cs, c.isDigit = true)
    (hds : ∀ d ∈ ds, d.isDigit = true) (hlength : cs.length = ds.length)
    (h : Nat.ofDigitChars 10 cs 0 = Nat.ofDigitChars 10 ds 0) : cs = ds := by
  induction cs generalizing ds with
  | nil => exact (List.length_eq_zero_iff.1 hlength.symm).symm
  | cons c cs ih =>
    cases ds with
    | nil => cases hlength
    | cons d ds =>
      have hlength' : cs.length = ds.length := Nat.succ.inj hlength
      have hcs' : ∀ x ∈ cs, x.isDigit = true := fun x hx => hcs x (List.mem_cons_of_mem _ hx)
      have hds' : ∀ x ∈ ds, x.isDigit = true := fun x hx => hds x (List.mem_cons_of_mem _ hx)
      have hc := isDigit_iff.1 (hcs c (by simp))
      have hd := isDigit_iff.1 (hds d (by simp))
      have hrest := ofDigitChars_lt hcs'
      have hrest' := ofDigitChars_lt hds'
      simp only [Nat.ofDigitChars_cons, Nat.mul_zero, Nat.zero_add] at h
      rw [Nat.ofDigitChars_eq_ofDigitChars_zero (l := cs),
        Nat.ofDigitChars_eq_ofDigitChars_zero (l := ds), ← hlength'] at h
      rw [← hlength'] at hrest'
      -- Dividing by the power of ten separates the first digit from the rest.
      have hhead := congrArg (· / 10 ^ cs.length) h
      have htail := congrArg (· % 10 ^ cs.length) h
      simp only [Nat.mul_add_div (Nat.pow_pos (show 0 < 10 by decide)), Nat.mul_add_mod,
        Nat.div_eq_of_lt hrest, Nat.div_eq_of_lt hrest', Nat.mod_eq_of_lt hrest,
        Nat.mod_eq_of_lt hrest', Nat.add_zero] at hhead htail
      have hcd : c = d := by
        refine Char.toNat_inj.1 ?_
        have hzero : '0'.toNat = 48 := rfl
        omega
      rw [hcd, ih hcs' hds' hlength' htail]

namespace Numeral

variable {cs ds : List Char} {m n : Nat}

theorem unique (h : Numeral cs m) (h' : Numeral cs n) : m = n :=
  h.value_eq.symm.trans h'.value_eq

theorem eq_of_length (h : Numeral cs n) (h' : Numeral ds n) (hlength : cs.length = ds.length) :
    cs = ds :=
  eq_of_ofDigitChars_eq h.digits h'.digits hlength (h.value_eq.trans h'.value_eq.symm)

theorem not_blank (h : Numeral cs n) : ∀ c ∈ cs, isBlank c = false :=
  fun c hc => isBlank_of_isDigit (h.digits c hc)

theorem trimmed (h : Numeral cs n) : Trimmed cs := trimmed_of_not_blank h.not_blank

/-- Zeros in front do not change the number. -/
theorem zeros_append (h : Numeral cs n) (count : Nat) :
    Numeral (List.replicate count '0' ++ cs) n where
  ne_nil hnil := h.ne_nil (List.append_eq_nil_iff.1 hnil).2
  digits c hc := by
    rcases List.mem_append.1 hc with hc | hc
    · rw [(List.mem_replicate.1 hc).2]
      decide
    · exact h.digits c hc
  value_eq := by
    rw [Nat.ofDigitChars_append, Nat.ofDigitChars_replicate_zero, Nat.mul_zero, h.value_eq]

end Numeral

theorem exists_numeral {cs : List Char} (hne : cs ≠ []) (h : ∀ c ∈ cs, c.isDigit = true) :
    ∃ n, Numeral cs n :=
  ⟨_, hne, h, rfl⟩

theorem numeral_toDigits (n : Nat) : Numeral (Nat.toDigits 10 n) n where
  ne_nil := Nat.toDigits_ne_nil
  digits _ hc := Nat.isDigit_of_mem_toDigits (by decide) (by decide) hc
  value_eq := Nat.ofDigitChars_ten_toDigits

/-! ## Blanks around a text -/

/-- A text is what is left of it, with blanks on both sides. -/
theorem stripChars_split (cs : List Char) :
    ∃ pre post, cs = pre ++ stripChars cs ++ post ∧ (∀ c ∈ pre, isBlank c = true) ∧
      ∀ c ∈ post, isBlank c = true := by
  have hblank {ds : List Char} : ∀ c ∈ ds.takeWhile isBlank, isBlank c = true :=
    fun c hc => List.all_eq_true.1 List.all_takeWhile c hc
  refine ⟨cs.takeWhile isBlank, ((cs.dropWhile isBlank).reverse.takeWhile isBlank).reverse, ?_,
    hblank, fun c hc => hblank c (List.mem_reverse.1 hc)⟩
  rw [stripChars, List.append_assoc, ← List.reverse_append, List.takeWhile_append_dropWhile,
    List.reverse_reverse, List.takeWhile_append_dropWhile]

end Text

namespace Otp

open Text

/-! ## What a submitted code denotes -/

/-- A submitted text denotes a number: it is a numeral with nothing but blanks around it. -/
def Denotes (submitted : String) (n : Nat) : Prop :=
  ∃ pre digits post, submitted.toList = pre ++ digits ++ post ∧ (∀ c ∈ pre, isBlank c = true) ∧
    Numeral digits n ∧ ∀ c ∈ post, isBlank c = true

/-- A code spells a number in full length. -/
structure Spells (config : SecondFactorConfig) (code : String) (n : Nat) : Prop where
  length_eq : code.length = config.digits
  numeral : Numeral code.toList n

variable {config : SecondFactorConfig} {submitted code : String} {m n : Nat}

theorem denotes_iff : Denotes submitted n ↔ Numeral (digitsOf submitted) n := by
  constructor
  · rintro ⟨pre, digits, post, hs, hpre, hdigits, hpost⟩
    rwa [digitsOf, hs, hdigits.trimmed.stripChars_append hdigits.ne_nil hpre hpost]
  · intro h
    obtain ⟨pre, post, hs, hpre, hpost⟩ := stripChars_split submitted.toList
    exact ⟨pre, _, post, hs, hpre, h, hpost⟩

theorem Denotes.unique (h : Denotes submitted m) (h' : Denotes submitted n) : m = n :=
  (denotes_iff.1 h).unique (denotes_iff.1 h')

/-- A code denotes the number that it spells. -/
theorem Spells.denotes (h : Spells config code n) : Denotes code n :=
  ⟨[], code.toList, [], by simp, by simp, h.numeral, by simp⟩

theorem Spells.eq {other : String} (h : Spells config code n) (h' : Spells config other n) :
    code = other := by
  refine String.toList_inj.1 (h.numeral.eq_of_length h'.numeral ?_)
  rw [String.length_toList, String.length_toList, h.length_eq, h'.length_eq]

/-- A number with a code is spelled by its digits with zeros in front. -/
theorem spells_zeroPadded (h : n < 10 ^ config.digits) :
    Spells config (String.ofList (zeroPadded config.digits n)) n where
  length_eq := by
    have hpos : 0 < config.digits := Nat.lt_of_lt_of_le (by decide) config.six_le_digits
    have hle := (Nat.length_toDigits_le_iff (by decide) hpos).2 h
    simp only [zeroPadded, String.length_ofList, List.length_append, List.length_replicate]
    omega
  numeral := by
    rw [String.toList_ofList]
    exact (numeral_toDigits n).zeros_append _

/-! ## Reading -/

/-- What is short enough to be a number. -/
theorem not_overlong_of_length (h : submitted.length ≤ maxIntDigits) : ¬ Overlong submitted := by
  rintro ⟨-, hlong⟩
  obtain ⟨pre, post, hs, -, -⟩ := stripChars_split submitted.toList
  have hlength := congrArg List.length hs
  simp only [String.length_toList, List.length_append] at hlength
  unfold digitsOf at hlong
  omega

/-- A text that denotes a number is read as the code of the number, or refused if there is none. -/
theorem parseCode_of_denotes (hs : ¬ Overlong submitted) (h : Denotes submitted n) :
    parseCode config (some submitted) =
      if 10 ^ config.digits ≤ n then .error (.codeRefused (.tooLarge config.digits))
      else .ok (String.ofList (zeroPadded config.digits n)) := by
  obtain ⟨hne, hdigits, hvalue⟩ := denotes_iff.1 h
  have hall : (digitsOf submitted).all isAsciiDigit = true := List.all_eq_true.2 hdigits
  have hshort : ¬ maxIntDigits < (digitsOf submitted).length := fun hlong => hs ⟨hall, hlong⟩
  unfold digitsOf at *
  rw [parseCode]
  simp only [hall, List.isEmpty_eq_false_iff.2 hne, hshort, asciiValue_eq, hvalue, Bool.not_true,
    Bool.or_false, Bool.false_eq_true, if_false, Nat.pow_eq]

/-- A text that denotes no number is refused. -/
theorem parseCode_of_not_denotes (h : ∀ n, ¬ Denotes submitted n) :
    parseCode config (some submitted) = .error (.codeRefused .notDigits) := by
  refine if_pos (Decidable.byContradiction fun hdigits => ?_)
  rw [Bool.or_eq_true, not_or, Bool.not_eq_true, List.isEmpty_eq_false_iff, Bool.not_eq_true,
    Bool.not_eq_false', List.all_eq_true] at hdigits
  obtain ⟨n, hn⟩ := exists_numeral hdigits.1 hdigits.2
  exact h n (denotes_iff.2 hn)

/-- A text is read as a code exactly if it denotes the number that the code spells. -/
theorem parseCode_eq_ok (hs : ¬ Overlong submitted) :
    parseCode config (some submitted) = .ok code ↔
      ∃ n < 10 ^ config.digits, Denotes submitted n ∧ Spells config code n := by
  constructor
  · intro h
    by_cases hn : ∃ n, Denotes submitted n
    · obtain ⟨n, hn⟩ := hn
      rw [parseCode_of_denotes hs hn] at h
      split at h
      · cases h
      · rename_i hlt
        cases h
        exact ⟨n, Nat.not_le.1 hlt, hn, spells_zeroPadded (Nat.not_le.1 hlt)⟩
    · rw [parseCode_of_not_denotes fun n hn' => hn ⟨n, hn'⟩] at h
      cases h
  · rintro ⟨n, hlt, hn, hcode⟩
    rw [parseCode_of_denotes hs hn, if_neg (Nat.not_le.2 hlt), (spells_zeroPadded hlt).eq hcode]

/-- A code that spells a number is read as itself. -/
theorem parseCode_of_spells (hlt : n < 10 ^ config.digits) (h : Spells config code n) :
    parseCode config (some code) = .ok code := by
  have hshort : code.length ≤ maxIntDigits := by
    rw [h.length_eq]
    exact Nat.le_trans config.digits_le_eight (by decide)
  exact (parseCode_eq_ok (not_overlong_of_length hshort)).2 ⟨n, hlt, h.denotes, h⟩

/-- How codes are read: exactly the numerals of numbers that have a code, each as the one code that
spells the number, and everything else is refused. -/
structure ReadsExactly (config : SecondFactorConfig) : Prop where
  accepts_iff {s : String} (hs : s.length ≤ maxIntDigits) :
    (∃ code, parseCode config (some s) = .ok code) ↔ ∃ n < 10 ^ config.digits, Denotes s n
  /-- The result is the only code that spells the number. -/
  spells {s code : String} {n : Nat} (hs : s.length ≤ maxIntDigits)
    (h : parseCode config (some s) = .ok code) (hn : Denotes s n) :
    Spells config code n ∧ ∀ other, Spells config other n → other = code
  refuses_absent : parseCode config none = .error (.codeRefused .absent)
  refuses_large {s : String} {n : Nat} (hs : s.length ≤ maxIntDigits) (hn : Denotes s n)
    (h : 10 ^ config.digits ≤ n) :
    parseCode config (some s) = .error (.codeRefused (.tooLarge config.digits))
  refuses_other {s : String} (h : ∀ n, ¬ Denotes s n) :
    parseCode config (some s) = .error (.codeRefused .notDigits)
  /-- What has nothing but blanks denotes no number. -/
  blank {s : String} (h : ∀ c ∈ s.toList, isBlank c = true) : ∀ n, ¬ Denotes s n
  /-- Neither does a text with a sign, a digit of another script or any other character. -/
  foreign {s : String} {c : Char} (hc : c ∈ s.toList) (hblank : isBlank c = false)
    (hdigit : c.isDigit = false) : ∀ n, ¬ Denotes s n
  /-- Neither does a text with a blank inside. -/
  broken {s : String} {c : Char} (hc : c ∈ stripChars s.toList) (hblank : isBlank c = true) :
    ∀ n, ¬ Denotes s n
  same_iff {s t a b : String} (hs : s.length ≤ maxIntDigits) (ht : t.length ≤ maxIntDigits)
    (ha : parseCode config (some s) = .ok a) (hb : parseCode config (some t) = .ok b) :
    a = b ↔ ∃ n, Denotes s n ∧ Denotes t n
  fixed {s code : String} (hs : s.length ≤ maxIntDigits)
    (h : parseCode config (some s) = .ok code) : parseCode config (some code) = .ok code

theorem not_denotes_of_foreign {s : String} {c : Char} (hc : c ∈ s.toList)
    (hblank : isBlank c = false) (hdigit : c.isDigit = false) (n : Nat) : ¬ Denotes s n := by
  rintro ⟨pre, digits, post, hs, hpre, hdigits, hpost⟩
  rw [hs, List.mem_append, List.mem_append] at hc
  rcases hc with (hc | hc) | hc
  · exact Bool.false_ne_true (hblank.symm.trans (hpre c hc))
  · exact Bool.false_ne_true (hdigit.symm.trans (hdigits.digits c hc))
  · exact Bool.false_ne_true (hblank.symm.trans (hpost c hc))

theorem not_denotes_of_broken {s : String} {c : Char} (hc : c ∈ stripChars s.toList)
    (hblank : isBlank c = true) (n : Nat) : ¬ Denotes s n :=
  fun h => Bool.false_ne_true (((denotes_iff.1 h).not_blank c hc).symm.trans hblank)

theorem not_denotes_of_blank {s : String} (h : ∀ c ∈ s.toList, isBlank c = true) (n : Nat) :
    ¬ Denotes s n := by
  rintro ⟨pre, digits, post, hs, -, hdigits, -⟩
  obtain ⟨c, hc⟩ := List.exists_mem_of_ne_nil _ hdigits.ne_nil
  have hblank := h c (by simp [hs, hc])
  exact Bool.false_ne_true ((hdigits.not_blank c hc).symm.trans hblank)

theorem parseCode_readsExactly (config : SecondFactorConfig) : ReadsExactly config where
  accepts_iff hs := by
    simp only [parseCode_eq_ok (not_overlong_of_length hs)]
    constructor
    · rintro ⟨_, n, hlt, hn, -⟩
      exact ⟨n, hlt, hn⟩
    · rintro ⟨n, hlt, hn⟩
      exact ⟨_, n, hlt, hn, spells_zeroPadded hlt⟩
  spells hs h hn := by
    obtain ⟨m, -, hm, hcode⟩ := (parseCode_eq_ok (not_overlong_of_length hs)).1 h
    obtain rfl := hm.unique hn
    exact ⟨hcode, fun _ hother => hother.eq hcode⟩
  refuses_absent := rfl
  refuses_large hs hn h := by
    rw [parseCode_of_denotes (not_overlong_of_length hs) hn, if_pos h]
  refuses_other h := parseCode_of_not_denotes h
  blank := not_denotes_of_blank
  foreign := not_denotes_of_foreign
  broken := not_denotes_of_broken
  same_iff hs ht ha hb := by
    obtain ⟨m, hlt, hm, hspells⟩ := (parseCode_eq_ok (not_overlong_of_length hs)).1 ha
    obtain ⟨n, -, hn, hspells'⟩ := (parseCode_eq_ok (not_overlong_of_length ht)).1 hb
    constructor
    · rintro rfl
      obtain rfl := hspells.numeral.unique hspells'.numeral
      exact ⟨m, hm, hn⟩
    · rintro ⟨k, hk, hk'⟩
      obtain rfl := hm.unique hk
      obtain rfl := hn.unique hk'
      exact hspells.eq hspells'
  fixed hs h := by
    obtain ⟨n, hlt, -, hspells⟩ := (parseCode_eq_ok (not_overlong_of_length hs)).1 h
    exact parseCode_of_spells hlt hspells

example : parseCode {} (some " 0000042\u2003") = .ok "000042" := rfl

example : parseCode {} (some "12345\uff16") = .error (.codeRefused .notDigits) := rfl

end Otp

end TwoFactorLogin
