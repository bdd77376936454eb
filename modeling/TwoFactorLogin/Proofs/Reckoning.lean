import Mathlib.Algebra.Group.Int.Defs
import Mathlib.Algebra.Group.Nat.Defs
import TwoFactorLogin.Otp.Code

/-!
# Codes can always be reckoned

From a clock that shows a time between the epoch and `2⁵³` seconds after it, every code can be
reckoned: no quotient is too large and no counter out of range. The only text that reading a code
gives up on with a fault of its own is a row of more digits than can be read as a number.

* `Double.ofQuotient?_bound`: a quotient is rounded to at most twice its size.
* `candidateTimes_ok`, `matchesAny_ok`: what is reckoned for a time in the range.
* `parseCode_of_overlong`, `parseCode_of_not_overlong`: how reading a code ends.

The bound on a quotient is a generous one. A counter must stay below `2⁶⁴`, and in a window around
such a time no quotient comes near `2⁶²`, so rounding may well double it.
-/

namespace TwoFactorLogin

/-! ## Rounding -/

namespace Double

theorem unitsPerOne_pos : 0 < unitsPerOne := by decide +kernel

/-- Numbers that fit into 64 bits are far from infinite. -/
theorem mul_unitsPerOne_lt {m : Nat} (hm : m < 2 ^ 64) :
    2 * (m * unitsPerOne) + 1 < unitLimit := by
  have hlimit : 2 * (2 ^ 64 * unitsPerOne) + 1 < unitLimit := by decide +kernel
  have hle : m * unitsPerOne ≤ 2 ^ 64 * unitsPerOne :=
    Nat.mul_le_mul_right _ (Nat.le_of_lt hm)
  omega

theorem roundQuotient_le (num den : Nat) : roundQuotient num den ≤ num / den + 1 := by
  simp only [roundQuotient]
  split
  · omega
  · split <;> omega

theorem two_pow_bitsBeyond_le {leading : Nat} (h : 0 < leading) (n : Nat) :
    2 ^ bitsBeyond leading n ≤ n + 1 := by
  have hbits : bitsBeyond leading n ≤ n.log2 := by
    unfold bitsBeyond
    omega
  calc 2 ^ bitsBeyond leading n ≤ 2 ^ n.log2 := Nat.pow_le_pow_right (by omega) hbits
    _ ≤ n + 1 := by
      by_cases hn : n = 0
      · simp [hn]
      · exact Nat.le_succ_of_le (Nat.log2_self_le hn)

/-- Rounding at most doubles a quotient. -/
theorem roundTo_le {leading : Nat} (h : 0 < leading) (num den : Nat) :
    roundTo leading num den ≤ 2 * (num / den) + 1 := by
  have hscale := two_pow_bitsBeyond_le h (num / den)
  simp only [roundTo, Nat.pow_eq]
  generalize 2 ^ bitsBeyond leading (num / den) = scale at hscale
  calc roundQuotient num (den * scale) * scale
      ≤ (num / (den * scale) + 1) * scale := Nat.mul_le_mul_right _ (roundQuotient_le _ _)
    _ = num / den / scale * scale + scale := by rw [← Nat.div_div_eq_div_mul, Nat.succ_mul]
    _ ≤ num / den + (num / den + 1) := Nat.add_le_add (Nat.div_mul_le_self _ _) hscale
    _ = 2 * (num / den) + 1 := by omega

theorem ofUnits_of_lt {negative : Bool} {num den : Nat} (h : roundUnits num den < unitLimit) :
    ofUnits negative num den = .finite negative (roundUnits num den) := by
  unfold ofUnits
  generalize unitLimit = limit at h
  exact if_pos h

theorem ofQuotient?_natCast (a b : Nat) :
    ofQuotient? a b = (ofUnits false (a * unitsPerOne) b).finite? := by
  have hneg (n : Nat) : decide ((n : Int) < 0) = false := by simp
  rw [ofQuotient?, hneg, hneg, Int.natAbs_natCast, Int.natAbs_natCast, bne_self_eq_false]

theorem ofQuotient?_of_finite {a b units : Nat}
    (h : ofUnits false (a * unitsPerOne) b = .finite false units) :
    ofQuotient? a b = some (.finite false units) := by
  rw [ofQuotient?_natCast, h]
  rfl

theorem ofQuotient?_of_large {a b : Nat} (h : ¬ roundUnits (a * unitsPerOne) b < unitLimit) :
    ofQuotient? a b = none := by
  rw [ofQuotient?_natCast, ofUnits]
  generalize unitLimit = limit at h
  rw [if_neg h]
  rfl

/-- The quotient of two counts is a double of at most twice its size. -/
theorem ofQuotient?_bound {a b m : Nat} (hab : a ≤ b * m) (hm : m < 2 ^ 64) :
    ∃ units, ofQuotient? a b = some (.finite false units) ∧ units ≤ 2 * (m * unitsPerOne) + 1 := by
  have hquotient : a * unitsPerOne / b ≤ m * unitsPerOne := by
    refine Nat.div_le_of_le_mul ?_
    calc a * unitsPerOne ≤ b * m * unitsPerOne := Nat.mul_le_mul_right _ hab
      _ = b * (m * unitsPerOne) := Nat.mul_assoc _ _ _
  have hunits : roundUnits (a * unitsPerOne) b ≤ 2 * (m * unitsPerOne) + 1 := by
    have := roundTo_le (show 0 < 53 by decide) (a * unitsPerOne) b
    unfold roundUnits
    omega
  have hlt : roundUnits (a * unitsPerOne) b < unitLimit := by
    have := mul_unitsPerOne_lt hm
    omega
  exact ⟨_, ofQuotient?_of_finite (ofUnits_of_lt hlt), hunits⟩

/-! ## Order -/

theorem finite_le_finite {s t : Bool} {u v : Nat} :
    (finite s u).le (finite t v) = true ↔ signed s u ≤ signed t v := by
  simp [le, lt]

theorem signed_false (n : Nat) : signed false n = n := rfl

theorem signed_true (n : Nat) : signed true n = -n := rfl

theorem signed_natAbs (i : Int) (n : Nat) : signed (decide (i < 0)) (i.natAbs * n) = i * n := by
  by_cases hi : i < 0
  · have habs : (i.natAbs : Int) = -i := Int.ofNat_natAbs_of_nonpos (Int.le_of_lt hi)
    rw [signed, if_pos (decide_eq_true hi), Int.natCast_mul, habs, Int.neg_mul, Int.neg_neg]
  · have habs : (i.natAbs : Int) = i := Int.natAbs_of_nonneg (Int.not_lt.1 hi)
    simp [signed, hi, habs]

end Double

/-! ## Texts without blanks at the ends -/

namespace Text

/-- A text has no blanks at its ends. -/
structure Trimmed (cs : List Char) : Prop where
  head : ∀ c ∈ cs.head?, isBlank c = false
  last : ∀ c ∈ cs.getLast?, isBlank c = false

theorem trimmed_of_not_blank {cs : List Char} (h : ∀ c ∈ cs, isBlank c = false) : Trimmed cs :=
  ⟨fun c hc => h c (List.mem_of_mem_head? hc), fun c hc => h c (List.mem_of_mem_getLast? hc)⟩

theorem dropWhile_isBlank_eq_self {cs : List Char} (h : ∀ c ∈ cs.head?, isBlank c = false) :
    cs.dropWhile isBlank = cs := by
  cases cs with
  | nil => rfl
  | cons c cs => simp [h c rfl]

/-- Blanks on both sides of a text do not count. -/
theorem Trimmed.stripChars_append {pre core post : List Char} (h : Trimmed core) (hne : core ≠ [])
    (hpre : ∀ c ∈ pre, isBlank c = true) (hpost : ∀ c ∈ post, isBlank c = true) :
    stripChars (pre ++ core ++ post) = core := by
  have hhead : ∀ c ∈ (core ++ post).head?, isBlank c = false := by
    obtain ⟨d, ds, rfl⟩ := List.exists_cons_of_ne_nil hne
    exact h.head
  have hlast : ∀ c ∈ core.reverse.head?, isBlank c = false := by
    rw [List.head?_reverse]
    exact h.last
  rw [stripChars, List.append_assoc, List.dropWhile_append_of_pos hpre,
    dropWhile_isBlank_eq_self hhead, List.reverse_append,
    List.dropWhile_append_of_pos fun c hc => hpost c (List.mem_reverse.1 hc),
    dropWhile_isBlank_eq_self hlast, List.reverse_reverse]

theorem Trimmed.stripChars_eq {cs : List Char} (h : Trimmed cs) : stripChars cs = cs := by
  by_cases hne : cs = []
  · rw [hne]
    rfl
  · have hstrip : stripChars ([] ++ cs ++ []) = cs := h.stripChars_append hne (by simp) (by simp)
    rwa [List.nil_append, List.append_nil] at hstrip

end Text

namespace Otp

/-! ## Reading a code -/

/-- What is left of a submitted code without the blanks around it. -/
def digitsOf (submitted : String) : List Char := Text.stripChars submitted.toList

/-- A submitted code is a row of more digits than can be read as a number. -/
def Overlong (submitted : String) : Prop :=
  (digitsOf submitted).all Text.isAsciiDigit = true ∧ maxIntDigits < (digitsOf submitted).length

theorem parseCode_of_overlong (config : SecondFactorConfig) {submitted : String}
    (h : Overlong submitted) :
    parseCode config (some submitted) =
      .error (.code (.tooManyDigits (digitsOf submitted).length)) := by
  obtain ⟨hdigits, hlong⟩ := h
  unfold digitsOf at *
  have hne : (Text.stripChars submitted.toList).isEmpty = false := by
    rw [List.isEmpty_eq_false_iff]
    intro hnil
    simp [hnil] at hlong
  simp [parseCode, hdigits, hlong, hne]

/-- A code that is not overlong is read, or refused. -/
theorem parseCode_of_not_overlong (config : SecondFactorConfig) {submitted : Option String}
    (h : ∀ s ∈ submitted, ¬ Overlong s) :
    (∃ cause, parseCode config submitted = .error (.codeRefused cause)) ∨
      ∃ code, parseCode config submitted = .ok code := by
  cases submitted with
  | none => exact .inl ⟨.absent, rfl⟩
  | some s =>
    have hs := h s rfl
    unfold Overlong digitsOf at hs
    simp only [parseCode]
    split
    · exact .inl ⟨_, rfl⟩
    · next hdigits =>
      rw [Bool.or_eq_true, not_or] at hdigits
      have hshort : ¬ maxIntDigits < (Text.stripChars s.toList).length :=
        fun hlong => hs ⟨by simpa using hdigits.2, hlong⟩
      rw [if_neg hshort]
      split
      · exact .inl ⟨_, rfl⟩
      · exact .inr ⟨_, rfl⟩

/-! ## Times and counters -/

theorem counterOf_whole {units : Nat} (h : units / Double.unitsPerOne < 2 ^ 64) :
    counterOf (some (.finite false units)) = .ok (units / Double.unitsPerOne) := by
  simp only [counterOf, Double.truncate, Double.signed_false]
  generalize units / Double.unitsPerOne = counter at h
  refine (if_pos ?_).trans (by rw [Int.toNat_natCast])
  rw [Bool.and_eq_true, decide_eq_true_eq, decide_eq_true_eq]
  omega

theorem counterOf_of_large {units : Nat} (h : ¬ units / Double.unitsPerOne < 2 ^ 64) :
    counterOf (some (.finite false units)) = .error (.code .counterOutOfRange) := by
  simp only [counterOf, Double.truncate, Double.signed_false]
  generalize units / Double.unitsPerOne = counter at h
  refine if_neg ?_
  rw [Bool.and_eq_true, decide_eq_true_eq, decide_eq_true_eq]
  omega

/-- A time that is not negative and not too many steps long has a counter. -/
theorem counterAt_ok {step : Nat} {time : Int} (h : 0 ≤ time) (hlt : time < 2 ^ 62 * step) :
    ∃ counter, counterAt step time = .ok counter := by
  obtain ⟨t, rfl⟩ := Int.eq_ofNat_of_zero_le h
  have ht : t ≤ step * 2 ^ 62 := by omega
  obtain ⟨units, hunits, hle⟩ := Double.ofQuotient?_bound ht (by decide)
  have hpos := Double.unitsPerOne_pos
  have hcounter : units / Double.unitsPerOne < 2 ^ 64 := by
    apply Nat.div_lt_of_lt_mul
    omega
  exact ⟨_, by rw [counterAt, hunits, counterOf_whole hcounter]⟩

/-- A time with a counter has the code of the counter. -/
theorem codeAt_of_counter {config : SecondFactorConfig} {key : List UInt8} {time : Int}
    {counter : Nat} (h : counterAt config.timeStep time = .ok counter) :
    codeAt config key time = .ok (hotp config.digits key counter) := by
  rw [codeAt, h]
  rfl

/-- Trying a time with a counter: its code is compared, and then the other times are tried. -/
theorem matchesAny_cons_of_counter {config : SecondFactorConfig} {key : List UInt8} {code : String}
    {time : Int} {rest : List Int} {counter : Nat}
    (h : counterAt config.timeStep time = .ok counter) :
    matchesAny config key code (time :: rest) =
      if hotp config.digits key counter = code then .ok true
      else matchesAny config key code rest := by
  rw [matchesAny, codeAt_of_counter h]
  rfl

/-- A time between the epoch and a bound can be cut to whole seconds. -/
theorem wholeSeconds_ok {time : Number} {bound : Int} (hbound : 0 ≤ bound)
    (h : (Number.int 0).le time = true) (hle : time.le (.int bound) = true) :
    ∃ seconds, wholeSeconds time = .ok seconds ∧ seconds ≤ bound := by
  have hpos : 0 < (Double.unitsPerOne : Int) := Int.natCast_pos.2 Double.unitsPerOne_pos
  rw [Number.le, Number.exact.eq_1 bound] at hle
  cases time with
  | int i =>
    refine ⟨i, rfl, ?_⟩
    rw [Number.exact, Double.finite_le_finite, Double.signed_natAbs, Double.signed_natAbs] at hle
    exact Int.le_of_mul_le_mul_right hle hpos
  | double d =>
    cases d with
    | nan => simp [Number.exact, Double.le] at hle
    | infinity negative =>
      cases negative with
      | false => simp [Number.exact, Double.le, Double.lt] at hle
      | true => simp [Number.le, Number.exact, Double.le, Double.lt] at h
    | finite negative units =>
      refine ⟨Double.signed negative (units / Double.unitsPerOne), rfl, ?_⟩
      rw [Number.exact, Double.finite_le_finite, Double.signed_natAbs] at hle
      cases negative with
      | false => exact Int.ediv_le_of_le_mul hpos hle
      | true => exact Int.le_trans (Int.neg_nonpos_of_nonneg (Int.natCast_nonneg _)) hbound

/-- Every code in the window around a time can be reckoned. -/
theorem candidateTimes_ok (config : SecondFactorConfig) {time : Number}
    (h : (Number.int 0).le time = true) (hle : time.le (.int (2 ^ 53)) = true) :
    ∃ times, candidateTimes config time = .ok times ∧
      ∀ t ∈ times, 0 ≤ t ∧ t < 2 ^ 62 * config.timeStep := by
  obtain ⟨base, hbase, hbound⟩ := wholeSeconds_ok (by decide) h hle
  rw [candidateTimes, hbase]
  refine ⟨_, rfl, fun t ht => ?_⟩
  obtain ⟨hmem, hpos⟩ := List.mem_filter.1 ht
  obtain ⟨i, hi, rfl⟩ := List.mem_map.1 hmem
  have hstep := config.timeStep_pos
  have hwindow := config.window_le
  have hoffset : (i : Int) - config.window ≤ 3 := by
    have := List.mem_range.1 hi
    unfold maxWindow at hwindow
    omega
  have hlate : ((i : Int) - config.window) * config.timeStep ≤ 3 * config.timeStep :=
    Int.mul_le_mul_of_nonneg_right hoffset (Int.natCast_nonneg _)
  refine ⟨by simpa using hpos, ?_⟩
  show base + ((i : Int) - config.window) * config.timeStep < 2 ^ 62 * config.timeStep
  omega

theorem matchesAny_ok (config : SecondFactorConfig) (key : List UInt8) (code : String)
    {times : List Int} (h : ∀ t ∈ times, 0 ≤ t ∧ t < 2 ^ 62 * config.timeStep) :
    ∃ valid, matchesAny config key code times = .ok valid := by
  induction times with
  | nil => exact ⟨false, rfl⟩
  | cons time rest ih =>
    obtain ⟨hpos, hlt⟩ := h time (by simp)
    obtain ⟨counter, hcounter⟩ := counterAt_ok hpos hlt
    obtain ⟨valid, hvalid⟩ := ih fun t ht => h t (List.mem_cons_of_mem _ ht)
    rw [matchesAny_cons_of_counter hcounter]
    by_cases heq : hotp config.digits key counter = code
    · exact ⟨true, if_pos heq⟩
    · exact ⟨valid, (if_neg heq).trans hvalid⟩

end Otp

end TwoFactorLogin
