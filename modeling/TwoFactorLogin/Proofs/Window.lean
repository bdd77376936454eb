import TwoFactorLogin.Otp.Validator
import TwoFactorLogin.Proofs.CodeGrammar
import TwoFactorLogin.Proofs.TimeLeft

/-!
# Which codes are accepted at a time

A time belongs to the step that it lies in, counted from the epoch, and a code is accepted if it is
the one of a step at most a window away from there. Steps before the epoch have no code.

The counter of a time is reckoned in doubles, and a quotient that is rounded up could end in the
next step. Below `2⁵³` it does not: a time and the beginning of the next step are at least one
second apart, which is more than rounding adds to their quotients by the length of a step
(`roundTo_div_unit`). So the counter is the whole quotient, for steps of any length.

Main statement: `validateCode_accepts_iff`.
-/

namespace TwoFactorLogin

/-! ## Rounding does not pass a whole number -/

namespace Double

theorem div_le_roundQuotient (num den : Nat) : num / den ≤ roundQuotient num den := by
  simp only [roundQuotient]
  split
  · exact Nat.le_refl _
  · split <;> omega

theorem roundQuotient_lt {num den m : Nat} (h : 2 * num + den < den * (2 * m)) :
    roundQuotient num den < m := by
  have hsplit := Nat.div_add_mod num den
  have hbound {q : Nat} (hle : den * (2 * q) ≤ 2 * num + den) : q < m := by
    have := Nat.lt_of_mul_lt_mul_left (Nat.lt_of_le_of_lt hle h)
    omega
  have hdouble (q : Nat) : den * (2 * q) = 2 * (den * q) := Nat.mul_left_comm _ _ _
  simp only [roundQuotient]
  split
  · refine hbound ?_
    rw [hdouble]
    omega
  · have hup : num / den + 1 < m := by
      refine hbound ?_
      rw [hdouble, Nat.mul_succ]
      omega
    split <;> omega

theorem lt_of_bitsBeyond_eq_zero {leading unit a b : Nat} (hunit : 2 ^ leading < unit) (hb : 0 < b)
    (h : bitsBeyond leading (a * unit / b) = 0) : a * unit / b < 2 ^ leading ∧ a < b := by
  have hsmall : a * unit / b < 2 ^ leading := by
    refine Nat.lt_of_lt_of_le Nat.lt_log2_self (Nat.pow_le_pow_right (by decide) ?_)
    unfold bitsBeyond at h
    omega
  refine ⟨hsmall, Nat.lt_of_not_le fun hle => ?_⟩
  have hone : unit ≤ a * unit / b :=
    (Nat.le_div_iff_mul_le hb).2 (by rw [Nat.mul_comm]; exact Nat.mul_le_mul_right _ hle)
  omega

/-- Rounding the quotient of a time and a step by some bits moves the time by less than one. -/
theorem mul_two_pow_bitsBeyond_lt {leading unit a b : Nat} (hleading : 0 < leading)
    (hunit : 0 < unit) (ha : a < 2 ^ leading) (hb : 0 < b)
    (h : bitsBeyond leading (a * unit / b) ≠ 0) :
    b * 2 ^ bitsBeyond leading (a * unit / b) < 2 * unit := by
  have hlog : (a * unit / b).log2 = leading - 1 + bitsBeyond leading (a * unit / b) := by
    unfold bitsBeyond at h ⊢
    omega
  generalize bitsBeyond leading (a * unit / b) = s at h hlog
  have hne : a * unit / b ≠ 0 := by
    intro hzero
    rw [hzero, Nat.log2_zero] at hlog
    omega
  have hlow : 2 ^ (leading - 1 + s) * b ≤ a * unit :=
    (Nat.le_div_iff_mul_le hb).1 (hlog ▸ Nat.log2_self_le hne)
  have htwo : 2 ^ leading = 2 ^ (leading - 1) * 2 := by
    rw [← Nat.pow_succ, Nat.succ_eq_add_one, Nat.sub_add_cancel hleading]
  refine Nat.lt_of_mul_lt_mul_left (a := 2 ^ (leading - 1)) ?_
  calc 2 ^ (leading - 1) * (b * 2 ^ s) = 2 ^ (leading - 1 + s) * b := by
        rw [Nat.pow_add, Nat.mul_assoc, Nat.mul_comm b]
    _ ≤ a * unit := hlow
    _ < 2 ^ leading * unit := Nat.mul_lt_mul_of_pos_right ha hunit
    _ = 2 ^ (leading - 1) * (2 * unit) := by rw [htwo, Nat.mul_assoc]

/-- The whole part of a quotient survives rounding, if the numerator has no more bits than are
kept and the unit is a smaller power of two. -/
theorem roundTo_div_unit {leading k unit a b : Nat} (hunit : unit = Nat.pow 2 k) (hk : leading < k)
    (hleading : 0 < leading) (ha : a < 2 ^ leading) (hb : 0 < b) :
    roundTo leading (a * unit) b / unit = a / b := by
  rw [Nat.pow_eq] at hunit
  have hpos : 0 < unit := hunit ▸ Nat.two_pow_pos k
  have hlt : 2 ^ leading < unit := hunit ▸ Nat.pow_lt_pow_right (by decide) hk
  simp only [roundTo, Nat.pow_eq]
  by_cases hs : bitsBeyond leading (a * unit / b) = 0
  · obtain ⟨hsmall, hab⟩ := lt_of_bitsBeyond_eq_zero hlt hb hs
    have hround := roundQuotient_le (a * unit) b
    rw [hs, Nat.pow_zero, Nat.mul_one, Nat.mul_one, Nat.div_eq_of_lt hab,
      Nat.div_eq_of_lt (by omega)]
  · have hscale := mul_two_pow_bitsBeyond_lt hleading hpos ha hb hs
    generalize bitsBeyond leading (a * unit / b) = s at hscale
    have hsk : s ≤ k := by
      have hle : 2 ^ s ≤ b * 2 ^ s := Nat.le_mul_of_pos_left _ hb
      have hpow : 2 ^ s < 2 ^ (k + 1) := by
        rw [Nat.pow_succ]
        omega
      exact Nat.le_of_lt_succ ((Nat.pow_lt_pow_iff_right (by decide)).1 hpow)
    -- Whole numbers are multiples of what is rounded to, so rounding cannot pass them.
    obtain ⟨m, hm⟩ : ∃ m, unit = m * 2 ^ s :=
      ⟨2 ^ (k - s), by rw [hunit, ← Nat.pow_add, Nat.sub_add_cancel hsk]⟩
    have hmultiple (q : Nat) : q * m * (b * 2 ^ s) = q * b * unit := by
      rw [hm]
      ac_rfl
    have hlow : a / b * m ≤ roundQuotient (a * unit) (b * 2 ^ s) := by
      refine Nat.le_trans ?_ (div_le_roundQuotient _ _)
      refine (Nat.le_div_iff_mul_le (Nat.mul_pos hb (Nat.two_pow_pos s))).2 ?_
      rw [hmultiple]
      exact Nat.mul_le_mul_right _ (Nat.div_mul_le_self a b)
    have hhigh : roundQuotient (a * unit) (b * 2 ^ s) < (a / b + 1) * m := by
      refine roundQuotient_lt ?_
      have hnext : a + 1 ≤ (a / b + 1) * b := by
        rw [Nat.mul_comm]
        exact Nat.lt_mul_div_succ a hb
      calc 2 * (a * unit) + b * 2 ^ s < 2 * (a * unit) + 2 * unit := Nat.add_lt_add_left hscale _
        _ = 2 * ((a + 1) * unit) := by rw [Nat.add_one_mul a, Nat.mul_add 2]
        _ ≤ 2 * ((a / b + 1) * b * unit) :=
          Nat.mul_le_mul_left _ (Nat.mul_le_mul_right _ hnext)
        _ = b * 2 ^ s * (2 * ((a / b + 1) * m)) := by
          rw [← hmultiple]
          ac_rfl
    calc roundQuotient (a * unit) (b * 2 ^ s) * 2 ^ s / unit
        = roundQuotient (a * unit) (b * 2 ^ s) * 2 ^ s / (m * 2 ^ s) := by rw [← hm]
      _ = roundQuotient (a * unit) (b * 2 ^ s) / m :=
        Nat.mul_div_mul_right _ _ (Nat.two_pow_pos s)
      _ = a / b := Nat.div_eq_of_lt_le hlow hhigh

/-- Below `2⁵³` the whole part of a rounded quotient is the whole quotient. -/
theorem ofQuotient?_whole {a b : Nat} (ha : a < 2 ^ 53) (hb : 0 < b) :
    ∃ units, ofQuotient? a b = some (.finite false units) ∧ units / unitsPerOne = a / b := by
  have hunit : ∃ k, 53 < k ∧ unitsPerOne = Nat.pow 2 k := by
    refine ⟨1074, by decide, ?_⟩
    unfold unitsPerOne
    rfl
  obtain ⟨k, hk, hunit⟩ := hunit
  have hwhole : roundUnits (a * unitsPerOne) b / unitsPerOne = a / b :=
    roundTo_div_unit hunit hk (by decide) ha hb
  have hlt : roundUnits (a * unitsPerOne) b < unitLimit := by
    have hround := roundTo_le (show 0 < 53 by decide) (a * unitsPerOne) b
    have hle := Nat.div_le_self (a * unitsPerOne) b
    have hlimit := mul_unitsPerOne_lt (Nat.lt_trans ha (by decide))
    unfold roundUnits
    omega
  exact ⟨_, ofQuotient?_of_finite (ofUnits_of_lt hlt), hwhole⟩

end Double

namespace Otp

/-! ## Counters -/

theorem counterAt_eq {step : Nat} {time : Int} (hstep : 0 < step) (h : 0 ≤ time)
    (hlt : time < 2 ^ 53) : counterAt step time = .ok (time / step).toNat := by
  obtain ⟨t, rfl⟩ := Int.eq_ofNat_of_zero_le h
  have ht : t < 2 ^ 53 := by omega
  obtain ⟨units, hunits, hwhole⟩ := Double.ofQuotient?_whole ht hstep
  have hsmall : units / Double.unitsPerOne < 2 ^ 64 := by
    rw [hwhole]
    exact Nat.lt_of_le_of_lt (Nat.div_le_self t step) (Nat.lt_trans ht (by decide))
  rw [counterAt, hunits, counterOf_whole hsmall, hwhole, ← Int.natCast_ediv, Int.toNat_natCast]

variable {config : SecondFactorConfig} {key : List UInt8}

theorem codeAt_eq {time : Int} (h : 0 ≤ time) (hlt : time < 2 ^ 53) :
    codeAt config key time = .ok (hotp config.digits key (time / config.timeStep).toNat) :=
  codeAt_of_counter (counterAt_eq config.timeStep_pos h hlt)

theorem matchesAny_eq_ok (key : List UInt8) (code : String) {times : List Int}
    (h : ∀ t ∈ times, 0 ≤ t ∧ t < 2 ^ 53) :
    ∃ valid, matchesAny config key code times = .ok valid ∧
      (valid = true ↔
        ∃ t ∈ times, code = hotp config.digits key (t / config.timeStep).toNat) := by
  induction times with
  | nil => exact ⟨false, rfl, by simp⟩
  | cons time rest ih =>
    obtain ⟨hpos, hlt⟩ := h time (by simp)
    obtain ⟨valid, hvalid, hiff⟩ := ih fun t ht => h t (List.mem_cons_of_mem _ ht)
    rw [matchesAny_cons_of_counter (counterAt_eq config.timeStep_pos hpos hlt)]
    by_cases heq : hotp config.digits key (time / config.timeStep).toNat = code
    · exact ⟨true, if_pos heq, by simp [heq]⟩
    · exact ⟨valid, (if_neg heq).trans hvalid, by simp [hiff, Ne.symm heq]⟩

/-! ## The window -/

/-- A counter is at most a window away from the one of a time. -/
def InWindow (config : SecondFactorConfig) (time : Int) (counter : Nat) : Prop :=
  (counter - time / config.timeStep).natAbs ≤ config.window

instance (config : SecondFactorConfig) (time : Int) (counter : Nat) :
    Decidable (InWindow config time counter) := inferInstanceAs (Decidable (_ ≤ _))

/-- The times whose codes are accepted: those a whole number of steps away, at most a window, that
are not before the epoch. -/
theorem candidateTimes_eq_ok (config : SecondFactorConfig) {time : Number} {base : Int}
    (h : wholeSeconds time = .ok base) :
    ∃ times, candidateTimes config time = .ok times ∧
      ∀ t, t ∈ times ↔
        0 ≤ t ∧ ∃ offset : Int, offset.natAbs ≤ config.window ∧
          t = base + offset * config.timeStep := by
  rw [candidateTimes, h]
  refine ⟨_, rfl, fun t => ?_⟩
  rw [List.mem_filter, List.mem_map, decide_eq_true_eq, and_comm, and_congr_right_iff]
  intro _
  constructor
  · rintro ⟨i, hi, rfl⟩
    have := List.mem_range.1 hi
    exact ⟨i - config.window, by omega, rfl⟩
  · rintro ⟨offset, hoffset, rfl⟩
    refine ⟨(offset + config.window).toNat, List.mem_range.2 (by omega), ?_⟩
    show base + (((offset + config.window).toNat : Int) - config.window) * config.timeStep = _
    rw [Int.toNat_of_nonneg (by omega), Int.add_sub_cancel]

theorem exists_time_iff {times : List Int} {base : Int} {counter : Nat}
    (h : ∀ t, t ∈ times ↔
      0 ≤ t ∧ ∃ offset : Int, offset.natAbs ≤ config.window ∧
        t = base + offset * config.timeStep) :
    (∃ t ∈ times, (t / config.timeStep).toNat = counter) ↔ InWindow config base counter := by
  have hstep : (0 : Int) < config.timeStep := Int.natCast_pos.2 config.timeStep_pos
  have hdiv (offset : Int) :
      (base + offset * config.timeStep) / config.timeStep = base / config.timeStep + offset :=
    Int.add_mul_ediv_right _ _ (Int.ne_of_gt hstep)
  unfold InWindow
  constructor
  · rintro ⟨t, ht, rfl⟩
    obtain ⟨hpos, offset, hoffset, rfl⟩ := (h t).1 ht
    rw [Int.toNat_of_nonneg (Int.ediv_nonneg hpos (Int.le_of_lt hstep)), hdiv]
    omega
  · intro hcounter
    have hquotient : (base + (counter - base / config.timeStep) * config.timeStep) /
        config.timeStep = counter := by
      rw [hdiv]
      omega
    refine ⟨_, (h _).2 ⟨?_, _, hcounter, rfl⟩, by rw [hquotient, Int.toNat_natCast]⟩
    rw [← Int.ediv_nonneg_iff_of_pos hstep, hquotient]
    exact Int.natCast_nonneg counter

theorem matchesAny_candidateTimes {time : Number} {base : Int} (h : wholeSeconds time = .ok base)
    (hlimit : base + config.window * config.timeStep < 2 ^ 53) (key : List UInt8) (code : String) :
    ∃ times valid, candidateTimes config time = .ok times ∧
      matchesAny config key code times = .ok valid ∧
      (valid = true ↔
        ∃ counter, InWindow config base counter ∧ code = hotp config.digits key counter) := by
  obtain ⟨times, htimes, hmem⟩ := candidateTimes_eq_ok config h
  have hrange : ∀ t ∈ times, 0 ≤ t ∧ t < 2 ^ 53 := by
    intro t ht
    obtain ⟨hpos, offset, hoffset, rfl⟩ := (hmem t).1 ht
    have hlate : offset * config.timeStep ≤ config.window * config.timeStep :=
      Int.mul_le_mul_of_nonneg_right (by omega) (Int.natCast_nonneg _)
    exact ⟨hpos, by omega⟩
  obtain ⟨valid, hvalid, hiff⟩ := matchesAny_eq_ok key code hrange
  refine ⟨times, valid, htimes, hvalid, hiff.trans ?_⟩
  simp only [← exists_time_iff hmem]
  constructor
  · rintro ⟨t, ht, rfl⟩
    exact ⟨_, ⟨t, ht, rfl⟩, rfl⟩
  · rintro ⟨_, ⟨t, ht, rfl⟩, rfl⟩
    exact ⟨t, ht, rfl⟩

theorem wholeSeconds_of_truncate {time : Number} {base : Int} (h : time.truncate = .ok base) :
    wholeSeconds time = .ok base := by
  rw [wholeSeconds, h]

end Otp

namespace SecondFactorValidator

open Otp

section

variable {config : SecondFactorConfig} {secret : SecondFactorSecret} {key : List UInt8}
  {submitted : Option String} {time : Option Number} {w : World} {base : Int}

theorem validateCode_of_refused {cause : CodeError}
    (h : parseCode config submitted = .error (.codeRefused cause)) :
    (validateCode config secret submitted time w).1 = .ok false := by
  rw [validateCode, h]
  rfl

theorem validateCode_of_code {code : String} (hkey : Base32.decodeSecret secret.secret = .ok key)
    (htime : (time.getD w.clocks.wall).truncate = .ok base)
    (hlimit : base + config.window * config.timeStep < 2 ^ 53)
    (hcode : parseCode config submitted = .ok code) :
    ∃ valid, validateCode config secret submitted time w = (.ok valid, w) ∧
      (valid = true ↔
        ∃ counter, InWindow config base counter ∧ code = hotp config.digits key counter) := by
  obtain ⟨times, valid, htimes, hvalid, hiff⟩ := matchesAny_candidateTimes
    (wholeSeconds_of_truncate htime) hlimit key code
  refine ⟨valid, ?_, hiff⟩
  simp only [validateCode, hcode, hkey, timeOrNow, Run.bind_apply, Run.read_apply,
    Run.ofExcept_apply, htimes, hvalid]

/-- A code is valid exactly if it is read as the code of a counter in the window; otherwise it is
not valid, without a fault. -/
theorem validateCode_accepts_iff (hkey : Base32.decodeSecret secret.secret = .ok key)
    (htime : (time.getD w.clocks.wall).truncate = .ok base)
    (hlimit : base + config.window * config.timeStep < 2 ^ 53)
    (hshort : ∀ s ∈ submitted, s.length ≤ maxIntDigits) :
    ∃ valid, (validateCode config secret submitted time w).1 = .ok valid ∧
      (valid = true ↔ ∃ counter, InWindow config base counter ∧
        parseCode config submitted = .ok (hotp config.digits key counter)) := by
  have hread := parseCode_of_not_overlong config fun s hs => not_overlong_of_length (hshort s hs)
  rcases hread with ⟨cause, hrefused⟩ | ⟨code, hcode⟩
  · exact ⟨false, validateCode_of_refused hrefused, by simp [hrefused]⟩
  · obtain ⟨valid, hvalid, hiff⟩ := validateCode_of_code hkey htime hlimit hcode
    exact ⟨valid, by rw [hvalid], by simpa [hcode] using hiff⟩

end

namespace Sample

/-- The secret of the test values that come with the standard for such codes. -/
def secret : SecondFactorSecret := ⟨"ann", "GEZDGNBVGY3TQOJQGEZDGNBVGY3TQOJQ", .bool true⟩

/-- Its key. -/
def key : List UInt8 := "12345678901234567890".toList.map fun c => c.toNat.toUInt8

theorem decode_eq : Base32.decodeSecret secret.secret = .ok key := rfl

/-- A world in which it is the epoch. -/
def world : World := .start ⟨.int 0, .int 0, ""⟩

end Sample

/-- One second before the epoch, the code of the first step is accepted. -/
theorem validateCode_before_epoch :
    (validateCode {} Sample.secret (some " 755224\t") (some (.int (-1))) Sample.world).1 =
      .ok true := by
  have htime : ((some (Number.int (-1))).getD Sample.world.clocks.wall).truncate = .ok (-1) := rfl
  have hlimit : (-1 : Int) + ({} : SecondFactorConfig).window * ({} : SecondFactorConfig).timeStep <
      2 ^ 53 := by decide
  have hshort : ∀ s ∈ some " 755224\t", s.length ≤ maxIntDigits := by decide
  obtain ⟨valid, hvalid, hiff⟩ := validateCode_accepts_iff Sample.decode_eq htime hlimit hshort
  have hcode : parseCode {} (some " 755224\t") = .ok "755224" := rfl
  have hhotp : "755224" = hotp 6 Sample.key 0 := by decide +kernel
  rw [hvalid, hiff.2 ⟨0, by decide, hcode.trans (congrArg _ hhotp)⟩]

end SecondFactorValidator

end TwoFactorLogin
