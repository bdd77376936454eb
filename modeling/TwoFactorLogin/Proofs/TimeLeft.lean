import TwoFactorLogin.Proofs.Connecting
import TwoFactorLogin.Proofs.Reckoning

/-!
# Time that is left

As long as a deadline has not expired, the clock is strictly before it, although what is left of it
is rounded. Rounding never turns the order of two counts around (`roundUnits_mono`), and a double
that is rounded stays what it is; so a difference can only be positive if the numbers themselves are
in that order.

* `Double.lt_iff_rank`, `Double.le_iff_rank`: the order of doubles, read off integers.
* `Number.lt_of_sub?_pos`: a positive difference means the right order.
* `Deadline.expired_eq_false_iff`: a deadline has not expired exactly if something is left of it.
* `clampTo_eq_ok`: a timeout is shortened to the minimum of itself and what is left.
-/

namespace TwoFactorLogin

namespace Double

/-! ## Rounding keeps the order -/

theorem roundQuotient_mono {a b : Nat} (h : a ≤ b) (den : Nat) :
    roundQuotient a den ≤ roundQuotient b den := by
  have hq : a / den ≤ b / den := Nat.div_le_div_right h
  have hup := roundQuotient_le a den
  rcases Nat.lt_or_eq_of_le hq with hlt | heq
  · have hdown : b / den ≤ roundQuotient b den := by
      simp only [roundQuotient]
      split
      · exact Nat.le_refl _
      · split <;> omega
    exact Nat.le_trans hup (Nat.le_trans hlt hdown)
  · have hr : a % den ≤ b % den := by
      have ha := Nat.div_add_mod a den
      have hb := Nat.div_add_mod b den
      rw [heq] at ha
      omega
    rw [heq] at hup
    simp only [roundQuotient, heq] at hup ⊢
    by_cases hlow : 2 * (b % den) < den
    · have hlow' : 2 * (a % den) < den := by omega
      exact Nat.le_of_eq (by rw [if_pos hlow, if_pos hlow'])
    · rw [if_neg hlow]
      by_cases hhigh : den < 2 * (b % den)
      · rw [if_pos hhigh]
        exact hup
      · -- The larger number is halfway, so the other is halfway too, or below.
        rw [if_neg hhigh]
        by_cases hbelow : 2 * (a % den) < den
        · rw [if_pos hbelow]
          exact Nat.le_add_right _ _
        · have hhigh' : ¬ den < 2 * (a % den) := by omega
          exact Nat.le_of_eq (by rw [if_neg hbelow, if_neg hhigh'])

theorem roundQuotient_of_dvd {a den : Nat} (hden : 0 < den) (h : den ∣ a) :
    roundQuotient a den * den = a := by
  have hr : a % den = 0 := Nat.mod_eq_zero_of_dvd h
  simp only [roundQuotient, hr, Nat.mul_zero, if_pos hden]
  exact Nat.div_mul_cancel h

theorem roundQuotient_two_pow {den s k : Nat} (hden : 0 < den) (h : s ≤ k) :
    roundQuotient (den * 2 ^ k) (den * 2 ^ s) * 2 ^ s = 2 ^ k := by
  have hround : roundQuotient (den * 2 ^ k) (den * 2 ^ s) * (den * 2 ^ s) = den * 2 ^ k :=
    roundQuotient_of_dvd (Nat.mul_pos hden (Nat.two_pow_pos s))
      (Nat.mul_dvd_mul_left den (Nat.pow_dvd_pow 2 h))
  apply Nat.eq_of_mul_eq_mul_left hden
  refine Eq.trans ?_ hround
  ac_rfl

variable {leading num num' den k : Nat}

/-- A power of two within the bits of a quotient is a bound that rounding does not pass. -/
theorem roundTo_le_two_pow (hden : 0 < den) (hk : bitsBeyond leading (num / den) ≤ k)
    (h : num ≤ den * 2 ^ k) : roundTo leading num den ≤ 2 ^ k := by
  simp only [roundTo, Nat.pow_eq]
  generalize bitsBeyond leading (num / den) = s at hk
  calc roundQuotient num (den * 2 ^ s) * 2 ^ s
      ≤ roundQuotient (den * 2 ^ k) (den * 2 ^ s) * 2 ^ s :=
        Nat.mul_le_mul_right _ (roundQuotient_mono h _)
    _ = 2 ^ k := roundQuotient_two_pow hden hk

theorem two_pow_le_roundTo (hden : 0 < den) (hk : bitsBeyond leading (num / den) ≤ k)
    (h : den * 2 ^ k ≤ num) : 2 ^ k ≤ roundTo leading num den := by
  simp only [roundTo, Nat.pow_eq]
  generalize bitsBeyond leading (num / den) = s at hk
  calc 2 ^ k = roundQuotient (den * 2 ^ k) (den * 2 ^ s) * 2 ^ s :=
        (roundQuotient_two_pow hden hk).symm
    _ ≤ roundQuotient num (den * 2 ^ s) * 2 ^ s :=
        Nat.mul_le_mul_right _ (roundQuotient_mono h _)

/-- Rounding keeps the order. Quotients of one length are rounded at the same bit; between quotients
of different lengths there is a power of two. -/
theorem roundTo_mono (hleading : 0 < leading) (hden : 0 < den) (h : num ≤ num') :
    roundTo leading num den ≤ roundTo leading num' den := by
  have hq : num / den ≤ num' / den := Nat.div_le_div_right h
  by_cases hlen : (num / den).log2 = (num' / den).log2
  · simp only [roundTo, bitsBeyond, Nat.pow_eq, hlen]
    exact Nat.mul_le_mul_right _ (roundQuotient_mono h _)
  · have hne : num' / den ≠ 0 := by
      intro hzero
      rw [hzero, Nat.le_zero] at hq
      exact hlen (by rw [hq, hzero])
    have hlog : (num / den).log2 ≤ (num' / den).log2 := by
      by_cases hzero : num / den = 0
      · simp [hzero]
      · exact (Nat.le_log2 hne).2 (Nat.le_trans (Nat.log2_self_le hzero) hq)
    have hnum : num ≤ den * 2 ^ ((num / den).log2 + 1) :=
      Nat.le_trans (Nat.le_of_lt (Nat.lt_mul_div_succ num hden))
        (Nat.mul_le_mul_left den Nat.lt_log2_self)
    have hnum' : den * 2 ^ (num' / den).log2 ≤ num' :=
      Nat.le_trans (Nat.mul_le_mul_left den (Nat.log2_self_le hne)) (Nat.mul_div_le num' den)
    calc roundTo leading num den
        ≤ 2 ^ ((num / den).log2 + 1) :=
          roundTo_le_two_pow hden (by unfold bitsBeyond; omega) hnum
      _ ≤ 2 ^ (num' / den).log2 := Nat.pow_le_pow_right (by omega) (by omega)
      _ ≤ roundTo leading num' den :=
          two_pow_le_roundTo hden (by unfold bitsBeyond; omega) hnum'

theorem roundUnits_mono (hden : 0 < den) (h : num ≤ num') :
    roundUnits num den ≤ roundUnits num' den :=
  roundTo_mono (by decide) hden h

theorem roundUnits_zero : roundUnits 0 1 = 0 := by decide

/-- Rounding keeps the order of numbers with a sign. -/
theorem signed_roundUnits_mono {s t : Bool} {m n : Nat} (h : signed s m ≤ signed t n) :
    signed s (roundUnits m 1) ≤ signed t (roundUnits n 1) := by
  have hzero := roundUnits_zero
  cases s with
  | false =>
    cases t with
    | false =>
      have hmn : m ≤ n := by simpa [signed] using h
      simpa [signed] using roundUnits_mono Nat.one_pos hmn
    | true =>
      obtain ⟨rfl, rfl⟩ : m = 0 ∧ n = 0 := by
        simp only [signed_false, signed_true] at h
        omega
      simp [signed, hzero]
  | true =>
    cases t with
    | false =>
      simp only [signed_false, signed_true]
      omega
    | true =>
      have hnm : n ≤ m := by simpa [signed] using h
      simpa [signed] using roundUnits_mono Nat.one_pos hnm

/-! ## Order -/

theorem finite_lt_finite {s t : Bool} {u v : Nat} :
    (finite s u).lt (finite t v) = true ↔ signed s u < signed t v := by
  simp [lt]

/-- Where a double that is a number stands: below, among or above the finite ones, and at which
count of units. -/
def rank : Double → Int × Int
  | nan => (0, 0)
  | infinity negative => (signed negative 1, 0)
  | finite negative units => (0, signed negative units)

theorem lt_iff_rank {a b : Double} : a.lt b = true ↔ a ≠ nan ∧ b ≠ nan ∧
    (a.rank.1 < b.rank.1 ∨ a.rank.1 = b.rank.1 ∧ a.rank.2 < b.rank.2) := by
  cases a with
  | nan => simp [lt]
  | infinity s =>
    cases b with
    | nan => cases s <;> simp [lt]
    | infinity t => cases s <;> cases t <;> simp [lt, rank, signed]
    | finite t v => cases s <;> simp [lt, rank, signed]
  | finite s u =>
    cases b with
    | nan => simp [lt]
    | infinity t => cases t <;> simp [lt, rank, signed]
    | finite t v => simp [lt, rank]

theorem ne_nan_of_lt {a b : Double} (h : a.lt b = true) : a ≠ nan ∧ b ≠ nan :=
  ⟨(lt_iff_rank.1 h).1, (lt_iff_rank.1 h).2.1⟩

theorem le_eq_not_lt {a b : Double} (ha : a ≠ nan) (hb : b ≠ nan) : a.le b = !b.lt a := by
  cases a with
  | nan => exact (ha rfl).elim
  | infinity s =>
    cases b with
    | nan => exact (hb rfl).elim
    | infinity t => rfl
    | finite t v => rfl
  | finite s u =>
    cases b with
    | nan => exact (hb rfl).elim
    | infinity t => rfl
    | finite t v => rfl

theorem le_eq_false_of_lt {a b : Double} (h : a.lt b = true) : b.le a = false := by
  rw [le_eq_not_lt (ne_nan_of_lt h).2 (ne_nan_of_lt h).1, h]
  rfl

theorem le_iff_rank {a b : Double} : a.le b = true ↔ a ≠ nan ∧ b ≠ nan ∧
    (a.rank.1 < b.rank.1 ∨ a.rank.1 = b.rank.1 ∧ a.rank.2 ≤ b.rank.2) := by
  by_cases ha : a = nan
  · simp [ha, le]
  · by_cases hb : b = nan
    · cases a <;> simp [hb, le]
    · rw [le_eq_not_lt ha hb, Bool.not_eq_true', ← Bool.not_eq_true, lt_iff_rank]
      simp only [ha, hb, ne_eq, not_false_iff, true_and]
      omega

theorem le_self {a : Double} (h : a ≠ nan) : a.le a = true :=
  le_iff_rank.2 ⟨h, h, .inr ⟨rfl, Int.le_refl _⟩⟩

theorem le_of_lt {a b : Double} (h : a.lt b = true) : a.le b = true := by
  obtain ⟨ha, hb, hrank⟩ := lt_iff_rank.1 h
  exact le_iff_rank.2 ⟨ha, hb, by omega⟩

theorem le_trans {a b c : Double} (hab : a.le b = true) (hbc : b.le c = true) :
    a.le c = true := by
  obtain ⟨ha, -, hab⟩ := le_iff_rank.1 hab
  obtain ⟨-, hc, hbc⟩ := le_iff_rank.1 hbc
  exact le_iff_rank.2 ⟨ha, hc, by omega⟩

theorem lt_of_le_of_lt {a b c : Double} (hab : a.le b = true) (hbc : b.lt c = true) :
    a.lt c = true := by
  obtain ⟨ha, -, hab⟩ := le_iff_rank.1 hab
  obtain ⟨-, hc, hbc⟩ := lt_iff_rank.1 hbc
  exact lt_iff_rank.2 ⟨ha, hc, by omega⟩

/-! ## Differences -/

theorem signed_not (s : Bool) (u : Nat) : signed (!s) u = -signed s u := by
  cases s <;> simp [signed]

theorem roundUnits_pos {n : Nat} : 0 < roundUnits n 1 ↔ 0 < n := by
  constructor
  · intro h
    refine Nat.pos_of_ne_zero ?_
    rintro rfl
    rw [roundUnits_zero] at h
    exact Nat.lt_irrefl 0 h
  · intro h
    exact Nat.lt_of_lt_of_le (by decide) (roundUnits_mono Nat.one_pos h)

/-- Rounding neither loses a positive number of units nor makes one. -/
theorem ofUnits_pos_iff {s : Bool} {n : Nat} :
    (finite false 0).lt (ofUnits s n 1) = true ↔ 0 < signed s n := by
  have hpos := @roundUnits_pos n
  have hlimit : 0 < unitLimit := by decide +kernel
  simp only [ofUnits]
  generalize unitLimit = limit at hlimit
  split
  · rw [finite_lt_finite]
    cases s <;> simp only [signed_false, signed_true] <;> omega
  · next hlarge =>
    have hn : 0 < n := hpos.1 (Nat.lt_of_lt_of_le hlimit (Nat.not_lt.1 hlarge))
    cases s with
    | false => simp [lt, signed, hn]
    | true => simp [lt, signed]

/-- A difference of finite doubles is a whole number of units before it is rounded. -/
theorem exists_sub_finite (s : Bool) (u : Nat) (t : Bool) (v : Nat) :
    ∃ sign n, (finite s u).sub (finite t v) = ofUnits sign n 1 ∧
      signed sign n = signed s u - signed t v := by
  simp only [sub, neg, add, signed_not, ← Int.sub_eq_add_neg]
  generalize signed s u - signed t v = difference
  refine ⟨_, _, rfl, ?_⟩
  split
  · next hzero => simp [hzero, signed]
  · have hsigned := signed_natAbs difference 1
    rwa [Nat.mul_one, Int.natCast_one, Int.mul_one] at hsigned

/-- A difference of doubles is positive only if they are in that order: it may be rounded, but not
to the other side of zero. -/
theorem lt_of_sub_pos {a b : Double} (h : (finite false 0).lt (a.sub b) = true) :
    b.lt a = true := by
  cases a with
  | nan => cases h
  | infinity s =>
    cases b with
    | nan => cases h
    | infinity t => cases s <;> cases t <;> simp_all [sub, neg, add, lt]
    | finite t v => cases s <;> simp_all [sub, neg, add, lt]
  | finite s u =>
    cases b with
    | nan => cases h
    | infinity t => cases t <;> simp_all [sub, neg, add, lt]
    | finite t v =>
      obtain ⟨sign, n, hsub, hsigned⟩ := exists_sub_finite s u t v
      rw [hsub, ofUnits_pos_iff] at h
      rw [finite_lt_finite]
      omega

/-- A double that exists: rounding leaves it alone. -/
def Representable : Double → Prop
  | finite _ units => roundUnits units 1 = units
  | _ => True

theorem eq_of_ofInt {i : Int} {x : Double} (h : (ofInt i).finite? = some x) :
    x = finite (decide (i < 0)) (roundUnits (i.natAbs * unitsPerOne) 1) := by
  simp only [ofInt, ofUnits] at h
  split at h
  · exact (Option.some.inj h).symm
  · cases h

/-- What is below the double nearest to an integer is below the integer. -/
theorem lt_of_lt_ofInt {i : Int} {x y : Double} (hy : y.Representable)
    (hx : (ofInt i).finite? = some x) (h : y.lt x = true) :
    y.lt (finite (decide (i < 0)) (i.natAbs * unitsPerOne)) = true := by
  obtain rfl := eq_of_ofInt hx
  cases y with
  | nan => cases h
  | infinity t => cases t <;> simp_all [lt]
  | finite t v =>
    rw [finite_lt_finite] at h ⊢
    refine Int.not_le.1 fun hle => ?_
    have hround := signed_roundUnits_mono hle
    rw [show roundUnits v 1 = v from hy] at hround
    omega

/-- What is above the double nearest to an integer is above the integer. -/
theorem lt_of_ofInt_lt {i : Int} {x y : Double} (hy : y.Representable)
    (hx : (ofInt i).finite? = some x) (h : x.lt y = true) :
    (finite (decide (i < 0)) (i.natAbs * unitsPerOne)).lt y = true := by
  obtain rfl := eq_of_ofInt hx
  cases y with
  | nan => cases h
  | infinity t => cases t <;> simp_all [lt]
  | finite t v =>
    rw [finite_lt_finite] at h ⊢
    refine Int.not_le.1 fun hle => ?_
    have hround := signed_roundUnits_mono hle
    rw [show roundUnits v 1 = v from hy] at hround
    omega

end Double

namespace Number

/-- A number that a clock can show: an integer, or a double that exists. -/
def Representable : Number → Prop
  | int _ => True
  | double d => d.Representable

theorem int_lt_int {i j : Int} : (int i).lt (int j) = true ↔ i < j := by
  have hpos : (0 : Int) < Double.unitsPerOne := Int.natCast_pos.2 Double.unitsPerOne_pos
  rw [lt, exact, exact, Double.finite_lt_finite, Double.signed_natAbs, Double.signed_natAbs]
  exact Int.mul_lt_mul_right hpos

theorem zero_lt_int {i : Int} : zero.lt (int i) = true ↔ 0 < i := by
  have hzero : (int 0).exact = zero.exact := by simp [exact, zero]
  rw [← int_lt_int, lt, lt, hzero]

/-- A difference is positive only if the numbers are in that order. -/
theorem lt_of_sub?_pos {a b left : Number} (ha : a.Representable) (hb : b.Representable)
    (h : a.sub? b = some left) (hpos : zero.lt left = true) : b.lt a = true := by
  cases a with
  | int i =>
    cases b with
    | int j =>
      obtain rfl : int (i - j) = left := Option.some.inj h
      rw [zero_lt_int] at hpos
      rw [int_lt_int]
      omega
    | double y =>
      cases hx : (Double.ofInt i).finite? with
      | none => simp [sub?, toDouble?, hx] at h
      | some x =>
        obtain rfl : double (x.sub y) = left := by simpa [sub?, toDouble?, hx] using h
        exact Double.lt_of_lt_ofInt hb hx (Double.lt_of_sub_pos hpos)
  | double x =>
    cases b with
    | int j =>
      cases hy : (Double.ofInt j).finite? with
      | none => simp [sub?, toDouble?, hy] at h
      | some y =>
        obtain rfl : double (x.sub y) = left := by simpa [sub?, toDouble?, hy] using h
        exact Double.lt_of_ofInt_lt ha hy (Double.lt_of_sub_pos hpos)
    | double y =>
      obtain rfl : double (x.sub y) = left := Option.some.inj h
      exact Double.lt_of_sub_pos hpos

/-- The smaller of two numbers: one of them, and above neither. -/
structure IsMinOf (m a b : Number) : Prop where
  eq_or_eq : m = a ∨ m = b
  le_left : m.le a = true
  le_right : m.le b = true

theorem smaller_isMinOf {a b : Number} (ha : a.exact ≠ .nan) (hb : b.exact ≠ .nan) :
    (a.smaller b).IsMinOf a b := by
  by_cases hlt : b.lt a = true
  · rw [smaller, if_pos hlt]
    exact ⟨.inr rfl, Double.le_of_lt hlt, Double.le_self hb⟩
  · rw [smaller, if_neg hlt]
    refine ⟨.inl rfl, Double.le_self ha, ?_⟩
    rw [le, Double.le_eq_not_lt ha hb, Bool.not_eq_true']
    exact Bool.eq_false_iff.2 hlt

theorem smaller_pos {a b : Number} (ha : zero.lt a = true) (hb : zero.lt b = true) :
    zero.lt (a.smaller b) = true := by
  unfold smaller
  split
  · exact hb
  · exact ha

end Number

/-! ## Deadlines -/

namespace Deadline

variable {d : Deadline} {now left : Number}

/-- What a clock shows can be compared with a deadline: both are numbers that exist, and neither is
an integer beyond every double beside a double. -/
structure Comparable (d : Deadline) (now : Number) : Prop where
  expiry_exists : d.expiresAt.Representable
  now_exists : now.Representable
  difference : (d.expiresAt.sub? now).isSome = true

/-- As long as something is left of a deadline, that is the difference. -/
theorem remaining_of_pos (h : d.expiresAt.sub? now = some left)
    (hpos : Number.zero.lt left = true) : d.remaining now = .ok left := by
  rw [remaining, h, Fault.orTooLarge_some, Except.map, Number.larger, if_pos hpos]

/-- A deadline has not expired exactly if something is left of it. -/
theorem expired_eq_false_iff :
    d.expired now = .ok false ↔
      ∃ left, d.expiresAt.sub? now = some left ∧ Number.zero.lt left = true := by
  constructor
  · intro h
    cases hs : d.expiresAt.sub? now with
    | none => simp [expired, remaining, hs, Fault.orTooLarge, Except.map] at h
    | some left =>
      refine ⟨left, rfl, ?_⟩
      cases hpos : Number.zero.lt left with
      | true => rfl
      | false =>
        have hzero : Number.zero.le Number.zero = true := by decide
        simp [expired, remaining, hs, Except.map, Number.larger, hpos, hzero] at h
  · rintro ⟨left, hs, hpos⟩
    have hle : left.le Number.zero = false := Double.le_eq_false_of_lt hpos
    rw [expired, remaining_of_pos hs hpos, Except.map, hle]

/-- As long as a deadline has not expired, the clock is strictly before it. -/
theorem lt_of_not_expired (hd : d.expiresAt.Representable) (hnow : now.Representable)
    (h : d.expired now = .ok false) : now.lt d.expiresAt = true := by
  obtain ⟨left, hs, hpos⟩ := expired_eq_false_iff.1 h
  exact Number.lt_of_sub?_pos hd hnow hs hpos

/-- At the time of a deadline or after it, the deadline has expired. -/
theorem expired_of_le (hc : d.Comparable now) (h : d.expiresAt.le now = true) :
    d.expired now = .ok true := by
  obtain ⟨left, hs⟩ := Option.isSome_iff_exists.1 hc.difference
  cases he : d.expired now with
  | error fault => simp [expired, remaining, hs, Except.map] at he
  | ok late =>
    cases late with
    | true => rfl
    | false =>
      have hlt := lt_of_not_expired hc.expiry_exists hc.now_exists he
      have hle : d.expiresAt.le now = false := Double.le_eq_false_of_lt hlt
      rw [hle] at h
      cases h

/-- What a timeout is shortened to before a deadline: the minimum of itself and what is left. -/
theorem clampTo_eq_ok {timeout clamped : Number} (hexpired : d.expired now = .ok false)
    (h : clampTo (some d) now timeout = .ok clamped) :
    ∃ left, d.expiresAt.sub? now = some left ∧ Number.zero.lt left = true ∧
      clamped = timeout.smaller left := by
  obtain ⟨left, hs, hpos⟩ := expired_eq_false_iff.1 hexpired
  refine ⟨left, hs, hpos, ?_⟩
  rw [clampTo, clamp, remaining_of_pos hs hpos] at h
  exact (Except.ok.inj h).symm

end Deadline

end TwoFactorLogin
