import Mathlib.Data.List.Chain
import TwoFactorLogin.Proofs.TimeLeft

/-!
# The countdown to a deadline

While the clock goes on, what is left of a deadline only shrinks, and a deadline that has expired
stays so. At each reading of the clock the time left is a number and not negative, it is gone
exactly from the deadline on, and a timeout is shortened to the minimum of itself and the time left.
Every check of a deadline rests on these.

Differences are exact between integers and rounded between doubles. Rounding spoils neither their
sign nor their order. A difference of finite doubles is a whole number of units before it is
rounded, and one unit is not lost (`Double.sub_pos_of_lt`); a larger number of units is not rounded
to a smaller one (`Double.sub_le_sub`). A deadline that is not a number has no such difference, but
then `Number.larger` keeps its first argument, zero: it has expired at every reading.

* `Deadline.Commensurate`: the readings that a deadline is compared with.
* `Deadline.Shows`: what a deadline shows at one reading.
* `Deadline.runsDown`: the countdown along a clock that does not go back.
-/

namespace TwoFactorLogin

namespace Double

/-! ## Differences -/

theorem sub_pos_of_lt {a : Double} {t : Bool} {v : Nat} (h : (finite t v).lt a = true) :
    (finite false 0).lt (a.sub (finite t v)) = true := by
  cases a with
  | nan => cases h
  | infinity s => exact h
  | finite s u =>
    obtain ⟨sign, n, hsub, hsigned⟩ := exists_sub_finite s u t v
    rw [finite_lt_finite] at h
    rw [hsub, ofUnits_pos_iff]
    omega

/-- Rounding keeps the order also where it leads to infinities. -/
theorem ofUnits_le_ofUnits {s t : Bool} {m n : Nat} (h : signed s m ≤ signed t n) :
    (ofUnits s m 1).le (ofUnits t n 1) = true := by
  have hround := signed_roundUnits_mono h
  have hlimit : 0 < unitLimit := by decide +kernel
  simp only [ofUnits]
  generalize unitLimit = limit, roundUnits m 1 = m', roundUnits n 1 = n' at hround hlimit
  by_cases hm : m' < limit
  · rw [if_pos hm]
    by_cases hn : n' < limit
    · rw [if_pos hn]
      exact finite_le_finite.2 hround
    · rw [if_neg hn]
      cases t with
      | false => rfl
      | true => cases s <;> simp only [signed_false, signed_true] at hround <;> omega
  · rw [if_neg hm]
    cases s with
    | false =>
      -- An infinity on the left has one on the right: both are beyond the limit without a sign.
      cases t with
      | false =>
        have hn : ¬ n' < limit := by
          simp only [signed_false] at hround
          omega
        rw [if_neg hn]
        rfl
      | true =>
        simp only [signed_false, signed_true] at hround
        omega
    | true =>
      split
      · rfl
      · cases t <;> rfl

/-- What is subtracted from a double turns the order around. -/
theorem sub_le_sub {a : Double} (ha : a ≠ nan) {s t : Bool} {u v : Nat}
    (h : (finite s u).le (finite t v) = true) :
    (a.sub (finite t v)).le (a.sub (finite s u)) = true := by
  rw [finite_le_finite] at h
  cases a with
  | nan => exact (ha rfl).elim
  | infinity r => exact le_self (by rintro ⟨⟩)
  | finite r w =>
    obtain ⟨sign, m, hsub, hsigned⟩ := exists_sub_finite r w t v
    obtain ⟨sign', n, hsub', hsigned'⟩ := exists_sub_finite r w s u
    rw [hsub, hsub']
    exact ofUnits_le_ofUnits (by omega)

end Double

namespace Number

theorem exact_ne_nan {a : Number} (h : a ≠ .double .nan) : a.exact ≠ .nan := by
  cases a with
  | int i => rintro ⟨⟩
  | double x =>
    rintro rfl
    exact h rfl

theorem int_le_int {i j : Int} : (int i).le (int j) = true ↔ i ≤ j := by
  have hnot : ¬ (int j).lt (int i) = true ↔ i ≤ j := (not_congr int_lt_int).trans Int.not_lt
  rw [← hnot, Bool.not_eq_true, le, Double.le_eq_not_lt (by rintro ⟨⟩) (by rintro ⟨⟩),
    Bool.not_eq_true', lt]

theorem pairwise_le_of_isChain {ns : List Number} (h : ns.IsChain fun a b => a.le b = true) :
    ns.Pairwise fun a b => a.le b = true := by
  have htrans : Trans (fun a b : Number => a.le b = true) (fun a b : Number => a.le b = true)
    (fun a b : Number => a.le b = true) := ⟨Double.le_trans⟩
  exact List.isChain_iff_pairwise.1 h

end Number

namespace Deadline

variable {d : Deadline} {now later left left' timeout : Number} {readings : List Number}

/-! ## Readings of the clock -/

/-- A reading of the clock that has a deadline's kind: any finite double for a deadline that is a
double, whatever double that is, and an integer for one that is an integer. Of two kinds, the
integer would be rounded before the difference is taken. -/
inductive Commensurate : Deadline → Number → Prop where
  | double (x : Double) (negative : Bool) (units : Nat) :
    Commensurate ⟨.double x⟩ (.double (.finite negative units))
  | int (i j : Int) : Commensurate ⟨.int i⟩ (.int j)

/-- There is a difference, and it is positive exactly before the deadline. -/
theorem Commensurate.exists_difference (h : d.Commensurate now) :
    ∃ left, d.expiresAt.sub? now = some left ∧
      (Number.zero.lt left = true ↔ now.lt d.expiresAt = true) := by
  cases h with
  | double x negative units => exact ⟨_, rfl, Double.lt_of_sub_pos, Double.sub_pos_of_lt⟩
  | int i j =>
    refine ⟨_, rfl, ?_⟩
    rw [Number.zero_lt_int, Number.int_lt_int]
    omega

theorem Commensurate.difference_le (h : d.Commensurate now) (h' : d.Commensurate later)
    (hle : now.le later = true) (hlt : later.lt d.expiresAt = true)
    (hleft : d.expiresAt.sub? now = some left) (hleft' : d.expiresAt.sub? later = some left') :
    left'.le left = true := by
  cases h with
  | double x negative units =>
    cases h' with
    | double _ negative' units' =>
      obtain rfl := Option.some.inj hleft
      obtain rfl := Option.some.inj hleft'
      exact Double.sub_le_sub (Double.ne_nan_of_lt hlt).2 hle
  | int i j =>
    cases h' with
    | int _ j' =>
      obtain rfl := Option.some.inj hleft
      obtain rfl := Option.some.inj hleft'
      rw [Number.int_le_int] at hle ⊢
      omega

theorem Commensurate.remaining_of_lt (h : d.Commensurate now)
    (hlt : now.lt d.expiresAt = true) :
    ∃ left, d.expiresAt.sub? now = some left ∧ Number.zero.lt left = true ∧
      d.remaining now = .ok left := by
  obtain ⟨left, hleft, hpos⟩ := h.exists_difference
  exact ⟨left, hleft, hpos.2 hlt, remaining_of_pos hleft (hpos.2 hlt)⟩

theorem Commensurate.remaining_of_not_lt (h : d.Commensurate now)
    (hlt : now.lt d.expiresAt = false) : d.remaining now = .ok Number.zero := by
  obtain ⟨left, hleft, hpos⟩ := h.exists_difference
  have hnot : ¬ Number.zero.lt left = true := by simp [hpos, hlt]
  rw [remaining, hleft, Fault.orTooLarge_some, Except.map, Number.larger, if_neg hnot]

/-- The time left is the difference before the deadline, a number, and not negative. -/
theorem Commensurate.exists_remaining (h : d.Commensurate now) :
    ∃ left, d.remaining now = .ok left ∧
      (now.lt d.expiresAt = true → d.expiresAt.sub? now = some left) ∧
        left ≠ .double .nan ∧ Number.zero.le left = true := by
  cases hlt : now.lt d.expiresAt with
  | true =>
    obtain ⟨left, hsub, hpos, hleft⟩ := h.remaining_of_lt hlt
    have hnumber : left ≠ .double .nan := by
      rintro rfl
      cases hpos
    exact ⟨left, hleft, fun _ => hsub, hnumber, Double.le_of_lt hpos⟩
  | false =>
    have hnumber : Number.zero ≠ .double .nan := by rintro ⟨⟩
    exact ⟨Number.zero, h.remaining_of_not_lt hlt, nofun, hnumber, by decide⟩

theorem Commensurate.expired_eq (h : d.Commensurate now) :
    d.expired now = .ok (!now.lt d.expiresAt) := by
  cases hlt : now.lt d.expiresAt with
  | true =>
    obtain ⟨left, hleft, hpos, -⟩ := h.remaining_of_lt hlt
    exact expired_eq_false_iff.2 ⟨left, hleft, hpos⟩
  | false =>
    have hzero : Number.zero.le Number.zero = true := by decide
    rw [expired, h.remaining_of_not_lt hlt, Except.map, hzero]
    rfl

theorem Commensurate.nan_expired (h : d.Commensurate now) (hnan : d.expiresAt = .double .nan) :
    d.expired now = .ok true := by
  have hlt : now.lt d.expiresAt = false := by
    rw [← Bool.not_eq_true, hnan]
    exact fun hlt => (Double.ne_nan_of_lt hlt).2 rfl
  rw [h.expired_eq, hlt]
  rfl

/-! ## One reading -/

theorem remaining_pos (h : d.remaining now = .ok left) (hexpired : d.expired now = .ok false) :
    Number.zero.lt left = true := by
  obtain ⟨left', hleft', hpos⟩ := expired_eq_false_iff.1 hexpired
  rw [remaining_of_pos hleft' hpos] at h
  cases h
  exact hpos

/-- What a timeout is shortened to, `left` being the time that is left. -/
structure Clamps (d : Deadline) (now left timeout clamped : Number) : Prop where
  clamp_eq : d.clamp now timeout = .ok clamped
  min : clamped.IsMinOf timeout left
  pos : Number.zero.lt timeout = true → d.expired now = .ok false →
    Number.zero.lt clamped = true

theorem clamps_smaller (h : d.remaining now = .ok left) (hleft : left ≠ .double .nan)
    (htimeout : timeout ≠ .double .nan) :
    d.Clamps now left timeout (timeout.smaller left) where
  clamp_eq := by
    rw [clamp, h]
    rfl
  min := Number.smaller_isMinOf (Number.exact_ne_nan htimeout) (Number.exact_ne_nan hleft)
  pos := fun hpos hexpired => Number.smaller_pos hpos (remaining_pos h hexpired)

/-- What a deadline shows at one reading of the clock, `left` being the time that is left. -/
structure Shows (d : Deadline) (now left : Number) : Prop where
  remaining_eq : d.remaining now = .ok left
  /-- Before the deadline that is the difference. -/
  difference : now.lt d.expiresAt = true → d.expiresAt.sub? now = some left
  is_number : left ≠ .double .nan
  not_negative : Number.zero.le left = true
  /-- The deadline has expired unless it is strictly above the reading. -/
  expired_eq : d.expired now = .ok (!now.lt d.expiresAt)
  nan_expired : d.expiresAt = .double .nan → d.expired now = .ok true
  clamps : ∀ timeout, timeout ≠ .double .nan → ∃ clamped, d.Clamps now left timeout clamped

theorem Commensurate.exists_shows (h : d.Commensurate now) : ∃ left, d.Shows now left := by
  obtain ⟨left, hleft, hdifference, hnumber, hnonneg⟩ := h.exists_remaining
  exact ⟨left, {
    remaining_eq := hleft
    difference := hdifference
    is_number := hnumber
    not_negative := hnonneg
    expired_eq := h.expired_eq
    nan_expired := h.nan_expired
    clamps := fun timeout htimeout => ⟨_, clamps_smaller hleft hnumber htimeout⟩ }⟩

/-! ## From one reading to a later one -/

theorem Commensurate.remaining_le (h : d.Commensurate now) (h' : d.Commensurate later)
    (hle : now.le later = true) :
    ∃ left left', d.remaining now = .ok left ∧ d.remaining later = .ok left' ∧
      left'.le left = true := by
  obtain ⟨left, hleft, hdifference, -, hnonneg⟩ := h.exists_remaining
  cases hlt : later.lt d.expiresAt with
  | true =>
    obtain ⟨left', hsub', -, hleft'⟩ := h'.remaining_of_lt hlt
    have hsub := hdifference (Double.lt_of_le_of_lt hle hlt)
    exact ⟨left, left', hleft, hleft', h.difference_le h' hle hlt hsub hsub'⟩
  | false => exact ⟨left, Number.zero, hleft, h'.remaining_of_not_lt hlt, hnonneg⟩

theorem Commensurate.expired_later (h : d.Commensurate now) (h' : d.Commensurate later)
    (hle : now.le later = true) (hexpired : d.expired now = .ok true) :
    d.expired later = .ok true := by
  rw [h.expired_eq] at hexpired
  cases hlt : later.lt d.expiresAt with
  | true =>
    have hnow : now.lt d.expiresAt = true := Double.lt_of_le_of_lt hle hlt
    simp [hnow] at hexpired
  | false =>
    rw [h'.expired_eq, hlt]
    rfl

/-! ## Along the clock -/

/-- What a deadline shows along the readings of a clock: at each of them, and from each of them to
every later one. -/
structure RunsDown (d : Deadline) (readings : List Number) : Prop where
  at_each : ∀ now ∈ readings, ∃ left, d.Shows now left
  remaining_shrinks : readings.Pairwise fun now later =>
    ∃ left left', d.remaining now = .ok left ∧ d.remaining later = .ok left' ∧
      left'.le left = true
  expired_stays : readings.Pairwise fun now later =>
    d.expired now = .ok true → d.expired later = .ok true

/-- Along a clock that does not go back, a deadline runs down. -/
theorem runsDown (hreadings : ∀ now ∈ readings, d.Commensurate now)
    (hclock : readings.IsChain fun now later => now.le later = true) : d.RunsDown readings where
  at_each := fun now hnow => (hreadings now hnow).exists_shows
  remaining_shrinks := (Number.pairwise_le_of_isChain hclock).imp_of_mem fun hnow hlater hle =>
    (hreadings _ hnow).remaining_le (hreadings _ hlater) hle
  expired_stays := (Number.pairwise_le_of_isChain hclock).imp_of_mem fun hnow hlater hle =>
    (hreadings _ hnow).expired_later (hreadings _ hlater) hle

/-- The double next above one. From minus one the difference to it has a bit more than a double
holds, and from one it is that bit alone. -/
def aboveOne : Double := .finite false (Double.unitsPerOne + 2 ^ 1022)

theorem runsDown_aboveOne :
    RunsDown ⟨.double aboveOne⟩ [.double (.finite true Double.unitsPerOne),
      .double (.finite false Double.unitsPerOne), .double aboveOne] := by
  refine runsDown ?_ ?_
  · simp only [List.forall_mem_cons]
    exact ⟨.double .., .double .., .double .., by simp⟩
  · exact .cons_cons (by decide +kernel) (.cons_cons (by decide +kernel) (.singleton _))

/-- A deadline that is not a number has expired. -/
example : expired ⟨.double .nan⟩ (.double (.finite false 0)) = .ok true := rfl

end Deadline

end TwoFactorLogin
