/-!
# Binary64 numbers, exactly

Every finite binary64 number is a whole number of units of `2⁻¹⁰⁷⁴`, so a finite `Double` is a
sign and a count of units. Comparisons look at the counts. Each arithmetic operation computes the
exact count, or a fraction of counts, and rounds it once with `roundUnits`: to the nearest count
that has at most 53 significant bits, a tie to the even one. Counts of `2²⁰⁹⁸` and more are
infinite.
-/

namespace TwoFactorLogin

/-- A binary64 number: not a number, an infinity, or a signed count of units of `2⁻¹⁰⁷⁴`. -/
inductive Double where
  | nan
  | infinity (negative : Bool)
  | finite (negative : Bool) (units : Nat)
  deriving DecidableEq, Repr, Inhabited

namespace Double

/-- The number of units in one. -/
def unitsPerOne : Nat := Nat.pow 2 1074

/-- The least count of units that is infinite. -/
def unitLimit : Nat := Nat.pow 2 2098

/-! ## Rounding -/

/-- The fraction `num / den` rounded to a whole number, a tie to the even one. -/
def roundQuotient (num den : Nat) : Nat :=
  let q := num / den
  let r := num % den
  if 2 * r < den then q else if den < 2 * r then q + 1 else q + q % 2

/-- How many low bits a number has beyond some leading ones. -/
def bitsBeyond (leading n : Nat) : Nat := n.log2 + 1 - leading

/-- The whole number of at most `leading` significant bits that is nearest to `num / den`. -/
def roundTo (leading num den : Nat) : Nat :=
  let scale := Nat.pow 2 (bitsBeyond leading (num / den))
  roundQuotient num (den * scale) * scale

/-- How many low bits a number has beyond its 53 leading ones. -/
def excessBits (n : Nat) : Nat := bitsBeyond 53 n

/-- The count with at most 53 significant bits that is nearest to `num / den`. -/
def roundUnits (num den : Nat) : Nat := roundTo 53 num den

/-- The double nearest to `num / den` units with the given sign. -/
def ofUnits (negative : Bool) (num den : Nat) : Double :=
  let units := roundUnits num den
  if units < unitLimit then finite negative units else infinity negative

/-- The double nearest to an integer. -/
def ofInt (i : Int) : Double := ofUnits (decide (i < 0)) (i.natAbs * unitsPerOne) 1

/-- The number, if it is finite. -/
def finite? : Double → Option Double
  | finite negative units => some (finite negative units)
  | _ => none

/-- The double nearest to the quotient of two integers; `none` if it is too large. -/
def ofQuotient? (a b : Int) : Option Double :=
  (ofUnits (decide (a < 0) != decide (b < 0)) (a.natAbs * unitsPerOne) b.natAbs).finite?

/-- The double nearest to `digits · 10 ^ exponent` with the given sign. -/
def ofDecimal (negative : Bool) (digits : Nat) (exponent : Int) : Double :=
  if digits = 0 then finite negative 0
  else if 400 < exponent then infinity negative
  else if exponent < -(400 + digits.log2 : Int) then finite negative 0
  else if 0 ≤ exponent then ofUnits negative (digits * Nat.pow 10 exponent.toNat * unitsPerOne) 1
  else ofUnits negative (digits * unitsPerOne) (Nat.pow 10 (-exponent).toNat)

/-! ## Order -/

/-- A count of units with its sign. -/
def signed (negative : Bool) (units : Nat) : Int := if negative then -units else units

/-- Strictly less; false if either side is not a number. -/
def lt : Double → Double → Bool
  | nan, _ => false
  | _, nan => false
  | infinity true, infinity negative => !negative
  | infinity true, finite _ _ => true
  | infinity false, _ => false
  | finite _ _, infinity negative => !negative
  | finite s u, finite t v => signed s u < signed t v

/-- Less or equal; false if either side is not a number. -/
def le : Double → Double → Bool
  | nan, _ => false
  | _, nan => false
  | a, b => !lt b a

/-! ## Arithmetic -/

/-- The number with its sign turned. -/
def neg : Double → Double
  | nan => nan
  | infinity negative => infinity !negative
  | finite negative units => finite (!negative) units

/-- The sum, rounded. A sum of zero is negative only if both sides are. -/
def add : Double → Double → Double
  | nan, _ => nan
  | _, nan => nan
  | infinity s, infinity t => if s = t then infinity s else nan
  | infinity s, finite _ _ => infinity s
  | finite _ _, infinity t => infinity t
  | finite s u, finite t v =>
    let sum := signed s u + signed t v
    ofUnits (if sum = 0 then s && t else sum < 0) sum.natAbs 1

/-- The difference, rounded. -/
def sub (a b : Double) : Double := add a (neg b)

/-- Whether the number is equal to zero. -/
def isZero : Double → Bool
  | finite _ 0 => true
  | _ => false

/-- Why a double has no integer part. -/
inductive NotIntegral where
  | nan
  | infinite
  deriving DecidableEq, Repr

/-- The integer part, cut toward zero. -/
def truncate : Double → Except NotIntegral Int
  | nan => .error .nan
  | infinity _ => .error .infinite
  | finite negative units => .ok (signed negative (units / unitsPerOne))

/-! ## The 64 bits -/

/-- The leading bit of a significand, which the 64 bits do not hold. -/
def hiddenBit : Nat := 0x10000000000000

/-- The bit of the sign among the 64. -/
def signBit (negative : Bool) : Nat := if negative then 0x8000000000000000 else 0

/-- The exponent and fraction bits of a count of units. -/
def magnitudeBits (units : Nat) : Nat :=
  let s := excessBits units
  units / Nat.pow 2 s + s * hiddenBit

/-- The 64 bits, sign first. -/
def toBits : Double → Nat
  | nan => 0x7FF8000000000000
  | infinity negative => signBit negative + 0x7FF0000000000000
  | finite negative units => signBit negative + magnitudeBits units

end Double

end TwoFactorLogin
