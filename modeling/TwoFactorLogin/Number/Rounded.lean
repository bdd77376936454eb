import TwoFactorLogin.Number.Shortest

/-!
# Decimals of fifteen significant digits

`Double.displayRounded` writes a number with fifteen significant digits, those at the end left out
that are zero: positionally from `10⁻⁴` up to `10¹⁵`, otherwise with an exponent. There is always a
digit after the point, and zero has no sign.

The digits come from a reckoning with 64 significant bits whose every step is rounded to the
nearest. The number is brought between one and ten by powers of ten, half a unit of the fifteenth
digit is added, and the digits are cut off one after the other. Close to the middle between two
decimals this reckoning decides which of them is written.
-/

namespace TwoFactorLogin.Double

/-! ## Reckoning with 64 bits -/

/-- The count of units with at most 64 significant bits that is nearest to `num / den`. -/
def roundWide (num den : Nat) : Nat := roundTo 64 num den

/-- The product of two counts of units. -/
def mulWide (a b : Nat) : Nat := roundWide (a * b) unitsPerOne

/-- The quotient of two counts of units. -/
def divWide (a b : Nat) : Nat := roundWide (a * unitsPerOne) b

/-- The units of the double nearest to `digit · 10 ^ exponent`. -/
def decimalUnits (digit : Nat) (exponent : Int) : Nat :=
  match ofDecimal false digit exponent with
  | finite _ units => units
  | _ => 0

/-! ## Between one and ten -/

/-- A number as a count of units times a power of ten. -/
structure Scaled where
  units : Nat
  exponent : Int

/-- Multiplies a power of ten by `10 ^ places` as long as it does not exceed a number. -/
def climb (number places : Nat) : Nat → Scaled → Scaled
  | 0, power => power
  | fuel + 1, power =>
    let next := mulWide (decimalUnits 1 places) power.units
    if next ≤ number then climb number places fuel ⟨next, power.exponent + places⟩ else power

/-- Multiplies a number by `10 ^ places` as long as it is below a bound. -/
def lift (bound places : Nat) : Nat → Scaled → Scaled
  | 0, number => number
  | fuel + 1, number =>
    if number.units < bound then
      lift bound places fuel
        ⟨mulWide number.units (decimalUnits 1 places), number.exponent - places⟩
    else number

/-- A positive count of units as a number from one up to ten times a power of ten. The powers are
passed in strides of a hundred, ten and one, or of eight and one; no number needs more strides of a
kind than the fuel allows. -/
def scale (units : Nat) : Scaled :=
  let power := climb units 1 16 (climb units 10 16 (climb units 100 16 ⟨unitsPerOne, 0⟩))
  lift unitsPerOne 1 16
    (lift (decimalUnits 1 (-8)) 8 64 ⟨divWide units power.units, power.exponent⟩)

/-- Adds half a unit of the fifteenth digit. -/
def Scaled.roundUp (s : Scaled) : Scaled :=
  let raised := roundWide (s.units + decimalUnits 5 (-15)) 1
  if 10 * unitsPerOne ≤ raised then ⟨mulWide raised (decimalUnits 1 (-1)), s.exponent + 1⟩
  else ⟨raised, s.exponent⟩

/-! ## Digits -/

/-- The first digits of a number below ten. -/
def leadingDigits : Nat → Nat → List Char
  | 0, _ => []
  | count + 1, units =>
    Nat.digitChar (units / unitsPerOne)
      :: leadingDigits count (roundWide (10 * (units % unitsPerOne)) 1)

/-- The text of a positive count of units, rounded to fifteen digits. -/
def roundedUnits (units : Nat) : List Char :=
  let s := (scale units).roundUp
  let digits := dropLastZeros (leadingDigits 15 s.units)
  if -4 ≤ s.exponent && s.exponent < 15 then positional digits (s.exponent + 1)
  else positional digits 1 ++ exponentMark s.exponent

/-- The text of a number rounded to fifteen significant digits. -/
def displayRounded : Double → String
  | nan => "NaN"
  | infinity negative => if negative then "-Inf" else "Inf"
  | finite _ 0 => "0.0"
  | finite negative units =>
    String.ofList (if negative then '-' :: roundedUnits units else roundedUnits units)

end TwoFactorLogin.Double
