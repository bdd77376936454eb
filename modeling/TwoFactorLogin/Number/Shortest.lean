import TwoFactorLogin.Number.Double

/-!
# The shortest decimal that reads back

A finite positive double is the nearest one to every real number in an interval around it; the
ends of the interval belong to it when its significand is even. `shortest` tries one to seventeen
significant digits and takes the first decimal that lies in the interval, of two the nearer.

`Double.display` writes the digits: positionally from `10⁻⁴` up to `10¹⁶`, with at least one digit
after the point, otherwise with an exponent of at least two digits.
-/

namespace TwoFactorLogin.Double

/-- The reals that round to a count of units: bounds in quarter units, and whether they belong. -/
structure Interval where
  low : Nat
  high : Nat
  closed : Bool

/-- The interval of a count of units. It is half as wide below a power of two. -/
def Interval.ofUnits (units : Nat) : Interval :=
  let scale := Nat.pow 2 (excessBits units)
  let significand := units / scale
  let below := if significand = hiddenBit && 1 < scale then scale else 2 * scale
  ⟨4 * units - below, 4 * units + 2 * scale, significand % 2 = 0⟩

/-- A decimal grid as a fraction: the spacing `10 ^ exponent` is `num / den` quarter units. -/
def gridStep (exponent : Int) : Nat × Nat :=
  if 0 ≤ exponent then (Nat.pow 10 exponent.toNat * (4 * unitsPerOne), 1)
  else (4 * unitsPerOne, Nat.pow 10 (-exponent).toNat)

/-- Whether `digits` grid steps lie in the interval. -/
def Interval.contains (i : Interval) (digits : Nat) (step : Nat × Nat) : Bool :=
  let x := digits * step.1
  if i.closed then i.low * step.2 ≤ x && x ≤ i.high * step.2
  else i.low * step.2 < x && x < i.high * step.2

/-- The grid point in the interval of `units` that is nearest to it, a tie to the even one. -/
def nearestOnGrid? (units : Nat) (exponent : Int) : Option Nat :=
  let step := gridStep exponent
  let value := 4 * units * step.2
  let down := value / step.1
  let up := down + 1
  let interval := Interval.ofUnits units
  match interval.contains down step, interval.contains up step with
  | true, false => some down
  | false, true => some up
  | false, false => none
  | true, true =>
    let below := value - down * step.1
    let above := up * step.1 - value
    if below < above then some down
    else if above < below then some up
    else some (if down % 2 = 0 then down else up)

/-- The decimal exponent `p` with `10 ^ p ≤ units < 10 ^ (p + 1)`, the value taken of the units. -/
def decimalExponent (units : Nat) : Int :=
  if unitsPerOne ≤ units then ((Nat.toDigits 10 (units / unitsPerOne)).length : Int) - 1
  else -((Nat.toDigits 10 (unitsPerOne / units)).length : Int)

/-- The first grid, by number of digits, that has a point in the interval; digits and exponent. -/
def shortestFrom (units : Nat) (top : Int) (count fuel : Nat) : Nat × Int :=
  let exponent := top - count
  match nearestOnGrid? units exponent, fuel with
  | some digits, _ => (digits, exponent)
  | none, 0 => (0, 0)
  | none, fuel + 1 => shortestFrom units top (count + 1) fuel

/-- The shortest decimal of a positive count of units: digits and exponent. -/
def shortest (units : Nat) : Nat × Int := shortestFrom units (decimalExponent units) 0 17

/-- Digits in positional notation, the point after `point` digits, at least one digit on each
side. -/
def positional (digits : List Char) (point : Int) : List Char :=
  if point ≤ 0 then '0' :: '.' :: List.replicate (-point).toNat '0' ++ digits
  else
    let n := point.toNat
    let whole := digits.take n ++ List.replicate (n - digits.length) '0'
    let rest := digits.drop n
    whole ++ '.' :: (if rest.isEmpty then ['0'] else rest)

/-- An exponent behind a mantissa: a mark, a sign and at least two digits. -/
def exponentMark (exponent : Int) : List Char :=
  let e := Nat.toDigits 10 exponent.natAbs
  let e := if e.length < 2 then '0' :: e else e
  'e' :: (if exponent < 0 then '-' else '+') :: e

/-- Digits in scientific notation. -/
def scientific (digits : List Char) (exponent : Int) : List Char :=
  let mantissa := match digits with
    | [] => []
    | [d] => [d]
    | d :: rest => d :: '.' :: rest
  mantissa ++ exponentMark exponent

/-- Digits without the zeros at their end. -/
def dropLastZeros (digits : List Char) : List Char := (digits.reverse.dropWhile (· = '0')).reverse

/-- The digits of `value · 10 ^ exponent` without the zeros at their end, and how many of them
stand before the point. -/
def significantDigits (value : Nat) (exponent : Int) : List Char × Int :=
  let all := Nat.toDigits 10 value
  (dropLastZeros all, exponent + all.length)

/-- The text of a positive count of units. -/
def displayUnits (units : Nat) : List Char :=
  let (value, exponent) := shortest units
  let (digits, point) := significantDigits value exponent
  if -4 < point && point ≤ 16 then positional digits point else scientific digits (point - 1)

/-- The shortest text that reads back as the number. -/
def display : Double → String
  | nan => "nan"
  | infinity negative => if negative then "-inf" else "inf"
  | finite negative units =>
    let text := if units = 0 then ['0', '.', '0'] else displayUnits units
    String.ofList (if negative then '-' :: text else text)

end TwoFactorLogin.Double
