import TwoFactorLogin.Number.Double

/-!
# Numbers: integers beside doubles

A `Number` is an integer of any size or a double. Comparisons are exact. Sums and differences of
integers are exact; as soon as one side is a double the other is rounded to one, and there is no
result if it is an integer beyond every double.

`larger` and `smaller` keep their first argument unless the second is strictly beyond it, so a
first argument that is not a number stays.
-/

namespace TwoFactorLogin

/-- An integer or a double. -/
inductive Number where
  | int (value : Int)
  | double (value : Double)
  deriving DecidableEq, Repr, Inhabited

namespace Number

/-- The number as a double, rounded; `none` for an integer beyond every double. -/
def toDouble? : Number → Option Double
  | int i => (Double.ofInt i).finite?
  | double d => some d

/-- The number as a count of units without rounding, for comparisons. -/
def exact : Number → Double
  | int i => .finite (decide (i < 0)) (i.natAbs * Double.unitsPerOne)
  | double d => d

/-- Strictly less, exactly. -/
def lt (a b : Number) : Bool := a.exact.lt b.exact

/-- Less or equal, exactly. -/
def le (a b : Number) : Bool := a.exact.le b.exact

/-- Equal, exactly. -/
def equals (a b : Number) : Bool := a.le b && b.le a

/-- The sum: exact for two integers, otherwise rounded. -/
def add? : Number → Number → Option Number
  | int i, int j => some (int (i + j))
  | a, b => do return double ((← a.toDouble?).add (← b.toDouble?))

/-- The difference: exact for two integers, otherwise rounded. -/
def sub? : Number → Number → Option Number
  | int i, int j => some (int (i - j))
  | a, b => do return double ((← a.toDouble?).sub (← b.toDouble?))

/-- Doubles always have a sum. -/
@[simp] theorem double_add? (a b : Double) :
    (double a).add? (double b) = some (double (a.add b)) := rfl

/-- Doubles always have a difference. -/
@[simp] theorem double_sub? (a b : Double) :
    (double a).sub? (double b) = some (double (a.sub b)) := rfl

/-- The first number, unless the second is strictly larger. -/
def larger (a b : Number) : Number := if a.lt b then b else a

/-- The first number, unless the second is strictly smaller. -/
def smaller (a b : Number) : Number := if b.lt a then b else a

/-- Zero, as a double. -/
def zero : Number := double (.finite false 0)

/-- The integer part, cut toward zero. -/
def truncate : Number → Except Double.NotIntegral Int
  | int i => .ok i
  | double d => d.truncate

end Number

end TwoFactorLogin
