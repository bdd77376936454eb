import TwoFactorLogin.Number.Double
import TwoFactorLogin.Text.Blank
import TwoFactorLogin.Text.Case
import TwoFactorLogin.Text.Digit

/-!
# Numbers read from text

Both readers allow blanks around the number, a sign, decimal digits of any script, and single
underscores between digits.

* `readInt?`: a row of digits, at most `maxIntDigits` of them.
* `readDouble?`: digits with a point and an exponent, each optional, or an infinity or `nan` as a
  word.
-/

namespace TwoFactorLogin

open Text

/-- An integer is read from at most this many digits, leading zeros counted, and written with at
most as many. -/
def maxIntDigits : Nat := 4300

/-- A decimal digit of any script as the ASCII digit of the same value; other characters
unchanged. -/
def asciiDigit (c : Char) : Char :=
  match decimalValue? c with
  | some d => Char.ofNat ('0'.toNat + d)
  | none => c

/-- The characters without the underscores that stand between two digits; `none` if one stands
elsewhere. -/
def joinDigits? : Bool → List Char → Option (List Char)
  | _, [] => some []
  | afterDigit, '_' :: rest =>
    if afterDigit && (rest.head?.map isAsciiDigit).getD false then joinDigits? false rest else none
  | _, c :: rest => (joinDigits? (isAsciiDigit c) rest).map (c :: ·)

/-- A leading sign and what follows it; true means minus. -/
def splitSign : List Char → Bool × List Char
  | '-' :: rest => (true, rest)
  | '+' :: rest => (false, rest)
  | rest => (false, rest)

/-- The text without surrounding blanks and underscores, its digits in ASCII. -/
def numberChars? (s : String) : Option (List Char) :=
  joinDigits? false ((stripChars s.toList).map asciiDigit)

/-- The integer that a text spells. -/
def readInt? (s : String) : Option Int := do
  let (negative, digits) := splitSign (← numberChars? s)
  if digits.isEmpty || !digits.all isAsciiDigit || maxIntDigits < digits.length then none
  else
    let value : Int := asciiValue digits
    some (if negative then -value else value)

/-- The exponent part of a decimal: absent, or a mark, a sign and digits to the end. -/
def readExponent? : List Char → Option Int
  | [] => some 0
  | mark :: rest =>
    let (negative, digits) := splitSign rest
    if (mark = 'e' || mark = 'E') && !digits.isEmpty && digits.all isAsciiDigit then
      let value : Int := asciiValue digits
      some (if negative then -value else value)
    else none

/-- The digits after a point, if there is one, and the rest. -/
def splitFraction : List Char → List Char × List Char
  | '.' :: rest => (rest.takeWhile isAsciiDigit, rest.dropWhile isAsciiDigit)
  | rest => ([], rest)

/-- The double nearest to an unsigned decimal, with the given sign. -/
def readDecimal? (negative : Bool) (cs : List Char) : Option Double := do
  let whole := cs.takeWhile isAsciiDigit
  let (fraction, rest) := splitFraction (cs.dropWhile isAsciiDigit)
  if whole.isEmpty && fraction.isEmpty then none
  else
    let exponent ← readExponent? rest
    some (.ofDecimal negative (asciiValue (whole ++ fraction)) (exponent - fraction.length))

/-- The double that a text spells, rounded to the nearest. -/
def readDouble? (s : String) : Option Double := do
  let (negative, cs) := splitSign (← numberChars? s)
  let word := String.ofList (cs.map Char.toLower)
  if word = "inf" || word = "infinity" then some (.infinity negative)
  else if word = "nan" then some .nan
  else readDecimal? negative cs

end TwoFactorLogin
