import TwoFactorLogin.Number.Reading
import TwoFactorLogin.Value.Basic

/-!
# Values read from JSON text

`Value.ofJson?` reads one value that takes up a whole text. A number with neither a point nor an
exponent is an integer of any size, every other one the nearest double. The doubles that have no
digits are the words that `Value.jsonDouble` writes for them. The fields of an object stay in order.

The readers take fuel for the depth and length of what they read; the length of the text is always
enough.
-/

namespace TwoFactorLogin

open Text

namespace Value

/-- Whether a character may stand between the tokens of JSON text. -/
def isJsonBlank (c : Char) : Bool := c = ' ' || c = '\n' || c = '\r' || c = '\t'

/-- The text behind leading blanks. -/
def skipBlanks (cs : List Char) : List Char := cs.dropWhile isJsonBlank

/-- The value of a hexadecimal digit. -/
def hexValue? (c : Char) : Option Nat :=
  if '0' ≤ c && c ≤ '9' then some (c.toNat - '0'.toNat)
  else if 'a' ≤ c && c ≤ 'f' then some (c.toNat - 'a'.toNat + 10)
  else if 'A' ≤ c && c ≤ 'F' then some (c.toNat - 'A'.toNat + 10)
  else none

/-- The unit that four hexadecimal digits spell. -/
def hexUnit? (a b c d : Char) : Option Nat := do
  let a ← hexValue? a
  let b ← hexValue? b
  let c ← hexValue? c
  let d ← hexValue? d
  some (((a * 16 + b) * 16 + c) * 16 + d)

/-- The character that a backslash and one letter stand for. -/
def simpleEscape? (c : Char) : Option Nat :=
  if c = '"' || c = '\\' || c = '/' then some c.toNat
  else if c = 'b' then some 0x08
  else if c = 'f' then some 0x0C
  else if c = 'n' then some 0x0A
  else if c = 'r' then some 0x0D
  else if c = 't' then some 0x09
  else none

/-- The codes of a string up to its closing quote, and the text behind it. Escaped surrogates stay
apart. -/
def readCodes? : List Char → Option (List Nat × List Char)
  | [] => none
  | '"' :: rest => some ([], rest)
  | '\\' :: 'u' :: a :: b :: c :: d :: rest => do
    let unit ← hexUnit? a b c d
    let (codes, rest) ← readCodes? rest
    some (unit :: codes, rest)
  | '\\' :: e :: rest => do
    let code ← simpleEscape? e
    let (codes, rest) ← readCodes? rest
    some (code :: codes, rest)
  | c :: rest => do
    if c.toNat < 0x20 then none
    else
      let (codes, rest) ← readCodes? rest
      some (c.toNat :: codes, rest)

/-- The characters of a row of codes, pairs of surrogates joined; `none` if one stands alone. -/
def joinSurrogates? : List Nat → Option (List Char)
  | [] => some []
  | high :: low :: rest =>
    if 0xD800 ≤ high && high < 0xDC00 then
      if 0xDC00 ≤ low && low < 0xE000 then
        (joinSurrogates? rest).map
          (Char.ofNat (0x10000 + (high - 0xD800) * 0x400 + (low - 0xDC00)) :: ·)
      else none
    else if 0xDC00 ≤ high && high < 0xE000 then none
    else (joinSurrogates? (low :: rest)).map (Char.ofNat high :: ·)
  | [code] => if 0xD800 ≤ code && code < 0xE000 then none else some [Char.ofNat code]

/-- A string behind its opening quote. -/
def readString? (cs : List Char) : Option (String × List Char) := do
  let (codes, rest) ← readCodes? cs
  let chars ← joinSurrogates? codes
  some (String.ofList chars, rest)

/-- Whether a character may stand in a JSON number. -/
def isNumberChar (c : Char) : Bool :=
  isAsciiDigit c || c = '-' || c = '+' || c = '.' || c = 'e' || c = 'E'

/-- Whether a number has the digits that JSON asks for in front of the point: no needless zero. -/
def wholeAllowed (cs : List Char) : Bool :=
  match cs.takeWhile isAsciiDigit with
  | [] => false
  | ['0'] => true
  | c :: _ => c != '0'

/-- The characters of a number as a value. -/
def numberOfChars? (cs : List Char) : Option Value :=
  let (negative, digits) := match cs with
    | '-' :: rest => (true, rest)
    | _ => (false, cs)
  if !wholeAllowed digits then none
  else if digits.all isAsciiDigit then
    let value : Int := asciiValue digits
    some (int (if negative then -value else value))
  else if (splitFraction (digits.dropWhile isAsciiDigit)).1.isEmpty && digits.contains '.' then none
  else (readDecimal? negative digits).map double

/-- A number and the text behind it. -/
def readNumber? (cs : List Char) : Option (Value × List Char) :=
  (numberOfChars? (cs.takeWhile isNumberChar)).map (·, cs.dropWhile isNumberChar)

/-- The text behind a given beginning. -/
def dropWord? : List Char → List Char → Option (List Char)
  | [], cs => some cs
  | _ :: _, [] => none
  | w :: ws, c :: cs => if w = c then dropWord? ws cs else none

/-- A word, a string or a number, and the text behind it. -/
def readScalar? (cs : List Char) : Option (Value × List Char) :=
  match cs with
  | 'n' :: rest => (dropWord? "ull".toList rest).map (null, ·)
  | 't' :: rest => (dropWord? "rue".toList rest).map (bool true, ·)
  | 'f' :: rest => (dropWord? "alse".toList rest).map (bool false, ·)
  | 'N' :: rest => (dropWord? "aN".toList rest).map (double .nan, ·)
  | 'I' :: rest => (dropWord? "nfinity".toList rest).map (double (.infinity false), ·)
  | '-' :: 'I' :: rest => (dropWord? "nfinity".toList rest).map (double (.infinity true), ·)
  | '"' :: rest => (readString? rest).map fun (s, rest) => (string s, rest)
  | _ => readNumber? cs

mutual

/-- A value and the text behind it. -/
def readValue? : Nat → List Char → Option (Value × List Char)
  | 0, _ => none
  | fuel + 1, cs =>
    match skipBlanks cs with
    | '[' :: rest =>
      match skipBlanks rest with
      | ']' :: rest => some (array [], rest)
      | rest => (readItems? fuel rest).map fun (items, rest) => (array items, rest)
    | '\x7b' :: rest =>
      match skipBlanks rest with
      | '\x7d' :: rest => some (object [], rest)
      | rest => (readFields? fuel rest).map fun (fields, rest) => (object fields, rest)
    | rest => readScalar? rest

/-- The items of an array up to its closing bracket. -/
def readItems? : Nat → List Char → Option (List Value × List Char)
  | 0, _ => none
  | fuel + 1, cs => do
    let (v, rest) ← readValue? fuel cs
    match skipBlanks rest with
    | ']' :: rest => some ([v], rest)
    | ',' :: rest =>
      let (items, rest) ← readItems? fuel rest
      some (v :: items, rest)
    | _ => none

/-- The fields of an object up to its closing brace. -/
def readFields? : Nat → List Char → Option (List (String × Value) × List Char)
  | 0, _ => none
  | fuel + 1, cs => do
    match skipBlanks cs with
    | '"' :: rest =>
      let (name, rest) ← readString? rest
      match skipBlanks rest with
      | ':' :: rest =>
        let (v, rest) ← readValue? fuel rest
        match skipBlanks rest with
        | '\x7d' :: rest => some ([(name, v)], rest)
        | ',' :: rest =>
          let (fields, rest) ← readFields? fuel rest
          some ((name, v) :: fields, rest)
        | _ => none
      | _ => none
    | _ => none

end

/-- The value that a whole text spells. -/
def ofJson? (s : String) : Option Value :=
  let cs := s.toList
  match readValue? (2 * cs.length + 2) cs with
  | some (v, rest) => if (skipBlanks rest).isEmpty then some v else none
  | none => none

end Value

end TwoFactorLogin
