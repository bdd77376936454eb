import TwoFactorLogin.Fault.Basic
import TwoFactorLogin.Text.Case

/-!
# Base32 secrets

A secret is written in base32: each digit holds five bits, most significant first, and a run of
`=` fills the last group of eight digits. `decodeSecret` reads it the way users type it: in either
case, with spaces, with or without the filling.

* `encode`: the digits of some bytes with full filling.
* `decodeSecret`: the bytes that a text spells. Bits that do not fill a byte are dropped.
-/

namespace TwoFactorLogin.Base32

/-! ## Bits -/

/-- The lowest bits of a number, most significant first. -/
def bits : Nat → Nat → List Bool
  | 0, _ => []
  | width + 1, n => n.testBit width :: bits width n

/-- The number that some bits spell, most significant first. -/
def ofBits (bs : List Bool) : Nat := bs.foldl (fun v b => 2 * v + b.toNat) 0

/-- The bytes that a row of bits spells; a rest of fewer than eight bits is dropped. -/
def octets : List Bool → List UInt8
  | a :: b :: c :: d :: e :: f :: g :: h :: rest =>
    UInt8.ofNat (ofBits [a, b, c, d, e, f, g, h]) :: octets rest
  | _ => []

/-- The groups of five bits in a row of bits, the last one filled with zeros. -/
def quintets : List Bool → List Nat
  | [] => []
  | a :: b :: c :: d :: e :: rest => ofBits [a, b, c, d, e] :: quintets rest
  | rest => [ofBits (rest ++ List.replicate (5 - rest.length) false)]

/-! ## Digits -/

/-- The value of a digit: `A` to `Z`, then `2` to `7`. -/
def digitValue? (c : Char) : Option Nat :=
  if 'A' ≤ c && c ≤ 'Z' then some (c.toNat - 'A'.toNat)
  else if '2' ≤ c && c ≤ '7' then some (c.toNat - '2'.toNat + 26)
  else none

/-- The digit of a value below 32. -/
def digit (v : Nat) : Char :=
  if v < 26 then Char.ofNat ('A'.toNat + v) else Char.ofNat ('2'.toNat + (v - 26))

/-- How many characters of filling bring a length to a multiple of eight. -/
def fillLength (length : Nat) : Nat := (8 - length % 8) % 8

/-- The digits of some bytes, filled to a multiple of eight. -/
def encode (bytes : List UInt8) : List Char :=
  let digits := (quintets (bytes.flatMap fun b => bits 8 b.toNat)).map digit
  digits ++ List.replicate (fillLength digits.length) '='

/-! ## Reading -/

/-- The numbers of filling characters that a full text can end in. -/
def fillLengths : List Nat := [0, 1, 3, 4, 6]

/-- The values of a row of digits; `none` if one is no digit. -/
def digitValues? : List Char → Option (List Nat)
  | [] => some []
  | c :: rest => do
    let v ← digitValue? c
    let vs ← digitValues? rest
    some (v :: vs)

/-- The bytes that a filled text spells. -/
def decodeFilled (cs : List Char) : Except SecretTextError (List UInt8) :=
  let digits := (cs.reverse.dropWhile (· = '=')).reverse
  match digitValues? digits with
  | none => .error .badDigit
  | some values =>
    if fillLengths.contains (cs.length - digits.length) then .ok (octets (values.flatMap (bits 5)))
    else .error .badPadding

/-- Whether a character is ASCII. -/
def isAscii (c : Char) : Bool := c.toNat < 128

/-- The key that the characters of a secret spell. -/
def decodeChars (cs : List Char) : Except SecretTextError (List UInt8) :=
  let cleaned := Text.upperChars (cs.filter (· != ' '))
  if cleaned.isEmpty then .error .empty
  else if !cleaned.all isAscii then .error .notAscii
  else decodeFilled (cleaned ++ List.replicate (fillLength cleaned.length) '=')

/-- The key that the text of a secret spells. -/
def decodeSecret (secret : String) : Except SecretTextError (List UInt8) :=
  decodeChars secret.toList

/-- The key that a value spells; only a text spells one. -/
def decodeValue : Value → Except Fault (List UInt8)
  | .string s => (decodeSecret s).mapError .secretText
  | v => .error (.value (.noField v "replace"))

end TwoFactorLogin.Base32
