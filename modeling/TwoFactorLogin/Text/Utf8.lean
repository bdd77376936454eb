import TwoFactorLogin.Text.Quoted

/-!
# UTF-8

Passwords are kept as code points, because what a user submits may hold surrogates, which no UTF-8
text can. `utf8?` gives the bytes, or says where the first run of surrogates lies.
-/

namespace TwoFactorLogin.Text

/-- Whether a code point is a surrogate. -/
def isSurrogate (code : Nat) : Bool := 0xD800 ≤ code && code ≤ 0xDFFF

/-- The UTF-8 bytes of one code point. -/
def utf8Bytes (code : Nat) : List UInt8 :=
  if code < 0x80 then [code.toUInt8]
  else if code < 0x800 then [(0xC0 + code / 64).toUInt8, (0x80 + code % 64).toUInt8]
  else if code < 0x10000 then
    [(0xE0 + code / 4096).toUInt8, (0x80 + code / 64 % 64).toUInt8, (0x80 + code % 64).toUInt8]
  else
    [(0xF0 + code / 262144).toUInt8, (0x80 + code / 4096 % 64).toUInt8,
     (0x80 + code / 64 % 64).toUInt8, (0x80 + code % 64).toUInt8]

/-- Where a text fails to have a UTF-8 form: its first run of surrogates. -/
structure Unencodable where
  first : Nat
  start : Nat
  length : Nat
  deriving DecidableEq, Repr

/-- The first run of surrogates. -/
def firstSurrogates? (codes : List Nat) : Option Unencodable :=
  let rest := codes.dropWhile (!isSurrogate ·)
  rest.head?.map fun first =>
    ⟨first, codes.length - rest.length, (rest.takeWhile isSurrogate).length⟩

/-- The UTF-8 bytes of a text given by its code points. -/
def utf8? (codes : List Nat) : Except Unencodable (List UInt8) :=
  match firstSurrogates? codes with
  | some failure => .error failure
  | none => .ok (codes.flatMap utf8Bytes)

/-- What a log says of a text that cannot be encoded. -/
def Unencodable.message (u : Unencodable) : String :=
  let place :=
    if u.length = 1 then
      "character '\\u" ++ String.ofList (hexDigits 4 u.first) ++ "' in position "
        ++ toString u.start
    else
      "characters in position " ++ toString u.start ++ "-" ++ toString (u.start + u.length - 1)
  "'utf-8' codec can't encode " ++ place ++ ": surrogates not allowed"

/-- The code points of a text. -/
def codePoints (s : String) : List Nat := s.toList.map Char.toNat

end TwoFactorLogin.Text
