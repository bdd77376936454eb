/-!
# Letter case, as far as ASCII words need it

* `lower` maps the ASCII capitals. Words are compared after it, and the words hold no letter that
  a character outside ASCII could become.
* `upper` also maps the characters outside ASCII whose capitals are ASCII letters; every other
  character outside ASCII stays outside ASCII.
-/

namespace TwoFactorLogin.Text

/-- The text with its ASCII capitals made small. -/
def lower (s : String) : String := String.ofList (s.toList.map Char.toLower)

/-- The characters outside ASCII whose capital form is made of ASCII letters, with that form. -/
def asciiCapitals : List (Nat × List Char) :=
  [(0xDF, ['S', 'S']), (0x131, ['I']), (0x17F, ['S']), (0xFB00, ['F', 'F']), (0xFB01, ['F', 'I']),
   (0xFB02, ['F', 'L']), (0xFB03, ['F', 'F', 'I']), (0xFB04, ['F', 'F', 'L']), (0xFB05, ['S', 'T']),
   (0xFB06, ['S', 'T'])]

/-- The capital form of a character, as far as it is ASCII. -/
def upperChar (c : Char) : List Char :=
  match asciiCapitals.find? fun p => p.1 = c.toNat with
  | some p => p.2
  | none => [c.toUpper]

/-- The characters in their capital forms, as far as these are ASCII. -/
def upperChars (cs : List Char) : List Char := cs.flatMap upperChar

end TwoFactorLogin.Text
