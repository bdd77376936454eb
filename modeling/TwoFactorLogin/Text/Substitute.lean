/-!
# Substitution in text

`substitute` replaces every occurrence of a word, from left to right and without overlap. What is
put in is not searched again.
-/

namespace TwoFactorLogin.Text

/-- Whether a word occurs in a text. -/
def occursIn (word : List Char) : List Char → Bool
  | [] => word.isEmpty
  | c :: cs => word.isPrefixOf (c :: cs) || occursIn word cs

/-- The text with every occurrence of a word replaced, after passing over some characters. -/
def substituteFrom (word replacement : List Char) : Nat → List Char → List Char
  | _, [] => []
  | skip + 1, _ :: cs => substituteFrom word replacement skip cs
  | 0, c :: cs =>
    if word.isPrefixOf (c :: cs) then
      replacement ++ substituteFrom word replacement (word.length - 1) cs
    else c :: substituteFrom word replacement 0 cs

/-- The text with every occurrence of a word replaced. -/
def substitute (word replacement text : List Char) : List Char :=
  substituteFrom word replacement 0 text

/-- The parts of a text between the occurrences of a character. -/
def splitAt (sep : Char) : List Char → List (List Char)
  | [] => [[]]
  | c :: cs =>
    if c = sep then [] :: splitAt sep cs
    else match splitAt sep cs with
      | part :: parts => (c :: part) :: parts
      | [] => [[c]]

end TwoFactorLogin.Text
