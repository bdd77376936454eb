/-!
# Blank characters

Which code points count as blank at the ends of a text, and the text without them.

* `isBlank`: the Unicode blanks, the four information separators included.
* `strip`: a text without the blanks at its two ends; blanks inside stay.
-/

namespace TwoFactorLogin.Text

/-- The ranges of code points that are blank, ends included. -/
def blankRanges : List (Nat × Nat) :=
  [(0x09, 0x0D), (0x1C, 0x20), (0x85, 0x85), (0xA0, 0xA0), (0x1680, 0x1680), (0x2000, 0x200A),
   (0x2028, 0x2029), (0x202F, 0x202F), (0x205F, 0x205F), (0x3000, 0x3000)]

/-- Whether a code point lies in one of the ranges, ends included. -/
def inRanges (ranges : List (Nat × Nat)) (code : Nat) : Bool :=
  ranges.any fun r => r.1 ≤ code && code ≤ r.2

/-- Whether a character is blank. -/
def isBlank (c : Char) : Bool := inRanges blankRanges c.toNat

/-- The characters without the blanks at both ends. -/
def stripChars (cs : List Char) : List Char :=
  ((cs.dropWhile isBlank).reverse.dropWhile isBlank).reverse

/-- The text without the blanks at both ends. -/
def strip (s : String) : String := String.ofList (stripChars s.toList)

/-- Whether a text has nothing but blanks. -/
def allBlank (s : String) : Bool := s.toList.all isBlank

theorem stripChars_of_allBlank {s : String} (h : allBlank s = true) : stripChars s.toList = [] := by
  have hdrop : s.toList.dropWhile isBlank = [] := by
    rw [← List.append_nil s.toList]
    exact List.dropWhile_append_of_pos (List.all_eq_true.1 h)
  rw [stripChars, hdrop]
  rfl

end TwoFactorLogin.Text
