import TwoFactorLogin.Fault.Basic
import TwoFactorLogin.Number.Rounded

/-!
# Columns of the secret table

A text column keeps a text as it is and a number as text, an integer only if it has at most 64
bits. A flag column keeps true or false; of the numbers it takes zero and one. Null, and a double
that is not a number, leave a text column empty; an empty flag is false.
-/

namespace TwoFactorLogin.Column

/-- What a text column keeps of a value, if anything. -/
def text : Value → Except Fault (Option String)
  | .null => .ok none
  | .bool b => .ok (some (if b then "1" else "0"))
  | .int i =>
    if -0x8000000000000000 ≤ i && i < 0x8000000000000000 then .ok (some (toString i))
    else .error (.store .integerTooWide)
  | .double .nan => .ok none
  | .double d => .ok (some d.displayRounded)
  | .string s => .ok (some s)
  | .array _ | .object _ => .error (.store .notStorable)

/-- What a flag column keeps of a value. -/
def flag : Value → Except Fault Bool
  | .null => .ok false
  | .bool b => .ok b
  | v => match v.number? with
    | some n =>
      if n.equals (.int 0) then .ok false
      else if n.equals (.int 1) then .ok true
      else .error (.store .notFlag)
    | none => .error (.store .notFlag)

/-- A text column keeps a text as it is. -/
@[simp] theorem text_string (s : String) : text (.string s) = .ok (some s) := rfl

/-- A flag column keeps a truth value as it is. -/
@[simp] theorem flag_bool (b : Bool) : flag (.bool b) = .ok b := rfl

end TwoFactorLogin.Column
