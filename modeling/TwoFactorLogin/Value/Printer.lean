import TwoFactorLogin.Fault.Basic

/-!
# JSON text of values

`Value.json` writes a value over several lines, two blanks deeper at each level: every item on a
line of its own, a comma directly behind an item that is not the last, a colon and one blank
behind a name. Empty arrays and objects stay on one line. The text is ASCII: other characters are
escaped by their UTF-16 units. A value with an integer too long to be written has no text.
-/

namespace TwoFactorLogin

namespace Text

/-- The escape of one UTF-16 unit. -/
def unitEscape (unit : Nat) : List Char := '\\' :: 'u' :: hexDigits 4 unit

/-- The escape of a code point: one unit, or a pair of surrogates beyond the basic plane. -/
def codeEscape (code : Nat) : List Char :=
  if code < 0x10000 then unitEscape code
  else
    let rest := code - 0x10000
    unitEscape (0xD800 + rest / 0x400) ++ unitEscape (0xDC00 + rest % 0x400)

/-- One character inside a JSON string. -/
def jsonChar (c : Char) : List Char :=
  if c = '"' then ['\\', '"']
  else if c = '\\' then ['\\', '\\']
  else if c = '\n' then ['\\', 'n']
  else if c = '\r' then ['\\', 'r']
  else if c = '\t' then ['\\', 't']
  else if c.toNat = 0x08 then ['\\', 'b']
  else if c.toNat = 0x0C then ['\\', 'f']
  else if ' ' ≤ c && c ≤ '~' then [c]
  else codeEscape c.toNat

/-- A text as a JSON string. -/
def jsonString (s : String) : List Char := '"' :: s.toList.flatMap jsonChar ++ ['"']

end Text

namespace Value

/-- A line break and the blanks that begin a line at a given depth. -/
def lineBreak (depth : Nat) : List Char := '\n' :: List.replicate (2 * depth) ' '

/-- A double in JSON text; the values that JSON lacks are words. -/
def jsonDouble : Double → String
  | .nan => "NaN"
  | .infinity negative => if negative then "-Infinity" else "Infinity"
  | d => d.display

mutual

/-- The JSON text of a value whose first line stands at a given depth. -/
def jsonAt (depth : Nat) : Value → List Char
  | null => "null".toList
  | bool true => "true".toList
  | bool false => "false".toList
  | int i => (toString i).toList
  | double d => (jsonDouble d).toList
  | string s => Text.jsonString s
  | array [] => ['[', ']']
  | array (v :: rest) =>
    '[' :: lineBreak (depth + 1) ++ jsonAt (depth + 1) v ++ jsonItems (depth + 1) rest
      ++ lineBreak depth ++ [']']
  | object [] => ['\x7b', '\x7d']
  | object ((name, v) :: rest) =>
    '\x7b' :: lineBreak (depth + 1) ++ Text.jsonString name ++ ':' :: ' ' :: jsonAt (depth + 1) v
      ++ jsonFields (depth + 1) rest ++ lineBreak depth ++ ['\x7d']

/-- The items of an array behind the first one. -/
def jsonItems (depth : Nat) : List Value → List Char
  | [] => []
  | v :: rest => ',' :: lineBreak depth ++ jsonAt depth v ++ jsonItems depth rest

/-- The fields of an object behind the first one. -/
def jsonFields (depth : Nat) : List (String × Value) → List Char
  | [] => []
  | (name, v) :: rest =>
    ',' :: lineBreak depth ++ Text.jsonString name ++ ':' :: ' ' :: jsonAt depth v
      ++ jsonFields depth rest

end

/-- The JSON text of a value, if every integer in it can be written. -/
def json (v : Value) : Except Fault String :=
  if v.isWritable then .ok (String.ofList (jsonAt 0 v)) else .error (.value .integerTooLong)

end Value

end TwoFactorLogin
