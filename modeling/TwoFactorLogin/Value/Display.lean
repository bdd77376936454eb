import TwoFactorLogin.Number.Reading
import TwoFactorLogin.Number.Shortest
import TwoFactorLogin.Text.Quoted
import TwoFactorLogin.Value.Basic

/-!
# Values in messages

`Value.literal` is the form a value has inside a message: texts between quotes, doubles by their
shortest decimal, arrays and objects in brackets. `Value.text` is the same, except that a text
stands as it is. Integers are written only up to a length, the same as for reading them;
`Value.isWritable` tells whether a value keeps to it.
-/

namespace TwoFactorLogin

/-- The items with a separator between them. -/
def Text.separated (items : List String) : String := ", ".intercalate items

namespace Value

mutual

/-- The form of a value inside a message. -/
def literal : Value → String
  | null => "None"
  | bool true => "True"
  | bool false => "False"
  | int i => toString i
  | double d => d.display
  | string s => Text.quoted s
  | array items => "[" ++ Text.separated (literals items) ++ "]"
  | object fields => "\x7b" ++ Text.separated (fieldLiterals fields) ++ "\x7d"

/-- The forms of the items of an array. -/
def literals : List Value → List String
  | [] => []
  | v :: rest => literal v :: literals rest

/-- The forms of the fields of an object. -/
def fieldLiterals : List (String × Value) → List String
  | [] => []
  | (name, v) :: rest => (Text.quoted name ++ ": " ++ literal v) :: fieldLiterals rest

end

/-- A value as plain text. -/
def text : Value → String
  | string s => s
  | v => v.literal

mutual

/-- Whether no integer in a value is too long to be written. -/
def isWritable : Value → Bool
  | int i => (Nat.toDigits 10 i.natAbs).length ≤ maxIntDigits
  | array items => areWritable items
  | object fields => fieldsWritable fields
  | _ => true

/-- Whether every item of an array is writable. -/
def areWritable : List Value → Bool
  | [] => true
  | v :: rest => isWritable v && areWritable rest

/-- Whether every field of an object is writable. -/
def fieldsWritable : List (String × Value) → Bool
  | [] => true
  | (_, v) :: rest => isWritable v && fieldsWritable rest

end

end Value

end TwoFactorLogin
