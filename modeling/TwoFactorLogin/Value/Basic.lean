import TwoFactorLogin.Number.Basic

/-!
# Dynamic values

The values of a properties file, of a log record's fields and of an exported trace. An object
keeps its fields in the order in which they were given.
-/

namespace TwoFactorLogin

/-- A value as it stands in a data file. -/
inductive Value where
  | null
  | bool (b : Bool)
  | int (i : Int)
  | double (d : Double)
  | string (s : String)
  | array (items : List Value)
  | object (fields : List (String × Value))
  deriving Repr, Inhabited

namespace Value

/-! ## Equality is decidable -/

mutual

/-- Whether two values are the same. -/
def same : Value → Value → Bool
  | null, null => true
  | bool a, bool b => a == b
  | int a, int b => a == b
  | double a, double b => a == b
  | string a, string b => a == b
  | array a, array b => sameItems a b
  | object a, object b => sameFields a b
  | _, _ => false

/-- Whether two rows of items are the same. -/
def sameItems : List Value → List Value → Bool
  | [], [] => true
  | v :: vs, w :: ws => same v w && sameItems vs ws
  | _, _ => false

/-- Whether two rows of fields are the same. -/
def sameFields : List (String × Value) → List (String × Value) → Bool
  | [], [] => true
  | (m, v) :: vs, (n, w) :: ws => m == n && (same v w && sameFields vs ws)
  | _, _ => false

end

mutual

theorem same_refl : ∀ v : Value, same v v = true
  | null | bool _ | int _ | double _ | string _ => by simp [same]
  | array items => by simp [same, sameItems_refl items]
  | object fields => by simp [same, sameFields_refl fields]

theorem sameItems_refl : ∀ vs : List Value, sameItems vs vs = true
  | [] => by simp [sameItems]
  | v :: vs => by simp [sameItems, same_refl v, sameItems_refl vs]

theorem sameFields_refl : ∀ vs : List (String × Value), sameFields vs vs = true
  | [] => by simp [sameFields]
  | (_, v) :: vs => by simp [sameFields, same_refl v, sameFields_refl vs]

end

mutual

theorem eq_of_same : ∀ {v w : Value}, same v w = true → v = w
  | null, w, h => by cases w <;> simp_all [same]
  | bool _, w, h => by cases w <;> simp_all [same]
  | int _, w, h => by cases w <;> simp_all [same]
  | double _, w, h => by cases w <;> simp_all [same]
  | string _, w, h => by cases w <;> simp_all [same]
  | array items, w, h => by
    cases w with
    | array others => exact congrArg array (eq_of_sameItems (by simpa [same] using h))
    | _ => simp [same] at h
  | object fields, w, h => by
    cases w with
    | object others => exact congrArg object (eq_of_sameFields (by simpa [same] using h))
    | _ => simp [same] at h

theorem eq_of_sameItems : ∀ {vs ws : List Value}, sameItems vs ws = true → vs = ws
  | [], ws, h => by cases ws <;> simp_all [sameItems]
  | v :: vs, ws, h => by
    cases ws with
    | nil => simp [sameItems] at h
    | cons w ws =>
      simp only [sameItems, Bool.and_eq_true] at h
      rw [eq_of_same h.1, eq_of_sameItems h.2]

theorem eq_of_sameFields : ∀ {vs ws : List (String × Value)}, sameFields vs ws = true → vs = ws
  | [], ws, h => by cases ws <;> simp_all [sameFields]
  | (m, v) :: vs, ws, h => by
    cases ws with
    | nil => simp [sameFields] at h
    | cons w ws =>
      obtain ⟨n, w⟩ := w
      simp only [sameFields, Bool.and_eq_true, beq_iff_eq] at h
      rw [h.1, eq_of_same h.2.1, eq_of_sameFields h.2.2]

end

instance : DecidableEq Value := fun v w =>
  decidable_of_iff (same v w = true) ⟨eq_of_same, fun h => h ▸ same_refl v⟩

/-! ## Parts and kinds -/

/-- The field of an object with a given name. -/
def field? (name : String) : Value → Option Value
  | object fields => fields.lookup name
  | _ => none

/-- A text, or null where there is none. -/
def ofText? : Option String → Value
  | some s => string s
  | none => null

/-- Whether a value counts as true: null, zero and everything empty do not. -/
def truthy : Value → Bool
  | null => false
  | bool b => b
  | int i => i != 0
  | double d => !d.isZero
  | string s => !s.isEmpty
  | array items => !items.isEmpty
  | object fields => !fields.isEmpty

/-- The number that a value is; a truth value counts as zero or one. -/
def number? : Value → Option Number
  | bool b => some (.int (if b then 1 else 0))
  | int i => some (.int i)
  | double d => some (.double d)
  | _ => none

/-- The integer that a value is; a truth value counts as zero or one. -/
def int? : Value → Option Int
  | bool b => some (if b then 1 else 0)
  | int i => some i
  | _ => none

/-- Whether a value is at most another: numbers exactly, texts by their characters; `none` if the
two have no order. -/
def atMost? : Value → Value → Option Bool
  | string s, string t => some (!(t < s))
  | v, w => do return (← v.number?).le (← w.number?)

/-- The word that messages use for the kind of a value. -/
def kindName : Value → String
  | null => "NoneType"
  | bool _ => "bool"
  | int _ => "int"
  | double _ => "float"
  | string _ => "str"
  | array _ => "list"
  | object _ => "dict"

end Value

end TwoFactorLogin
