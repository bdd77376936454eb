import TwoFactorLogin.Fault.Basic

/-!
# How codes are checked

`SecondFactorSettings` are values of any kind; `check` refuses those that are no integers or out
of bounds. `SecondFactorConfig` carries the bounds in its type.
-/

namespace TwoFactorLogin

/-- The widest window: wider ones would accept codes that are minutes old. -/
def maxWindow : Nat := 3

/-- The fields of a second-factor configuration as they are given. -/
structure SecondFactorSettings where
  digits : Value := .int 6
  timeStep : Value := .int 30
  window : Value := .int 1
  allowDisabledBypass : Value := .bool false
  deriving DecidableEq, Repr

/-- The second-factor configuration of a login. -/
structure SecondFactorConfig where
  digits : Nat := 6
  timeStep : Nat := 30
  window : Nat := 1
  allowDisabledBypass : Bool := false
  six_le_digits : 6 ≤ digits := by decide
  digits_le_eight : digits ≤ 8 := by decide
  timeStep_pos : 0 < timeStep := by decide
  window_le : window ≤ maxWindow := by decide
  deriving DecidableEq, Repr

/-- Refuses a field that is no integer or out of bounds. -/
def checkBounds (field : String) (low : Nat) (high : Option Nat) (v : Value) : Except Fault Unit :=
  let inside := match v.int? with
    | some i => decide ((low : Int) ≤ i) && high.all fun h => decide (i ≤ (h : Int))
    | none => false
  if inside then .ok () else .error (.refusal v (.outOfBounds field low high v))

namespace SecondFactorSettings

/-- The first fault found in the settings, if there is one. -/
def check (s : SecondFactorSettings) : Except Fault Unit := do
  checkBounds "digits" 6 (some 8) s.digits
  checkBounds "time_step" 1 none s.timeStep
  checkBounds "window" 0 (some maxWindow) s.window

/-- The configuration of a login, if every field is in bounds. -/
def config? (s : SecondFactorSettings) : Option SecondFactorConfig := do
  let digits := (← s.digits.int?).toNat
  let timeStep := (← s.timeStep.int?).toNat
  let window := (← s.window.int?).toNat
  if h : (6 ≤ digits ∧ digits ≤ 8) ∧ 0 < timeStep ∧ window ≤ maxWindow then
    some ⟨digits, timeStep, window, s.allowDisabledBypass.truthy, h.1.1, h.1.2, h.2.1, h.2.2⟩
  else none

end SecondFactorSettings

end TwoFactorLogin
