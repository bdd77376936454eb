import TwoFactorLogin.Run

/-!
# Clocks and deadlines

A deadline is a point on the steady clock. What is left of it is never negative and never not a
number: `Number.larger` keeps its first argument, zero, unless the difference is strictly larger.
A deadline has expired as soon as nothing is left.

Reckoning with times is a fault where an integer beyond every double meets a double.
-/

namespace TwoFactorLogin

/-- What the clocks show: the steady clock, the wall clock, and the date as text. -/
structure Clocks where
  steady : Number
  wall : Number
  date : String
  deriving DecidableEq, Repr, Inhabited

/-- Lets some time pass, first on the steady clock and then on the wall clock. -/
def Clocks.advance (seconds : Number) : Run Clocks Unit := do
  let before ← Run.read Clocks.steady
  let steady ← Run.ofExcept (Fault.orTooLarge (before.add? seconds))
  Run.update fun c => { c with steady }
  let before ← Run.read Clocks.wall
  let wall ← Run.ofExcept (Fault.orTooLarge (before.add? seconds))
  Run.update fun c => { c with wall }

/-- The point on the steady clock by which an attempt must be finished. -/
structure Deadline where
  expiresAt : Number
  deriving DecidableEq, Repr

namespace Deadline

/-- The deadline a number of seconds from now. -/
def after (now seconds : Number) : Except Fault Deadline :=
  (Fault.orTooLarge (now.add? seconds)).map Deadline.mk

/-- The seconds left. -/
def remaining (d : Deadline) (now : Number) : Except Fault Number :=
  (Fault.orTooLarge (d.expiresAt.sub? now)).map Number.zero.larger

/-- Whether nothing is left. -/
def expired (d : Deadline) (now : Number) : Except Fault Bool :=
  (d.remaining now).map fun left => left.le Number.zero

/-- A timeout shortened to what is left. -/
def clamp (d : Deadline) (now timeout : Number) : Except Fault Number :=
  (d.remaining now).map timeout.smaller

end Deadline

/-- Whether a deadline is given and has expired. -/
def deadlineExpired (deadline : Option Deadline) (now : Number) : Except Fault Bool :=
  match deadline with
  | some d => d.expired now
  | none => .ok false

/-- A timeout shortened to what is left of a deadline, if one is given. -/
def clampTo (deadline : Option Deadline) (now timeout : Number) : Except Fault Number :=
  match deadline with
  | some d => d.clamp now timeout
  | none => .ok timeout

end TwoFactorLogin
