import TwoFactorLogin.Config.SecondFactor
import TwoFactorLogin.Number.Reading
import TwoFactorLogin.Otp.Base32
import TwoFactorLogin.Otp.Sha1

/-!
# One-time codes

* `hotp`: the code of a key and a counter, after RFC 4226.
* `counterAt`: the counter of a time, the number of whole steps since the epoch. The quotient of
  time and step is rounded to a double before it is cut toward zero.
* `parseCode`: a submitted code in its full length.
-/

namespace TwoFactorLogin.Otp

/-- The digits of a number, with zeros in front up to a width. -/
def zeroPadded (width n : Nat) : List Char :=
  let ds := Nat.toDigits 10 n
  List.replicate (width - ds.length) '0' ++ ds

/-- The four bytes at an offset as a number of 31 bits. -/
def truncated (mac : List UInt8) : Nat :=
  let offset := (mac.getLastD 0).toNat % 16
  Sha1.ofBytes ((mac.drop offset).take 4) % 0x80000000

/-- The code of a key and a counter. -/
def hotp (digits : Nat) (key : List UInt8) (counter : Nat) : String :=
  let mac := Sha1.hmac key (Sha1.toBytes 8 counter)
  String.ofList (zeroPadded digits (truncated mac % Nat.pow 10 digits))

/-- The counter that a quotient of time and step comes to, if it was not too large. -/
def counterOf : Option Double → Except Fault Nat
  | none => .error (.code .quotientTooLarge)
  | some quotient =>
    match quotient.truncate with
    | .ok counter =>
      if 0 ≤ counter && counter < 0x10000000000000000 then .ok counter.toNat
      else .error (.code .counterOutOfRange)
    | .error _ => .error (.code .quotientTooLarge)

/-- The counter of a time in whole seconds. -/
def counterAt (step : Nat) (time : Int) : Except Fault Nat :=
  counterOf (Double.ofQuotient? time step)

/-- The code of a key at a time in whole seconds. -/
def codeAt (config : SecondFactorConfig) (key : List UInt8) (time : Int) : Except Fault String :=
  (counterAt config.timeStep time).map (hotp config.digits key)

/-- A time in whole seconds, cut toward zero. -/
def wholeSeconds (time : Number) : Except Fault Int :=
  match time.truncate with
  | .ok i => .ok i
  | .error .nan => .error (.value .nanToInteger)
  | .error .infinite => .error (.value .infinityToInteger)

/-- The code of a secret at a time. -/
def generateCode (config : SecondFactorConfig) (secret : String) (time : Number) :
    Except Fault String := do
  let key ← (Base32.decodeSecret secret).mapError .secretText
  codeAt config key (← wholeSeconds time)

/-- The times whose codes are accepted at a time: the steps of the window around it, none below
zero. -/
def candidateTimes (config : SecondFactorConfig) (time : Number) : Except Fault (List Int) := do
  let base ← wholeSeconds time
  let offset (i : Nat) : Int := i - config.window
  let times := (List.range (2 * config.window + 1)).map fun i => base + offset i * config.timeStep
  return times.filter fun t => 0 ≤ t

/-- The times whose codes are accepted at the time that a value is. -/
def candidateTimesOf (config : SecondFactorConfig) (time : Value) : Except Fault (List Int) :=
  match time.number? with
  | some n => candidateTimes config n
  | none => .error (.value (.notWhole time))

/-- Whether a code is the one of a key at one of some times, tried in order. -/
def matchesAny (config : SecondFactorConfig) (key : List UInt8) (code : String) :
    List Int → Except Fault Bool
  | [] => .ok false
  | time :: rest => do
    if (← codeAt config key time) = code then .ok true else matchesAny config key code rest

/-- What a value submits; null submits nothing. -/
def submitted : Value → Except Fault (Option String)
  | .null => .ok none
  | .string s => .ok (some s)
  | v => .error (.value (.notText v))

/-- A submitted code in its full length, without blanks around it and with zeros in front. -/
def parseCode (config : SecondFactorConfig) : Option String → Except Fault String
  | none => .error (.codeRefused .absent)
  | some submitted =>
    let digits := Text.stripChars submitted.toList
    if digits.isEmpty || !digits.all Text.isAsciiDigit then .error (.codeRefused .notDigits)
    else if maxIntDigits < digits.length then .error (.code (.tooManyDigits digits.length))
    else if Nat.pow 10 config.digits ≤ Text.asciiValue digits then
      .error (.codeRefused (.tooLarge config.digits))
    else .ok (String.ofList (zeroPadded config.digits (Text.asciiValue digits)))

end TwoFactorLogin.Otp
