import TwoFactorLogin.Otp.Code
import TwoFactorLogin.World

/-!
# Checking the second factor

`SecondFactorValidator.verify` looks up the secret of a login name and checks a submitted code
against it. A store that fails counts as one that has no secret. A disabled secret lets its owner
in without a code only if the configuration says so.
-/

namespace TwoFactorLogin

/-- Where secrets come from, and how codes are checked. -/
structure SecondFactorValidator where
  store : SecretStore
  config : SecondFactorConfig

namespace SecondFactorValidator

/-- The secret of a login name; a fault of the store is logged and counts as none, unless it is an
interruption. -/
def fetchSecret (v : SecondFactorValidator) (username : String) (deadline : Option Deadline) :
    Run World (Option SecondFactorSecret) := do
  match ← (World.lookUp v.store username deadline).attempt with
  | .ok secret => return secret
  | .error fault =>
    if fault.kind.isInterruption then .raise fault
    else
      let record :=
        if fault.kind.isSecretUnavailable then
          LogRecord.secretUnavailable username fault.message fault.kind.name
        else .secretStoreError username fault.message fault.kind.name
      World.record record
      return none

/-- A time, or what the wall clock shows. -/
def timeOrNow (time : Option Number) : Run World Number :=
  .read fun w => time.getD w.clocks.wall

/-- The code of a secret at a time, or now. -/
def generateCode (config : SecondFactorConfig) (secret : String) (time : Option Number) :
    Run World String := do
  let time ← timeOrNow time
  Run.ofExcept (Otp.generateCode config secret time)

/-- Whether a submitted code is one that a secret has at a time, or now. -/
def validateCode (config : SecondFactorConfig) (secret : SecondFactorSecret)
    (submitted : Option String) (time : Option Number) : Run World Bool := do
  match Otp.parseCode config submitted with
  | .error (.codeRefused cause) =>
    World.record (.codeMalformed secret.owner cause.message)
    return false
  | .error fault => .raise fault
  | .ok code =>
    match Base32.decodeSecret secret.secret with
    | .error cause =>
      World.record (.secretMalformed secret.owner cause.message)
      return false
    | .ok key =>
      let time ← timeOrNow time
      let times ← Run.ofExcept (Otp.candidateTimes config time)
      Run.ofExcept (Otp.matchesAny config key code times)

/-- Checks a found secret: bypassed, or by the submitted code. -/
def checkSecret (v : SecondFactorValidator) (username : String) (secret : SecondFactorSecret)
    (submitted : Option String) (time : Option Number) :
    Run World (Except DenialReason SecondFactorSecret) := do
  if !secret.isEnabled && v.config.allowDisabledBypass then
    World.record (.secondFactorBypassed username)
    return .ok secret
  else if submitted.all Text.allBlank then return .error .codeMissing
  else if ← validateCode v.config secret submitted time then return .ok secret
  else return .error .codeInvalid

/-- The whole check: the secret that passed it, or why it failed. -/
def verify (v : SecondFactorValidator) (username : String) (submitted : Option String)
    (time : Option Number) (deadline : Option Deadline) :
    Run World (Except DenialReason SecondFactorSecret) := do
  if ← World.expired deadline then return .error .deadlineExceeded
  else
    let secret ← v.fetchSecret username deadline
    if ← World.expired deadline then
      World.record (.lookupOverranDeadline username)
      return .error .deadlineExceeded
    else match secret with
      | none => return .error .secretUnavailable
      | some secret => v.checkSecret username secret submitted time

end SecondFactorValidator

end TwoFactorLogin
