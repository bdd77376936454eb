import TwoFactorLogin.Deadline
import TwoFactorLogin.Log

/-!
# Secret stores

A secret store answers one question: the secret of a login name. It may have none, hold one, or
fail; it may write to the log, and take its time. Any rule that answers so is a `SecretStore`.
-/

namespace TwoFactorLogin

/-- What a look-up gives: a secret, none or a fault; what was logged; and the clocks afterwards. -/
structure StoreReply where
  outcome : Except Fault (Option SecondFactorSecret)
  log : List StoreRecord
  clocks : Clocks

/-- A rule that looks up secrets: from the clocks, a login name and a deadline. -/
abbrev SecretStore := Clocks → String → Option Deadline → StoreReply

/-- One look-up: the question, the clocks when it was asked, and the reply. -/
structure Lookup where
  username : String
  deadline : Option Deadline
  askedAt : Clocks
  reply : StoreReply

end TwoFactorLogin
