import TwoFactorLogin.Machine.Record
import TwoFactorLogin.Proofs.SessionSteps
import TwoFactorLogin.Rehearsal.Basic
import TwoFactorLogin.Value.Printer
import TwoFactorLogin.Value.Reader
import TwoFactorLogin.Proofs.Connecting
import TwoFactorLogin.Proofs.Visiting
import TwoFactorLogin.Proofs.Resolving
import TwoFactorLogin.Proofs.Refusing
import TwoFactorLogin.Proofs.SecondFactor
import TwoFactorLogin.Proofs.LoggingIn
import TwoFactorLogin.Proofs.BothFactors
import TwoFactorLogin.Proofs.NoProbing
import TwoFactorLogin.Proofs.BindSafety
import TwoFactorLogin.Proofs.Reckoning
import TwoFactorLogin.Proofs.Denial
import TwoFactorLogin.Proofs.Line
import TwoFactorLogin.Proofs.Releasing
import TwoFactorLogin.Proofs.Discipline
import TwoFactorLogin.Proofs.Containment
import TwoFactorLogin.Proofs.TimeLeft
import TwoFactorLogin.Proofs.InTime
import TwoFactorLogin.Proofs.Verdict
import TwoFactorLogin.Proofs.Lateness
import TwoFactorLogin.Proofs.Rebinding
import TwoFactorLogin.Proofs.Discretion
import TwoFactorLogin.Proofs.Chronicle
import TwoFactorLogin.Proofs.SessionLife
import TwoFactorLogin.Proofs.Malformed
import TwoFactorLogin.Proofs.TwoStores
import TwoFactorLogin.Proofs.CodeGrammar
import TwoFactorLogin.Proofs.Window
import TwoFactorLogin.Proofs.Generation
import TwoFactorLogin.Proofs.NotANumber
import TwoFactorLogin.Proofs.Usable
import TwoFactorLogin.Proofs.SecretTyping
import TwoFactorLogin.Proofs.DerivedNames
import TwoFactorLogin.Proofs.FilterSafety
import TwoFactorLogin.Proofs.AllOrNothing
import TwoFactorLogin.Proofs.Concealment
import TwoFactorLogin.Proofs.Searching
import TwoFactorLogin.Proofs.JsonText
import TwoFactorLogin.Proofs.Traces
import TwoFactorLogin.Proofs.Multimap
import TwoFactorLogin.Proofs.Switches
import TwoFactorLogin.Proofs.CheckingAlike
import TwoFactorLogin.Proofs.Bypass
import TwoFactorLogin.Proofs.Secrecy
import TwoFactorLogin.Proofs.Countdown
