import TwoFactorLogin.Fault.Basic
import TwoFactorLogin.Text.Blank
import TwoFactorLogin.Text.Case

/-!
# Encryption of the connection to the directory

With `startTls` a plain connection is upgraded before anything else is sent; with `implicitTls` it
is encrypted from the first byte.
-/

namespace TwoFactorLogin

/-- How the connection to the directory is encrypted. -/
inductive EncryptionMode where
  | none
  | implicitTls
  | startTls
  deriving DecidableEq, Repr, Inhabited

namespace EncryptionMode

/-- The name of a mode in logs and traces. -/
def name : EncryptionMode → String
  | none => "NONE"
  | implicitTls => "IMPLICIT_TLS"
  | startTls => "STARTTLS"

/-- The mode with a given name. -/
def ofName? (s : String) : Option EncryptionMode :=
  [none, implicitTls, startTls].find? fun m => m.name = s

/-- The port that servers conventionally listen on. -/
def defaultPort : EncryptionMode → Nat
  | implicitTls => 636
  | _ => 389

/-- The words that a configuration may use for the modes. -/
def words : List (String × EncryptionMode) :=
  [("none", none), ("ssl", implicitTls), ("ldaps", implicitTls), ("implicit_tls", implicitTls),
   ("starttls", startTls)]

/-- The mode that a configured word stands for, case and surrounding blanks aside. -/
def ofWord (v : Value) : Except Fault EncryptionMode :=
  let unknown := .error (.configuration (.unknownEncryption v))
  match v with
  | .string s =>
    match words.lookup (Text.lower (Text.strip s)) with
    | some mode => .ok mode
    | .none => unknown
  | _ => if v.truthy then .error (.value (.notText v)) else unknown

end EncryptionMode

end TwoFactorLogin
