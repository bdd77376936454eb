import TwoFactorLogin.Fault.Basic

/-!
# Who logs in, and what came of it

* `Credentials`: what a user submits; each part may be missing.
* `DirectoryIdentity`: the distinguished name of an entry, never empty.
* `SecondFactorSecret`: the shared secret that a user's codes are made from.
* `AuthenticatedIdentity`: the outcome of a login that passed.
* `PermissionDenied`: the one outcome of every login that did not; `DenialReason` is for the log
  alone.
-/

namespace TwoFactorLogin

/-- A password by its code points, which may be surrogates. -/
abbrev Password := List Nat

/-- What a user submits. -/
structure Credentials where
  username : Option String
  password : Option Password
  code : Option String
  deriving DecidableEq, Repr

namespace Credentials

/-- Whether both a username and a password are there and not empty. -/
def isComplete (c : Credentials) : Bool :=
  (c.username.any fun s => !s.isEmpty) && (c.password.any fun p => !p.isEmpty)

/-- The credentials without their secret parts. -/
def summary (c : Credentials) : String :=
  "Credentials(username=" ++ (Value.ofText? c.username).literal ++ ")"

end Credentials

/-- The distinguished name of a directory entry. -/
structure DirectoryIdentity where
  dn : String
  dn_ne : dn ≠ ""
  deriving DecidableEq, Repr

namespace DirectoryIdentity

/-- The identity with a given name, unless it is empty. -/
def ofText (dn : String) : Except Fault DirectoryIdentity :=
  if h : dn = "" then .error (.value (.fieldTooShort "dn")) else .ok ⟨dn, h⟩

/-- The identity that a value names. -/
def ofValue : Value → Except Fault DirectoryIdentity
  | .string dn => ofText dn
  | v => .error (.value (.fieldNotText "dn" v))

/-- The identity as text. -/
def summary (i : DirectoryIdentity) : String := "DirectoryIdentity(dn=" ++ Text.quoted i.dn ++ ")"

end DirectoryIdentity

/-- The shared secret of a user, as base32 text. The flag is not checked: it is a value of any kind,
and only whether it counts as true matters. -/
structure SecondFactorSecret where
  owner : String
  secret : String
  enabled : Value
  deriving DecidableEq, Repr

namespace SecondFactorSecret

/-- Whether the flag counts as true. -/
def isEnabled (s : SecondFactorSecret) : Bool := s.enabled.truthy

/-- The secret of a given owner, who must have a name. -/
def ofText (owner secret : String) (enabled : Value) : Except Fault SecondFactorSecret :=
  if owner = "" then .error (.value (.fieldTooShort "owner")) else .ok ⟨owner, secret, enabled⟩

/-- The secret that two values describe. The owner is checked first. -/
def ofValues (owner secret enabled : Value) : Except Fault SecondFactorSecret :=
  match owner, secret with
  | .string o, .string s => ofText o s enabled
  | .string o, v =>
    if o = "" then .error (.value (.fieldTooShort "owner"))
    else .error (.value (.fieldNotText "secret" v))
  | v, _ => .error (.value (.fieldNotText "owner" v))

/-- The secret without its text. -/
def summary (s : SecondFactorSecret) : String :=
  "SecondFactorSecret(owner=" ++ Text.quoted s.owner ++ ", enabled="
    ++ s.enabled.literal ++ ")"

end SecondFactorSecret

/-- A login that passed both factors, with the credentials it passed with. -/
structure AuthenticatedIdentity where
  credentials : Credentials
  identity : DirectoryIdentity
  authenticatedAt : String
  deriving DecidableEq, Repr

/-- The outcome of every login that fails: it says nothing of the reason. -/
structure PermissionDenied where
  deriving DecidableEq, Repr

namespace PermissionDenied

/-- What the user is told. -/
def message (_ : PermissionDenied) : String := "Permission denied."

/-- The outcome as text. -/
def summary (d : PermissionDenied) : String :=
  "PermissionDenied(message=" ++ Text.quoted d.message ++ ")"

end PermissionDenied

/-- Why a login was denied. -/
inductive DenialReason where
  | missingCredentials
  | identityUnresolved
  | identityAmbiguous
  | connectionFailed
  | bindRejected
  | secretUnavailable
  | codeMissing
  | codeInvalid
  | deadlineExceeded
  deriving DecidableEq, Repr

/-- The name of a reason in the log. -/
def DenialReason.name : DenialReason → String
  | missingCredentials => "MISSING_CREDENTIALS"
  | identityUnresolved => "IDENTITY_UNRESOLVED"
  | identityAmbiguous => "IDENTITY_AMBIGUOUS"
  | connectionFailed => "CONNECTION_FAILED"
  | bindRejected => "BIND_REJECTED"
  | secretUnavailable => "SECRET_UNAVAILABLE"
  | codeMissing => "CODE_MISSING"
  | codeInvalid => "CODE_INVALID"
  | deadlineExceeded => "DEADLINE_EXCEEDED"

end TwoFactorLogin
