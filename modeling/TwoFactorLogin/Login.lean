import TwoFactorLogin.Config.Properties
import TwoFactorLogin.Directory.Resolver
import TwoFactorLogin.Otp.Validator

/-!
# Logging in with two factors

`Authenticator.authenticate` resolves the login name, binds as the identity found with the
submitted password, and only then checks the second factor. Every failure has the same outcome;
why it failed is for the log.

`Authenticator.bindAuthenticated` binds again as a user who logged in, for a block that reads the
directory.
-/

namespace TwoFactorLogin

/-- What a login works with. -/
structure Authenticator where
  connector : Connector
  resolver : Resolver
  validator : SecondFactorValidator

/-- The outcome of a login. -/
abbrev LoginResult := Except PermissionDenied AuthenticatedIdentity

namespace Authenticator

/-- The authenticator of a configuration, with its own transport or the one of the encryption
mode. -/
def build (bundleExists : String → Bool) (directory : Directory) (store : SecretStore)
    (config : AuthConfig) (transport : Option Transport) : Run World Authenticator := do
  let connector ← Connector.build bundleExists directory config.directory transport
  return ⟨connector, .ofConfig config.directory connector, ⟨store, config.secondFactor⟩⟩

/-- Logs why a login is denied. -/
def deny (credentials : Credentials) (reason : DenialReason) (stage : Option Stage)
    (dn : Option String) : Run World PermissionDenied := do
  World.record (.authenticateDenied credentials.username reason stage dn)
  return {}

/-- The second factor of a login whose bind succeeded; `none` if it passed. -/
def checkSecondFactor (a : Authenticator) (credentials : Credentials) (username dn : String)
    (deadline : Option Deadline) : Run World (Option PermissionDenied) := do
  if ← World.expired deadline then
    return some (← deny credentials .deadlineExceeded (some .secondFactor) none)
  else
    match ← a.validator.verify username credentials.code none deadline with
    | .ok _ => return none
    | .error reason => return some (← deny credentials reason (some .secondFactor) (some dn))

/-- Binds as an identity and checks the second factor while bound; `none` if both passed. -/
def checkFactors (a : Authenticator) (credentials : Credentials) (username : String)
    (identity : DirectoryIdentity) (deadline : Option Deadline) :
    Run World (Option PermissionDenied) :=
  Lease.toRun (a.connector.openBound (some identity.dn) credentials.password deadline
    (fun reason => do return some (← deny credentials reason (some .bind) (some identity.dn)))
    (Run.onSecond (a.checkSecondFactor credentials username identity.dn deadline)))

/-- A login with a resolved identity. -/
def authenticateAs (a : Authenticator) (credentials : Credentials) (username : String)
    (identity : DirectoryIdentity) (deadline : Option Deadline) : Run World LoginResult := do
  if ← World.expired deadline then
    return .error (← deny credentials .deadlineExceeded (some .bind) none)
  else
    match ← a.checkFactors credentials username identity deadline with
    | some denied => return .error denied
    | none =>
      let date ← Run.read fun w => w.clocks.date
      World.record (.authenticateSuccess credentials.username identity.dn)
      return .ok ⟨credentials, identity, date⟩

/-- One login. -/
def authenticate (a : Authenticator) (credentials : Credentials) (deadline : Option Deadline) :
    Run World LoginResult := do
  if !credentials.isComplete then
    return .error (← deny credentials .missingCredentials none none)
  else
    let username := credentials.username.getD ""
    World.record (.authenticateStart credentials.username)
    if ← World.expired deadline then
      return .error (← deny credentials .deadlineExceeded (some .resolve) none)
    else
      match ← a.resolver.resolve username deadline with
      | .error reason => return .error (← deny credentials reason (some .resolve) none)
      | .ok identity => a.authenticateAs credentials username identity deadline

/-- Binds again as a user who logged in. The one block gets the bound session; the other runs if
the user cannot be bound any more. -/
def bindAuthenticated {α : Type} (a : Authenticator) (user : AuthenticatedIdentity)
    (deadline : Option Deadline) (absent : Run World α) (granted : Run (Session × World) α) :
    World → Lease (Option Session) α × World := fun w =>
  let credentials := user.credentials
  let failed (reason : DenialReason) : Run World α := do
    World.record (.rebindFailed credentials.username reason)
    absent
  if !credentials.isComplete then
    let (outcome, w) := absent w
    (⟨some none, outcome, none⟩, w)
  else
    match a.resolver.resolve (credentials.username.getD "") deadline w with
    | (.error fault, w) => (⟨none, .error fault, none⟩, w)
    | (.ok (.error reason), w) =>
      let (outcome, w) := failed reason w
      (⟨some none, outcome, none⟩, w)
    | (.ok (.ok identity), w) =>
      let (lease, w) :=
        a.connector.openBound (some identity.dn) credentials.password deadline failed granted w
      (⟨lease.given.map fun g => g.toOption, lease.outcome, lease.session⟩, w)

end Authenticator

end TwoFactorLogin
