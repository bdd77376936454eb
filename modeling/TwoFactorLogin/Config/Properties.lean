import TwoFactorLogin.Config.Directory
import TwoFactorLogin.Config.SecondFactor
import TwoFactorLogin.Number.Reading

/-!
# Configuration from properties

`AuthSettings.ofProperties` reads a complete configuration from named properties. A property that
is absent, null or blank has its default. A value that is of the wrong kind or malformed is a
fault of the configuration; the faults of other kinds that a value can cause come out as they are.
-/

namespace TwoFactorLogin

/-- Named values. -/
abbrev Properties := List (String × Value)

/-- A complete configuration. -/
structure AuthSettings where
  directory : DirectorySettings
  secondFactor : SecondFactorSettings
  deriving DecidableEq, Repr

/-- What a login needs to know of its configuration. -/
structure AuthConfig where
  directory : DirectoryConfig
  secondFactor : SecondFactorConfig
  deriving DecidableEq, Repr

/-- The configuration of a login, if every setting has the kind that a login needs. -/
def AuthSettings.config? (s : AuthSettings) : Option AuthConfig := do
  return ⟨← s.directory.config?, ← s.secondFactor.config?⟩

namespace Properties

/-- A property, texts without blanks at the ends; `none` if it is absent, null or blank. -/
def get? (p : Properties) (name : String) : Option Value :=
  match List.lookup name p with
  | some (.string s) => if Text.allBlank s then none else some (.string (Text.strip s))
  | some .null => none
  | v => v

/-- The integer that a value is or spells; a double is cut toward zero. -/
def readInteger (name : String) (v : Value) : Except Fault Int :=
  let refused := .error (.refusal v (.notInteger name v))
  match v with
  | .int i => .ok i
  | .bool b => .ok (if b then 1 else 0)
  | .double d =>
    match d.truncate with
    | .ok i => .ok i
    | .error .nan => refused
    | .error .infinite => .error (.value .infinityToInteger)
  | .string s => match readInt? s with
    | some i => .ok i
    | none => refused
  | _ => refused

/-- An integer property, or a value in its place. -/
def getInteger (p : Properties) (name : String) (absent : Value) : Except Fault Value :=
  match p.get? name with
  | some v => (readInteger name v).map .int
  | none => .ok absent

/-- The words that switch something on. -/
def trueWords : List String := ["1", "true", "yes", "on"]

/-- A switch: a truth value, or anything else written as a word and compared with the true ones. -/
def getSwitch (p : Properties) (name : String) (absent : Bool) : Except Fault Bool :=
  match p.get? name with
  | some (.bool b) => .ok b
  | some v =>
    if v.isWritable then .ok (trueWords.contains (Text.lower v.text))
    else .error (.value .integerTooLong)
  | none => .ok absent

/-- The double that a value is or spells. -/
def readSeconds : Value → Except Fault Double
  | .string s => match readDouble? s with
    | some d => .ok d
    | none => .error (.value (.notDecimal s))
  | v => match v.number? with
    | some n => Fault.orTooLarge n.toDouble?
    | none => .error (.value (.notNumeric v))

/-- A property in seconds; ten if it is absent. -/
def getSeconds (p : Properties) (name : String) : Except Fault Value :=
  match p.get? name with
  | some v => (readSeconds v).map .double
  | none => .ok (.double (.ofInt 10))

/-- The directory settings among the properties. -/
def directorySettings (p : Properties) (userBaseDn : Value) : Except Fault DirectorySettings := do
  let get (name : String) : Value := (p.get? name).getD .null
  let hostname := (p.get? "ldap-hostname").getD (.string "localhost")
  let port ← p.getInteger "ldap-port" .null
  let encryption ← EncryptionMode.ofWord ((p.get? "ldap-encryption-method").getD (.string "none"))
  let tlsValidate ← p.getSwitch "ldap-tls-validate" true
  let connectTimeout ← p.getSeconds "ldap-connect-timeout"
  let receiveTimeout ← p.getSeconds "ldap-receive-timeout"
  DirectoryArguments.check {
    userBaseDn, hostname, port, encryption
    usernameAttributes := (p.get? "ldap-username-attribute").getD (.string "uid")
    userSearchFilter := (p.get? "ldap-user-search-filter").getD (.string "(objectClass=*)")
    searchBindDn := get "ldap-search-bind-dn"
    searchBindPassword := get "ldap-search-bind-password"
    userDnTemplate := get "ldap-user-dn-template"
    tlsValidate := .bool tlsValidate
    caBundle := get "ldap-ca-certs-file"
    connectTimeout, receiveTimeout }

/-- The second-factor settings among the properties. -/
def secondFactorSettings (p : Properties) : Except Fault SecondFactorSettings := do
  let digits ← p.getInteger "totp-digits" (.int 6)
  let timeStep ← p.getInteger "totp-period" (.int 30)
  let window ← p.getInteger "totp-window" (.int 1)
  let allowDisabledBypass ← p.getSwitch "totp-allow-disabled-bypass" false
  let settings : SecondFactorSettings := {
    digits, timeStep, window
    allowDisabledBypass := .bool allowDisabledBypass }
  settings.check
  return settings

end Properties

/-- The result, a malformed value reported as a fault of the configuration. -/
def reportMalformed {α : Type} : Except Fault α → Except Fault α
  | .error (.value cause) =>
    if cause.kind.isMalformed then .error (.configuration (.malformed cause))
    else .error (.value cause)
  | r => r

/-- The configuration that some properties make, or the first fault found in them. -/
def AuthSettings.ofProperties (p : Properties) : Except Fault AuthSettings :=
  match p.get? "ldap-user-base-dn" with
  | none => .error (.configuration .missingBaseDn)
  | some userBaseDn => reportMalformed do
    let directory ← p.directorySettings userBaseDn
    let secondFactor ← p.secondFactorSettings
    return ⟨directory, secondFactor⟩

end TwoFactorLogin
