import TwoFactorLogin.Encryption
import TwoFactorLogin.Identity
import TwoFactorLogin.Text.Substitute

/-!
# How the directory is reached

A directory configuration passes through three types.

* `DirectoryArguments`: what a caller gives, values of any kind.
* `DirectorySettings`: what `DirectoryArguments.check` lets through. The username attributes have
  become a list and the timeouts numbers; a field whose kind is not checked is still a value of
  any kind.
* `DirectoryConfig`: what a login works with, every field of its own type.
-/

namespace TwoFactorLogin

/-- The fields of a directory configuration as they are given. -/
structure DirectoryArguments where
  userBaseDn : Value
  hostname : Value := .string "localhost"
  port : Value := .null
  encryption : EncryptionMode := .none
  usernameAttributes : Value := .array [.string "uid"]
  userSearchFilter : Value := .string "(objectClass=*)"
  searchBindDn : Value := .null
  searchBindPassword : Value := .null
  userDnTemplate : Value := .null
  tlsValidate : Value := .bool true
  caBundle : Value := .null
  connectTimeout : Value := .double (.ofInt 10)
  receiveTimeout : Value := .double (.ofInt 10)

/-- The fields of a directory configuration that passed the checks. -/
structure DirectorySettings where
  userBaseDn : Value
  hostname : Value
  port : Value
  encryption : EncryptionMode
  usernameAttributes : List String
  userSearchFilter : Value
  searchBindDn : Value
  searchBindPassword : Value
  userDnTemplate : Value
  tlsValidate : Value
  caBundle : Value
  connectTimeout : Number
  receiveTimeout : Number
  deriving DecidableEq, Repr

/-- The directory configuration of a login. -/
structure DirectoryConfig where
  userBaseDn : String
  hostname : String
  port : Option Nat
  encryption : EncryptionMode
  usernameAttributes : List String
  usernameAttributes_ne : usernameAttributes ≠ []
  userSearchFilter : String
  searchBindDn : Option String
  searchBindPassword : Option Password
  userDnTemplate : Option String
  tlsValidate : Bool
  caBundle : Option String
  connectTimeout : Number
  receiveTimeout : Number
  deriving DecidableEq, Repr

/-- The word that stands for the login name in a template. -/
def usernameMark : List Char := "\x7busername\x7d".toList

/-! ## Checks -/

/-- The attribute names among some texts: without blanks at the ends, and not empty. -/
def attributeNames (parts : List String) : List String :=
  (parts.map Text.strip).filter fun s => !s.isEmpty

/-- The attribute names among the items of a list; an item that is neither a text nor empty is
refused. -/
def attributeItems : List Value → Except Fault (List String)
  | [] => .ok []
  | .string s :: rest => (attributeItems rest).map (attributeNames [s] ++ ·)
  | v :: rest => if v.truthy then .error (.value (.notText v)) else attributeItems rest

/-- The attribute names that a value lists, in a text between commas or as items. -/
def attributeList : Value → Except Fault (List String)
  | .string s => .ok (attributeNames ((Text.splitAt ',' s.toList).map String.ofList))
  | .array items => attributeItems items
  | .object fields => .ok (attributeNames (fields.map Prod.fst))
  | v => .error (.value (.notIterable v))

/-- Refuses a field that is empty. -/
def checkNonEmpty (field : String) (full : Bool) : Except Fault Unit :=
  if full then .ok () else .error (.configuration (.empty field))

/-- Refuses a port outside `1` to `65535`; null stands for no port. -/
def checkPort : Value → Except Fault Unit
  | .null => .ok ()
  | v =>
    match v.number? with
    | some n =>
      if (Number.int 0).lt n && n.lt (.int 65536) then .ok ()
      else .error (.refusal v (.invalidPort v))
    | none => .error (.value (.notOrdered "<" "int" v.kindName))

/-- Whether a value contains the mark for the login name: a text inside it, a list or object as an
item. -/
def holdsUsernameMark : Value → Except Fault Bool
  | .string s => .ok (Text.occursIn usernameMark s.toList)
  | .array items => .ok (items.contains (.string (String.ofList usernameMark)))
  | .object fields => .ok ((fields.map Prod.fst).contains (String.ofList usernameMark))
  | v => .error (.value (.notSearchable v))

/-- Refuses a template without the mark for the login name; null stands for no template. -/
def checkTemplate : Value → Except Fault Unit
  | .null => .ok ()
  | v => do
    if ← holdsUsernameMark v then .ok () else .error (.configuration .templateWithoutUsername)

/-- The number of seconds that a timeout is, unless it is zero or less. -/
def checkTimeout (v : Value) : Except Fault Number :=
  match v.number? with
  | some n => if n.le (.int 0) then .error (.configuration .timeoutNotPositive) else .ok n
  | none => .error (.value (.notOrdered "<=" v.kindName "int"))

/-- The settings that some arguments make, or the first fault found in them. -/
def DirectoryArguments.check (a : DirectoryArguments) : Except Fault DirectorySettings := do
  let attributes ← attributeList a.usernameAttributes
  checkNonEmpty "user_base_dn" a.userBaseDn.truthy
  checkNonEmpty "hostname" a.hostname.truthy
  checkNonEmpty "username_attributes" (!attributes.isEmpty)
  checkPort a.port
  checkTemplate a.userDnTemplate
  let connectTimeout ← checkTimeout a.connectTimeout
  let receiveTimeout ← checkTimeout a.receiveTimeout
  return {
    userBaseDn := a.userBaseDn
    hostname := a.hostname
    port := a.port
    encryption := a.encryption
    usernameAttributes := attributes
    userSearchFilter := a.userSearchFilter
    searchBindDn := a.searchBindDn
    searchBindPassword := a.searchBindPassword
    userDnTemplate := a.userDnTemplate
    tlsValidate := a.tlsValidate
    caBundle := a.caBundle
    connectTimeout
    receiveTimeout }

/-! ## What follows from the settings -/

namespace DirectorySettings

/-- The configured port, or the conventional one. -/
def effectivePort (s : DirectorySettings) : Value :=
  match s.port with
  | .null => .int s.encryption.defaultPort
  | v => v

/-- Whether names are found by a search rather than derived. -/
def usesSearch (s : DirectorySettings) : Bool := s.searchBindDn.truthy

/-- A text field; null, and any other value that counts as false, stands for none. -/
def textField? : Value → Option (Option String)
  | .string s => some (some s)
  | v => if v.truthy then none else some none

/-- A port field; null stands for none. -/
def portField? : Value → Option (Option Nat)
  | .null => some none
  | v => v.int?.map fun i => some i.toNat

/-- The configuration of a login, if every field has the kind that a login needs. -/
def config? (s : DirectorySettings) : Option DirectoryConfig := do
  let .string userBaseDn := s.userBaseDn | none
  let .string hostname := s.hostname | none
  let .string userSearchFilter := s.userSearchFilter | none
  let port ← portField? s.port
  let searchBindDn ← textField? s.searchBindDn
  let searchBindPassword ← textField? s.searchBindPassword
  let userDnTemplate ← textField? s.userDnTemplate
  let caBundle ← textField? s.caBundle
  if h : s.usernameAttributes = [] then none
  else some {
    userBaseDn, hostname, port
    encryption := s.encryption
    usernameAttributes := s.usernameAttributes
    usernameAttributes_ne := h
    userSearchFilter, searchBindDn
    searchBindPassword := searchBindPassword.map Text.codePoints
    userDnTemplate
    tlsValidate := s.tlsValidate.truthy
    caBundle
    connectTimeout := s.connectTimeout
    receiveTimeout := s.receiveTimeout }

end DirectorySettings

namespace DirectoryConfig

/-- The configured port, or the conventional one. -/
def effectivePort (c : DirectoryConfig) : Nat := c.port.getD c.encryption.defaultPort

/-- Whether names are found by a search rather than derived. -/
def usesSearch (c : DirectoryConfig) : Bool := c.searchBindDn.any fun dn => !dn.isEmpty

end DirectoryConfig

end TwoFactorLogin
