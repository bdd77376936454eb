import TwoFactorLogin.Directory.Connector
import TwoFactorLogin.Directory.Filter
import TwoFactorLogin.Directory.Name

/-!
# From a login name to a directory identity

A resolver derives the name of the entry, or searches for it with an account of its own. A search
has to find exactly one entry; among several it never chooses.
-/

namespace TwoFactorLogin

/-- How login names are resolved. -/
inductive Resolver where
  | template (config : DirectoryConfig)
  | search (config : DirectoryConfig) (connector : Connector)

/-- One identity, or why there is none. -/
abbrev Resolution := Except DenialReason DirectoryIdentity

namespace Resolver

/-- The resolver that a configuration asks for: a search if it names a search account. -/
def ofConfig (config : DirectoryConfig) (connector : Connector) : Resolver :=
  if config.usesSearch then search config connector else template config

/-- The identity with a derived name. -/
def derive (config : DirectoryConfig) (username : String) : Run World Resolution := do
  let dn ← Run.ofExcept (config.deriveDn username)
  World.record (.identityDerived username dn)
  return .ok (← Run.ofExcept (DirectoryIdentity.ofText dn))

/-- The names of the entries in a response. -/
def entryNames (items : List SearchItem) : List String :=
  items.filterMap fun item =>
    if item.kind = some "searchResEntry" then item.dn.filter fun dn => !dn.isEmpty else none

/-- The names of the entries that the directory finds for a login name. -/
def findUserDns (config : DirectoryConfig) (directory : Directory) (username : String) :
    Run (Session × World) (List String) := do
  let session ← Run.read Prod.fst
  match session.connection with
  | none => .raise (.session (.noConnection "search"))
  | some connection =>
    let request := .search config.userBaseDn (config.userFilter username) config.usernameAttributes
    let reply ← Run.onSecond (World.send directory connection request)
    match reply.outcome with
    | .error fault => .raise fault
    | .ok false => return []
    | .ok true => return entryNames reply.response

/-- The search itself; a fault of the directory leaves the name unresolved. -/
def searchBound (config : DirectoryConfig) (directory : Directory) (username : String) :
    Run (Session × World) (Except DenialReason (List String)) := do
  match ← (findUserDns config directory username).attempt with
  | .ok dns => return .ok dns
  | .error fault =>
    if fault.kind.isDirectory then
      Run.onSecond (World.record (.userSearchFailed username config.userBaseDn fault.message))
      return .error .identityUnresolved
    else .raise fault

/-- The identity among the names that were found, if there is exactly one. -/
def choose (username : String) : List String → Run World Resolution
  | [] => do
    World.record (.identityNotFound username)
    return .error .identityUnresolved
  | [dn] => do
    World.record (.identityResolved username dn)
    return .ok (← Run.ofExcept (DirectoryIdentity.ofText dn))
  | candidates => do
    World.record (.identityAmbiguous username candidates)
    return .error .identityAmbiguous

/-- The identity that a search finds. -/
def searchFor (config : DirectoryConfig) (connector : Connector) (username : String)
    (deadline : Option Deadline) : Run World Resolution := do
  let refused (reason : DenialReason) : Run World (Except DenialReason (List String)) := do
    World.record (.searchBindFailed config.searchBindDn reason)
    return .error reason
  let found ← Lease.toRun (connector.openBound config.searchBindDn config.searchBindPassword
    deadline refused (searchBound config connector.directory username))
  match found with
  | .error reason => return .error reason
  | .ok dns => choose username dns

/-- Resolves a login name. -/
def resolve (r : Resolver) (username : String) (deadline : Option Deadline) :
    Run World Resolution :=
  if username.isEmpty then return .error .identityUnresolved
  else match r with
    | template config => derive config username
    | search config connector => searchFor config connector username deadline

end Resolver

end TwoFactorLogin
