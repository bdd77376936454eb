import TwoFactorLogin.Directory.Exchange
import TwoFactorLogin.Store.Basic
import TwoFactorLogin.Text.Utf8

/-!
# Directories and stores that follow a script

A `ScriptedDirectory` answers by a script for each connection, in the order of their numbers. Of
each kind of request the script says how long it takes, whether it fails, what truth value comes
back and what result the connection shows then. Where the script is silent, every request
succeeds, except that a bind needs the right password and a search finds what is listed for its
filter.

`ScriptedPrelude.beforeStore` puts a script before a store. It says how long each look-up takes and
whether it fails.

Both write down as doubles the times that they are given, so a timeout or a deadline beyond every
double is a fault before anything else happens.
-/

namespace TwoFactorLogin

/-- What a script says of the time before an answer: how long it is, and whether it ends in a
fault. -/
structure ScriptedPrelude where
  takes : Number := .int 0
  raises : Option Fault := none

/-- Lets the time pass, and fails if the script says so. -/
def ScriptedPrelude.elapse (p : ScriptedPrelude) : Run Clocks Unit := do
  Clocks.advance p.takes
  if let some fault := p.raises then .raise fault

/-- What a script says of one kind of request on one connection. -/
structure ScriptedCall extends ScriptedPrelude where
  answer : Option Bool := none
  /-- What the connection's result is set to, if it is set. -/
  result : Option (Option Diagnosis) := none

/-- What a script says of one connection. -/
structure ConnectionScript where
  connect : ScriptedCall := {}
  startTls : ScriptedCall := {}
  bind : ScriptedCall := {}
  search : ScriptedCall := {}
  unbind : ScriptedCall := {}
  /-- The response that comes with a scripted answer to a search. -/
  response : List SearchItem := []

/-- Scripts for connections, passwords by name, and found names by filter. -/
structure ScriptedDirectory where
  scripts : List ConnectionScript := []
  passwords : List (String × Password) := []
  searches : List (String × List String) := []

/-- What a script says of a request. -/
def ConnectionScript.callFor (s : ConnectionScript) : Request → ScriptedCall
  | .connect _ => s.connect
  | .startTls => s.startTls
  | .bind _ _ => s.bind
  | .search _ _ _ => s.search
  | .unbind => s.unbind

namespace ScriptedDirectory

/-- Whether a password is the one of a name. -/
def accepts (d : ScriptedDirectory) (user : String) (password : List UInt8) : Bool :=
  match d.passwords.lookup user with
  | some codes => match Text.utf8? codes with
    | .ok bytes => bytes = password
    | .error _ => false
  | none => false

/-- The result of a bind that the script does not answer. -/
def bindDiagnosis (accepted : Bool) : Diagnosis :=
  if accepted then ⟨.int 0, some (.string "success")⟩
  else ⟨.int 49, some (.string "invalidCredentials")⟩

/-- The entries that are listed for a filter. -/
def found (d : ScriptedDirectory) (filter : String) : List SearchItem :=
  ((d.searches.lookup filter).getD []).map fun dn => ⟨some "searchResEntry", some dn⟩

/-- What a connection shows before a request: the last result and response. -/
def shownBefore (history : List Exchange) (connection : Nat) : Option Diagnosis × List SearchItem :=
  match history.reverse.find? fun e => e.connection = connection with
  | some e => (e.reply.result, e.reply.response)
  | none => (none, [])

/-- The truth value, result and response of a request that does not fail. -/
def answer (d : ScriptedDirectory) (script : ConnectionScript)
    (shown : Option Diagnosis × List SearchItem) (request : Request) :
    Bool × Option Diagnosis × List SearchItem :=
  let call := script.callFor request
  let result := call.result.getD shown.1
  match request, call.answer with
  | .bind user password, none =>
    let accepted := d.accepts user password
    (accepted, call.result.getD (some (bindDiagnosis accepted)), shown.2)
  | .search _ filter _, none =>
    let items := d.found filter
    (!items.isEmpty, result, items)
  | .search _ _ _, some truth => (truth, result, script.response)
  | _, truth => (truth.getD true, result, shown.2)

/-- Whether a request describes a server: the time to connect within can be written down. -/
def describesServer : Request → Bool
  | .connect e => e.connectTimeout.toDouble?.isSome
  | _ => false

/-- The number that the script has for a connection. A request that does not describe a server uses
up no number. -/
def scriptNumber (history : List Exchange) (connection : Nat) : Nat :=
  (history.filter fun e => e.connection < connection && describesServer e.request).length

/-- Whether every time of a request can be written down. -/
def canWrite : Request → Bool
  | .connect e => e.connectTimeout.toDouble?.isSome && e.receiveTimeout.toDouble?.isSome
  | _ => true

/-- The script as a rule that answers requests. -/
def toDirectory (d : ScriptedDirectory) : Directory := fun history clocks connection request =>
  let script := d.scripts.getD (scriptNumber history connection) {}
  let shown := shownBefore history connection
  if !canWrite request then ⟨.error (.value .integerTooLarge), shown.1, shown.2, clocks⟩
  else match (script.callFor request).elapse clocks with
    | (.error fault, clocks) => ⟨.error fault, shown.1, shown.2, clocks⟩
    | (.ok (), clocks) =>
      let (truth, result, response) := d.answer script shown request
      ⟨.ok truth, result, response, clocks⟩

end ScriptedDirectory

/-- A store whose look-ups are answered only after a script. -/
def ScriptedPrelude.beforeStore (p : ScriptedPrelude) (store : SecretStore) : SecretStore :=
  fun clocks username deadline =>
    if deadline.any fun d => d.expiresAt.toDouble?.isNone then
      ⟨.error (.value .integerTooLarge), [], clocks⟩
    else match p.elapse clocks with
      | (.error fault, clocks) => ⟨.error fault, [], clocks⟩
      | (.ok (), clocks) => store clocks username deadline

end TwoFactorLogin
