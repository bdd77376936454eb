import TwoFactorLogin.Rehearsal.Script
import TwoFactorLogin.Rehearsal.Step

/-!
# Running a rehearsal

`Rehearsal.prepare` builds the authenticator and fills the store. `Rehearsal.step` takes one step
from one state of the rehearsal to the next. Each step uses the store as it is at that moment;
`Rehearsal.run` collects, for every step, its answer and what it added to the trace and the log.
-/

namespace TwoFactorLogin

/-- The parts of a rehearsal that stay as they are. -/
structure RehearsalSetting where
  authenticator : Authenticator
  /-- What the authenticator sees of the store that is held. -/
  wrap : SecretStore → SecretStore

/-- The parts of a rehearsal that change. -/
structure Rehearsal where
  world : World
  store : HeldStore
  deadlines : List (String × Deadline) := []
  sessions : List (String × Option Session) := []
  users : List (String × AuthenticatedIdentity) := []

/-- What came of one step. -/
structure StepReport where
  outcome : Except Fault Answer
  trace : List Event
  log : List LogRecord

namespace Rehearsal

/-- Builds an authenticator around a store and fills the store with secrets. A store that the
authenticator opens by itself is filled afterwards, any other one before. -/
def prepare (build : SecretStore → Run World Authenticator) (store : HeldStore)
    (opensStore : Bool) (secrets : List (Value × Value × Value)) :
    Run World (Authenticator × HeldStore) :=
  if opensStore then do
    let a ← build store.toStore
    return (a, ← Run.ofExcept (store.addAll secrets))
  else do
    let store ← Run.ofExcept (store.addAll secrets)
    return (← build store.toStore, store)

/-- What a step does with the deadline that it chooses at this moment. -/
def withDeadline (r : Rehearsal) (choice : DeadlineChoice)
    (x : Option Deadline → Except Fault Answer × Rehearsal) : Except Fault Answer × Rehearsal :=
  match choice.resolve r.world.clocks.steady r.deadlines with
  | .ok deadline => x deadline
  | .error fault => (.error fault, r)

/-- The authenticator with the store as it is now. -/
def authenticator (r : Rehearsal) (setting : RehearsalSetting) : Authenticator :=
  let a := setting.authenticator
  { a with validator := { a.validator with store := setting.wrap r.store.toStore } }

/-- A run on the world. -/
def within {α : Type} (r : Rehearsal) (x : Run World α) : Except Fault α × Rehearsal :=
  let (outcome, world) := x r.world
  (outcome, { r with world })

/-- A run on the world that gives the answer itself. -/
def answerWith {α : Type} (r : Rehearsal) (x : Run World α) (f : α → Answer) :
    Except Fault Answer × Rehearsal :=
  let (outcome, r) := r.within x
  (outcome.map f, r)

/-- The session with a name, unless there is none. -/
def session? (r : Rehearsal) (name : String) : Option Session := (r.sessions.lookup name).join

/-- Keeps a session under a name. -/
def keepSession (r : Rehearsal) (name : String) (s : Option Session) : Rehearsal :=
  { r with sessions := (name, s) :: r.sessions }

/-- A run on a named session, if there is one. -/
def onSession {α : Type} (r : Rehearsal) (name : String) (x : Run (Session × World) α)
    (f : Except Fault α → Session → Except Fault Answer) : Except Fault Answer × Rehearsal :=
  match r.session? name with
  | none => (.ok .noSession, r)
  | some s =>
    let (outcome, s, world) := x (s, r.world)
    (f outcome s, { r with world }.keepSession name (some s))

/-- What a block does while it has a bound session. -/
def bodyRun (c : Connector) : Body → Run (Session × World) Unit
  | .nothing => .answer ()
  | .raise => .raise (.raised (.other "RuntimeError") "body failed")
  | .disconnect => c.disconnect "early"
  | .rebind => do
    let _ ← c.bindAs (some "cn=other") (some (Text.codePoints "pw"))
    return
  | .advance seconds => Run.onSecond (World.advance seconds)

/-- The end of a step that changes the store. -/
def storeStep (r : Rehearsal) : Except Fault HeldStore → Except Fault Answer × Rehearsal
  | .ok store => (.ok .nothing, { r with store })
  | .error fault => (.error fault, r)

/-- A login, and its user kept under a name if it passed. -/
def authenticate (r : Rehearsal) (setting : RehearsalSetting) (credentials : Credentials)
    (deadline : Option Deadline) (name : Option String) : Except Fault Answer × Rehearsal :=
  let (outcome, r) := r.within ((r.authenticator setting).authenticate credentials deadline)
  let r := match outcome, name with
    | .ok (.ok user), some name => { r with users := (name, user) :: r.users }
    | _, _ => r
  (outcome.map .login, r)

/-- A block with a session for a user who logged in. -/
def bindAuthenticated (r : Rehearsal) (setting : RehearsalSetting) (user : AuthenticatedIdentity)
    (deadline : Option Deadline) (body : Body) : Except Fault Answer × Rehearsal :=
  let a := r.authenticator setting
  let (lease, world) :=
    a.bindAuthenticated user deadline (Run.answer ()) (bodyRun a.connector body) r.world
  (.ok (.userLease lease.given lease.outcome lease.session), { r with world })

/-- Takes one step. -/
def step (setting : RehearsalSetting) (r : Rehearsal) : Step → Except Fault Answer × Rehearsal
  | .advance seconds => r.answerWith (World.advance seconds) fun _ => .nothing
  | .deadline name choice => r.withDeadline choice fun
    | some d => (.ok (.number d.expiresAt), { r with deadlines := (name, d) :: r.deadlines })
    | none => (.ok .nothing, r)
  | .add owner secret enabled => r.storeStep (r.store.add owner secret enabled)
  | .remove owner =>
    match r.store.remove owner with
    | .ok (count, store) => (.ok (.count count), { r with store })
    | .error fault => (.error fault, r)
  | .size => (r.store.size.map .count, r)
  | .createSchema => r.storeStep r.store.createSchema
  | .connect name choice => r.withDeadline choice fun deadline =>
    match r.within (setting.authenticator.connector.connect deadline) with
    | (.ok s, r) => (.ok (.session s), r.keepSession name s)
    | (.error fault, r) => (.error fault, r)
  | .newSession name host port mode =>
    let s := Session.fresh host port mode
    (.ok (.session (some s)), r.keepSession name (some s))
  | .session name =>
    match r.session? name with
    | some s => (.ok (.session (some s)), r)
    | none => (.ok .noSession, r)
  | .findUserDns name username =>
    let c := setting.authenticator.connector
    r.onSession name (Resolver.findUserDns c.config c.directory username) fun outcome _ =>
      outcome.map .names
  | .bindAs name dn password =>
    r.onSession name (setting.authenticator.connector.bindAs dn password) fun outcome s =>
      .ok (.onSession (outcome.map some) s)
  | .disconnect name reason =>
    r.onSession name (setting.authenticator.connector.disconnect reason) fun outcome s =>
      .ok (.onSession (outcome.map fun _ => none) s)
  | .openBound dn password choice body => r.withDeadline choice fun deadline =>
    let c := setting.authenticator.connector
    let (lease, world) :=
      c.openBound dn password deadline (fun _ => Run.answer ()) (bodyRun c body) r.world
    (.ok (.lease lease.given lease.outcome lease.session), { r with world })
  | .resolve username choice => r.withDeadline choice fun deadline =>
    r.answerWith (setting.authenticator.resolver.resolve username deadline) .resolution
  | .fetchSecret username choice => r.withDeadline choice fun deadline =>
    let v := (r.authenticator setting).validator
    r.answerWith (v.fetchSecret username deadline) .secret
  | .verify username submitted time choice => r.withDeadline choice fun deadline =>
    let v := (r.authenticator setting).validator
    r.answerWith (v.verify username submitted time deadline) .verification
  | .authenticate credentials choice name => r.withDeadline choice fun deadline =>
    r.authenticate setting credentials deadline name
  | .bindAuthenticated user choice body => r.withDeadline choice fun deadline =>
    match user with
    | .named name =>
      match r.users.lookup name with
      | some user => r.bindAuthenticated setting user deadline body
      | none => (.ok .notAuthenticated, r)
    | .given credentials dn =>
      match DirectoryIdentity.ofText dn with
      | .ok identity =>
        let user : AuthenticatedIdentity := ⟨credentials, identity, r.world.clocks.date⟩
        r.bindAuthenticated setting user deadline body
      | .error fault => (.error fault, r)

/-- Takes one step and reports what it added. -/
def report (setting : RehearsalSetting) (r : Rehearsal) (s : Step) : StepReport × Rehearsal :=
  let (outcome, next) := r.step setting s
  let trace := next.world.trace.drop r.world.trace.length
  let log := next.world.log.drop r.world.log.length
  (⟨outcome, trace, log⟩, next)

/-- Takes a row of steps. -/
def run (setting : RehearsalSetting) (r : Rehearsal) : List Step → List StepReport × Rehearsal
  | [] => ([], r)
  | s :: rest =>
    let (report, r) := r.report setting s
    let (reports, r) := r.run setting rest
    (report :: reports, r)

end Rehearsal

end TwoFactorLogin
