import TwoFactorLogin.Directory.Transport

/-!
# Connecting, binding, releasing

A connector opens sessions with the configured directory, binds them, and releases them.

* `connect`: a connected session, or none if the directory could not be reached.
* `bindAs`: whether a session is bound now. A bind without a name or a password is never sent.
  Whatever does not succeed closes the session.
* `disconnect`: closes a session, once. An interruption leaves it open.
* `openBound`: connects, binds, runs a block, and releases the session however the block ended.
-/

namespace TwoFactorLogin

/-- How to reach a directory. -/
structure Connector where
  config : DirectoryConfig
  transport : Transport
  tls : Option TlsSettings
  directory : Directory

/-- What became of a block that was to be given something: what it was given, if it was entered;
how it ended; and the session it worked on, as it was when all was over. -/
structure Lease (β α : Type) where
  given : Option β
  outcome : Except Fault α
  session : Option Session

/-- The end of a block, as a step. -/
def Lease.toRun {β α : Type} (x : World → Lease β α × World) : Run World α := fun w =>
  let (lease, w) := x w
  (lease.outcome, w)

/-- Takes an event on a session that is given up afterwards. -/
def Session.abandon (s : Session) (event : SessionEvent) : Run World Unit := fun w =>
  let (r, _, w) := Session.transition event (s, w)
  (r, w)

/-- Takes an event on a session that is handed on afterwards. -/
def Session.advance (s : Session) (event : SessionEvent) : Run World Session := fun w =>
  match Session.transition event (s, w) with
  | (.ok (), s, w) => (.ok s, w)
  | (.error fault, _, w) => (.error fault, w)

namespace Connector

/-- The connector of a configuration, with its own transport or the one of the encryption mode. -/
def build (bundleExists : String → Bool) (directory : Directory) (config : DirectoryConfig)
    (transport : Option Transport) : Run World Connector := do
  let transport ← match transport with
    | some t => pure t
    | none => Transport.select config.encryption
  let tls ← if config.encryption = .none then pure none else do
    let settings ← buildTls bundleExists config
    pure (some settings)
  return ⟨config, transport, tls, directory⟩

/-- Unbinds a connection. A failure to do so is logged and otherwise ignored; an interruption goes
on. -/
def closeQuietly (c : Connector) (connection : Nat) : Run World Unit := do
  let reply ← World.send c.directory connection .unbind
  match reply.outcome with
  | .error fault =>
    if fault.kind.isInterruption then .raise fault
    else World.record (.disconnectFailed c.config.hostname fault.message)
  | .ok _ => return

/-- What a connection is opened with now: the timeouts are shortened to what a deadline leaves. -/
def endpoint (c : Connector) (deadline : Option Deadline) : Run World Endpoint := do
  let connectTimeout ← World.clamp deadline c.config.connectTimeout
  let receiveTimeout ← World.clamp deadline c.config.receiveTimeout
  return {
    host := c.config.hostname
    port := c.config.effectivePort
    useSsl := c.transport.useSsl
    tls := c.tls
    connectTimeout, receiveTimeout }

/-- Upgrades a connection if the transport asks for it. -/
def upgrade (c : Connector) (connection : Nat) : Run World Unit := do
  if c.transport.requiresUpgrade then
    let reply ← World.send c.directory connection .startTls
    match reply.outcome with
    | .error fault => .raise fault
    | .ok true => return
    | .ok false =>
      .raise (.upgradeRefused ((reply.result.bind Diagnosis.description).getD (.string "unknown")))

/-- Gives up a session whose connection could not be made; a fault of another kind goes on. -/
def connectFailed (c : Connector) (session : Session) (connection : Option Nat) (fault : Fault) :
    Run World (Option Session) := do
  if fault.kind.isConnection then
    World.record
      (.connectFailed c.config.hostname c.config.effectivePort c.transport.mode fault.message)
    if let some connection := connection then c.closeQuietly connection
    session.abandon (.sessionClosed "connect failed")
    return none
  else .raise fault

/-- A session with the directory, connected and upgraded but not bound; none if it could not be
had. -/
def connect (c : Connector) (deadline : Option Deadline) : Run World (Option Session) := do
  let host := c.config.hostname
  let port := c.config.effectivePort
  let session := Session.fresh host port c.transport.mode
  if ← World.expired deadline then
    World.record (.connectDeadlineExpired host port)
    session.abandon (.sessionClosed "deadline expired")
    return none
  else
    let endpoint ← c.endpoint deadline
    let connection ← Run.read World.nextConnection
    let reply ← World.send c.directory connection (.connect endpoint)
    match reply.outcome with
    | .error fault => c.connectFailed session none fault
    | .ok _ =>
      match ← (c.upgrade connection).attempt with
      | .error fault => c.connectFailed session (some connection) fault
      | .ok () =>
        let session := { session with connection := some connection }
        let session ← session.advance (.transportOpened host port)
        World.record (.connected host port c.transport.mode)
        return some session

/-- Closes a session, unless it is closed already. -/
def disconnect (c : Connector) (reason : Option String) : Run (Session × World) Unit := do
  let session ← Run.read Prod.fst
  if session.isClosed then return
  else
    if let some connection := session.connection then
      Run.onSecond (c.closeQuietly connection)
    Session.transition (.sessionClosed reason)

/-- Logs why a bind did not come about and closes the session. -/
def giveUpBind (c : Connector) (record : LogRecord) (reason : String) :
    Run (Session × World) Bool := do
  Run.onSecond (World.record record)
  c.disconnect reason
  return false

/-- Sends a bind on a connection; whether the server accepted it. -/
def sendBind (c : Connector) (connection : Nat) (dn : String) (password : List UInt8) :
    Run (Session × World) Bool := do
  let reply ← Run.onSecond (World.send c.directory connection (.bind dn password))
  match reply.outcome with
  | .error fault =>
    if fault.kind.isDirectory then c.giveUpBind (.bindError dn fault.message) "bind error"
    else .raise fault
  | .ok false =>
    let code := (reply.result.map Diagnosis.code).getD .null
    let description := (reply.result.bind Diagnosis.description).getD .null
    c.giveUpBind (.bindFailed dn code description) "bind rejected"
  | .ok true =>
    Session.transition (.bindSucceeded (some dn))
    Run.onSecond (World.record (.bound dn))
    return true

/-- Whether the session could be bound with a name and a password. -/
def bindAs (c : Connector) (dn : Option String) (password : Option Password) :
    Run (Session × World) Bool := do
  let session ← Run.read Prod.fst
  if session.state ≠ .connected then .raise (.session (.bindNotAllowed session.state.name))
  else
    let name := dn.filter fun s => !s.isEmpty
    let secret := password.filter fun p => !p.isEmpty
    match name, secret with
    | some dn, some password =>
      match Text.utf8? password with
      | .error failure =>
        c.giveUpBind (.passwordNotEncoded dn failure.message) "password encoding failed"
      | .ok bytes =>
        match session.connection with
        | some connection => c.sendBind connection dn bytes
        | none => .raise (.session (.noConnection "user"))
    | _, _ => c.giveUpBind (.anonymousBindRefused dn) "anonymous bind refused"

/-- Releases a session after its block; a fault of the release comes before the block's own end. -/
def release {β α : Type} (c : Connector) (given : Option β) (outcome : Except Fault α)
    (session : Session) : World → Lease β α × World := fun w =>
  match c.disconnect "disconnect" (session, w) with
  | (.ok (), session, w) => (⟨given, outcome, some session⟩, w)
  | (.error fault, session, w) => (⟨given, .error fault, some session⟩, w)

/-- Connects and binds, then runs the one block or the other, and releases the session in any
case. -/
def openBound {α : Type} (c : Connector) (dn : Option String) (password : Option Password)
    (deadline : Option Deadline) (refused : DenialReason → Run World α)
    (granted : Run (Session × World) α) :
    World → Lease (Except DenialReason Session) α × World := fun w =>
  match c.connect deadline w with
  | (.error fault, w) => (⟨none, .error fault, none⟩, w)
  | (.ok none, w) =>
    let (outcome, w) := refused .connectionFailed w
    (⟨some (.error .connectionFailed), outcome, none⟩, w)
  | (.ok (some session), w) =>
    match c.bindAs dn password (session, w) with
    | (.error fault, session, w) => c.release none (.error fault) session w
    | (.ok true, session, w) =>
      let (outcome, left, w) := granted (session, w)
      c.release (some (.ok session)) outcome left w
    | (.ok false, session, w) =>
      let (outcome, w) := refused .bindRejected w
      c.release (some (.error .bindRejected)) outcome session w

end Connector

end TwoFactorLogin
