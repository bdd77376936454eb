import TwoFactorLogin.Machine.Basic

/-!
# Directory sessions

A session is one connection to the directory and its life: it begins unconnected, becomes
connected, then bound, and from every state it can be closed, for good. A bound session always has
the name it is bound as; that is an invariant of its machine.

`Session.apply` takes an event. An event that the present state does not allow is a fault, and
leaves the session as it was.
-/

namespace TwoFactorLogin

/-- The states of a session's life. -/
inductive SessionState where
  | unconnected
  | connected
  | bound
  | closed
  deriving DecidableEq, Repr

/-- The name of a state in logs and traces. -/
def SessionState.name : SessionState → String
  | unconnected => "UNCONNECTED"
  | connected => "CONNECTED"
  | bound => "BOUND"
  | closed => "CLOSED"

/-- What a session is connected to, as whom it is bound, and why it was closed. -/
structure SessionContext where
  host : String
  port : Int
  mode : EncryptionMode
  boundDn : Option String := none
  closeReason : Option String := some ""
  deriving DecidableEq, Repr

/-- What can happen to a session. `foreign` stands for events that belong to no session. -/
inductive SessionEvent where
  | transportOpened (host : String) (port : Int)
  | bindSucceeded (dn : Option String)
  | sessionClosed (reason : Option String)
  | foreign (name : String)
  deriving DecidableEq, Repr

/-- The kinds of events, by which the table is looked up. -/
inductive SessionEventKind where
  | transportOpened
  | bindSucceeded
  | sessionClosed
  | foreign (name : String)
  deriving DecidableEq, Repr

/-- The name of a kind of event in logs and traces. -/
def SessionEventKind.name : SessionEventKind → String
  | transportOpened => "TransportOpened"
  | bindSucceeded => "BindSucceeded"
  | sessionClosed => "SessionClosed"
  | foreign name => name

/-- The kind of event that a name stands for. -/
def SessionEventKind.ofName (s : String) : SessionEventKind :=
  if s = "TransportOpened" then transportOpened
  else if s = "BindSucceeded" then bindSucceeded
  else if s = "SessionClosed" then sessionClosed
  else foreign s

/-- The kind of an event. -/
def SessionEvent.kind : SessionEvent → SessionEventKind
  | transportOpened _ _ => .transportOpened
  | bindSucceeded _ => .bindSucceeded
  | sessionClosed _ => .sessionClosed
  | foreign name => .foreign name

namespace SessionContext

/-- The context after an event. -/
def after (event : SessionEvent) (c : SessionContext) : SessionContext :=
  match event with
  | .transportOpened host port => { c with host, port }
  | .bindSucceeded dn => { c with boundDn := dn }
  | .sessionClosed reason => { c with closeReason := reason }
  | .foreign _ => c

/-- What a snapshot holds of a context. -/
def snapshot (c : SessionContext) : Value :=
  .object [("host", .string c.host), ("port", .int c.port), ("mode", .string c.mode.name),
    ("bound_dn", .ofText? c.boundDn), ("close_reason", .ofText? c.closeReason)]

end SessionContext

/-- The state that a kind of event leads to. -/
def SessionState.next? : SessionState → SessionEventKind → Option SessionState
  | unconnected, .transportOpened => some connected
  | connected, .bindSucceeded => some bound
  | unconnected, .sessionClosed => some closed
  | connected, .sessionClosed => some closed
  | bound, .sessionClosed => some closed
  | _, _ => none

/-- How sessions move. -/
def sessionLifecycle : Lifecycle SessionState SessionEvent SessionEventKind SessionContext where
  initial := .unconnected
  kind := SessionEvent.kind
  entry? state kind := (state.next? kind).map fun target => ⟨target, fun e c => .ok (c.after e)⟩
  stateName := SessionState.name
  kindName := SessionEventKind.name
  snapshot := SessionContext.snapshot

/-- A bound session has the name it is bound as. -/
def boundRequiresDn : Invariant SessionState SessionContext where
  name := "bound_requires_dn"
  holds state c := .ok (state != .bound || c.boundDn.any fun dn => !dn.isEmpty)

/-- The machine of a session's life. -/
abbrev SessionMachine := Machine SessionState SessionContext

/-- One connection to the directory: where it leads, its number if there is one, and its life. -/
structure Session where
  host : String
  port : Int
  mode : EncryptionMode
  connection : Option Nat
  machine : SessionMachine

namespace Session

/-- A session that is not connected yet. -/
def fresh (host : String) (port : Int) (mode : EncryptionMode) : Session where
  host
  port
  mode
  connection := none
  machine := (Machine.start sessionLifecycle { host, port, mode }).addInvariant boundRequiresDn

/-- The state of a session. -/
def state (s : Session) : SessionState := s.machine.state

/-- The name that a session is bound as. -/
def boundDn (s : Session) : Option String := s.machine.context.boundDn

/-- Whether a session is bound. -/
def isBound (s : Session) : Bool := s.state = .bound

/-- Whether a session is closed. -/
def isClosed (s : Session) : Bool := s.state = .closed

/-- The states a session has been in, oldest first. -/
def history (s : Session) : List SessionState := s.machine.visited

/-- What came of an event: an outcome, what was logged, and the session afterwards. -/
structure Applied where
  outcome : Except Fault Unit
  log : List MachineRecord
  session : Session

/-- Takes an event; one that the present state does not allow is a fault. -/
def apply (s : Session) (event : SessionEvent) (timestamp : String) : Applied :=
  if s.machine.canProcess sessionLifecycle event.kind then
    let p := s.machine.process sessionLifecycle event timestamp
    let outcome : Except Fault Unit := match p.outcome with
      | .ok (.ok _) => .ok ()
      | .ok (.error refusal) => .error (.session (.transitionRefused refusal.message))
      | .error fault => .error fault
    ⟨outcome, p.log, { s with machine := p.machine }⟩
  else ⟨.error (.session (.eventNotAllowed event.kind.name s.state.name)), [], s⟩

end Session

end TwoFactorLogin
