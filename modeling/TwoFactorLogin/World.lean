import TwoFactorLogin.Directory.Exchange
import TwoFactorLogin.Run
import TwoFactorLogin.Session
import TwoFactorLogin.Store.Basic

/-!
# What a login leaves behind

A `World` holds the clocks, the trace of everything that was asked of the directory and of the
store, and the operator's log. Traces and logs only grow, at their ends. The directory and the
store are not part of it: they are rules that `World.send` and `World.lookUp` apply.
-/

namespace TwoFactorLogin

/-- Something that was asked outside the library. -/
inductive Event where
  | exchange (e : Exchange)
  | lookup (l : Lookup)

/-- The exchange with the directory that an event is. -/
def Event.exchange? : Event → Option Exchange
  | exchange e => some e
  | lookup _ => none

/-- The clocks, the trace and the log. -/
structure World where
  clocks : Clocks
  trace : List Event
  log : List LogRecord

namespace World

/-- A world in which nothing has happened. -/
def start (clocks : Clocks) : World := ⟨clocks, [], []⟩

/-- The exchanges with the directory. -/
def exchanges (w : World) : List Exchange := w.trace.filterMap Event.exchange?

/-- The number of the connection that is opened next. -/
def nextConnection (w : World) : Nat := connectionCount w.exchanges

/-- Writes a record to the log. -/
def record (r : LogRecord) : Run World Unit := .update fun w => { w with log := w.log ++ [r] }

/-- Whether a deadline is given and has expired by now. -/
def expired (deadline : Option Deadline) : Run World Bool := fun w =>
  (deadlineExpired deadline w.clocks.steady, w)

/-- A timeout shortened to what a deadline, if one is given, leaves from now. -/
def clamp (deadline : Option Deadline) (timeout : Number) : Run World Number := fun w =>
  (clampTo deadline w.clocks.steady timeout, w)

/-- Lets time pass. -/
def advance (seconds : Number) : Run World Unit := fun w =>
  let (passed, clocks) := Clocks.advance seconds w.clocks
  (passed, { w with clocks })

/-- Sends a request and waits for the reply. -/
def send (directory : Directory) (connection : Nat) (request : Request) :
    Run World Reply := fun w =>
  let reply := directory w.exchanges w.clocks connection request
  (.ok reply,
    { w with
      clocks := reply.clocks
      trace := w.trace ++ [.exchange ⟨connection, request, w.clocks, reply⟩] })

/-- Looks up the secret of a login name. -/
def lookUp (store : SecretStore) (username : String) (deadline : Option Deadline) :
    Run World (Option SecondFactorSecret) := fun w =>
  let reply := store w.clocks username deadline
  (reply.outcome,
    { clocks := reply.clocks
      trace := w.trace ++ [.lookup ⟨username, deadline, w.clocks, reply⟩]
      log := w.log ++ reply.log.map .store })

end World

/-- Takes an event on a session. What its machine logs goes to the world's log. -/
def Session.transition (event : SessionEvent) : Run (Session × World) Unit := fun (s, w) =>
  let a := s.apply event w.clocks.date
  (a.outcome, (a.session, { w with log := w.log ++ a.log.map .machine }))

end TwoFactorLogin
