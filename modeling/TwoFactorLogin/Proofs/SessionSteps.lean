import TwoFactorLogin.Directory.Connector
import TwoFactorLogin.Proofs.World

/-!
# The steps of a session

A session that keeps the one invariant of its life takes every event that its state has a row for,
provided a bound session is given a name. `Session.moved` is the session after such an event, and
`Session.transition_of_next` says that taking the event leads there and logs the step.
-/

namespace TwoFactorLogin

namespace Session

/-- A session whose machine keeps exactly the invariant that a bound session has a name. -/
def Guarded (s : Session) : Prop := s.machine.invariants = [boundRequiresDn]

/-- A session that is open on a connection. -/
structure OpenOn (s : Session) (n : Nat) : Prop where
  guarded : s.Guarded
  isClosed_eq : s.isClosed = false
  connection_eq : s.connection = some n

/-- The session after an event that its state allows. -/
def moved (s : Session) (event : SessionEvent) (target : SessionState) (date : String) : Session :=
  { s with
    machine := s.machine.commit sessionLifecycle event.kind target
      (s.machine.context.after event) date }

/-- What the machine logs of a step. -/
def stepLog (s : Session) (event : SessionEvent) (target : SessionState) : LogRecord :=
  .machine (.transition s.state.name target.name event.kind.name)

variable {s : Session} {event : SessionEvent} {target : SessionState} {date : String}

theorem guarded_fresh (host : String) (port : Int) (mode : EncryptionMode) :
    (fresh host port mode).Guarded := rfl

/-- An event with a row in the table moves a session whose invariant holds afterwards. -/
theorem apply_of_next (hg : s.Guarded) (hn : s.state.next? event.kind = some target)
    (hi : target = .bound → (s.machine.context.after event).boundDn.any (fun dn => !dn.isEmpty)) :
    s.apply event date =
      ⟨.ok (), [.transition s.state.name target.name event.kind.name],
        s.moved event target date⟩ := by
  have hentry : sessionLifecycle.entry? s.machine.state event.kind =
      some ⟨target, fun e c => .ok (c.after e)⟩ := by
    show (s.state.next? event.kind).map _ = _
    rw [hn]
    rfl
  have hkept : Machine.firstViolated target (s.machine.context.after event)
      s.machine.invariants = .ok none := by
    have hholds : boundRequiresDn.holds target (s.machine.context.after event) = .ok true := by
      by_cases ht : target = .bound
      · simp [boundRequiresDn, hi ht]
      · simp [boundRequiresDn, ht]
    rw [show s.machine.invariants = [boundRequiresDn] from hg]
    simp only [Machine.firstViolated, hholds]
    rfl
  have hkind : sessionLifecycle.kind event = event.kind := rfl
  simp only [apply, Machine.canProcess, hentry, Option.isSome_some, if_true, Machine.process, hkind,
    hkept]
  rfl

theorem transition_of_next (hg : s.Guarded) (hn : s.state.next? event.kind = some target)
    (hi : target = .bound → (s.machine.context.after event).boundDn.any (fun dn => !dn.isEmpty))
    (w : World) :
    transition event (s, w) =
      (.ok (), s.moved event target w.clocks.date, w.note [s.stepLog event target]) := by
  simp only [transition, apply_of_next hg hn hi]
  rfl

/-- A session that is not closed can always be closed. -/
theorem transition_close (hg : s.Guarded) (ho : s.isClosed = false) (reason : Option String)
    (w : World) :
    transition (.sessionClosed reason) (s, w) =
      (.ok (), s.moved (.sessionClosed reason) .closed w.clocks.date,
        w.note [s.stepLog (.sessionClosed reason) .closed]) := by
  refine transition_of_next hg ?_ (by simp) w
  cases hs : s.state with
  | closed => simp [isClosed, hs] at ho
  | _ => rfl

/-- A connected session can be bound with any name that is not empty. -/
theorem transition_bind (hg : s.Guarded) (hs : s.state = .connected) {dn : String} (hdn : dn ≠ "")
    (w : World) :
    transition (.bindSucceeded (some dn)) (s, w) =
      (.ok (), s.moved (.bindSucceeded (some dn)) .bound w.clocks.date,
        w.note [s.stepLog (.bindSucceeded (some dn)) .bound]) := by
  refine transition_of_next hg (by rw [hs]; rfl) (fun _ => ?_) w
  simp [SessionContext.after, hdn]

/-- Closing a session that is given up afterwards only logs the step. -/
theorem abandon_close (hg : s.Guarded) (ho : s.isClosed = false) (reason : Option String)
    (w : World) :
    s.abandon (.sessionClosed reason) w =
      (.ok (), w.note [s.stepLog (.sessionClosed reason) .closed]) := by
  simp only [abandon, transition_close hg ho]

end Session

end TwoFactorLogin
