import TwoFactorLogin.Proofs.SessionSteps

/-!
# The paths of connecting and binding

`Connecting` lists everything that `Connector.connect` can do, and `Binding` everything that
`Connector.bindAs` can do with a connected session: the outcome, the exchanges, and what is logged.
What holds of every path is then read off the lists, and nobody has to open the functions again.

Both release their connection when they give up. An interruption of that release ends them at once
with a fault, and the session is left as it was; `Exchange.unbindOutcome` tells the two ends apart.

* `Opening`: the exchanges by which a connection is opened, and upgraded if the transport asks for
  it.
* `Unbound`: why a bind does not come about.
* `connect_connecting`, `bindAs_binding`: the lists are complete.
-/

namespace TwoFactorLogin

theorem clampTo_of_reckoned {deadline : Option Deadline} {now : Number} {late : Bool}
    (h : deadlineExpired deadline now = .ok late) (timeout : Number) :
    ∃ left, clampTo deadline now timeout = .ok left := by
  cases deadline with
  | none => exact ⟨timeout, rfl⟩
  | some d =>
    cases hr : d.remaining now with
    | ok left => exact ⟨timeout.smaller left, by simp [clampTo, Deadline.clamp, hr, Except.map]⟩
    | error fault => simp [deadlineExpired, Deadline.expired, hr, Except.map] at h

/-- What the exchange of an upgrade comes to. -/
def Exchange.upgradeOutcome (u : Exchange) : Except Fault Unit :=
  match u.reply.outcome with
  | .error fault => .error fault
  | .ok true => .ok ()
  | .ok false =>
    .error (.upgradeRefused ((u.reply.result.bind Diagnosis.description).getD (.string "unknown")))

theorem Exchange.upgradeOutcome_eq_ok {u : Exchange} :
    u.upgradeOutcome = .ok () ↔ u.reply.outcome = .ok true := by
  unfold upgradeOutcome
  rcases u.reply.outcome with fault | _ | _ <;> simp

/-- What the exchange that unbinds a connection comes to: of its faults, only an interruption goes
on. -/
def Exchange.unbindOutcome (q : Exchange) : Except Fault Unit :=
  match q.reply.outcome with
  | .error fault => if fault.kind.isInterruption then .error fault else .ok ()
  | .ok _ => .ok ()

theorem Exchange.unbindOutcome_eq_error {q : Exchange} {fault : Fault} :
    q.unbindOutcome = .error fault ↔
      q.reply.outcome = .error fault ∧ fault.kind.isInterruption = true := by
  unfold unbindOutcome
  rcases q.reply.outcome with fault' | b
  · by_cases hk : fault'.kind.isInterruption = true
    · simp only [hk, if_true, Except.error.injEq]
      constructor
      · rintro rfl
        exact ⟨rfl, hk⟩
      · exact And.left
    · simp only [hk, Bool.false_eq_true, if_false, Except.error.injEq, reduceCtorEq, false_iff]
      rintro ⟨rfl, hk'⟩
      exact hk hk'
  · simp

theorem Exchange.unbindOutcome_eq_ok {q : Exchange}
    (h : ∀ fault, q.reply.outcome = .error fault → fault.kind.isInterruption = false) :
    q.unbindOutcome = .ok () := by
  cases hu : q.unbindOutcome with
  | ok _ => rfl
  | error fault =>
    obtain ⟨hr, hk⟩ := Exchange.unbindOutcome_eq_error.1 hu
    rw [h fault hr] at hk
    cases hk

/-- The exchange unbound a connection and was interrupted in it. -/
def Exchange.Interrupts (q : Exchange) (fault : Fault) : Prop :=
  q.request = .unbind ∧ q.unbindOutcome = .error fault

theorem Exchange.not_interrupts_of_answered {q : Exchange} {b : Bool}
    (h : q.reply.outcome.toOption = some b) (fault : Fault) : ¬ q.Interrupts fault := by
  rintro ⟨-, hi⟩
  rw [(unbindOutcome_eq_error.1 hi).1] at h
  cases h

theorem FaultKind.isInterruption_of_isDirectory {k : FaultKind} (h : k.isDirectory = true) :
    k.isInterruption = false := by
  cases k with
  | directory => rfl
  | _ => cases h

/-- How a block ends whose connection is released by an exchange: as it did, unless the release is
interrupted. -/
def Exchange.ending {α : Type} (q : Exchange) (outcome : Except Fault α) : Except Fault α :=
  match q.unbindOutcome with
  | .ok () => outcome
  | .error fault => .error fault

theorem Exchange.ending_of_ok {α : Type} {q : Exchange} (h : q.unbindOutcome = .ok ())
    (outcome : Except Fault α) : q.ending outcome = outcome := by
  rw [ending, h]

theorem Exchange.ending_of_error {α : Type} {q : Exchange} {fault : Fault}
    (h : q.unbindOutcome = .error fault) (outcome : Except Fault α) :
    q.ending outcome = .error fault := by
  rw [ending, h]

/-- A block that is released ends with an answer exactly if it did so before and the release is not
interrupted. -/
theorem Exchange.ending_eq_ok {α : Type} {q : Exchange} {outcome : Except Fault α} {a : α} :
    q.ending outcome = .ok a ↔ q.unbindOutcome = .ok () ∧ outcome = .ok a := by
  unfold ending
  cases q.unbindOutcome <;> simp

/-- A block that ends with a fault ends with one when it is released, too, whatever it was to
return. -/
theorem Exchange.exists_ending_eq (q : Exchange) (cause : Fault) :
    ∃ fault, ∀ α : Type, q.ending (.error cause : Except Fault α) = .error fault := by
  unfold ending
  cases q.unbindOutcome with
  | ok _ => exact ⟨cause, fun _ => rfl⟩
  | error fault => exact ⟨fault, fun _ => rfl⟩

namespace Connector

variable {c : Connector} {w : World} {s : Session} {n : Nat}

/-! ## Releasing a connection -/

/-- What is logged of the exchange that unbinds a connection. -/
def unbindLog (c : Connector) (q : Exchange) : List LogRecord :=
  match q.reply.outcome with
  | .error fault =>
    if fault.kind.isInterruption then [] else [.disconnectFailed c.config.hostname fault.message]
  | .ok _ => []

theorem closeQuietly_apply {q : Exchange} (hq : q = w.exchange c.directory n .unbind) :
    c.closeQuietly n w = (q.unbindOutcome, (w.push q).note (c.unbindLog q)) := by
  subst hq
  simp only [closeQuietly, Run.bind_apply, World.send_apply, Exchange.unbindOutcome, unbindLog]
  cases (w.exchange c.directory n .unbind).reply.outcome with
  | error fault => by_cases hk : fault.kind.isInterruption = true <;> simp [hk]
  | ok b => simp

/-- What is logged of closing a session, given the exchange that unbinds its connection. -/
def closingLog (c : Connector) (s : Session) (reason : String) (q : Exchange) : List LogRecord :=
  match q.unbindOutcome with
  | .ok () => c.unbindLog q ++ [s.stepLog (.sessionClosed reason) .closed]
  | .error _ => []

theorem mem_closingLog {reason : String} {q : Exchange} {r : LogRecord}
    (h : r ∈ c.closingLog s reason q) :
    (∃ fault : Fault, r = .disconnectFailed c.config.hostname fault.message) ∨
      r = s.stepLog (.sessionClosed reason) .closed := by
  unfold closingLog unbindLog at h
  split at h
  · rcases List.mem_append.1 h with h | h
    · split at h
      · split at h
        · cases h
        · exact .inl ⟨_, List.mem_singleton.1 h⟩
      · cases h
    · exact .inr (List.mem_singleton.1 h)
  · cases h

/-- A session after it was to be closed, given the exchange that unbound its connection. An
interruption leaves it as it was. -/
def closed (s : Session) (reason : String) (q : Exchange) : Session :=
  match q.unbindOutcome with
  | .ok () => s.moved (.sessionClosed reason) .closed q.reply.clocks.date
  | .error _ => s

section Closed

variable {reason : String} {q : Exchange} {fault : Fault}

theorem closed_of_ok (h : q.unbindOutcome = .ok ()) :
    closed s reason q = s.moved (.sessionClosed reason) .closed q.reply.clocks.date := by
  rw [closed, h]

theorem closed_of_error (h : q.unbindOutcome = .error fault) : closed s reason q = s := by
  rw [closed, h]

theorem closingLog_of_error (h : q.unbindOutcome = .error fault) :
    c.closingLog s reason q = [] := by
  rw [closingLog, h]

theorem isClosed_closed (h : q.unbindOutcome = .ok ()) : (closed s reason q).isClosed = true := by
  rw [closed_of_ok h]
  rfl

theorem connection_closed : (closed s reason q).connection = s.connection := by
  unfold closed
  cases q.unbindOutcome <;> rfl

end Closed

theorem unbindLog_of_error {q : Exchange} {fault : Fault} (h : q.unbindOutcome = .error fault) :
    c.unbindLog q = [] := by
  obtain ⟨hr, hk⟩ := Exchange.unbindOutcome_eq_error.1 h
  rw [unbindLog, hr]
  exact if_pos hk

theorem disconnect_of_open {q : Exchange} (hs : s.OpenOn n)
    (hq : q = w.exchange c.directory n .unbind) (reason : String) :
    c.disconnect reason (s, w) =
      (q.unbindOutcome, closed s reason q, (w.push q).note (c.closingLog s reason q)) := by
  simp only [disconnect, Run.bind_apply, Run.read_apply, hs.isClosed_eq, Bool.false_eq_true,
    if_false, hs.connection_eq, Run.onSecond_apply, closeQuietly_apply hq]
  cases hu : q.unbindOutcome with
  | error fault =>
    rw [closed_of_error hu, closingLog_of_error hu, unbindLog_of_error hu]
  | ok _ =>
    simp [Session.transition_close hs.guarded hs.isClosed_eq, closed, closingLog, hu]

theorem disconnect_of_closed (hc : s.isClosed = true) (reason : String) :
    c.disconnect reason (s, w) = (.ok (), s, w) := by
  simp [disconnect, Run.bind_apply, hc]

/-! ## Connecting -/

/-- What a connection is opened with, given the timeouts. -/
def endpointWithin (c : Connector) (connectTimeout receiveTimeout : Number) : Endpoint where
  host := c.config.hostname
  port := c.config.effectivePort
  useSsl := c.transport.useSsl
  tls := c.tls
  connectTimeout
  receiveTimeout

/-- What a connection is opened with at a moment: each timeout is the configured one, shortened to
what the deadline leaves, which has not expired. -/
def Asks (c : Connector) (deadline : Option Deadline) (now : Number) (p : Endpoint) : Prop :=
  deadlineExpired deadline now = .ok false ∧
    ∃ connectTimeout receiveTimeout,
      clampTo deadline now c.config.connectTimeout = .ok connectTimeout ∧
        clampTo deadline now c.config.receiveTimeout = .ok receiveTimeout ∧
          p = c.endpointWithin connectTimeout receiveTimeout

/-- The session that a connection is made for. -/
def freshSession (c : Connector) : Session :=
  .fresh c.config.hostname c.config.effectivePort c.transport.mode

/-- The session that a connection is given. -/
def connectedSession (c : Connector) (n : Nat) (date : String) : Session :=
  { c.freshSession with connection := some n }.moved
    (.transportOpened c.config.hostname c.config.effectivePort) .connected date

/-- What is logged of a session that is given up before it is connected. -/
def abandonLog (c : Connector) (reason : String) : LogRecord :=
  c.freshSession.stepLog (.sessionClosed reason) .closed

/-- What is logged of a connection that could not be made, before anything is released. -/
def connectFailedLog (c : Connector) (fault : Fault) : LogRecord :=
  .connectFailed c.config.hostname c.config.effectivePort c.transport.mode fault.message

/-- What is logged of a connection that was made. -/
def connectedLog (c : Connector) : List LogRecord :=
  [c.freshSession.stepLog (.transportOpened c.config.hostname c.config.effectivePort) .connected,
    .connected c.config.hostname c.config.effectivePort c.transport.mode]

theorem openOn_connectedSession (date : String) : (c.connectedSession n date).OpenOn n :=
  ⟨rfl, rfl, rfl⟩

/-- The exchanges of connecting at `w`, all of which succeed: the connection is opened, and upgraded
if the transport asks for it. -/
inductive Opening (c : Connector) (deadline : Option Deadline) (w : World) : List Exchange → Prop
  | plain {p : Endpoint} {o : Exchange} {b : Bool} :
      c.transport.requiresUpgrade = false → c.Asks deadline w.clocks.steady p →
      o = w.exchange c.directory w.nextConnection (.connect p) → o.reply.outcome = .ok b →
      Opening c deadline w [o]
  | upgraded {p : Endpoint} {o u : Exchange} {b : Bool} :
      c.transport.requiresUpgrade = true → c.Asks deadline w.clocks.steady p →
      o = w.exchange c.directory w.nextConnection (.connect p) → o.reply.outcome = .ok b →
      u = (w.push o).exchange c.directory w.nextConnection .startTls →
      u.reply.outcome = .ok true → Opening c deadline w [o, u]

/-- Everything that connecting can do. -/
inductive Connecting (c : Connector) (deadline : Option Deadline) (w : World) :
    Except Fault (Option Session) × World → Prop
  /-- The deadline cannot be compared with the clock. -/
  | unreckoned {fault : Fault} : deadlineExpired deadline w.clocks.steady = .error fault →
      Connecting c deadline w (.error fault, w)
  | late : deadlineExpired deadline w.clocks.steady = .ok true →
      Connecting c deadline w (.ok none,
        w.note [.connectDeadlineExpired c.config.hostname c.config.effectivePort,
          c.abandonLog "deadline expired"])
  | unopened {p : Endpoint} {o : Exchange} {fault : Fault} :
      c.Asks deadline w.clocks.steady p →
      o = w.exchange c.directory w.nextConnection (.connect p) →
      o.reply.outcome = .error fault → fault.kind.isConnection = true →
      Connecting c deadline w
        (.ok none, (w.push o).note [c.connectFailedLog fault, c.abandonLog "connect failed"])
  | openingEscaped {p : Endpoint} {o : Exchange} {fault : Fault} :
      c.Asks deadline w.clocks.steady p →
      o = w.exchange c.directory w.nextConnection (.connect p) →
      o.reply.outcome = .error fault → fault.kind.isConnection = false →
      Connecting c deadline w (.error fault, w.push o)
  | notUpgraded {p : Endpoint} {o u q : Exchange} {b : Bool} {fault : Fault} :
      c.transport.requiresUpgrade = true → c.Asks deadline w.clocks.steady p →
      o = w.exchange c.directory w.nextConnection (.connect p) → o.reply.outcome = .ok b →
      u = (w.push o).exchange c.directory w.nextConnection .startTls →
      u.upgradeOutcome = .error fault → fault.kind.isConnection = true →
      q = ((w.push o).push u).exchange c.directory w.nextConnection .unbind →
      q.unbindOutcome = .ok () →
      Connecting c deadline w
        (.ok none, (w.pushAll [o, u, q]).note
          (c.connectFailedLog fault :: c.closingLog c.freshSession "connect failed" q))
  | interrupted {p : Endpoint} {o u q : Exchange} {b : Bool} {fault fault' : Fault} :
      c.transport.requiresUpgrade = true → c.Asks deadline w.clocks.steady p →
      o = w.exchange c.directory w.nextConnection (.connect p) → o.reply.outcome = .ok b →
      u = (w.push o).exchange c.directory w.nextConnection .startTls →
      u.upgradeOutcome = .error fault → fault.kind.isConnection = true →
      q = ((w.push o).push u).exchange c.directory w.nextConnection .unbind →
      q.unbindOutcome = .error fault' →
      Connecting c deadline w (.error fault', (w.pushAll [o, u, q]).note [c.connectFailedLog fault])
  | upgradeEscaped {p : Endpoint} {o u : Exchange} {b : Bool} {fault : Fault} :
      c.transport.requiresUpgrade = true → c.Asks deadline w.clocks.steady p →
      o = w.exchange c.directory w.nextConnection (.connect p) → o.reply.outcome = .ok b →
      u = (w.push o).exchange c.directory w.nextConnection .startTls →
      u.upgradeOutcome = .error fault → fault.kind.isConnection = false →
      Connecting c deadline w (.error fault, w.pushAll [o, u])
  | connected {es : List Exchange} : c.Opening deadline w es →
      Connecting c deadline w
        (.ok (some (c.connectedSession w.nextConnection (w.pushAll es).clocks.date)),
          (w.pushAll es).note c.connectedLog)

theorem endpoint_apply {deadline : Option Deadline}
    (h : deadlineExpired deadline w.clocks.steady = .ok false) :
    ∃ p, c.Asks deadline w.clocks.steady p ∧ c.endpoint deadline w = (.ok p, w) := by
  obtain ⟨connectTimeout, hc⟩ := clampTo_of_reckoned h c.config.connectTimeout
  obtain ⟨receiveTimeout, hr⟩ := clampTo_of_reckoned h c.config.receiveTimeout
  refine ⟨_, ⟨h, connectTimeout, receiveTimeout, hc, hr, rfl⟩, ?_⟩
  simp only [endpoint, Run.bind_apply, World.clamp_apply, hc, hr]
  rfl

theorem upgrade_apply {u : Exchange} (hr : c.transport.requiresUpgrade = true)
    (hu : u = w.exchange c.directory n .startTls) :
    c.upgrade n w = (u.upgradeOutcome, w.push u) := by
  subst hu
  simp only [upgrade, hr, if_true, Run.bind_apply, World.send_apply, Exchange.upgradeOutcome]
  rcases (w.exchange c.directory n .startTls).reply.outcome with fault | _ | _ <;> rfl

theorem connectFailed_apply {session : Session} (hg : session.Guarded)
    (ho : session.isClosed = false) {fault : Fault} (hk : fault.kind.isConnection = true) :
    c.connectFailed session none fault w =
      (.ok none, w.note [c.connectFailedLog fault,
        session.stepLog (.sessionClosed "connect failed") .closed]) := by
  simp [connectFailed, hk, Run.bind_apply, Session.abandon_close hg ho, connectFailedLog]

theorem connectFailed_apply_some {session : Session} (hg : session.Guarded)
    (ho : session.isClosed = false) {fault : Fault} (hk : fault.kind.isConnection = true)
    {q : Exchange} (hq : q = w.exchange c.directory n .unbind) :
    c.connectFailed session (some n) fault w =
      (q.unbindOutcome.map fun _ => none, (w.push q).note
        (c.connectFailedLog fault :: c.closingLog session "connect failed" q)) := by
  simp only [connectFailed, hk, if_true, Run.bind_apply, World.record_apply]
  rw [closeQuietly_apply (w := w.note _) (by simpa using hq)]
  cases hu : q.unbindOutcome with
  | error fault' =>
    rw [unbindLog_of_error hu, closingLog_of_error hu, World.note_nil, World.push_note]
    rfl
  | ok _ =>
    simp only [Session.abandon_close hg ho, World.push_note, World.note_note, closingLog, hu]
    rfl

theorem connectFailed_escaped {session : Session} {connection : Option Nat} {fault : Fault}
    (hk : fault.kind.isConnection = false) :
    c.connectFailed session connection fault w = (.error fault, w) := by
  simp [connectFailed, hk]

/-- A connection that is ready is handed over as a connected session. -/
theorem advance_apply (n : Nat) (w : World) :
    { c.freshSession with connection := some n }.advance
        (.transportOpened c.config.hostname c.config.effectivePort) w =
      (.ok (c.connectedSession n w.clocks.date),
        w.note [c.freshSession.stepLog
          (.transportOpened c.config.hostname c.config.effectivePort) .connected]) := by
  have hg : Session.Guarded { c.freshSession with connection := some n } := rfl
  rw [Session.advance, Session.transition_of_next hg (by exact rfl) (by simp)]
  rfl

/-- Connecting does one of the things listed. -/
theorem connect_connecting (c : Connector) (deadline : Option Deadline) (w : World) :
    Connecting c deadline w (c.connect deadline w) := by
  have hg : c.freshSession.Guarded := Session.guarded_fresh _ _ _
  have ho : c.freshSession.isClosed = false := rfl
  have hf : Session.fresh c.config.hostname c.config.effectivePort c.transport.mode =
    c.freshSession := rfl
  simp only [connect, hf, Run.bind_apply, World.expired_apply]
  rcases hd : deadlineExpired deadline w.clocks.steady with fault | _ | _
  · exact .unreckoned hd
  · obtain ⟨p, hp, hpw⟩ := c.endpoint_apply hd
    simp only [Bool.false_eq_true, if_false, Run.bind_apply, hpw, Run.read_apply, World.send_apply]
    generalize hoe : w.exchange c.directory w.nextConnection (.connect p) = o
    cases hor : o.reply.outcome with
    | error fault =>
      cases hk : fault.kind.isConnection with
      | true =>
        simp only [connectFailed_apply hg ho hk]
        exact .unopened hp hoe.symm hor hk
      | false =>
        simp only [connectFailed_escaped hk]
        exact .openingEscaped hp hoe.symm hor hk
    | ok b =>
      simp only [Run.bind_apply, Run.attempt_apply]
      cases hr : c.transport.requiresUpgrade with
      | false =>
        have hup : c.upgrade w.nextConnection (w.push o) = (.ok (), w.push o) := by
          simp [upgrade, hr]
        simp only [hup]
        simp only [Run.bind_apply, advance_apply, World.record_apply, World.note_note]
        exact .connected (.plain hr hp hoe.symm hor)
      | true =>
        generalize hue : (w.push o).exchange c.directory w.nextConnection .startTls = u
        rw [upgrade_apply hr hue.symm]
        cases hur : u.upgradeOutcome with
        | error fault =>
          cases hk : fault.kind.isConnection with
          | true =>
            simp only [connectFailed_apply_some hg ho hk rfl]
            generalize hqe :
              ((w.push o).push u).exchange c.directory w.nextConnection .unbind = q
            cases hq : q.unbindOutcome with
            | error fault' =>
              rw [closingLog_of_error hq]
              exact .interrupted hr hp hoe.symm hor hue.symm hur hk hqe.symm hq
            | ok _ => exact .notUpgraded hr hp hoe.symm hor hue.symm hur hk hqe.symm hq
          | false =>
            simp only [connectFailed_escaped hk]
            exact .upgradeEscaped hr hp hoe.symm hor hue.symm hur hk
        | ok _ =>
          simp only [Run.bind_apply, advance_apply, World.record_apply, World.note_note]
          exact .connected (.upgraded hr hp hoe.symm hor hue.symm
            (Exchange.upgradeOutcome_eq_ok.1 hur))
  · simp only [if_true, Run.bind_apply, World.record_apply, Session.abandon_close hg ho,
      World.note_note]
    exact .late hd

/-! ## Binding -/

/-- A name and a password that make a bind: neither is missing or empty, and the password has the
given bytes. -/
structure Submits (dn : Option String) (password : Option Password) (user : String)
    (bytes : List UInt8) : Prop where
  dn_eq : dn = some user
  user_ne : user ≠ ""
  password_eq : ∃ p, password = some p ∧ p ≠ [] ∧ Text.utf8? p = .ok bytes

/-- Why a bind does not come about, with the exchanges up to that point, what is logged of it, and
the reason that the session is closed for. -/
inductive Unbound (c : Connector) (dn : Option String) (password : Option Password) (n : Nat)
    (w : World) : List Exchange → LogRecord → String → Prop
  | anonymous :
      (dn.filter fun s => !s.isEmpty) = none ∨ (password.filter fun p => !p.isEmpty) = none →
      Unbound c dn password n w [] (.anonymousBindRefused dn) "anonymous bind refused"
  | notEncoded {user : String} {p : Password} {failure : Text.Unencodable} :
      dn = some user → password = some p → Text.utf8? p = .error failure →
      Unbound c dn password n w [] (.passwordNotEncoded user failure.message)
        "password encoding failed"
  | failed {user : String} {bytes : List UInt8} {b : Exchange} {fault : Fault} :
      Submits dn password user bytes → b = w.exchange c.directory n (.bind user bytes) →
      b.reply.outcome = .error fault → fault.kind.isDirectory = true →
      Unbound c dn password n w [b] (.bindError user fault.message) "bind error"
  | rejected {user : String} {bytes : List UInt8} {b : Exchange} :
      Submits dn password user bytes → b = w.exchange c.directory n (.bind user bytes) →
      b.reply.outcome = .ok false →
      Unbound c dn password n w [b]
        (.bindFailed user ((b.reply.result.map Diagnosis.code).getD .null)
          ((b.reply.result.bind Diagnosis.description).getD .null)) "bind rejected"

/-- Everything that binding can do with a connected session. -/
inductive Binding (c : Connector) (dn : Option String) (password : Option Password) (s : Session)
    (n : Nat) (w : World) : Except Fault Bool × Session × World → Prop
  | refused {es : List Exchange} {record : LogRecord} {reason : String} {q : Exchange} :
      c.Unbound dn password n w es record reason →
      q = (w.pushAll es).exchange c.directory n .unbind → q.unbindOutcome = .ok () →
      Binding c dn password s n w (.ok false, closed s reason q,
        (w.pushAll (es ++ [q])).note (record :: c.closingLog s reason q))
  | interrupted {es : List Exchange} {record : LogRecord} {reason : String} {q : Exchange}
      {fault : Fault} : c.Unbound dn password n w es record reason →
      q = (w.pushAll es).exchange c.directory n .unbind → q.unbindOutcome = .error fault →
      Binding c dn password s n w (.error fault, s, (w.pushAll (es ++ [q])).note [record])
  | escaped {user : String} {bytes : List UInt8} {b : Exchange} {fault : Fault} :
      Submits dn password user bytes → b = w.exchange c.directory n (.bind user bytes) →
      b.reply.outcome = .error fault → fault.kind.isDirectory = false →
      Binding c dn password s n w (.error fault, s, w.push b)
  | accepted {user : String} {bytes : List UInt8} {b : Exchange} :
      Submits dn password user bytes → b = w.exchange c.directory n (.bind user bytes) →
      b.reply.outcome = .ok true →
      Binding c dn password s n w
        (.ok true, s.moved (.bindSucceeded (some user)) .bound b.reply.clocks.date,
          (w.push b).note [s.stepLog (.bindSucceeded (some user)) .bound, .bound user])

/-- Giving up a bind is one of the things listed: an interruption may come between. -/
theorem Unbound.binding {dn : Option String} {password : Option Password} {es : List Exchange}
    {record : LogRecord} {reason : String} (h : c.Unbound dn password n w es record reason)
    (hs : s.OpenOn n) :
    Binding c dn password s n w (c.giveUpBind record reason (s, w.pushAll es)) := by
  generalize hqe : (w.pushAll es).exchange c.directory n .unbind = q
  have hd := disconnect_of_open (w := (w.pushAll es).note [record]) hs (by simpa using hqe.symm)
    reason
  have hw : (w.pushAll es).push q = w.pushAll (es ++ [q]) := by simp
  simp only [giveUpBind, Run.bind_apply, Run.onSecond_apply, World.record_apply, hd,
    World.push_note, World.note_note, hw]
  cases hu : q.unbindOutcome with
  | error fault =>
    rw [closed_of_error hu, closingLog_of_error hu]
    exact .interrupted h hqe.symm hu
  | ok _ => exact .refused h hqe.symm hu

/-- Binding a connected session does one of the things listed. -/
theorem bindAs_binding (c : Connector) (dn : Option String) (password : Option Password)
    (hg : s.Guarded) (hs : s.state = .connected) (hn : s.connection = some n) (w : World) :
    Binding c dn password s n w (c.bindAs dn password (s, w)) := by
  have ho : s.OpenOn n := ⟨hg, by simp [Session.isClosed, hs], hn⟩
  simp only [bindAs, Run.bind_apply, Run.read_apply, hs, ne_eq, not_true, if_false, hn]
  cases hdn : dn.filter fun s => !s.isEmpty with
  | none => exact Unbound.binding (.anonymous (.inl hdn)) ho
  | some user =>
    cases hp : password.filter fun p => !p.isEmpty with
    | none => exact Unbound.binding (.anonymous (.inr hp)) ho
    | some p =>
      obtain ⟨rfl, hu⟩ := Option.filter_eq_some_iff.1 hdn
      obtain ⟨rfl, hpe⟩ := Option.filter_eq_some_iff.1 hp
      dsimp only
      cases hb : Text.utf8? p with
      | error failure => exact Unbound.binding (.notEncoded rfl rfl hb) ho
      | ok bytes =>
        have hsub : Submits (some user) (some p) user bytes :=
          ⟨rfl, by simpa using hu, p, rfl, by simpa using hpe, hb⟩
        simp only [sendBind, Run.bind_apply, Run.onSecond_apply, World.send_apply]
        generalize hbe : w.exchange c.directory n (.bind user bytes) = b
        cases hbr : b.reply.outcome with
        | error fault =>
          cases hk : fault.kind.isDirectory with
          | true =>
            simp only [hk, if_true]
            exact Unbound.binding (.failed hsub hbe.symm hbr hk) ho
          | false =>
            simp only [hk, Bool.false_eq_true, if_false]
            exact .escaped hsub hbe.symm hbr hk
        | ok accepted =>
          cases accepted with
          | false => exact Unbound.binding (.rejected hsub hbe.symm hbr) ho
          | true =>
            simp only [Run.bind_apply, Session.transition_bind hg hs hsub.user_ne,
              Run.onSecond_apply, World.record_apply, World.note_note]
            exact .accepted hsub hbe.symm hbr

end Connector

end TwoFactorLogin
