import TwoFactorLogin.Proofs.Discipline

/-!
# Where faults of the directory stop

A connector reports what fails instead of failing itself: a connection that could not be made is no
session, and a bind that did not succeed is a closed session. `Connector.Contains` says in full what
its callers see.

Connecting and binding do not catch the same faults. Connecting stops every fault that counts as a
failed connection, those of the operating system among them. Binding stops the directory's own
faults alone, so a connection that breaks in the middle of a bind ends with a fault. Neither stops
an interruption of the unbinding with which it gives up.

* `ConnectReport`, `BindReport`, `Offers`: what connecting, binding and a visit report.
* `bindAs_eq_error_iff`: when a bind ends with a fault.
* `contains_of_failsPlainly`: what callers see, if connecting and upgrading fail plainly.
-/

namespace TwoFactorLogin

/-- Connecting and upgrading fail only in ways that count as a failed connection: with a fault of
the directory, or of the operating system. -/
def Directory.FailsPlainly (d : Directory) : Prop :=
  ∀ past clocks n r fault, ((∃ p, r = .connect p) ∨ r = .startTls) →
    (d past clocks n r).outcome = .error fault → fault.kind.isConnection = true

/-- A fault that binding lets through: the reply to the bind is one that is not the directory's own,
or the unbinding after it was interrupted. -/
def Exchange.EscapesBinding (e : Exchange) (fault : Fault) : Prop :=
  (e.request.isBind = true ∧ e.reply.outcome = .error fault ∧ fault.kind.isDirectory = false) ∨
    e.Interrupts fault

/-- What is open at the end of a run is what the run holds. -/
theorem World.Keeps.openConnections_eq {c : Connector} {deadline : Option Deadline} {w w' : World}
    {held : Option Nat} (h : Keeps c deadline w none w' held) :
    openConnections (w.sent w') = held.toList := by
  obtain ⟨es, hes, hrow, -⟩ := h
  rw [sent_eq hes]
  exact hrow.openConnections_eq

namespace Connector

/-- What a visit is given, in terms of what connecting and binding come to: a bound session, or the
reason why there is none, or nothing if one of them failed. -/
structure Offers (c : Connector) (deadline : Option Deadline) (dn : Option String)
    (password : Option Password) (w : World) (given : Option (Except DenialReason Session)) :
    Prop where
  bound : ∀ s, given = some (.ok s) → s.state = .bound
  reason_eq : ∀ reason, given = some (.error reason) →
    reason = .connectionFailed ∨ reason = .bindRejected
  unconnected_iff : given = some (.error .connectionFailed) ↔ (c.connect deadline w).1 = .ok none
  unbound_iff : given = some (.error .bindRejected) ↔
    ∃ s v, c.connect deadline w = (.ok (some s), v) ∧ (c.bindAs dn password (s, v)).1 = .ok false
  nothing_iff : given = none ↔ ∃ fault, (c.connect deadline w).1 = .error fault ∨
    ∃ s v, c.connect deadline w = (.ok (some s), v) ∧
      (c.bindAs dn password (s, v)).1 = .error fault

/-- What connecting reports: a session with a connection of its own; or none, and nothing is left
open; or a fault, if the deadline cannot be compared with the clock or an unbinding was
interrupted. -/
def ConnectReport (deadline : Option Deadline) (w : World) :
    Except Fault (Option Session) × World → Prop
  | (.ok (some s), w') =>
    s.state = .connected ∧ ∃ n, s.OpenOn n ∧ openConnections (w.sent w') = [n]
  | (.ok none, w') => openConnections (w.sent w') = []
  | (.error fault, w') => deadlineExpired deadline w.clocks.steady = .error fault ∨
      ∃ q ∈ w.sent w', q.Interrupts fault

/-- What binding the session `s` on connection `n` reports: it is bound with the given name, which is
not empty; or it is closed and its connection unbound; or there is a fault, and the session is as it
was. -/
def BindReport (s : Session) (n : Nat) (dn : Option String) (w : World) :
    Except Fault Bool × Session × World → Prop
  | (.ok true, s', w') => s'.state = .bound ∧ s'.boundDn = dn ∧ dn ≠ none ∧ dn ≠ some "" ∧
      s'.OpenOn n ∧ unbindings n (w.sent w') = 0
  | (.ok false, s', w') => s'.state = .closed ∧ s'.connection = some n ∧
      unbindings n (w.sent w') = 1
  | (.error _, s', _) => s' = s

/-- What the callers of a connector see. -/
structure Contains (c : Connector) (deadline : Option Deadline) : Prop where
  connects : ∀ w, ConnectReport deadline w (c.connect deadline w)
  binds : ∀ s n dn password w, s.OpenOn n → s.state = .connected →
    BindReport s n dn w (c.bindAs dn password (s, w))
  /-- A bind fails exactly if the reply to it is a fault that is not the directory's own, or the
  unbinding after it was interrupted. -/
  bind_escapes_iff : ∀ s n dn password w fault, s.OpenOn n → s.state = .connected →
    ((c.bindAs dn password (s, w)).1 = .error fault ↔
      ∃ e ∈ w.sent (c.bindAs dn password (s, w)).2.2, e.EscapesBinding fault)
  /-- A session in any other state is not bound, and nothing changes. -/
  refuses : ∀ s dn password w, s.state ≠ .connected →
    c.bindAs dn password (s, w) = (.error (.session (.bindNotAllowed s.state.name)), s, w)
  /-- Visits are given what connecting and binding come to. -/
  offers : ∀ (α : Type) (refused : DenialReason → Run World α)
    (granted : Run (Session × World) α) dn password w,
    c.Offers deadline dn password w (c.openBound dn password deadline refused granted w).1.given

variable {c : Connector} {deadline : Option Deadline} {dn : Option String}
  {password : Option Password} {s : Session} {n : Nat} {w : World}

/-! ## Connecting -/

theorem connect_report (hd : c.directory.FailsPlainly) (deadline : Option Deadline) (w : World) :
    ConnectReport deadline w (c.connect deadline w) := by
  have hlinked := c.connect_linked deadline w
  have h := c.connect_connecting deadline w
  generalize c.connect deadline w = out at hlinked h ⊢
  cases hlinked with
  | made hs hstate hk => exact ⟨hstate, _, hs, hk.openConnections_eq⟩
  | refused hk => exact hk.openConnections_eq
  | escaped _ =>
    cases h with
    | unreckoned hd => exact .inl hd
    | interrupted _ _ _ _ _ _ _ hq hi =>
      refine .inr ⟨_, ?_, by rw [hq]; rfl, hi⟩
      rw [World.sent_note, World.sent_pushAll]
      simp
    | openingEscaped _ ho hf hk =>
      rw [ho] at hf
      rw [hd _ _ _ _ _ (.inl ⟨_, rfl⟩) hf] at hk
      cases hk
    | upgradeEscaped _ _ _ _ hu hf hk =>
      have hreply := outcome_of_upgradeOutcome hf hk
      rw [hu] at hreply
      rw [hd _ _ _ _ _ (.inr rfl) hreply] at hk
      cases hk

/-! ## Binding -/

theorem unbindings_of_unbind {q : Exchange} (hq : q = w.exchange c.directory n .unbind) :
    unbindings n [q] = 1 := by
  subst hq
  simp [unbindings, Exchange.unbinds]

theorem escapesBinding_of_unbind {q : Exchange} {fault : Fault}
    (hq : q = w.exchange c.directory n .unbind) :
    q.EscapesBinding fault ↔ q.unbindOutcome = .error fault := by
  simp [Exchange.EscapesBinding, Exchange.Interrupts, hq, Request.isBind]

theorem escapesBinding_of_bind {b : Exchange} {user : String} {bytes : List UInt8} {fault : Fault}
    (hb : b = w.exchange c.directory n (.bind user bytes)) :
    b.EscapesBinding fault ↔ b.reply.outcome = .error fault ∧ fault.kind.isDirectory = false := by
  simp [Exchange.EscapesBinding, Exchange.Interrupts, hb, Request.isBind]

/-- Up to the point where a bind is given up nothing was unbound, and no fault escapes. -/
theorem Unbound.mem {es : List Exchange} {record : LogRecord} {reason : String}
    (h : c.Unbound dn password n w es record reason) {b : Exchange} (hb : b ∈ es) :
    b.unbinds = false ∧ ∀ fault, ¬ b.EscapesBinding fault := by
  cases h with
  | anonymous _ | notEncoded _ _ _ => cases hb
  | failed _ hbe hf hk =>
    obtain rfl := List.mem_singleton.1 hb
    refine ⟨by simp [hbe, Exchange.unbinds], fun fault hb => ?_⟩
    obtain ⟨hf', hk'⟩ := (escapesBinding_of_bind hbe).1 hb
    cases hf.symm.trans hf'
    rw [hk] at hk'
    cases hk'
  | rejected _ hbe hf =>
    obtain rfl := List.mem_singleton.1 hb
    refine ⟨by simp [hbe, Exchange.unbinds], fun fault hb => ?_⟩
    have hf' := ((escapesBinding_of_bind hbe).1 hb).1
    cases hf.symm.trans hf'

theorem bindAs_report (hs : s.OpenOn n) (hstate : s.state = .connected) (dn : Option String)
    (password : Option Password) (w : World) :
    BindReport s n dn w (c.bindAs dn password (s, w)) := by
  have h := c.bindAs_binding dn password hs.guarded hstate hs.connection_eq w
  generalize c.bindAs dn password (s, w) = out at h ⊢
  cases h with
  | @refused es _ _ q hu hq hok =>
    refine ⟨by rw [closed_of_ok hok]; rfl, by rw [connection_closed, hs.connection_eq], ?_⟩
    have hbinds : unbindings n es = 0 :=
      List.countP_eq_zero.2 fun e he => by simp [(hu.mem he).1]
    rw [World.sent_note, World.sent_pushAll, unbindings_append, hbinds, unbindings_of_unbind hq]
  | interrupted _ _ _ => rfl
  | escaped _ _ _ _ => rfl
  | @accepted user _ b hsub hb _ =>
    have hdn := hsub.dn_eq
    refine ⟨rfl, hdn.symm, by simp [hdn], by simpa [hdn] using hsub.user_ne,
      ⟨hs.guarded, rfl, hs.connection_eq⟩, ?_⟩
    rw [World.sent_note, World.sent_push]
    simp [unbindings, Exchange.unbinds, hb]

theorem bindAs_eq_error_iff (hs : s.OpenOn n) (hstate : s.state = .connected) (dn : Option String)
    (password : Option Password) (w : World) (fault : Fault) :
    (c.bindAs dn password (s, w)).1 = .error fault ↔
      ∃ e ∈ w.sent (c.bindAs dn password (s, w)).2.2, e.EscapesBinding fault := by
  have h := c.bindAs_binding dn password hs.guarded hstate hs.connection_eq w
  have hlast {es : List Exchange} {record : LogRecord} {reason : String} {q : Exchange}
      (hu : c.Unbound dn password n w es record reason)
      (hq : q = (w.pushAll es).exchange c.directory n .unbind) :
      (∃ e ∈ es ++ [q], e.EscapesBinding fault) ↔ q.unbindOutcome = .error fault := by
    rw [← escapesBinding_of_unbind hq]
    constructor
    · rintro ⟨e, he, hescapes⟩
      rcases List.mem_append.1 he with he | he
      · exact ((hu.mem he).2 fault hescapes).elim
      · rwa [← List.mem_singleton.1 he]
    · exact fun hescapes => ⟨q, by simp, hescapes⟩
  generalize c.bindAs dn password (s, w) = out at h ⊢
  cases h with
  | refused hu hq hok =>
    rw [World.sent_note, World.sent_pushAll, hlast hu hq, hok]
    simp
  | interrupted hu hq hi =>
    rw [World.sent_note, World.sent_pushAll, hlast hu hq, hi]
    simp
  | escaped _ hb hf hk =>
    simp only [World.sent_push, List.mem_singleton, exists_eq_left, escapesBinding_of_bind hb, hf,
      Except.error.injEq]
    exact ⟨fun h => ⟨h, h ▸ hk⟩, And.left⟩
  | accepted _ hb hf => simp [escapesBinding_of_bind hb, hf]

/-- A session that is not connected is not bound, and nothing changes. -/
theorem bindAs_of_not_connected (hstate : s.state ≠ .connected) (dn : Option String)
    (password : Option Password) (w : World) :
    c.bindAs dn password (s, w) = (.error (.session (.bindNotAllowed s.state.name)), s, w) := by
  simp [bindAs, Run.bind_apply, hstate]

/-! ## Visits -/

theorem openBound_offers (hd : c.directory.FailsPlainly) {α : Type}
    (refused : DenialReason → Run World α) (granted : Run (Session × World) α) (dn : Option String)
    (password : Option Password) (w : World) :
    c.Offers deadline dn password w
      (c.openBound dn password deadline refused granted w).1.given := by
  have hconnect := c.connect_report hd deadline w
  unfold openBound
  rcases hc : c.connect deadline w with ⟨fault | _ | s, v⟩
  · constructor <;> simp [hc]
  · constructor <;> simp [hc]
  · rw [hc] at hconnect
    obtain ⟨hstate, n, hs, -⟩ := hconnect
    have hbind := c.bindAs_report hs hstate dn password v
    rcases hb : c.bindAs dn password (s, v) with ⟨fault | _ | _, s', v'⟩
    · constructor <;> simp [hc, hb, release_given, and_assoc]
    · constructor <;> simp [hc, hb, release_given, and_assoc]
    · rw [hb] at hbind
      constructor <;> simp [hc, hb, release_given, and_assoc, hbind.1]

/-- Whatever the directory does, if connecting and upgrading fail plainly, the callers of a
connector see a session or none, a bound session or a closed one. The exceptions are a deadline that
cannot be compared with the clock, a bind that ends with a fault which is not the directory's own,
and an unbinding that is interrupted. -/
theorem contains_of_failsPlainly (c : Connector) (hd : c.directory.FailsPlainly)
    (deadline : Option Deadline) : c.Contains deadline where
  connects := c.connect_report hd deadline
  binds _ _ dn password w hs hstate := c.bindAs_report hs hstate dn password w
  bind_escapes_iff _ _ dn password w fault hs hstate :=
    c.bindAs_eq_error_iff hs hstate dn password w fault
  refuses _ dn password w hstate := c.bindAs_of_not_connected hstate dn password w
  offers _ refused granted dn password w := c.openBound_offers hd refused granted dn password w

end Connector

/-! ## A connection that breaks -/

namespace Sample

/-- A directory whose connections break in the middle of a bind. -/
def breakingBind : Directory := fun past clocks n request =>
  match request with
  | .bind _ _ => ⟨.error (.raised (.system "ConnectionResetError") "reset"), none, [], clocks⟩
  | _ => directory past clocks n request

theorem breakingBind_failsPlainly : breakingBind.FailsPlainly := by
  rintro past clocks n r fault (⟨p, rfl⟩ | rfl) h
  · cases h
  · cases h

/-- The connector of the sample configuration with that directory. -/
def breakingConnector : Connector := { authenticator.connector with directory := breakingBind }

end Sample

/-- Binding a session on a connection that breaks ends with a fault of the operating system. -/
theorem Connector.bindAs_breakingConnector :
    (Sample.breakingConnector.bindAs (some "cn=ann") (some [112, 119])
      (Sample.breakingConnector.connectedSession 0 "2024-01-01T00:00:00Z",
        World.start Sample.clocks)).1 =
      .error (.raised (.system "ConnectionResetError") "reset") := by
  have h := Sample.breakingConnector.contains_of_failsPlainly Sample.breakingBind_failsPlainly none
  have hopen := Sample.breakingConnector.openOn_connectedSession (n := 0) "2024-01-01T00:00:00Z"
  exact (h.bind_escapes_iff _ 0 (some "cn=ann") (some [112, 119]) (World.start Sample.clocks) _
    hopen rfl).2 ⟨_, List.mem_of_getElem? (i := 0) rfl, .inl ⟨rfl, rfl, rfl⟩⟩

end TwoFactorLogin
