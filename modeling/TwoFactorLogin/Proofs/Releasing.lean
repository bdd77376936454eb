import TwoFactorLogin.Proofs.LoggingIn
import TwoFactorLogin.Proofs.Line

/-!
# Every connection is released

Whatever a step of a login does, it begins and ends without a connection, and keeps to the line
between. `World.Keeps` says this of a run, and `Run.Tidy` of a step. Steps that are tidy can be put
in a row, so each function of a login is tidy because the ones that it calls are.

There are two gaps. `Leaves.stranded`: a fault of an upgrade that does not count as a failed
connection passes by the only handler before a session exists, and the connection stays open.
`Leaves.repeated`: where the unbinding itself is interrupted, the session stays as it was, and the
release at the end of the visit unbinds the connection a second time.

* `connect_linked`, `bindAs_binds`: what connecting and binding do to the line.
* `openBound_leased`: what a visit does with the session it was given, whatever its block does.
* `authenticate_tidy`: a login is tidy.
-/

namespace TwoFactorLogin

/-- An upgrade that ends with a fault which does not count as a failed connection. -/
def Exchange.EscapesUpgrade (u : Exchange) (fault : Fault) : Prop :=
  u.request = .startTls ∧ u.reply.outcome = .error fault ∧ fault.kind.isConnection = false

theorem Exchange.not_escapesUpgrade_of_request {e : Exchange} (h : e.request ≠ .startTls)
    (fault : Fault) : ¬ e.EscapesUpgrade fault := fun hu => h hu.1

theorem Exchange.not_escapesUpgrade_of_ok {e : Exchange} {b : Bool} (h : e.reply.outcome = .ok b)
    (fault : Fault) : ¬ e.EscapesUpgrade fault := by
  rintro ⟨-, hf, -⟩
  rw [h] at hf
  cases hf

namespace World

/-- The exchanges that a run from `w` to `w'` added. -/
def sent (w w' : World) : List Exchange := w'.exchanges.drop w.exchanges.length

/-- A run from `w` to `w'` keeps to the line, on which a connection or none is held before it and
after it. No upgrade in it escapes. -/
def Keeps (c : Connector) (deadline : Option Deadline) (w : World) (held : Option Nat) (w' : World)
    (held' : Option Nat) : Prop :=
  ∃ es, w'.exchanges = w.exchanges ++ es ∧
    Line.Row c deadline ⟨w.nextConnection, held⟩ es ⟨w'.nextConnection, held'⟩ ∧
      ∀ e ∈ es, ∀ fault, ¬ e.EscapesUpgrade fault

/-- A run from `w` to `w'` that keeps to the line, and ends with an unbinding that is interrupted. -/
def Breaks (c : Connector) (deadline : Option Deadline) (w : World) (held : Option Nat) (n : Nat)
    (w' : World) : Prop :=
  ∃ v q fault, Keeps c deadline w held v (some n) ∧ q.connection = n ∧ q.Interrupts fault ∧
    w'.exchanges = v.exchanges ++ [q]

variable {c : Connector} {deadline : Option Deadline} {w w' w'' : World}
  {held held' held'' : Option Nat} {n : Nat}

theorem sent_eq {es : List Exchange} (h : w'.exchanges = w.exchanges ++ es) : w.sent w' = es := by
  rw [sent, h, List.drop_left]

/-- What a run sent can be read off the events that it added. -/
theorem sent_of_trace {t : List Event} (h : w'.trace = w.trace ++ t) :
    w.sent w' = t.filterMap Event.exchange? := by
  refine sent_eq ?_
  rw [exchanges, h, List.filterMap_append]
  rfl

/-- What a run sent that went on after some exchanges. -/
theorem sent_of_row {es : List Exchange} {log : List LogRecord} {t : List Event}
    (hw : w' = (w.pushAll es).note log) (h : w''.trace = w'.trace ++ t) :
    w.sent w'' = es ++ t.filterMap Event.exchange? := by
  rw [trace_of_row hw, List.append_assoc] at h
  rw [sent_of_trace h, List.filterMap_append, filterMap_exchange]

@[simp] theorem sent_note (log : List LogRecord) : w.sent (w'.note log) = w.sent w' := rfl

@[simp] theorem sent_pushAll (es : List Exchange) : w.sent (w.pushAll es) = es :=
  sent_eq (exchanges_pushAll es)

@[simp] theorem sent_push (e : Exchange) : w.sent (w.push e) = [e] := sent_pushAll [e]

/-- A run that sends nothing keeps to the line. -/
theorem Keeps.of_silent (h : w'.exchanges = w.exchanges) : Keeps c deadline w held w' held := by
  refine ⟨[], by simp [h], ?_, fun e he => by cases he⟩
  have hnext : w'.nextConnection = w.nextConnection := congrArg connectionCount h
  rw [hnext]
  exact .nil _

theorem Keeps.trans (h : Keeps c deadline w held w' held') (h' : Keeps c deadline w' held' w'' held'') :
    Keeps c deadline w held w'' held'' := by
  obtain ⟨es, hes, hrow, hquiet⟩ := h
  obtain ⟨es', hes', hrow', hquiet'⟩ := h'
  refine ⟨es ++ es', by rw [hes', hes, List.append_assoc], hrow.append hrow', fun e he => ?_⟩
  rcases List.mem_append.1 he with he | he
  · exact hquiet e he
  · exact hquiet' e he

/-- What two runs sent, one after the other. -/
theorem Keeps.sent_trans (h : Keeps c deadline w held w' held')
    (h' : Keeps c deadline w' held' w'' held'') : w.sent w'' = w.sent w' ++ w'.sent w'' := by
  obtain ⟨es, hes, -⟩ := h
  obtain ⟨es', hes', -⟩ := h'
  have hboth : w''.exchanges = w.exchanges ++ (es ++ es') := by
    rw [hes', hes, List.append_assoc]
  rw [sent_eq hboth, sent_eq hes, sent_eq hes']

theorem nextConnection_push (e : Exchange) :
    (w.push e).nextConnection = w.nextConnection + if e.request.isConnect then 1 else 0 := by
  have h := nextConnection_pushAll (w := w) [e]
  cases hc : e.request.isConnect with
  | true => simpa [connectionCount, hc] using h
  | false => simpa [connectionCount, hc] using h

/-- One exchange that is a step of the line. -/
theorem Keeps.of_step {e : Exchange} {next : Nat}
    (hs : Line.Step c deadline ⟨w.nextConnection, held⟩ e ⟨next, held'⟩)
    (hnext : next = w.nextConnection + if e.request.isConnect then 1 else 0)
    (hquiet : ∀ fault, ¬ e.EscapesUpgrade fault) : Keeps c deadline w held (w.push e) held' := by
  refine ⟨[e], exchanges_push e, ?_, fun x hx => ?_⟩
  · rw [nextConnection_push, ← hnext]
    exact .cons hs (.nil _)
  · obtain rfl := List.mem_singleton.1 hx
    exact hquiet

theorem keeps_opened {p : Endpoint} {o : Exchange} {b : Bool} (hp : c.Asks deadline w.clocks.steady p)
    (ho : o = w.exchange c.directory w.nextConnection (.connect p)) (hb : o.reply.outcome = .ok b) :
    Keeps c deadline w none (w.push o) (some w.nextConnection) := by
  have hr : o.request = .connect p := by rw [ho]; rfl
  refine .of_step (.opened (by rw [ho]; rfl) hr (by rw [ho]; exact hp) hb) (by rw [hr]; rfl) ?_
  exact Exchange.not_escapesUpgrade_of_request (by simp [hr])

theorem keeps_unopened {p : Endpoint} {o : Exchange} {fault : Fault}
    (hp : c.Asks deadline w.clocks.steady p)
    (ho : o = w.exchange c.directory w.nextConnection (.connect p))
    (hf : o.reply.outcome = .error fault) : Keeps c deadline w none (w.push o) none := by
  have hr : o.request = .connect p := by rw [ho]; rfl
  refine .of_step (.unopened (by rw [ho]; rfl) hr (by rw [ho]; exact hp) hf) (by rw [hr]; rfl) ?_
  exact Exchange.not_escapesUpgrade_of_request (by simp [hr])

theorem keeps_used {r : Request} {e : Exchange} (he : e = w.exchange c.directory n r)
    (hr : r.isConnect = false) (hne : r ≠ .unbind) (hquiet : ∀ fault, ¬ e.EscapesUpgrade fault) :
    Keeps c deadline w (some n) (w.push e) (some n) := by
  have her : e.request = r := by rw [he]; rfl
  exact .of_step (.used (by rw [he]; rfl) (by rw [her]; exact hr) (by rw [her]; exact hne))
    (by simp [her, hr]) hquiet

theorem keeps_unbound {q : Exchange} (hq : q = w.exchange c.directory n .unbind) :
    Keeps c deadline w (some n) (w.push q) none := by
  have hr : q.request = .unbind := by rw [hq]; rfl
  exact .of_step (.unbound (by rw [hq]; rfl) hr) (by rw [hr]; rfl)
    (Exchange.not_escapesUpgrade_of_request (by simp [hr]))

theorem breaks_unbound {q : Exchange} {fault : Fault} (hq : q = w.exchange c.directory n .unbind)
    (hu : q.unbindOutcome = .error fault) : Breaks c deadline w (some n) n (w.push q) :=
  ⟨w, q, fault, .of_silent rfl, by rw [hq]; rfl, ⟨by rw [hq]; rfl, hu⟩, exchanges_push q⟩

theorem Keeps.breaks (h : Keeps c deadline w held w' held') (h' : Breaks c deadline w' held' n w'') :
    Breaks c deadline w held n w'' := by
  obtain ⟨v, q, fault, hk, hn, hq, hw⟩ := h'
  exact ⟨v, q, fault, h.trans hk, hn, hq, hw⟩

/-- The row of such a run, with the interrupted unbinding as its last exchange. -/
theorem Breaks.row (h : Breaks c deadline w held n w') :
    ∃ es q fault, w'.exchanges = w.exchanges ++ (es ++ [q]) ∧
      Line.Row c deadline ⟨w.nextConnection, held⟩ (es ++ [q]) ⟨w'.nextConnection, none⟩ ∧
        q.connection = n ∧ q.Interrupts fault ∧
          ∀ e ∈ es ++ [q], ∀ fault, ¬ e.EscapesUpgrade fault := by
  obtain ⟨v, q, fault, ⟨es, hes, hrow, hquiet⟩, hn, hq, hw⟩ := h
  have hnext : w'.nextConnection = v.nextConnection := by
    simp [nextConnection, hw, connectionCount, hq.1, Request.isConnect]
  refine ⟨es, q, fault, by rw [hw, hes, List.append_assoc], ?_, hn, hq, ?_⟩
  · rw [hnext]
    exact hrow.snoc (.unbound hn hq.1)
  · refine List.forall_mem_append.2 ⟨hquiet, fun e he => ?_⟩
    obtain rfl := List.mem_singleton.1 he
    exact Exchange.not_escapesUpgrade_of_request (by simp [hq.1])

theorem Breaks.keeps (h : Breaks c deadline w held n w') : Keeps c deadline w held w' none := by
  obtain ⟨es, q, -, hw, hrow, -, -, hquiet⟩ := h.row
  exact ⟨es ++ [q], hw, hrow, hquiet⟩

/-- A connection that is held at the end of a run, and was not before, was opened in it; one that is
held before it and not at its end was unbound in it. -/
theorem Keeps.balance (h : Keeps c deadline w held w' held') (n : Nat) :
    unbindings n (w.sent w') + (if held' = some n then 1 else 0) =
      (if held = some n then 1 else 0) + openings n (w.sent w') := by
  obtain ⟨es, hes, hrow, -⟩ := h
  rw [sent_eq hes]
  exact hrow.balance n

theorem Keeps.openings_le (h : Keeps c deadline w held w' held') (n : Nat) :
    openings n (w.sent w') ≤ 1 := by
  obtain ⟨es, hes, hrow, -⟩ := h
  rw [sent_eq hes]
  exact (hrow.openings_le n).2

end World

open World

/-! ## Tidy steps -/

/-- What a step comes to that begins without a connection: it ends without one; or an upgrade
escaped and left the connection behind; or an unbinding was interrupted and made once more. -/
inductive Leaves (c : Connector) (deadline : Option Deadline) (w : World) {α : Type} :
    Except Fault α × World → Prop
  | tidy {r : Except Fault α} {w' : World} :
      Keeps c deadline w none w' none → Leaves c deadline w (r, w')
  | stranded {v w' : World} {n : Nat} {u : Exchange} {fault : Fault} :
      Keeps c deadline w none v (some n) → u.connection = n → u.EscapesUpgrade fault →
      w'.exchanges = v.exchanges ++ [u] → Leaves c deadline w (.error fault, w')
  | repeated {v w' : World} {n : Nat} {q : Exchange} {fault : Fault} :
      Breaks c deadline w none n v → q.connection = n → q.request = .unbind →
      w'.exchanges = v.exchanges ++ [q] → Leaves c deadline w (.error fault, w')

/-- A step that leaves no connection open, if no upgrade escapes. -/
def Run.Tidy (c : Connector) (deadline : Option Deadline) {α : Type} (x : Run World α) : Prop :=
  ∀ w, Leaves c deadline w (x w)

section Tidy

variable {c : Connector} {deadline : Option Deadline} {w w' : World} {α β : Type}

theorem Leaves.after {out : Except Fault α × World} (hw : Keeps c deadline w none w' none)
    (h : Leaves c deadline w' out) : Leaves c deadline w out := by
  cases h with
  | tidy hk => exact .tidy (hw.trans hk)
  | stranded hk hn hu he => exact .stranded (hw.trans hk) hn hu he
  | repeated hb hn hq he => exact .repeated (hw.breaks hb) hn hq he

/-- A step that failed leaves the same whatever it was to give. -/
theorem Leaves.of_error {fault : Fault}
    (h : Leaves c deadline w ((.error fault, w') : Except Fault α × World)) :
    Leaves c deadline w ((.error fault, w') : Except Fault β × World) := by
  cases h with
  | tidy hk => exact .tidy hk
  | stranded hk hn hu he => exact .stranded hk hn hu he
  | repeated hb hn hq he => exact .repeated hb hn hq he

/-- A step without any request is tidy. -/
theorem Run.tidy_of_silent {x : Run World α} (h : ∀ w, (x w).2.exchanges = w.exchanges) :
    x.Tidy c deadline := fun w => .tidy (.of_silent (h w))

theorem Run.tidy_pure (a : α) : (pure a : Run World α).Tidy c deadline :=
  Run.tidy_of_silent fun _ => rfl

theorem World.tidy_record (r : LogRecord) : (record r).Tidy c deadline :=
  Run.tidy_of_silent fun _ => rfl

theorem World.tidy_expired (d : Option Deadline) : (expired d).Tidy c deadline :=
  Run.tidy_of_silent fun _ => rfl

/-- Tidy steps can be put in a row. -/
theorem Run.tidy_bind {x : Run World α} {f : α → Run World β} (hx : x.Tidy c deadline)
    (hf : ∀ a, (f a).Tidy c deadline) : (x >>= f).Tidy c deadline := by
  intro w
  have h := hx w
  rw [Run.bind_apply]
  generalize x w = out at h ⊢
  cases h with
  | @tidy r v hk =>
    cases r with
    | error fault => exact .tidy hk
    | ok a => exact (hf a v).after hk
  | stranded hk hn hu he => exact .stranded hk hn hu he
  | repeated hb hn hq he => exact .repeated hb hn hq he

end Tidy

namespace Connector

variable {c : Connector} {deadline : Option Deadline} {dn : Option String}
  {password : Option Password} {w : World} {s : Session} {n : Nat} {es : List Exchange}

/-! ## Connecting -/

/-- What connecting does to the line: it holds a new connection, or none. -/
inductive Linked (c : Connector) (deadline : Option Deadline) (w : World) :
    Except Fault (Option Session) × World → Prop
  | made {s : Session} {n : Nat} {w' : World} :
      s.OpenOn n → s.state = .connected → Keeps c deadline w none w' (some n) →
      Linked c deadline w (.ok (some s), w')
  | refused {w' : World} : Keeps c deadline w none w' none → Linked c deadline w (.ok none, w')
  | escaped {fault : Fault} {w' : World} :
      Leaves c deadline w ((.error fault, w') : Except Fault Unit × World) →
      Linked c deadline w (.error fault, w')

theorem Opening.keeps (h : c.Opening deadline w es) :
    Keeps c deadline w none (w.pushAll es) (some w.nextConnection) := by
  cases h with
  | plain _ hp ho hb => exact keeps_opened hp ho hb
  | upgraded _ hp ho hb hu hub =>
    exact (keeps_opened hp ho hb).trans
      (keeps_used hu rfl (by simp) (Exchange.not_escapesUpgrade_of_ok hub))

/-- An upgrade whose fault counts as a failed connection does not escape. -/
theorem not_escapesUpgrade_of_upgradeOutcome {u : Exchange} {fault : Fault}
    (hu : u.upgradeOutcome = .error fault) (hk : fault.kind.isConnection = true) (fault' : Fault) :
    ¬ u.EscapesUpgrade fault' := by
  rintro ⟨-, hr, hk'⟩
  rw [Exchange.upgradeOutcome, hr] at hu
  cases hu
  rw [hk] at hk'
  cases hk'

theorem connect_linked (c : Connector) (deadline : Option Deadline) (w : World) :
    Linked c deadline w (c.connect deadline w) := by
  have h := c.connect_connecting deadline w
  have hheld {p : Endpoint} {o u : Exchange} {b : Bool} {fault : Fault}
      (hp : c.Asks deadline w.clocks.steady p)
      (ho : o = w.exchange c.directory w.nextConnection (.connect p))
      (hb : o.reply.outcome = .ok b)
      (hu : u = (w.push o).exchange c.directory w.nextConnection .startTls)
      (hf : u.upgradeOutcome = .error fault) (hk : fault.kind.isConnection = true) :
      Keeps c deadline w none ((w.push o).push u) (some w.nextConnection) :=
    (keeps_opened hp ho hb).trans
      (keeps_used hu rfl (by simp) (not_escapesUpgrade_of_upgradeOutcome hf hk))
  generalize c.connect deadline w = out at h ⊢
  cases h with
  | unreckoned _ => exact .escaped (.tidy (.of_silent rfl))
  | late _ => exact .refused (.of_silent rfl)
  | unopened hp ho hf _ => exact .refused (keeps_unopened hp ho hf)
  | openingEscaped hp ho hf _ => exact .escaped (.tidy (keeps_unopened hp ho hf))
  | notUpgraded _ hp ho hb hu hf hk hq _ =>
    exact .refused ((hheld hp ho hb hu hf hk).trans (keeps_unbound hq))
  | interrupted _ hp ho hb hu hf hk hq _ =>
    exact .escaped (.tidy ((hheld hp ho hb hu hf hk).trans (keeps_unbound hq)))
  | upgradeEscaped _ hp ho hb hu hf hk =>
    have hreply := outcome_of_upgradeOutcome hf hk
    exact .escaped (.stranded (keeps_opened hp ho hb) (by rw [hu]; rfl)
      ⟨by rw [hu]; rfl, hreply, hk⟩ (exchanges_push _))
  | connected ho => exact .made (c.openOn_connectedSession _) rfl ho.keeps

/-! ## Visits -/

/-- What a block may leave of a session: it is open still, or closed with its connection unbound, or
the block was interrupted in unbinding it. -/
inductive Handled (c : Connector) (deadline : Option Deadline) (n : Nat) (w : World) {α : Type} :
    Except Fault α × Session × World → Prop
  | kept {r : Except Fault α} {s : Session} {w' : World} :
      s.OpenOn n → Keeps c deadline w (some n) w' (some n) → Handled c deadline n w (r, s, w')
  | closed {r : Except Fault α} {s : Session} {w' : World} :
      s.isClosed = true → s.connection = some n → Keeps c deadline w (some n) w' none →
      Handled c deadline n w (r, s, w')
  | interrupted {s : Session} {w' : World} {fault : Fault} :
      s.OpenOn n → Breaks c deadline w (some n) n w' → Handled c deadline n w (.error fault, s, w')

theorem Handled.left {α : Type} {out : Except Fault α × Session × World}
    (h : Handled c deadline n w out) : out.2.1.OpenOn n ∨ out.2.1.isClosed = true := by
  cases h with
  | kept hs _ => exact .inl hs
  | closed hs _ _ => exact .inr hs
  | interrupted hs _ => exact .inl hs

/-- What binding does to the line, on which the session's connection is held. -/
inductive Binds (c : Connector) (deadline : Option Deadline) (n : Nat) (w : World) :
    Except Fault Bool × Session × World → Prop
  | bound {s : Session} {w' : World} :
      s.OpenOn n → Keeps c deadline w (some n) w' (some n) → Binds c deadline n w (.ok true, s, w')
  | refused {s : Session} {w' : World} :
      s.isClosed = true → s.connection = some n → Keeps c deadline w (some n) w' none →
      Binds c deadline n w (.ok false, s, w')
  | escaped {s : Session} {fault : Fault} {w' : World} :
      (∀ α : Type, Handled c deadline n w ((.error fault, s, w') : Except Fault α × Session × World)) →
      Binds c deadline n w (.error fault, s, w')

theorem bindAs_binds (hs : s.OpenOn n) (hstate : s.state = .connected) (dn : Option String)
    (password : Option Password) (deadline : Option Deadline) (w : World) :
    Binds c deadline n w (c.bindAs dn password (s, w)) := by
  have h := c.bindAs_binding dn password hs.guarded hstate hs.connection_eq w
  have hbind {b : Exchange} {user : String} {bytes : List UInt8}
      (hb : b = w.exchange c.directory n (.bind user bytes)) :
      Keeps c deadline w (some n) (w.push b) (some n) :=
    keeps_used hb rfl (by simp) (Exchange.not_escapesUpgrade_of_request (by rw [hb]; simp))
  have hheld {es : List Exchange} {record : LogRecord} {reason : String}
      (hu : c.Unbound dn password n w es record reason) :
      Keeps c deadline w (some n) (w.pushAll es) (some n) := by
    cases hu with
    | anonymous _ | notEncoded _ _ _ => exact .of_silent rfl
    | failed _ hb _ _ | rejected _ hb _ => exact hbind hb
  generalize c.bindAs dn password (s, w) = out at h ⊢
  cases h with
  | refused hu hq hok =>
    rw [World.pushAll_append]
    exact .refused (isClosed_closed hok) (by rw [connection_closed, hs.connection_eq])
      ((hheld hu).trans (keeps_unbound hq))
  | interrupted hu hq hi =>
    rw [World.pushAll_append]
    exact .escaped fun _ => .interrupted hs ((hheld hu).breaks (breaks_unbound hq hi))
  | escaped _ hb _ _ => exact .escaped fun _ => .kept hs (hbind hb)
  | accepted _ hb _ => exact .bound ⟨hs.guarded, rfl, hs.connection_eq⟩ (hbind hb)

/-- A block that keeps to the connection of its session, and closes it with the session or leaves
it open; if it is interrupted in closing it, it ends at once. -/
def Careful (c : Connector) (deadline : Option Deadline) {α : Type}
    (block : Run (Session × World) α) : Prop :=
  ∀ s w n, s.OpenOn n → Handled c deadline n w (block (s, w))

/-- A block without a session that leaves no connection behind. -/
def Neat (c : Connector) (deadline : Option Deadline) {α : Type} (block : Run World α) : Prop :=
  ∀ w, Keeps c deadline w none (block w).2 none

/-- What is left of a session and its connection when the visit is over: the session is closed; or
an unbinding was interrupted, and it may have been made once more. -/
inductive Released (c : Connector) (deadline : Option Deadline) (n : Nat) (w : World) {β α : Type} :
    Lease β α × World → Prop
  | closed {lease : Lease β α} {s : Session} {w' : World} :
      lease.session = some s → s.isClosed = true → s.connection = some n →
      Keeps c deadline w (some n) w' none → Released c deadline n w (lease, w')
  | interrupted {lease : Lease β α} {s : Session} {w' : World} {fault : Fault} :
      lease.session = some s → s.connection = some n → lease.outcome = .error fault →
      Breaks c deadline w (some n) n w' → Released c deadline n w (lease, w')
  | repeated {lease : Lease β α} {s : Session} {v w' : World} {q : Exchange} {fault : Fault} :
      lease.session = some s → s.connection = some n → lease.outcome = .error fault →
      Breaks c deadline w (some n) n v → q.connection = n → q.request = .unbind →
      w'.exchanges = v.exchanges ++ [q] → Released c deadline n w (lease, w')

theorem Released.after {β α : Type} {v : World} {visit : Lease β α × World}
    (hv : Keeps c deadline w (some n) v (some n)) (h : Released c deadline n v visit) :
    Released c deadline n w visit := by
  cases h with
  | closed hs hc hn hk => exact .closed hs hc hn (hv.trans hk)
  | interrupted hs hn hf hb => exact .interrupted hs hn hf (hv.breaks hb)
  | repeated hs hn hf hb hq hr hw => exact .repeated hs hn hf (hv.breaks hb) hq hr hw

theorem release_released {α β : Type} {out : Except Fault α × Session × World}
    (h : Handled c deadline n w out) (given : Option β) :
    Released c deadline n w (c.release given out.1 out.2.1 out.2.2) := by
  cases h with
  | @kept r s v hs hk =>
    simp only [release_of_open hs rfl]
    cases hu : (v.exchange c.directory n .unbind).unbindOutcome with
    | ok _ =>
      exact .closed rfl (isClosed_closed hu) (by rw [connection_closed, hs.connection_eq])
        (hk.trans (keeps_unbound rfl))
    | error fault =>
      exact .interrupted rfl (by rw [connection_closed, hs.connection_eq])
        (Exchange.ending_of_error hu _) (hk.breaks (breaks_unbound rfl hu))
  | closed hs hn hk =>
    simp only [release_of_closed hs]
    exact .closed rfl hs hn hk
  | @interrupted s v fault hs hb =>
    simp only [release_of_open hs rfl]
    obtain ⟨fault', hend⟩ := (v.exchange c.directory n .unbind).exists_ending_eq fault
    exact .repeated rfl (by rw [connection_closed, hs.connection_eq]) (hend α) hb rfl rfl
      (exchanges_push _)

/-- What a visit does with the session that it connected, if it did. -/
inductive Leased (c : Connector) (deadline : Option Deadline) (w : World) {β α : Type} :
    Except Fault (Option Session) × World → Lease β α × World → Prop
  | unconnected {v w' : World} {lease : Lease β α} :
      Keeps c deadline w none w' none → Leased c deadline w (.ok none, v) (lease, w')
  | escaped {v w' : World} {lease : Lease β α} {fault : Fault} :
      Leaves c deadline w (lease.outcome, w') →
      Leased c deadline w (.error fault, v) (lease, w')
  | released {s : Session} {n : Nat} {v : World} {visit : Lease β α × World} :
      s.connection = some n → Keeps c deadline w none v (some n) → Released c deadline n v visit →
      Leased c deadline w (.ok (some s), v) visit

/-- A visit releases the session that it connected, whatever became of the bind and of the block. -/
theorem openBound_leased {α : Type} {refused : DenialReason → Run World α}
    {granted : Run (Session × World) α} (hr : ∀ reason, Neat c deadline (refused reason))
    (hg : Careful c deadline granted) (dn : Option String) (password : Option Password) (w : World) :
    Leased c deadline w (c.connect deadline w)
      (c.openBound dn password deadline refused granted w) := by
  have hcon := c.connect_linked deadline w
  unfold openBound
  generalize c.connect deadline w = out at hcon ⊢
  cases hcon with
  | refused hk => exact .unconnected (hk.trans (hr _ _))
  | escaped hl => exact .escaped hl.of_error
  | @made s n v hs hstate hk =>
    have hb := c.bindAs_binds hs hstate dn password deadline v
    dsimp only
    generalize c.bindAs dn password (s, v) = out at hb ⊢
    refine .released hs.connection_eq hk ?_
    cases hb with
    | @bound s' v' hs' hk' =>
      exact (c.release_released (hg s' v' n hs') _).after hk'
    | @refused s' v' hclosed hn hk' =>
      simp only [release_of_closed hclosed]
      exact .closed rfl hclosed hn (hk'.trans (hr _ _))
    | escaped hh => exact c.release_released (hh α) none

theorem Leased.leaves {β α : Type} {out : Except Fault (Option Session) × World}
    {visit : Lease β α × World} (h : Leased c deadline w out visit) :
    Leaves c deadline w (visit.1.outcome, visit.2) := by
  cases h with
  | unconnected hk => exact .tidy hk
  | escaped hl => exact hl
  | released _ hk hr =>
    cases hr with
    | closed _ _ _ hk' => exact .tidy (hk.trans hk')
    | interrupted _ _ _ hb => exact .tidy (hk.breaks hb).keeps
    | repeated _ _ hf hb hq hu hw =>
      rw [hf]
      exact .repeated (hk.breaks hb) hq hu hw

/-- A visit with careful blocks is tidy. -/
theorem openBound_tidy {α : Type} {refused : DenialReason → Run World α}
    {granted : Run (Session × World) α} (hr : ∀ reason, Neat c deadline (refused reason))
    (hg : Careful c deadline granted) (dn : Option String) (password : Option Password) :
    (Lease.toRun (c.openBound dn password deadline refused granted)).Tidy c deadline :=
  fun w => (c.openBound_leased hr hg dn password w).leaves

theorem neat_of_silent {α : Type} {block : Run World α}
    (h : ∀ w, (block w).2.exchanges = w.exchanges) : Neat c deadline block :=
  fun w => .of_silent (h w)

/-- A block that leaves its session alone and sends nothing is careful. -/
theorem careful_of_silent {α : Type} {block : Run World α}
    (h : ∀ w, (block w).2.exchanges = w.exchanges) : Careful c deadline (Run.onSecond block) :=
  fun _ w _ hs => .kept hs (.of_silent (h w))

end Connector

/-! ## Resolving -/

namespace Resolver

variable {c : Connector} {deadline : Option Deadline}

theorem derive_silent (config : DirectoryConfig) (username : String) (w : World) :
    (derive config username w).2.exchanges = w.exchanges := by
  simp only [derive, Run.bind_apply, Run.ofExcept_apply]
  rcases config.deriveDn username with fault | dn
  · rfl
  · simp only [World.record_apply]
    rcases DirectoryIdentity.ofText dn with fault | identity <;> rfl

theorem choose_silent (username : String) (dns : List String) (w : World) :
    (choose username dns w).2.exchanges = w.exchanges := by
  match dns with
  | [] => rfl
  | [dn] =>
    simp only [choose, Run.bind_apply, World.record_apply, Run.ofExcept_apply]
    rcases DirectoryIdentity.ofText dn with fault | identity <;> rfl
  | _ :: _ :: _ => rfl

/-- The block of a search sends one request on the connection of its session. -/
theorem searchBound_careful (config : DirectoryConfig) (username : String) :
    c.Careful deadline (searchBound config c.directory username) := by
  intro s w n hs
  obtain ⟨f, hf⟩ : ∃ f, f = w.exchange c.directory n
      (.search config.userBaseDn (config.userFilter username) config.usernameAttributes) :=
    ⟨_, rfl⟩
  obtain ⟨log, -, hsearch⟩ := searchBound_apply config username hs.connection_eq hf
  rw [hsearch]
  exact .kept hs (keeps_used hf rfl (by simp)
    (Exchange.not_escapesUpgrade_of_request (by rw [hf]; simp)))

theorem searchFor_tidy (config : DirectoryConfig) (c : Connector) (username : String)
    (deadline : Option Deadline) : (searchFor config c username deadline).Tidy c deadline := by
  unfold searchFor
  refine Run.tidy_bind (c.openBound_tidy (fun _ => Connector.neat_of_silent fun _ => rfl)
    (searchBound_careful config username) _ _) fun found => ?_
  cases found with
  | error reason => exact Run.tidy_pure _
  | ok dns => exact Run.tidy_of_silent (choose_silent username dns)

theorem resolve_tidy (config : DirectoryConfig) (c : Connector) (username : String)
    (deadline : Option Deadline) :
    ((ofConfig config c).resolve username deadline).Tidy c deadline := by
  unfold resolve
  split
  · exact Run.tidy_pure _
  · unfold ofConfig
    by_cases hs : config.usesSearch = true
    · rw [if_pos hs]
      exact searchFor_tidy config c username deadline
    · rw [if_neg hs]
      exact Run.tidy_of_silent (derive_silent config username)

end Resolver

/-! ## Logins -/

namespace Authenticator

variable {a : Authenticator} {directory : Directory} {store : SecretStore} {config : AuthConfig}
  {transport : Option Transport}

/-- The exchanges of a login that asked the store. -/
theorem Probe.Happens.sent_eq {p : Probe} {credentials : Credentials} {deadline : Option Deadline}
    {w w' : World} (h : p.Happens a credentials deadline w w') :
    w.sent w' = p.before ++ [p.unbind] := by
  rw [World.sent_of_trace h.trace_eq, Probe.events, List.filterMap_append, World.filterMap_exchange]
  rfl

theorem deny_tidy {c : Connector} {deadline : Option Deadline} (credentials : Credentials)
    (reason : DenialReason) (stage : Option Stage) (dn : Option String) :
    (deny credentials reason stage dn).Tidy c deadline :=
  Run.tidy_of_silent fun _ => rfl

/-- The block that checks the second factor asks nothing of the directory. -/
theorem checkSecondFactor_careful (a : Authenticator) (credentials : Credentials)
    (username dn : String) (deadline : Option Deadline) :
    a.connector.Careful deadline
      (Run.onSecond (a.checkSecondFactor credentials username dn deadline)) :=
  Connector.careful_of_silent fun w =>
    (a.checkSecondFactor_probing credentials username dn deadline w).world.1

theorem checkFactors_tidy (a : Authenticator) (credentials : Credentials) (username : String)
    (identity : DirectoryIdentity) (deadline : Option Deadline) :
    (a.checkFactors credentials username identity deadline).Tidy a.connector deadline :=
  a.connector.openBound_tidy (fun _ => Connector.neat_of_silent fun _ => rfl)
    (a.checkSecondFactor_careful credentials username identity.dn deadline) _ _

theorem authenticateAs_tidy (a : Authenticator) (credentials : Credentials) (username : String)
    (identity : DirectoryIdentity) (deadline : Option Deadline) :
    (a.authenticateAs credentials username identity deadline).Tidy a.connector deadline := by
  unfold authenticateAs
  refine Run.tidy_bind (World.tidy_expired _) fun late => ?_
  split
  · exact Run.tidy_bind (deny_tidy _ _ _ _) fun _ => Run.tidy_pure _
  · refine Run.tidy_bind (a.checkFactors_tidy credentials username identity deadline) fun denied => ?_
    cases denied with
    | some denied => exact Run.tidy_pure _
    | none =>
      refine Run.tidy_bind (Run.tidy_of_silent fun _ => rfl) fun date => ?_
      exact Run.tidy_bind (World.tidy_record _) fun _ => Run.tidy_pure _

/-- A login leaves no connection open, if no upgrade escapes. -/
theorem authenticate_tidy (ha : a.Built directory store config transport)
    (credentials : Credentials) (deadline : Option Deadline) :
    (a.authenticate credentials deadline).Tidy a.connector deadline := by
  unfold authenticate
  split
  · exact Run.tidy_bind (deny_tidy _ _ _ _) fun _ => Run.tidy_pure _
  · refine Run.tidy_bind (World.tidy_record _) fun _ => ?_
    refine Run.tidy_bind (World.tidy_expired _) fun late => ?_
    split
    · exact Run.tidy_bind (deny_tidy _ _ _ _) fun _ => Run.tidy_pure _
    · rw [ha.resolver_eq]
      refine Run.tidy_bind (Resolver.resolve_tidy _ _ _ deadline) fun resolved => ?_
      cases resolved with
      | error reason => exact Run.tidy_bind (deny_tidy _ _ _ _) fun _ => Run.tidy_pure _
      | ok identity => exact a.authenticateAs_tidy _ _ identity deadline

end Authenticator

end TwoFactorLogin
