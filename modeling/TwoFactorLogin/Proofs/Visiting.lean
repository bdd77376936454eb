import TwoFactorLogin.Proofs.Connecting

/-!
# Errands on a connection of their own

Whenever something is asked of the directory, it is on a new connection, which is opened, bound
once, and released. `Errand` says this of a row of exchanges. `Visit` lists the three things that
`Connector.openBound` can do with its two blocks: run neither, run the one that handles a refusal,
or run the other on a bound session and release the session after it. The list is one for all
blocks, so it also serves to compare two visits that differ only in what they do once bound.

* `Errand`: nothing but the opening comes before the bind of an errand.
* `openBound_visit`: the list is complete.
-/

namespace TwoFactorLogin

/-- Whether a request is a bind. -/
def Request.isBind : Request → Bool
  | bind _ _ => true
  | _ => false

/-- Whether a request may be sent on a bound connection. -/
def Request.followsBind : Request → Bool
  | search _ _ _ | unbind => true
  | _ => false

/-- The exchange of a bind that the directory accepted. -/
def Exchange.IsAcceptedBind (e : Exchange) : Prop :=
  e.request.isBind = true ∧ e.reply.outcome = .ok true

namespace Connector

/-- The exchanges by which a connection is opened. The transport decides whether it is encrypted
from the first byte, and whether it is upgraded; each exchange succeeds. -/
inductive Opens (c : Connector) (n : Nat) : List Exchange → Prop
  | plain {p : Endpoint} {o : Exchange} {b : Bool} :
      c.transport.requiresUpgrade = false → o.connection = n → o.request = .connect p →
      p.useSsl = c.transport.useSsl → o.reply.outcome = .ok b → Opens c n [o]
  | upgraded {p : Endpoint} {o u : Exchange} {b : Bool} :
      c.transport.requiresUpgrade = true → o.connection = n → o.request = .connect p →
      p.useSsl = c.transport.useSsl → o.reply.outcome = .ok b → u.connection = n →
      u.request = .startTls → u.reply.outcome = .ok true → Opens c n [o, u]

/-- The exchanges of one errand: all are the directory's answers on one new connection, the first
opens it, and a bind comes right after the opening, with the given name and password. After the bind
there are only searches and unbinding. -/
structure Errand (c : Connector) (dn : Option String) (password : Option Password) (w : World)
    (es : List Exchange) : Prop where
  answered : w.Answers c.directory es
  on_connection : ∀ e ∈ es, e.connection = w.nextConnection
  first : ∀ e ∈ es.head?, e.request.isConnect = true
  later : ∀ e ∈ es.tail, e.request.isConnect = false
  binds : Throughout (fun pre b _ => ∀ user bytes, b.request = .bind user bytes →
    c.Opens w.nextConnection pre ∧ Submits dn password user bytes) es
  after_bind : Throughout (fun pre e _ => (∃ b ∈ pre, b.request.isBind = true) →
    e.request.followsBind = true) es

/-- Where a fault that nobody handles can come from: the directory left the clocks at a time that
the deadline cannot be compared with, or it raised a fault that is not of its own kinds. -/
def Strays (c : Connector) (deadline : Option Deadline) (w : World) (fault : Fault) : Prop :=
  (∃ es, w.Answers c.directory es ∧
      deadlineExpired deadline (w.pushAll es).clocks.steady = .error fault) ∨
    ∃ v n r, (World.exchange v c.directory n r).reply.outcome = .error fault ∧
      fault.kind.isDirectory = false

variable {c : Connector} {dn : Option String} {password : Option Password}
  {deadline : Option Deadline} {w : World} {es : List Exchange} {n : Nat}

/-! ## Opening -/

theorem Opening.opens (h : c.Opening deadline w es) : c.Opens w.nextConnection es := by
  cases h with
  | plain hr hp ho hb =>
    obtain ⟨-, _, _, -, -, rfl⟩ := hp
    exact .plain hr (by simp [ho]) (by simp [ho]; rfl) rfl hb
  | upgraded hr hp ho hb hu hub =>
    obtain ⟨-, _, _, -, -, rfl⟩ := hp
    exact .upgraded hr (by simp [ho]) (by simp [ho]; rfl) rfl hb (by simp [hu]) (by simp [hu]) hub

/-- A connection is only opened while the deadline has not expired. -/
theorem Opening.in_time (h : c.Opening deadline w es) :
    deadlineExpired deadline w.clocks.steady = .ok false := by
  cases h with
  | plain _ hp => exact hp.1
  | upgraded _ hp => exact hp.1

@[simp] theorem opening_note (log : List LogRecord) :
    c.Opening deadline (w.note log) es ↔ c.Opening deadline w es := by
  constructor
  · intro h
    cases h with
    | plain hr hp ho hb => exact .plain hr hp ho hb
    | upgraded hr hp ho hb hu hub => exact .upgraded hr hp ho hb hu hub
  · intro h
    cases h with
    | plain hr hp ho hb => exact .plain hr hp ho hb
    | upgraded hr hp ho hb hu hub => exact .upgraded hr hp ho hb hu hub

theorem Opens.ne_nil (h : c.Opens n es) : es ≠ [] := by
  cases h <;> simp

theorem Opens.length_eq (h : c.Opens n es) :
    es.length = if c.transport.requiresUpgrade then 2 else 1 := by
  cases h with
  | plain hr => simp [hr]
  | upgraded hr => simp [hr]

/-- Opening a connection neither binds nor unbinds nor searches. -/
theorem Opens.request_eq (h : c.Opens n es) {e : Exchange} (he : e ∈ es) :
    (∃ p, e.request = .connect p) ∨ e.request = .startTls := by
  cases h with
  | plain _ _ ho =>
    obtain rfl := List.mem_singleton.1 he
    exact .inl ⟨_, ho⟩
  | upgraded _ _ ho _ _ _ hu =>
    obtain rfl | rfl : e = _ ∨ e = _ := by simpa using he
    · exact .inl ⟨_, ho⟩
    · exact .inr hu

theorem Opens.isBind_eq (h : c.Opens n es) {e : Exchange} (he : e ∈ es) :
    e.request.isBind = false := by
  rcases h.request_eq he with ⟨p, hp⟩ | hp <;> rw [hp] <;> rfl

/-! ## Errands, exchange by exchange -/

theorem Errand.nil : c.Errand dn password w [] where
  answered := trivial
  on_connection e he := by simp at he
  first e he := by simp at he
  later e he := by simp at he
  binds := throughout_nil
  after_bind := throughout_nil

@[simp] theorem errand_note (log : List LogRecord) :
    c.Errand dn password (w.note log) es ↔ c.Errand dn password w es :=
  ⟨fun ⟨ha, hc, hf, hl, hb, hq⟩ => ⟨(World.answers_note log).1 ha, hc, hf, hl, hb, hq⟩,
    fun ⟨ha, hc, hf, hl, hb, hq⟩ => ⟨(World.answers_note log).2 ha, hc, hf, hl, hb, hq⟩⟩

/-- An errand begins with the opening of a connection. -/
theorem Errand.start {o : Exchange} {p : Endpoint}
    (ho : o = w.exchange c.directory w.nextConnection (.connect p)) :
    c.Errand dn password w [o] where
  answered := ⟨by rw [ho]; rfl, trivial⟩
  on_connection e he := by
    obtain rfl := List.mem_singleton.1 he
    rw [ho]
    rfl
  first e he := by
    obtain rfl : o = e := by simpa using he
    rw [ho]
    rfl
  later e he := by simp at he
  binds := by
    refine throughout_singleton.2 fun user bytes hb => ?_
    rw [ho] at hb
    cases hb
  after_bind := throughout_singleton.2 fun ⟨b, hb, _⟩ => by simp at hb

/-- An errand goes on with an exchange on its connection. A bind has to come right after the
opening, and only some requests may follow it. -/
theorem Errand.snoc (h : c.Errand dn password w es) (hne : es ≠ []) {e : Exchange} {r : Request}
    (he : e = (w.pushAll es).exchange c.directory w.nextConnection r)
    (hc : r.isConnect = false)
    (hb : ∀ user bytes, r = .bind user bytes →
      c.Opens w.nextConnection es ∧ Submits dn password user bytes)
    (hf : (∃ b ∈ es, b.request.isBind = true) → r.followsBind = true) :
    c.Errand dn password w (es ++ [e]) where
  answered := World.answers_append.2 ⟨h.answered, by rw [he]; rfl, trivial⟩
  on_connection x hx := by
    rcases List.mem_append.1 hx with hx | hx
    · exact h.on_connection x hx
    · obtain rfl := List.mem_singleton.1 hx
      rw [he]
      rfl
  first x hx := by
    rw [List.head?_append, List.head?_eq_some_head hne] at hx
    exact h.first x (by rw [List.head?_eq_some_head hne]; exact hx)
  later x hx := by
    rw [List.tail_append_of_ne_nil hne] at hx
    rcases List.mem_append.1 hx with hx | hx
    · exact h.later x hx
    · obtain rfl := List.mem_singleton.1 hx
      rw [he]
      exact hc
  binds := by
    refine throughout_append.2 ⟨h.binds, throughout_singleton.2 fun user bytes hreq => ?_⟩
    rw [he] at hreq
    rw [List.append_nil]
    exact hb user bytes hreq
  after_bind := by
    refine throughout_append.2 ⟨h.after_bind, throughout_singleton.2 fun hbound => ?_⟩
    rw [List.append_nil] at hbound
    rw [he]
    exact hf hbound

/-- An errand goes on with a search or the unbinding. -/
theorem Errand.onward (h : c.Errand dn password w es) (hne : es ≠ []) {e : Exchange} {r : Request}
    (he : e = (w.pushAll es).exchange c.directory w.nextConnection r)
    (hf : r.followsBind = true) : c.Errand dn password w (es ++ [e]) := by
  refine h.snoc hne he ?_ (fun user bytes hr => ?_) fun _ => hf
  · cases r with
    | connect => cases hf
    | _ => rfl
  · rw [hr] at hf
    cases hf

/-- An errand may upgrade the connection that it just opened. -/
theorem Errand.upgrade {o u : Exchange} {p : Endpoint}
    (ho : o = w.exchange c.directory w.nextConnection (.connect p))
    (hu : u = (w.push o).exchange c.directory w.nextConnection .startTls) :
    c.Errand dn password w [o, u] := by
  refine (Errand.start ho).snoc (by simp) hu rfl (fun user bytes hr => by cases hr) ?_
  rintro ⟨b, hb, hbind⟩
  obtain rfl := List.mem_singleton.1 hb
  rw [ho] at hbind
  cases hbind

/-- An errand takes up one connection, unless nothing was sent. -/
theorem Errand.connectionCount_eq (h : c.Errand dn password w es) :
    connectionCount es = if es = [] then 0 else 1 := by
  cases es with
  | nil => rfl
  | cons o rest =>
    have ho : o.request.isConnect = true := h.first o (by simp)
    have hrest : (rest.filter fun e => e.request.isConnect) = [] :=
      List.filter_eq_nil_iff.2 fun e he => by simp [h.later e he]
    simp [connectionCount, ho, hrest]

/-- The connection of an errand has a number that was not used, and is not used again. -/
theorem Errand.connection_lt (h : c.Errand dn password w es) {e : Exchange} (he : e ∈ es) :
    w.nextConnection ≤ e.connection ∧ e.connection < (w.pushAll es).nextConnection := by
  have hne : es ≠ [] := List.ne_nil_of_mem he
  rw [World.nextConnection_pushAll, h.connectionCount_eq, if_neg hne, h.on_connection e he]
  omega

theorem Opening.errand (h : c.Opening deadline w es) : c.Errand dn password w es := by
  cases h with
  | plain _ _ ho => exact .start ho
  | upgraded _ _ ho _ hu =>
    exact .upgrade ho hu

/-- The errand up to its bind. -/
theorem Opening.errand_bind (h : c.Opening deadline w es) {user : String} {bytes : List UInt8}
    (hs : Submits dn password user bytes) {b : Exchange}
    (hb : b = (w.pushAll es).exchange c.directory w.nextConnection (.bind user bytes)) :
    c.Errand dn password w (es ++ [b]) := by
  refine h.errand.snoc h.opens.ne_nil hb rfl (fun user' bytes' hr => ?_) ?_
  · cases hr
    exact ⟨h.opens, hs⟩
  · rintro ⟨e, he, hbind⟩
    rw [h.opens.isBind_eq he] at hbind
    cases hbind

/-- An errand without an accepted bind is over when its connection is unbound. -/
theorem Errand.isAcceptedBind_unbind {q : Exchange} {v : World}
    (h : ∀ e ∈ es, ¬ e.IsAcceptedBind) (hq : q = v.exchange c.directory n .unbind) :
    ∀ e ∈ es ++ [q], ¬ e.IsAcceptedBind := by
  intro e he
  rcases List.mem_append.1 he with he | he
  · exact h e he
  · obtain rfl := List.mem_singleton.1 he
    rintro ⟨hb, -⟩
    rw [hq] at hb
    cases hb

/-! ## What connecting and binding come to -/

/-- What connecting comes to: a connection is open, or whatever was sent is no bind. -/
inductive Contact (c : Connector) (deadline : Option Deadline) (w : World) :
    Except Fault (Option Session) × World → Prop
  | made {es : List Exchange} : c.Opening deadline w es →
      Contact c deadline w
        (.ok (some (c.connectedSession w.nextConnection (w.pushAll es).clocks.date)),
          (w.pushAll es).note c.connectedLog)
  | failed {es : List Exchange} {log : List LogRecord} {w' : World} :
      (∀ dn password, c.Errand dn password w es) → (∀ e ∈ es, ¬ e.IsAcceptedBind) →
      w' = (w.pushAll es).note log → Contact c deadline w (.ok none, w')
  | escaped {es : List Exchange} {log : List LogRecord} {w' : World} {fault : Fault} :
      (∀ dn password, c.Errand dn password w es) → (∀ e ∈ es, ¬ e.IsAcceptedBind) →
      c.Strays deadline w fault → w' = (w.pushAll es).note log →
      Contact c deadline w (.error fault, w')

/-- What binding a session comes to after its connection was opened: it is bound, or the errand is
over. -/
inductive Admission (c : Connector) (dn : Option String) (password : Option Password)
    (deadline : Option Deadline) (w : World) (es : List Exchange) :
    Except Fault Bool × Session × World → Prop
  | granted {user : String} {bytes : List UInt8} {b : Exchange} {s : Session}
      {log : List LogRecord} {w' : World} :
      Submits dn password user bytes →
      b = (w.pushAll es).exchange c.directory w.nextConnection (.bind user bytes) →
      b.reply.outcome = .ok true → s.OpenOn w.nextConnection →
      w' = (w.pushAll (es ++ [b])).note log →
      Admission c dn password deadline w es (.ok true, s, w')
  | refused {es' : List Exchange} {s : Session} {log : List LogRecord} {w' : World} :
      c.Errand dn password w es' → (∀ e ∈ es', ¬ e.IsAcceptedBind) → s.isClosed = true →
      w' = (w.pushAll es').note log →
      Admission c dn password deadline w es (.ok false, s, w')
  | escaped {es' : List Exchange} {s : Session} {log : List LogRecord} {w' : World}
      {fault : Fault} :
      c.Errand dn password w es' → es' ≠ [] → (∀ e ∈ es', ¬ e.IsAcceptedBind) →
      s.OpenOn w.nextConnection → c.Strays deadline w fault →
      w' = (w.pushAll es').note log →
      Admission c dn password deadline w es (.error fault, s, w')

theorem Strays.of_reply {fault : Fault} {e : Exchange} {v : World} {m : Nat} {r : Request}
    (he : e = v.exchange c.directory m r) (hf : e.reply.outcome = .error fault)
    (hk : fault.kind.isDirectory = false) : c.Strays deadline w fault :=
  .inr ⟨v, m, r, by rw [← he, hf], hk⟩

/-- An interruption of the unbinding is none of the directory's own faults. -/
theorem Strays.of_interruption {fault : Fault} {q : Exchange} {v : World} {m : Nat}
    (hq : q = v.exchange c.directory m .unbind) (h : q.unbindOutcome = .error fault) :
    c.Strays deadline w fault := by
  obtain ⟨hf, hi⟩ := Exchange.unbindOutcome_eq_error.1 h
  refine .of_reply hq hf ?_
  cases hk : fault.kind with
  | directory => simp [hk, FaultKind.isInterruption] at hi
  | _ => rfl

theorem Strays.after {fault : Fault} (he : w.Answers c.directory es)
    (h : c.Strays deadline (w.pushAll es) fault) : c.Strays deadline w fault := by
  rcases h with ⟨es', he', hd⟩ | h
  · refine .inl ⟨es ++ es', World.answers_append.2 ⟨he, he'⟩, ?_⟩
    rw [World.pushAll_append]
    exact hd
  · exact .inr h

@[simp] theorem strays_note (log : List LogRecord) {fault : Fault} :
    c.Strays deadline (w.note log) fault ↔ c.Strays deadline w fault := by
  simp [Strays]

theorem isDirectory_of_isConnection {k : FaultKind} (h : k.isConnection = false) :
    k.isDirectory = false := by
  cases k with
  | directory => cases h
  | _ => rfl

theorem isConnection_of_isDirectory {k : FaultKind} (h : k.isDirectory = true) :
    k.isConnection = true := by
  cases hk : k.isConnection with
  | true => rfl
  | false =>
    rw [isDirectory_of_isConnection hk] at h
    cases h

/-- An upgrade only lets a fault through that is the reply's own. -/
theorem outcome_of_upgradeOutcome {u : Exchange} {fault : Fault}
    (hu : u.upgradeOutcome = .error fault) (hk : fault.kind.isConnection = false) :
    u.reply.outcome = .error fault := by
  unfold Exchange.upgradeOutcome at hu
  cases hr : u.reply.outcome with
  | error fault' => simpa [hr] using hu
  | ok b =>
    cases b with
    | true => simp [hr] at hu
    | false =>
      rw [hr] at hu
      cases hu
      cases hk

theorem connect_contact (c : Connector) (deadline : Option Deadline) (w : World) :
    c.Contact deadline w (c.connect deadline w) := by
  have h := c.connect_connecting deadline w
  generalize c.connect deadline w = out at h ⊢
  cases h with
  | connected ho => exact .made ho
  | unreckoned hd =>
    exact .escaped (fun _ _ => .nil) (by simp) (.inl ⟨[], trivial, hd⟩) World.note_nil.symm
  | late hd => exact .failed (fun _ _ => .nil) (by simp) rfl
  | unopened _ ho _ _ =>
    refine .failed (fun _ _ => .start ho) ?_ rfl
    simp [ho, Exchange.IsAcceptedBind, Request.isBind]
  | openingEscaped _ ho hf hk =>
    refine .escaped (fun _ _ => .start ho) ?_ (.of_reply ho hf (isDirectory_of_isConnection hk))
      World.note_nil.symm
    simp [ho, Exchange.IsAcceptedBind, Request.isBind]
  | notUpgraded _ _ ho _ hu _ _ hq =>
    refine .failed (fun dn password => ?_) ?_ rfl
    · exact (Errand.upgrade ho hu).onward (by simp) hq rfl
    · simp [ho, hu, hq, Exchange.IsAcceptedBind, Request.isBind]
  | interrupted _ _ ho _ hu _ _ hq hi =>
    refine .escaped (fun dn password => (Errand.upgrade ho hu).onward (by simp) hq rfl) ?_
      (.of_interruption hq hi) rfl
    simp [ho, hu, hq, Exchange.IsAcceptedBind, Request.isBind]
  | upgradeEscaped _ _ ho _ hu hf hk =>
    refine .escaped (fun _ _ => .upgrade ho hu) ?_
      (.of_reply hu (outcome_of_upgradeOutcome hf hk) (isDirectory_of_isConnection hk))
      World.note_nil.symm
    simp [ho, hu, Exchange.IsAcceptedBind, Request.isBind]

theorem Opening.not_isAcceptedBind (h : c.Opening deadline w es) : ∀ e ∈ es, ¬ e.IsAcceptedBind := by
  intro e he hacc
  rw [Exchange.IsAcceptedBind, h.opens.isBind_eq he] at hacc
  cases hacc.1

theorem Opening.not_isAcceptedBind_append (h : c.Opening deadline w es) {b : Exchange}
    (hb : b.reply.outcome ≠ .ok true) : ∀ e ∈ es ++ [b], ¬ e.IsAcceptedBind := by
  refine List.forall_mem_append.2 ⟨h.not_isAcceptedBind, fun e he hacc => ?_⟩
  obtain rfl := List.mem_singleton.1 he
  exact hb hacc.2

/-- Up to the point where a bind is given up, the exchanges are an errand without an accepted
bind. -/
theorem Opening.errand_unbound (h : c.Opening deadline w es) {log : List LogRecord}
    {es' : List Exchange} {record : LogRecord} {reason : String}
    (hu : c.Unbound dn password w.nextConnection ((w.pushAll es).note log) es' record reason) :
    c.Errand dn password w (es ++ es') ∧ ∀ e ∈ es ++ es', ¬ e.IsAcceptedBind := by
  cases hu with
  | anonymous _ => exact ⟨by simpa using h.errand, by simpa using h.not_isAcceptedBind⟩
  | notEncoded _ _ _ => exact ⟨by simpa using h.errand, by simpa using h.not_isAcceptedBind⟩
  | failed hs hb hf _ => exact ⟨h.errand_bind hs hb, h.not_isAcceptedBind_append (by simp [hf])⟩
  | rejected hs hb hf => exact ⟨h.errand_bind hs hb, h.not_isAcceptedBind_append (by simp [hf])⟩

theorem bindAs_admission (h : c.Opening deadline w es) (log : List LogRecord) (date : String)
    (dn : Option String) (password : Option Password) :
    c.Admission dn password deadline w es
      (c.bindAs dn password (c.connectedSession w.nextConnection date,
        (w.pushAll es).note log)) := by
  have ho := c.openOn_connectedSession (n := w.nextConnection) date
  have hb := c.bindAs_binding dn password ho.guarded rfl ho.connection_eq ((w.pushAll es).note log)
  have hrow (es' : List Exchange) (log' : List LogRecord) :=
    World.pushAll_note_pushAll (w := w) es es' log log'
  generalize c.bindAs dn password _ = out at hb ⊢
  cases hb with
  | @refused es' _ _ q hu hq hok =>
    obtain ⟨he, hquiet⟩ := h.errand_unbound hu
    have hne : es ++ es' ≠ [] := by simp [h.opens.ne_nil]
    exact .refused (he.onward hne (by simpa using hq) rfl)
      (Errand.isAcceptedBind_unbind hquiet hq) (isClosed_closed hok)
      (by rw [hrow (es' ++ [q]), List.append_assoc])
  | @interrupted es' _ _ q _ hu hq hi =>
    obtain ⟨he, hquiet⟩ := h.errand_unbound hu
    have hne : es ++ es' ≠ [] := by simp [h.opens.ne_nil]
    exact .escaped (he.onward hne (by simpa using hq) rfl) (by simp)
      (Errand.isAcceptedBind_unbind hquiet hq) ho (.of_interruption hq hi)
      (by rw [hrow (es' ++ [q]), List.append_assoc])
  | @escaped _ _ b _ hs hbe hf hk =>
    have hw := hrow [b] []
    rw [World.note_nil] at hw
    exact .escaped (h.errand_bind hs hbe) (by simp) (h.not_isAcceptedBind_append (by simp [hf])) ho
      (.of_reply hbe hf hk) hw
  | @accepted _ _ b hs hbe hf =>
    exact .granted hs hbe hf ⟨ho.guarded, rfl, rfl⟩ (hrow [b] _)

/-! ## Visits -/

theorem release_of_closed {α β : Type} {s : Session} (hs : s.isClosed = true) (given : Option β)
    (outcome : Except Fault α) (w : World) :
    c.release given outcome s w = (⟨given, outcome, some s⟩, w) := by
  simp only [release, disconnect_of_closed hs]

theorem release_of_open {α β : Type} {s : Session} {q : Exchange} (hs : s.OpenOn n)
    (hq : q = w.exchange c.directory n .unbind) (given : Option β) (outcome : Except Fault α) :
    c.release given outcome s w =
      (⟨given, q.ending outcome, some (closed s "disconnect" q)⟩,
        (w.push q).note (c.closingLog s "disconnect" q)) := by
  simp only [release, disconnect_of_open hs hq, Exchange.ending]
  cases q.unbindOutcome <;> rfl

theorem release_given {α β : Type} (c : Connector) (given : Option β) (outcome : Except Fault α)
    (s : Session) (w : World) : (c.release given outcome s w).1.given = given := by
  unfold release
  rcases c.disconnect "disconnect" (s, w) with ⟨fault | _, s', w'⟩ <;> rfl

/-- Everything that `openBound` can do. What it is depends on the block that gets the session only
once the session is bound, so each of the three things is a rule from that block to the outcome. -/
inductive Visit {α : Type} (c : Connector) (dn : Option String) (password : Option Password)
    (deadline : Option Deadline) (refused : DenialReason → Run World α) (w : World) :
    (Run (Session × World) α → Lease (Except DenialReason Session) α × World) → Prop
  | escaped {es : List Exchange} {log : List LogRecord} {session : Option Session} {w' : World}
      {fault : Fault} :
      c.Errand dn password w es → (∀ e ∈ es, ¬ e.IsAcceptedBind) → c.Strays deadline w fault →
      w' = (w.pushAll es).note log →
      Visit c dn password deadline refused w fun _ => (⟨none, .error fault, session⟩, w')
  | refused {es : List Exchange} {log : List LogRecord} {session : Option Session} {w' : World}
      {reason : DenialReason} :
      c.Errand dn password w es → (∀ e ∈ es, ¬ e.IsAcceptedBind) →
      w' = (w.pushAll es).note log →
      Visit c dn password deadline refused w fun _ =>
        (⟨some (.error reason), (refused reason w').1, session⟩, (refused reason w').2)
  | granted {es : List Exchange} {user : String} {bytes : List UInt8} {b : Exchange} {s : Session}
      {log : List LogRecord} {w' : World} :
      c.Opening deadline w es → Submits dn password user bytes →
      b = (w.pushAll es).exchange c.directory w.nextConnection (.bind user bytes) →
      b.reply.outcome = .ok true → s.OpenOn w.nextConnection →
      w' = (w.pushAll (es ++ [b])).note log →
      Visit c dn password deadline refused w fun granted =>
        c.release (some (.ok s)) (granted (s, w')).1 (granted (s, w')).2.1 (granted (s, w')).2.2

/-- A visit does one of the things listed. -/
theorem openBound_visit {α : Type} (c : Connector) (dn : Option String)
    (password : Option Password) (deadline : Option Deadline)
    (refused : DenialReason → Run World α) (w : World) :
    Visit c dn password deadline refused w fun granted =>
      c.openBound dn password deadline refused granted w := by
  have hcon := c.connect_contact deadline w
  rcases hc : c.connect deadline w with ⟨r, v⟩
  rw [hc] at hcon
  simp only [openBound, hc]
  cases hcon with
  | escaped he hq hs hw => exact .escaped (he dn password) hq hs hw
  | failed he hq hw => exact .refused (he dn password) hq hw
  | @made es ho =>
    have hadm := bindAs_admission ho c.connectedLog (w.pushAll es).clocks.date dn password
    rcases hb : c.bindAs dn password (c.connectedSession w.nextConnection
      (w.pushAll es).clocks.date, (w.pushAll es).note c.connectedLog) with ⟨r, s, v⟩
    rw [hb] at hadm
    simp only [hb]
    cases hadm with
    | granted hs hbe hok hopen hw => exact .granted ho hs hbe hok hopen hw
    | refused he hq hclosed hw =>
      simp only [release_of_closed hclosed]
      exact .refused he hq hw
    | @escaped es' _ log _ fault he hne hq hopen hs hw =>
      generalize hqe : v.exchange c.directory w.nextConnection .unbind = q
      simp only [release_of_open hopen hqe.symm]
      subst hw
      have hstray : ∃ fault', q.ending (.error fault : Except Fault α) = .error fault' ∧
          c.Strays deadline w fault' := by
        cases hu : q.unbindOutcome with
        | ok _ => exact ⟨fault, q.ending_of_ok hu _, hs⟩
        | error fault' => exact ⟨fault', q.ending_of_error hu _, .of_interruption hqe.symm hu⟩
      obtain ⟨fault', hend, hs'⟩ := hstray
      rw [hend]
      exact .escaped (he.onward hne (by simpa using hqe.symm) rfl)
        (Errand.isAcceptedBind_unbind hq hqe.symm) hs' (World.pushAll_note_pushAll es' [q] log _)

end Connector

end TwoFactorLogin
