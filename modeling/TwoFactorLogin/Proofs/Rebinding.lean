import TwoFactorLogin.Proofs.Denial
import TwoFactorLogin.Proofs.Discipline
import TwoFactorLogin.Proofs.Repeating

/-!
# Binding again as a user who logged in

A rebind resolves the name of the user afresh, binds with the password that the user submitted, and
lends the bound session to a block. It asks no store. If the user cannot be bound any more, another
block is entered, without a session.

**The paths.** `Rebinding` lists what a rebind can do. `Barred` says why there is no session, and
`Broken` where a fault comes from that ends the rebind before a block is entered. Directories that
raise no faults but their own leave nothing for `Broken` but a deadline that no double comes near.

**The loan.** A block may do with its session what it likes, as long as it leaves it open, or closed
and unbound (`Considerate`). However it ends, the session is closed afterwards, and its connection
was unbound once in the whole rebind.

**After a login.** If a login let the user in, the same answers bind the user again (`Repeats`): no
path to `Barred` or `Broken` is open then, and the name is the one of the login.

* `rebind_rebinding`: the list of paths is complete.
* `rebind_faithful`: the loan, and the rebind after a login.
-/

namespace TwoFactorLogin

/-- The directory fails with faults of its own, and keeps a steady clock that shows doubles. -/
structure WellBehaved (directory : Directory) : Prop extends directory.FailsAlone where
  steady : ∀ {es c n r}, (∃ now, c.steady = .double now) →
    ∃ now, (directory es c n r).clocks.steady = .double now

namespace Connector

variable {c : Connector} {dn : Option String} {password : Option Password}
  {deadline : Option Deadline} {w : World} {es : List Exchange} {b : Exchange} {fault : Fault}

/-- No fault of a directory that fails with its own ends a visit before its block, unless the
deadline cannot be compared with the clock. -/
theorem Aborts.unreckonable (h : c.Aborts dn password deadline w fault es)
    (hd : c.directory.FailsAlone) (hw : ∃ now, w.clocks.steady = .double now) :
    ∃ d, deadline = some d ∧ d.Unreckonable :=
  ((deadlineExpired_eq_error hw).1 (h.unreckoned_of_failsAlone hd).2).1

/-- No connection is unbound on the way to a bound session. -/
theorem Welcomes.unbindings_eq (h : c.Welcomes dn password deadline w es b) (n : Nat) :
    unbindings n (es ++ [b]) = 0 := by
  obtain ⟨user, bytes, -, hb⟩ := h.submits
  refine List.countP_eq_zero.2 fun e he => ?_
  rcases List.mem_append.1 he with he | he
  · rcases h.opens.opens.request_eq he with ⟨p, hp⟩ | hp <;> simp [Exchange.unbinds, hp]
  · obtain rfl := List.mem_singleton.1 he
    simp [Exchange.unbinds, hb]

/-- What a block was given may be seen otherwise after the release. -/
theorem map_release {α β γ : Type} (c : Connector) (f : β → γ) (given : Option β)
    (outcome : Except Fault α) (s : Session) (w : World) :
    (⟨(c.release given outcome s w).1.given.map f, (c.release given outcome s w).1.outcome,
        (c.release given outcome s w).1.session⟩, (c.release given outcome s w).2) =
      c.release (given.map f) outcome s w := by
  unfold release
  rcases c.disconnect "disconnect" (s, w) with ⟨fault | _, s', v⟩ <;> rfl

end Connector

namespace Resolver

theorem Aborts.unreckonable {config : DirectoryConfig} {c : Connector} {username : String}
    {deadline : Option Deadline} {w : World} {es : List Exchange} {fault : Fault}
    (h : Aborts username deadline w (.ofConfig config c) fault es) (hd : c.directory.FailsAlone)
    (hw : ∃ now, w.clocks.steady = .double now) : ∃ d, deadline = some d ∧ d.Unreckonable := by
  unfold ofConfig at h
  split at h
  · cases h with
    | unbound ha => exact ha.unreckonable hd hw
    | searching hs hf hk =>
      cases hs with
      | bound _ hfe _ => cases (hd.isDirectory_eq hfe (by simp) hf).symm.trans hk
    | interrupted hs hlast hi =>
      obtain ⟨v, n, hq⟩ := hs.unbinds_last hlast
      cases hi.symm.trans (hd.unbindOutcome_eq hq)
  · cases h

end Resolver

namespace Authenticator

/-! ## The paths -/

/-- Why a user is not bound again, with the exchanges up to that point. -/
inductive Barred (a : Authenticator) (credentials : Credentials) (deadline : Option Deadline)
    (w : World) : List Exchange → Prop
  | incomplete : credentials.isComplete = false → Barred a credentials deadline w []
  | unresolved {username : String} {reason : DenialReason} {es : List Exchange} :
      credentials.isComplete = true → credentials.username = some username →
      Resolver.Declines username deadline w a.resolver reason es →
      Barred a credentials deadline w es
  | unbound {username dn : String} {reason : DenialReason} {es es' : List Exchange} :
      credentials.isComplete = true → a.Named credentials w username dn es →
      a.connector.Refuses (some dn) credentials.password deadline (w.pushAll es) reason es' →
      Barred a credentials deadline w (es ++ es')

/-- Where a fault comes from that ends a rebind before a block is entered. -/
inductive Broken (a : Authenticator) (credentials : Credentials) (deadline : Option Deadline)
    (w : World) : Fault → List Exchange → Prop
  | resolving {username : String} {fault : Fault} {es : List Exchange} :
      credentials.username = some username →
      Resolver.Aborts username deadline w a.resolver fault es →
      Broken a credentials deadline w fault es
  | binding {username dn : String} {fault : Fault} {es es' : List Exchange} :
      a.Named credentials w username dn es →
      a.connector.Aborts (some dn) credentials.password deadline (w.pushAll es) fault es' →
      Broken a credentials deadline w fault (es ++ es')

/-- Everything that a rebind can do. -/
inductive Rebinding {α : Type} (a : Authenticator) (user : AuthenticatedIdentity)
    (deadline : Option Deadline) (absent : Run World α) (granted : Run (Session × World) α)
    (w : World) : Lease (Option Session) α × World → Prop
  | broken {fault : Fault} {es : List Exchange} {log : List LogRecord} {session : Option Session}
      {w' : World} : a.Broken user.credentials deadline w fault es →
      w' = (w.pushAll es).note log →
      Rebinding a user deadline absent granted w (⟨none, .error fault, session⟩, w')
  | absent {es : List Exchange} {log : List LogRecord} {session : Option Session} {v : World} :
      a.Barred user.credentials deadline w es → v = (w.pushAll es).note log →
      Rebinding a user deadline absent granted w
        (⟨some none, (absent v).1, session⟩, (absent v).2)
  | granted {username dn : String} {es op : List Exchange} {b : Exchange} {s : Session}
      {log : List LogRecord} {v : World} : a.Named user.credentials w username dn es →
      a.connector.Welcomes (some dn) user.credentials.password deadline (w.pushAll es) op b →
      s.OpenOn (w.pushAll es).nextConnection → s.state = .bound → s.boundDn = some dn →
      v = (w.pushAll (es ++ (op ++ [b]))).note log →
      Rebinding a user deadline absent granted w
        (a.connector.release (some (some s)) (granted (s, v)).1 (granted (s, v)).2.1
          (granted (s, v)).2.2)

section Rebinding

variable {α : Type} {a : Authenticator} {user : AuthenticatedIdentity}
  {deadline : Option Deadline} {absent : Run World α} {granted : Run (Session × World) α}
  {w : World}

theorem rebind_rebinding (a : Authenticator) (user : AuthenticatedIdentity)
    (deadline : Option Deadline) (absent : Run World α) (granted : Run (Session × World) α)
    (w : World) :
    Rebinding a user deadline absent granted w
      (a.bindAuthenticated user deadline absent granted w) := by
  unfold bindAuthenticated
  cases hc : user.credentials.isComplete with
  | false =>
    simp only [hc, Bool.not_false, if_true]
    exact .absent (.incomplete hc) World.note_nil.symm
  | true =>
    obtain ⟨username, husername, hne⟩ := (Option.any_eq_true _ _).1 (Bool.and_eq_true_iff.1 hc).1
    have hr := a.resolver.resolve_consultation (by simpa using hne) deadline w
    simp only [hc, Bool.not_true, Bool.false_eq_true, if_false, husername, Option.getD_some]
    generalize a.resolver.resolve username deadline w = out at hr ⊢
    cases hr with
    | aborted ha _ hw => exact .broken (.resolving husername ha) hw
    | @declined es log reason v hdeclines _ hw =>
      subst hw
      exact .absent (.unresolved hc husername hdeclines) (World.note_note _ _)
    | @found es log identity v he hy _ hw =>
      have hnamed : a.Named user.credentials w username identity.dn es := ⟨husername, he, hy⟩
      have hv := a.connector.openBound_reception (some identity.dn) user.credentials.password
        deadline (fun reason => do
          World.record (.rebindFailed (some username) reason)
          absent) v
      generalize hrun : (fun granted => a.connector.openBound (some identity.dn)
        user.credentials.password deadline (fun reason => do
          World.record (.rebindFailed (some username) reason)
          absent) granted v) = run at hv
      have hlease := congrFun hrun granted
      dsimp only at hlease ⊢
      rw [hlease]
      subst hw
      have hrow (es' : List Exchange) (log' : List LogRecord) :
          (((w.pushAll es).note log).pushAll es').note log' =
            (w.pushAll (es ++ es')).note (log ++ log') :=
        World.pushAll_note_pushAll es es' log log'
      cases hv with
      | aborted ha _ hw => exact .broken (.binding hnamed ha.of_note) (hw.trans (hrow _ _))
      | @refused reason es' log' _ v' hrefuses _ hw =>
        have hlogged : v'.note [.rebindFailed (some username) reason] =
            (w.pushAll (es ++ es')).note (log ++ log' ++ [.rebindFailed (some username) reason]) := by
          rw [hw, hrow, World.note_note]
        exact .absent (.unbound hc hnamed hrefuses.of_note) hlogged
      | received hb hopen hstate hdn _ hw =>
        rw [Connector.map_release]
        exact .granted hnamed hb.of_note hopen hstate hdn (hw.trans (hrow _ _))

/-! ## The loan -/

/-- Blocks that undo nothing. The one that is lent a session leaves it open, on a connection that it
does not unbind, or closes it and unbinds the connection once. -/
structure Considerate (absent : Run World α) (granted : Run (Session × World) α) : Prop where
  absent : ∀ v, ∃ t, (absent v).2.trace = v.trace ++ t
  granted : ∀ s v n, s.OpenOn n → ∃ t, (granted (s, v)).2.2.trace = v.trace ++ t ∧
    ((granted (s, v)).2.1.OpenOn n ∧ unbindings n (t.filterMap Event.exchange?) = 0 ∨
      (granted (s, v)).2.1.isClosed = true ∧ (granted (s, v)).2.1.connection = some n ∧
        unbindings n (t.filterMap Event.exchange?) = 1)

/-- A session `s` that is lent to a block in the world `v`, on connection `n`. It is bound as the
name that the login name was resolved to in this rebind, by the exchanges before. How the block ends
is how the rebind ends, and the session is closed then, with its connection unbound once. Nothing
but unbinding is sent after the block. -/
structure Loan (a : Authenticator) (user : AuthenticatedIdentity)
    (granted : Run (Session × World) α) (w v : World) (s : Session) (n : Nat)
    (out : Lease (Option Session) α × World) : Prop where
  bound : s.state = .bound
  connection_eq : s.connection = some n
  named : ∃ username dn es es', a.Named user.credentials w username dn es ∧ s.boundDn = some dn ∧
    v.trace = w.trace ++ (es ++ es').map .exchange
  outcome_eq : out.1.outcome = (granted (s, v)).1
  returned : ∃ s', out.1.session = some s' ∧ s'.state = .closed ∧ s'.connection = some n
  unbinds : ∃ after : List Exchange, (∀ e ∈ after, e.request = .unbind) ∧
    out.2.trace = (granted (s, v)).2.2.trace ++ after.map .exchange
  unbound_once : unbindings n (w.sent out.2) = 1

/-- After a block that undid nothing, there is nothing left but to unbind. -/
theorem Considerate.unbinds {s : Session} {v : World} {n : Nat} (hb : Considerate absent granted)
    (hopen : s.OpenOn n) (c : Connector) {β : Type} (given : Option β) :
    ∃ after : List Exchange, (∀ e ∈ after, e.request = .unbind) ∧
      (c.release given (granted (s, v)).1 (granted (s, v)).2.1 (granted (s, v)).2.2).2.trace =
        (granted (s, v)).2.2.trace ++ after.map .exchange := by
  obtain ⟨t, -, ⟨hopen', -⟩ | ⟨hclosed, -, -⟩⟩ := hb.granted s v n hopen
  · rw [Connector.release_of_open hopen' rfl]
    exact ⟨[_], by simp, rfl⟩
  · rw [Connector.release_of_closed hclosed]
    exact ⟨[], by simp, by simp⟩

/-- What a block is lent is taken back. -/
theorem loan_of_welcomed {username dn : String} {es op : List Exchange} {b : Exchange} {s : Session}
    {log : List LogRecord} {v : World} (hd : a.connector.directory.FailsAlone)
    (hb : Considerate absent granted) (hnamed : a.Named user.credentials w username dn es)
    (hwelcomed : a.connector.Welcomes (some dn) user.credentials.password deadline (w.pushAll es)
      op b)
    (hopen : s.OpenOn (w.pushAll es).nextConnection) (hstate : s.state = .bound)
    (hdn : s.boundDn = some dn) (hv : v = (w.pushAll (es ++ (op ++ [b]))).note log) :
    Loan a user granted w v s (w.pushAll es).nextConnection
      (a.connector.release (some (some s)) (granted (s, v)).1 (granted (s, v)).2.1
        (granted (s, v)).2.2) := by
  have hbefore : unbindings (w.pushAll es).nextConnection (es ++ (op ++ [b])) = 0 := by
    have hes : unbindings (w.pushAll es).nextConnection es = 0 :=
      List.countP_eq_zero.2 fun e he => by
        have hne := Nat.ne_of_lt (hnamed.errand.connection_lt he)
        simp [hne]
    rw [unbindings_append, hes, hwelcomed.unbindings_eq]
  obtain ⟨t, ht, hleft⟩ := hb.granted s v _ hopen
  have hsent (after : List Exchange) {w' : World}
      (h : w'.trace = (granted (s, v)).2.2.trace ++ after.map .exchange) :
      unbindings (w.pushAll es).nextConnection (w.sent w') =
        unbindings (w.pushAll es).nextConnection (t.filterMap Event.exchange?) +
          unbindings (w.pushAll es).nextConnection after := by
    rw [ht, List.append_assoc] at h
    rw [World.sent_of_row hv h, List.filterMap_append, World.filterMap_exchange,
      unbindings_append _ (es ++ (op ++ [b])), hbefore, Nat.zero_add, unbindings_append]
  have hnamed' : ∃ username dn es es', a.Named user.credentials w username dn es ∧
      s.boundDn = some dn ∧ v.trace = w.trace ++ (es ++ es').map .exchange :=
    ⟨_, _, _, _, hnamed, hdn, World.trace_of_row hv⟩
  rcases hleft with ⟨hopen', hnone⟩ | ⟨hclosed, hconnection, honce⟩
  · rw [Connector.release_of_open hopen' rfl]
    generalize hq : (granted (s, v)).2.2.exchange a.connector.directory
      (w.pushAll es).nextConnection .unbind = q
    have hunbind : q.request = .unbind ∧ q.connection = (w.pushAll es).nextConnection := by
      rw [← hq]
      exact ⟨rfl, rfl⟩
    have hok := hd.unbindOutcome_eq hq.symm
    rw [Connector.closed_of_ok hok, q.ending_of_ok hok]
    refine ⟨hstate, hopen.connection_eq, hnamed', rfl, ⟨_, rfl, rfl, hopen'.connection_eq⟩,
      ⟨[q], by simp [hunbind], rfl⟩, ?_⟩
    rw [hsent [q] rfl, hnone]
    simp [unbindings, Exchange.unbinds, hunbind]
  · rw [Connector.release_of_closed hclosed]
    refine ⟨hstate, hopen.connection_eq, hnamed', rfl,
      ⟨_, rfl, by simpa [Session.isClosed] using hclosed, hconnection⟩, ⟨[], by simp, by simp⟩, ?_⟩
    rw [hsent [] (by simp), honce]
    rfl

/-- What can be relied on when a user is bound again. -/
structure Faithful (a : Authenticator) (user : AuthenticatedIdentity) (deadline : Option Deadline)
    (absent : Run World α) (granted : Run (Session × World) α) (w : World)
    (out : Lease (Option Session) α × World) : Prop where
  /-- One block is entered, and given one thing, unless the deadline is beyond every double. -/
  entered : (¬ ∃ d, deadline = some d ∧ d.Unreckonable) → ∃ given, out.1.given = some given
  /-- Without complete credentials, nothing is asked of the directory. -/
  incomplete : user.credentials.isComplete = false →
    out = (⟨some none, (absent w).1, none⟩, (absent w).2)
  /-- Without a session, nothing but requests to the directory came before the block, and nothing
  comes after it. -/
  absent : out.1.given = some none → ∃ (v : World) (es : List Exchange),
    v.trace = w.trace ++ es.map .exchange ∧ out.1.outcome = (absent v).1 ∧ out.2 = (absent v).2
  granted : ∀ s, out.1.given = some (some s) → ∃ v n, Loan a user granted w v s n out

/-- A directory that is well behaved lets no fault end a rebind before its block, unless the
deadline cannot be compared with the clock. -/
theorem Broken.unreckonable {directory : Directory} {store : SecretStore} {config : AuthConfig}
    {transport : Option Transport} {es : List Exchange} {fault : Fault}
    (h : a.Broken user.credentials deadline w fault es)
    (ha : a.Built directory store config transport) (hd : WellBehaved directory)
    (hw : ∃ now, w.clocks.steady = .double now) : ∃ d, deadline = some d ∧ d.Unreckonable := by
  rw [← ha.directory_eq] at hd
  cases h with
  | resolving _ hr =>
    rw [ha.resolver_eq] at hr
    exact hr.unreckonable hd.toFailsAlone hw
  | binding hnamed hb =>
    exact hb.unreckonable hd.toFailsAlone ((ha.answers hnamed.errand).clocks_of
      (P := fun c => ∃ now, c.steady = .double now) hd.steady hw)

theorem bindAuthenticated_faithful {directory : Directory} {store : SecretStore}
    {config : AuthConfig} {transport : Option Transport}
    (ha : a.Built directory store config transport) (hd : WellBehaved directory)
    (hw : ∃ now, w.clocks.steady = .double now) (hb : Considerate absent granted)
    (deadline : Option Deadline) :
    Faithful a user deadline absent granted w
      (a.bindAuthenticated user deadline absent granted w) := by
  have hincomplete (hc : user.credentials.isComplete = false) :
      a.bindAuthenticated user deadline absent granted w =
        (⟨some none, (absent w).1, none⟩, (absent w).2) := by
    simp only [bindAuthenticated, hc, Bool.not_false, if_true]
  have h := a.rebind_rebinding user deadline absent granted w
  generalize a.bindAuthenticated user deadline absent granted w = out at h hincomplete ⊢
  cases h with
  | broken hbroken hw' =>
    refine ⟨fun hnot => (hnot (hbroken.unreckonable ha hd hw)).elim, hincomplete, ?_, ?_⟩
    · intro h
      cases h
    · intro s h
      cases h
  | @absent es log session v hbarred hv =>
    refine ⟨fun _ => ⟨none, rfl⟩, hincomplete, fun _ => ⟨v, es, World.trace_of_row hv, rfl, rfl⟩, ?_⟩
    intro s h
    cases h
  | @granted username dn es op b s log v hnamed hwelcomed hopen hstate hdn hv =>
    have hgiven := a.connector.release_given (some (some s)) (granted (s, v)).1 (granted (s, v)).2.1
      (granted (s, v)).2.2
    refine ⟨fun _ => ⟨_, hgiven⟩, hincomplete, fun h => ?_, fun s' h => ?_⟩
    · rw [hgiven] at h
      cases h
    · rw [hgiven] at h
      cases h
      exact ⟨v, _, loan_of_welcomed (ha.directory_eq ▸ hd.toFailsAlone) hb hnamed hwelcomed hopen hstate
        hdn hv⟩

/-! ## After a login -/

theorem Probe.Happens.isComplete {p : Probe} {credentials : Credentials} {w' : World}
    (h : p.Happens a credentials deadline w w') : credentials.isComplete = true := by
  obtain ⟨password, hpassword, hne, -⟩ := h.submits.password_eq
  simp [Credentials.isComplete, h.username_eq, h.username_ne, hpassword, hne]

/-- The name of a login is yielded again when everything comes again, and what the login sent after
that stands beside what the later run sends. -/
theorem Probe.Happens.named_again {p : Probe} {credentials : Credentials} {d : Option Deadline}
    {v w' : World} {username dn : String} {es rest : List Exchange}
    (hp : p.Happens a credentials d v w') (hnamed : a.Named credentials w username dn es)
    (h : Repeats (v.sent w') (es ++ rest)) :
    dn = p.identity.dn ∧ Repeats (p.opening ++ p.bind :: [p.unbind]) rest := by
  obtain rfl : p.username = username :=
    Option.some.inj (hp.username_eq.symm.trans hnamed.username_eq)
  rw [hp.sent_eq, Probe.before, List.append_assoc, List.append_assoc] at h
  obtain ⟨hdn, hlen⟩ := hp.yields.eq_of_repeats hnamed.yields h
  exact ⟨hdn, ((repeats_append hlen).1 h).2⟩

theorem Probe.Happens.request_eq {p : Probe} {credentials : Credentials} {w' : World}
    (h : p.Happens a credentials deadline w w') :
    p.bind.request = .bind p.identity.dn p.bytes := by
  rw [h.bind_eq]
  rfl

theorem Broken.not_again {p : Probe} {credentials : Credentials} {d : Option Deadline}
    {v w' : World} {es rest : List Exchange} {fault : Fault} (hp : p.Happens a credentials d v w')
    (h : Repeats (v.sent w') (es ++ rest)) (hfree : ∀ q ∈ es, ∀ fault, ¬ q.Interrupts fault) :
    ¬ a.Broken credentials none w fault es := by
  intro hbroken
  cases hbroken with
  | resolving husername ha =>
    obtain rfl := Option.some.inj (hp.username_eq.symm.trans husername)
    rw [hp.sent_eq, Probe.before, List.append_assoc, List.append_assoc] at h
    exact ha.not_again hp.yields h hfree
  | binding hnamed ha =>
    rw [List.append_assoc] at h
    obtain ⟨rfl, hrest⟩ := hp.named_again hnamed h
    exact ha.not_again hp.opens.opens hp.submits hp.request_eq hp.accepted hrest

theorem Barred.not_again {p : Probe} {credentials : Credentials} {d : Option Deadline}
    {v w' : World} {es rest : List Exchange} (hp : p.Happens a credentials d v w')
    (h : Repeats (v.sent w') (es ++ rest)) : ¬ a.Barred credentials none w es := by
  intro hbarred
  cases hbarred with
  | incomplete hc => simp [hp.isComplete] at hc
  | unresolved _ husername hdeclines =>
    obtain rfl := Option.some.inj (hp.username_eq.symm.trans husername)
    rw [hp.sent_eq, Probe.before, List.append_assoc, List.append_assoc] at h
    exact hdeclines.not_again hp.yields h
  | unbound _ hnamed hrefuses =>
    rw [List.append_assoc] at h
    obtain ⟨rfl, hrest⟩ := hp.named_again hnamed h
    exact hrefuses.not_again hp.opens.opens hp.submits hp.request_eq hp.accepted hrest

/-- A user who was let in is bound again when everything comes again. -/
theorem Rebinding.again {out : Lease (Option Session) α × World} {p : Probe}
    {d : Option Deadline} {v w' : World} (h : Rebinding a user none absent granted w out)
    (hb : Considerate absent granted) (hp : p.Happens a user.credentials d v w')
    (hrep : Repeats (v.sent w') (w.sent out.2))
    (hfree : ∀ q ∈ w.sent out.2, ∀ fault, ¬ q.Interrupts fault) :
    ∃ s, out.1.given = some (some s) ∧ s.state = .bound ∧ s.boundDn = some p.identity.dn := by
  cases h with
  | broken hbroken hw =>
    rw [World.sent_of_row hw (List.append_nil _).symm] at hrep hfree
    exact (Broken.not_again hp hrep (List.forall_mem_append.1 hfree).1 hbroken).elim
  | @absent es log session u hbarred hu =>
    obtain ⟨t, ht⟩ := hb.absent u
    rw [World.sent_of_row hu ht] at hrep
    exact (Barred.not_again hp hrep hbarred).elim
  | @granted username dn es op b s log u hnamed hwelcomed hopen hstate hdn hu =>
    obtain ⟨t, ht, -⟩ := hb.granted s u _ hopen
    obtain ⟨after, -, hafter⟩ := hb.unbinds hopen a.connector (some (some s))
    rw [ht, List.append_assoc] at hafter
    rw [World.sent_of_row hu hafter, List.append_assoc] at hrep
    obtain ⟨rfl, -⟩ := hp.named_again hnamed hrep
    exact ⟨s, Connector.release_given _ _ _ _ _, hstate, hdn⟩

end Rebinding

end Authenticator

/-! ## A user to bind again -/

namespace Sample

/-- The user of the sample, as a login returns it. -/
def user : AuthenticatedIdentity :=
  ⟨credentials, ⟨"uid=ann,o=org", by decide⟩, "2024-01-01T00:00:00Z"⟩

theorem authenticate_eq :
    authenticator.authenticate credentials none (World.start clocks) =
      (.ok (.ok user), afterLogin) := rfl

/-- A block that does nothing. -/
def idle : Run World Unit := pure ()

/-- A block that leaves its session as it is. -/
def idleWith : Run (Session × World) Unit := pure ()

theorem considerate : Authenticator.Considerate idle idleWith where
  absent _ := ⟨[], (List.append_nil _).symm⟩
  granted _ _ _ hs := ⟨[], (List.append_nil _).symm, .inl ⟨hs, rfl⟩⟩

theorem wellBehaved : WellBehaved directory where
  own _ h := by cases h
  unbinds h := by cases h
  steady h := h

theorem rebind_answered :
    ∀ e ∈ afterLogin.sent
      (authenticator.bindAuthenticated user none idle idleWith afterLogin).2,
      e.reply.outcome.toOption = some true ∧
        e.reply.response = [⟨some "searchResEntry", some "uid=ann,o=org"⟩] := by
  decide +kernel

theorem rebind_unbinds :
    ∀ q ∈ afterLogin.sent
      (authenticator.bindAuthenticated user none idle idleWith afterLogin).2,
      ∀ fault, ¬ q.Interrupts fault :=
  fun q hq => Exchange.not_interrupts_of_answered (rebind_answered q hq).1

/-- The directory of the sample answers everything in one way. -/
theorem repeats_rebind :
    Repeats ((World.start clocks).sent afterLogin)
      (afterLogin.sent
        (authenticator.bindAuthenticated user none idle idleWith afterLogin).2) := by
  have hlogin : ∀ e ∈ (World.start clocks).sent afterLogin,
      e.reply.outcome.toOption = some true ∧
        e.reply.response = [⟨some "searchResEntry", some "uid=ann,o=org"⟩] := by
    decide +kernel
  have hok {r : Except Fault Bool} (h : r.toOption = some true) : r = .ok true := by
    cases r <;> simp_all [Except.toOption]
  rintro ⟨e, e'⟩ hp -
  obtain ⟨he, he'⟩ := List.of_mem_zip hp
  obtain ⟨ho, hr⟩ := hlogin e he
  obtain ⟨ho', hr'⟩ := rebind_answered e' he'
  exact ⟨(hok ho').trans (hok ho).symm, hr'.trans hr.symm⟩

end Sample

namespace Authenticator

/-- A rebind lends its block a bound session and takes it back, or enters the other block. After a
login that let the user in, the user is bound under the same name, if there is no deadline and the
directory answers as it did. -/
theorem rebind_faithful {bundleExists : String → Bool} {directory : Directory}
    {store : SecretStore} {config : AuthConfig} {transport : Option Transport} {w₀ : World}
    {a : Authenticator}
    (hbuilt : (build bundleExists directory store config transport w₀).1 = .ok a)
    {α : Type} {absent : Run World α} {granted : Run (Session × World) α}
    (hb : Considerate absent granted) (user : AuthenticatedIdentity) (w : World) :
    (WellBehaved directory → (∃ now, w.clocks.steady = .double now) → ∀ deadline,
      Faithful a user deadline absent granted w
        (a.bindAuthenticated user deadline absent granted w)) ∧
      ∀ credentials deadline v w', a.authenticate credentials deadline v = (.ok (.ok user), w') →
        Repeats (v.sent w') (w.sent (a.bindAuthenticated user none absent granted w).2) →
        (∀ q ∈ w.sent (a.bindAuthenticated user none absent granted w).2, ∀ fault,
          ¬ q.Interrupts fault) →
          ∃ s, (a.bindAuthenticated user none absent granted w).1.given = some (some s) ∧
            s.state = .bound ∧ s.boundDn = some user.identity.dn := by
  have ha := build_built hbuilt
  refine ⟨fun hd hw deadline => bindAuthenticated_faithful ha hd hw hb deadline, ?_⟩
  intro credentials deadline v w' hlogin hrep hfree
  have h := a.authenticate_loggingIn ha credentials deadline v
  rw [hlogin] at h
  generalize hout : ((Except.ok (Except.ok user), w') : Except Fault LoginResult × World) = out
    at h
  cases h with
  | denied _ _ => cases hout
  | escaped _ _ _ => cases hout
  | @probed p r u hp hr _ =>
    obtain ⟨rfl, rfl⟩ := Prod.mk.inj hout
    replace hr := (Exchange.ending_eq_ok.1 hr.symm).2
    rcases hj : p.lookup.judged a.validator.config credentials.code deadline with
      fault | reason | secret
    · simp [hj, conclude] at hr
    · simp [hj, conclude] at hr
    · obtain rfl : user = ⟨credentials, p.identity, w'.clocks.date⟩ := by
        simpa [hj, conclude] using hr.symm
      exact (a.rebind_rebinding _ none absent granted w).again hb hp hrep hfree

/-- A user who logged in is lent a session right after the login, under the same name. -/
theorem rebind_of_sample :
    Faithful Sample.authenticator Sample.user none Sample.idle Sample.idleWith Sample.afterLogin
        (Sample.authenticator.bindAuthenticated Sample.user none Sample.idle Sample.idleWith
          Sample.afterLogin) ∧
      ∃ s, (Sample.authenticator.bindAuthenticated Sample.user none Sample.idle Sample.idleWith
          Sample.afterLogin).1.given = some (some s) ∧
        s.state = .bound ∧ s.boundDn = some "uid=ann,o=org" := by
  obtain ⟨hfaithful, hagain⟩ :=
    rebind_faithful Sample.build_eq Sample.considerate Sample.user Sample.afterLogin
  exact ⟨hfaithful Sample.wellBehaved ⟨_, rfl⟩ none,
    hagain _ _ _ _ Sample.authenticate_eq Sample.repeats_rebind Sample.rebind_unbinds⟩

end Authenticator

end TwoFactorLogin
