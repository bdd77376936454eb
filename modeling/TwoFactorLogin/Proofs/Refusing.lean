import TwoFactorLogin.Proofs.Resolving

/-!
# Why there is no session, and why there is no name

`Visit` and `Resolving` say what may be sent. This file says, of the same paths, which step failed
and for which reason, and that nothing but the background is logged on the way. Each reason comes
with the exchanges that led to it, so a reason in the log can be held against what happened.

* `Connector.Welcomes`: how a visit comes to a bound session.
* `Connector.Refuses`: why it has none.
* `Resolver.Declines`: why a resolver arrives at no name.
* `Connector.Aborts`, `Resolver.Aborts`: which reply a fault that nobody handles comes from.
* `openBound_reception`, `resolve_consultation`: with these, the lists are complete.
-/

namespace TwoFactorLogin

namespace Connector

variable {c : Connector} {dn : Option String} {password : Option Password}
  {deadline : Option Deadline} {w : World} {es : List Exchange} {reason : DenialReason}
  {fault : Fault} {n : Nat}

/-! ## Visits -/

/-- How a visit comes to a bound session: the connection is opened, and the directory accepts the
bind `b` with the name and the password. -/
structure Welcomes (c : Connector) (dn : Option String) (password : Option Password)
    (deadline : Option Deadline) (w : World) (op : List Exchange) (b : Exchange) : Prop where
  opens : c.Opening deadline w op
  submits : ∃ user bytes, Submits dn password user bytes ∧
    b = (w.pushAll op).exchange c.directory w.nextConnection (.bind user bytes)
  accepted : b.reply.outcome = .ok true

/-- Why a visit has no bound session, with the exchanges up to that point: the connection could not
be made, or the bind was not tried, or it was not accepted. -/
inductive Refuses (c : Connector) (dn : Option String) (password : Option Password)
    (deadline : Option Deadline) (w : World) : DenialReason → List Exchange → Prop
  | late : deadlineExpired deadline w.clocks.steady = .ok true →
      Refuses c dn password deadline w .connectionFailed []
  | unopened {p : Endpoint} {o : Exchange} {fault : Fault} :
      o = w.exchange c.directory w.nextConnection (.connect p) → o.reply.outcome = .error fault →
      Refuses c dn password deadline w .connectionFailed [o]
  | notUpgraded {p : Endpoint} {o u q : Exchange} {fault : Fault} :
      c.transport.requiresUpgrade = true →
      o = w.exchange c.directory w.nextConnection (.connect p) →
      u = (w.push o).exchange c.directory w.nextConnection .startTls →
      u.upgradeOutcome = .error fault →
      q = ((w.push o).push u).exchange c.directory w.nextConnection .unbind →
      Refuses c dn password deadline w .connectionFailed [o, u, q]
  | unsubmitted {es : List Exchange} {q : Exchange} : c.Opening deadline w es →
      (∀ user bytes, ¬ Submits dn password user bytes) →
      q = (w.pushAll es).exchange c.directory w.nextConnection .unbind →
      Refuses c dn password deadline w .bindRejected (es ++ [q])
  | unaccepted {es : List Exchange} {user : String} {bytes : List UInt8} {b q : Exchange} :
      c.Opening deadline w es → Submits dn password user bytes →
      b = (w.pushAll es).exchange c.directory w.nextConnection (.bind user bytes) →
      b.reply.outcome ≠ .ok true →
      q = ((w.pushAll es).push b).exchange c.directory w.nextConnection .unbind →
      Refuses c dn password deadline w .bindRejected (es ++ [b, q])

/-- Where a fault comes from that ends a visit before a block is entered: the deadline cannot be
compared with the clock, or it is the reply to an opening, an upgrade or a bind, or an interruption
of the release. A session that was to be bound is released once more when it is not closed yet. -/
inductive Aborts (c : Connector) (dn : Option String) (password : Option Password)
    (deadline : Option Deadline) (w : World) : Fault → List Exchange → Prop
  | unreckoned {fault : Fault} : deadlineExpired deadline w.clocks.steady = .error fault →
      Aborts c dn password deadline w fault []
  | opening {p : Endpoint} {o : Exchange} {fault : Fault} :
      o = w.exchange c.directory w.nextConnection (.connect p) → o.reply.outcome = .error fault →
      fault.kind.isConnection = false → Aborts c dn password deadline w fault [o]
  | upgrade {p : Endpoint} {o u : Exchange} {fault : Fault} :
      c.transport.requiresUpgrade = true →
      o = w.exchange c.directory w.nextConnection (.connect p) →
      u = (w.push o).exchange c.directory w.nextConnection .startTls →
      u.reply.outcome = .error fault → fault.kind.isConnection = false →
      Aborts c dn password deadline w fault [o, u]
  | notUpgraded {p : Endpoint} {o u q : Exchange} {cause fault : Fault} :
      c.transport.requiresUpgrade = true →
      o = w.exchange c.directory w.nextConnection (.connect p) →
      u = (w.push o).exchange c.directory w.nextConnection .startTls →
      u.upgradeOutcome = .error cause →
      q = ((w.push o).push u).exchange c.directory w.nextConnection .unbind →
      q.unbindOutcome = .error fault → Aborts c dn password deadline w fault [o, u, q]
  | notBound {es es' : List Exchange} {record : LogRecord} {reason : String} {q q' : Exchange}
      {cause fault : Fault} : c.Opening deadline w es →
      c.Unbound dn password w.nextConnection (w.pushAll es) es' record reason →
      q = (w.pushAll (es ++ es')).exchange c.directory w.nextConnection .unbind →
      q.unbindOutcome = .error cause →
      q' = ((w.pushAll (es ++ es')).push q).exchange c.directory w.nextConnection .unbind →
      q'.ending (.error cause : Except Fault Unit) = .error fault →
      Aborts c dn password deadline w fault (es ++ es' ++ [q, q'])
  | bind {es : List Exchange} {user : String} {bytes : List UInt8} {b q : Exchange}
      {cause fault : Fault} : c.Opening deadline w es → Submits dn password user bytes →
      b = (w.pushAll es).exchange c.directory w.nextConnection (.bind user bytes) →
      b.reply.outcome = .error cause → cause.kind.isDirectory = false →
      q = ((w.pushAll es).push b).exchange c.directory w.nextConnection .unbind →
      q.ending (.error cause : Except Fault Unit) = .error fault →
      Aborts c dn password deadline w fault (es ++ [b, q])

/-- Everything that `openBound` can do, with the reason of a refusal. -/
inductive Reception {α : Type} (c : Connector) (dn : Option String) (password : Option Password)
    (deadline : Option Deadline) (refused : DenialReason → Run World α) (w : World) :
    (Run (Session × World) α → Lease (Except DenialReason Session) α × World) → Prop
  | aborted {fault : Fault} {es : List Exchange} {log : List LogRecord} {session : Option Session}
      {w' : World} : c.Aborts dn password deadline w fault es → Background log →
      w' = (w.pushAll es).note log →
      Reception c dn password deadline refused w fun _ => (⟨none, .error fault, session⟩, w')
  | refused {reason : DenialReason} {es : List Exchange} {log : List LogRecord}
      {session : Option Session} {w' : World} : c.Refuses dn password deadline w reason es →
      Background log → w' = (w.pushAll es).note log →
      Reception c dn password deadline refused w fun _ =>
        (⟨some (.error reason), (refused reason w').1, session⟩, (refused reason w').2)
  | received {op : List Exchange} {b : Exchange} {s : Session} {log : List LogRecord} {w' : World} :
      c.Welcomes dn password deadline w op b → s.OpenOn w.nextConnection → s.state = .bound →
      s.boundDn = dn → Background log → w' = (w.pushAll (op ++ [b])).note log →
      Reception c dn password deadline refused w fun granted =>
        c.release (some (.ok s)) (granted (s, w')).1 (granted (s, w')).2.1 (granted (s, w')).2.2

/-! ### What is logged -/

@[simp] theorem background_unbindLog (q : Exchange) : Background (c.unbindLog q) := by
  unfold unbindLog
  split
  · split
    · exact background_nil
    · rfl
  · exact background_nil

@[simp] theorem background_closingLog (s : Session) (reason : String) (q : Exchange) :
    Background (c.closingLog s reason q) := by
  unfold closingLog
  split
  · simp [LogRecord.isOfLogin, Session.stepLog]
  · exact background_nil

@[simp] theorem background_connectedLog : Background c.connectedLog := rfl

/-! ### Visits are errands -/

theorem Welcomes.errand {b : Exchange} (h : c.Welcomes dn password deadline w es b) :
    c.Errand dn password w (es ++ [b]) := by
  obtain ⟨user, bytes, hs, hb⟩ := h.submits
  exact h.opens.errand_bind hs hb

theorem Welcomes.of_note {log : List LogRecord} {b : Exchange}
    (h : c.Welcomes dn password deadline (w.note log) es b) :
    c.Welcomes dn password deadline w es b := by
  obtain ⟨user, bytes, hs, hb⟩ := h.submits
  exact ⟨(opening_note _).1 h.opens, ⟨user, bytes, hs, by simpa using hb⟩, h.accepted⟩

/-- A visit that is refused was an errand all the same. -/
theorem Refuses.errand (h : c.Refuses dn password deadline w reason es) :
    c.Errand dn password w es := by
  cases h with
  | late _ => exact .nil
  | unopened ho _ => exact .start ho
  | notUpgraded _ ho hu _ hq => exact (Errand.upgrade ho hu).onward (by simp) hq rfl
  | unsubmitted ho _ hq => exact ho.errand.onward ho.opens.ne_nil hq rfl
  | @unaccepted op _ _ b q ho hs hb _ hq =>
    have hbound := (ho.errand_bind hs hb).onward (by simp) (by simpa using hq) rfl
    simpa using hbound

/-- A visit that is refused shows no accepted bind. -/
theorem Refuses.not_isAcceptedBind (h : c.Refuses dn password deadline w reason es) :
    ∀ e ∈ es, ¬ e.IsAcceptedBind := by
  cases h with
  | late _ => simp
  | unopened ho _ => simp [ho, Exchange.IsAcceptedBind, Request.isBind]
  | notUpgraded _ ho hu _ hq => simp [ho, hu, hq, Exchange.IsAcceptedBind, Request.isBind]
  | unsubmitted ho _ hq =>
    exact Errand.isAcceptedBind_unbind ho.not_isAcceptedBind hq
  | @unaccepted op _ _ b q ho _ _ hne hq =>
    refine List.forall_mem_append.2 ⟨ho.not_isAcceptedBind, fun e he => ?_⟩
    obtain rfl | rfl : e = b ∨ e = q := by simpa using he
    · exact fun hacc => hne hacc.2
    · rintro ⟨hbind, -⟩
      rw [hq] at hbind
      cases hbind

/-- A visit is refused for one of two reasons. -/
theorem Refuses.reason_eq (h : c.Refuses dn password deadline w reason es) :
    reason = .connectionFailed ∨ reason = .bindRejected := by
  cases h with
  | late _ => exact .inl rfl
  | unopened _ _ => exact .inl rfl
  | notUpgraded _ _ _ _ _ => exact .inl rfl
  | unsubmitted _ _ _ => exact .inr rfl
  | unaccepted _ _ _ _ _ => exact .inr rfl

theorem Refuses.of_note {log : List LogRecord}
    (h : c.Refuses dn password deadline (w.note log) reason es) :
    c.Refuses dn password deadline w reason es := by
  cases h with
  | late hd => exact .late hd
  | unopened ho hf => exact .unopened ho hf
  | notUpgraded hr ho hu hf hq => exact .notUpgraded hr ho hu hf hq
  | unsubmitted ho hs hq => exact .unsubmitted ((opening_note _).1 ho) hs (by simpa using hq)
  | unaccepted ho hs hb hne hq =>
    exact .unaccepted ((opening_note _).1 ho) hs (by simpa using hb) hne (by simpa using hq)

theorem unbound_note {log : List LogRecord} {record : LogRecord} {s : String} :
    c.Unbound dn password n (w.note log) es record s ↔ c.Unbound dn password n w es record s := by
  constructor
  · intro h
    cases h with
    | anonymous h => exact .anonymous h
    | notEncoded hdn hp hf => exact .notEncoded hdn hp hf
    | failed hs hb hf hk => exact .failed hs hb hf hk
    | rejected hs hb hf => exact .rejected hs hb hf
  · intro h
    cases h with
    | anonymous h => exact .anonymous h
    | notEncoded hdn hp hf => exact .notEncoded hdn hp hf
    | failed hs hb hf hk => exact .failed hs hb hf hk
    | rejected hs hb hf => exact .rejected hs hb hf

theorem Aborts.of_note {log : List LogRecord}
    (h : c.Aborts dn password deadline (w.note log) fault es) :
    c.Aborts dn password deadline w fault es := by
  cases h with
  | unreckoned hd => exact .unreckoned hd
  | opening ho hf hk => exact .opening ho hf hk
  | upgrade hr ho hu hf hk => exact .upgrade hr ho hu hf hk
  | notUpgraded hr ho hu hf hq hi => exact .notUpgraded hr ho hu hf hq hi
  | notBound ho hun hq hi hq' hend =>
    refine .notBound ((opening_note _).1 ho) (unbound_note.1 (by simpa using hun))
      (by simpa using hq) hi (by simpa using hq') hend
  | bind ho hs hb hf hk hq hend =>
    exact .bind ((opening_note _).1 ho) hs (by simpa using hb) hf hk (by simpa using hq) hend

/-! ### The list is complete -/

/-- What is missing or has no bytes is not submitted. -/
theorem not_submits_of_missing
    (h : (dn.filter fun s => !s.isEmpty) = none ∨ (password.filter fun p => !p.isEmpty) = none)
    (user : String) (bytes : List UInt8) : ¬ Submits dn password user bytes := by
  rintro ⟨rfl, huser, p, rfl, hp, -⟩
  rcases h with h | h
  · simp [Option.filter, huser] at h
  · simp [Option.filter, hp] at h

/-- A bind that is given up refuses the visit, if the release is not interrupted. -/
theorem Opening.refuses {es' : List Exchange} {record : LogRecord} {reason : String} {q : Exchange}
    (ho : c.Opening deadline w es)
    (hu : c.Unbound dn password w.nextConnection (w.pushAll es) es' record reason)
    (hq : q = (w.pushAll (es ++ es')).exchange c.directory w.nextConnection .unbind) :
    c.Refuses dn password deadline w .bindRejected (es ++ es' ++ [q]) := by
  cases hu with
  | anonymous hmissing =>
    rw [List.append_nil] at hq ⊢
    exact .unsubmitted ho (not_submits_of_missing hmissing) hq
  | @notEncoded _ p _ hdn hp hfail =>
    rw [List.append_nil] at hq ⊢
    refine .unsubmitted ho ?_ hq
    rintro user bytes ⟨-, -, p', hp', -, hbytes⟩
    obtain rfl : p = p' := Option.some.inj (hp.symm.trans hp')
    rw [hfail] at hbytes
    cases hbytes
  | @failed _ _ b _ hs hb hf _ =>
    have hrefuses := Refuses.unaccepted ho hs hb (by simp [hf]) (by simpa using hq)
    simpa using hrefuses
  | @rejected _ _ b hs hb hf =>
    have hrefuses := Refuses.unaccepted ho hs hb (by simp [hf]) (by simpa using hq)
    simpa using hrefuses

theorem Unbound.isOfLogin_eq {record : LogRecord} {s : String}
    (h : c.Unbound dn password n w es record s) : record.isOfLogin = false := by
  cases h <;> rfl

theorem openBound_reception {α : Type} (c : Connector) (dn : Option String)
    (password : Option Password) (deadline : Option Deadline)
    (refused : DenialReason → Run World α) (w : World) :
    Reception c dn password deadline refused w fun granted =>
      c.openBound dn password deadline refused granted w := by
  have hcon := c.connect_connecting deadline w
  rcases hc : c.connect deadline w with ⟨r, v⟩
  rw [hc] at hcon
  simp only [openBound, hc]
  cases hcon with
  | unreckoned hd => exact .aborted (.unreckoned hd) background_nil World.note_nil.symm
  | late hd => exact .refused (.late hd) (by rfl) rfl
  | unopened _ ho hf _ => exact .refused (.unopened ho hf) (by rfl) rfl
  | openingEscaped _ ho hf hk =>
    exact .aborted (.opening ho hf hk) background_nil World.note_nil.symm
  | notUpgraded hr _ ho _ hu hf _ hq _ =>
    exact .refused (.notUpgraded hr ho hu hf hq) (by simp [connectFailedLog, LogRecord.isOfLogin])
      rfl
  | interrupted hr _ ho _ hu hf _ hq hi =>
    exact .aborted (.notUpgraded hr ho hu hf hq hi) (by rfl) rfl
  | upgradeEscaped hr _ ho _ hu hf hk =>
    exact .aborted (.upgrade hr ho hu (outcome_of_upgradeOutcome hf hk) hk) background_nil
      World.note_nil.symm
  | @connected es ho =>
    have hopen := c.openOn_connectedSession (n := w.nextConnection) (w.pushAll es).clocks.date
    have hbind := c.bindAs_binding dn password hopen.guarded rfl hopen.connection_eq
      ((w.pushAll es).note c.connectedLog)
    rcases hb : c.bindAs dn password (c.connectedSession w.nextConnection
      (w.pushAll es).clocks.date, (w.pushAll es).note c.connectedLog) with ⟨r, s, v⟩
    rw [hb] at hbind
    simp only [hb]
    have hrow (es' : List Exchange) (log : List LogRecord) :=
      World.pushAll_note_pushAll (w := w) es es' c.connectedLog log
    cases hbind with
    | @refused es' record _ q hun hq hok =>
      simp only [release_of_closed (isClosed_closed hok)]
      refine .refused (ho.refuses (unbound_note.1 hun) (by simpa using hq)) ?_
        (by rw [hrow (es' ++ [q]), List.append_assoc])
      simp [hun.isOfLogin_eq]
    | @interrupted es' record _ q cause hun hq hi =>
      generalize hqe : ((((w.pushAll es).note c.connectedLog).pushAll (es' ++ [q])).note
        [record]).exchange c.directory w.nextConnection .unbind = q'
      obtain ⟨fault, hend⟩ := q'.exists_ending_eq cause
      simp only [release_of_open hopen hqe.symm, hend α]
      have haborts := Aborts.notBound ho (unbound_note.1 hun) (by simpa using hq) hi
        (by simpa using hqe.symm) (hend Unit)
      have hlog : Background (c.connectedLog ++ record :: c.closingLog
          (c.connectedSession w.nextConnection (w.pushAll es).clocks.date) "disconnect" q') := by
        simp [hun.isOfLogin_eq]
      exact .aborted haborts hlog (by simp)
    | @escaped user bytes b cause hs hbe hf hk =>
      generalize hqe : (((w.pushAll es).note c.connectedLog).push b).exchange c.directory
        w.nextConnection .unbind = q
      obtain ⟨fault, hend⟩ := q.exists_ending_eq cause
      simp only [release_of_open hopen hqe.symm, hend α]
      exact .aborted (.bind ho hs hbe hf hk (by simpa using hqe.symm) (hend Unit)) (by simp)
        (hrow [b, q] _)
    | @accepted user bytes b hs hbe hf =>
      exact .received ⟨ho, ⟨user, bytes, hs, hbe⟩, hf⟩ ⟨hopen.guarded, rfl, rfl⟩ rfl hs.dn_eq.symm
        (by simp [LogRecord.isOfLogin, Session.stepLog]) (hrow [b] _)

end Connector

/-! ## Directories that fail with their own faults -/

/-- Whatever a directory fails with is a fault of its own. Unbinding may fail with any fault but an
interruption. -/
structure Directory.FailsAlone (d : Directory) : Prop where
  own : ∀ {past clocks n r fault}, r ≠ .unbind → (d past clocks n r).outcome = .error fault →
    fault.kind.isDirectory = true
  unbinds : ∀ {past clocks n fault}, (d past clocks n .unbind).outcome = .error fault →
    fault.kind.isInterruption = false

namespace Directory.FailsAlone

variable {d : Directory} {w : World} {n : Nat}

theorem isDirectory_eq (hd : d.FailsAlone) {e : Exchange} {r : Request} {fault : Fault}
    (he : e = w.exchange d n r) (hr : r ≠ .unbind) (hf : e.reply.outcome = .error fault) :
    fault.kind.isDirectory = true :=
  hd.own hr (he ▸ hf)

theorem unbindOutcome_eq (hd : d.FailsAlone) {q : Exchange} (hq : q = w.exchange d n .unbind) :
    q.unbindOutcome = .ok () :=
  Exchange.unbindOutcome_eq_ok fun _ hf => hd.unbinds (hq ▸ hf)

theorem not_interrupts (hd : d.FailsAlone) {es : List Exchange} (h : w.Answers d es) :
    ∀ q ∈ es, ∀ fault, ¬ q.Interrupts fault := by
  induction es generalizing w with
  | nil => simp
  | cons e es ih =>
    refine List.forall_mem_cons.2 ⟨fun fault hi => ?_, ih h.2⟩
    have he : e = w.exchange d e.connection .unbind := by rw [← hi.1]; exact h.1
    cases hi.2.symm.trans (hd.unbindOutcome_eq he)

end Directory.FailsAlone

/-- A visit of such a directory ends with a fault only if the deadline cannot be compared with the
clock. -/
theorem Connector.Aborts.unreckoned_of_failsAlone {c : Connector} {dn : Option String}
    {password : Option Password} {deadline : Option Deadline} {w : World} {es : List Exchange}
    {fault : Fault} (h : c.Aborts dn password deadline w fault es) (hd : c.directory.FailsAlone) :
    es = [] ∧ deadlineExpired deadline w.clocks.steady = .error fault := by
  cases h with
  | unreckoned hdeadline => exact ⟨rfl, hdeadline⟩
  | opening ho hf hk =>
    cases (isConnection_of_isDirectory (hd.isDirectory_eq ho (by simp) hf)).symm.trans hk
  | upgrade _ _ hu hf hk =>
    cases (isConnection_of_isDirectory (hd.isDirectory_eq hu (by simp) hf)).symm.trans hk
  | notUpgraded _ _ _ _ hq hi => cases hi.symm.trans (hd.unbindOutcome_eq hq)
  | notBound _ _ hq hi _ _ => cases hi.symm.trans (hd.unbindOutcome_eq hq)
  | bind _ _ hb hf hk _ _ => cases (hd.isDirectory_eq hb (by simp) hf).symm.trans hk

namespace Resolver

variable {r : Resolver} {config : DirectoryConfig} {c : Connector} {username : String}
  {deadline : Option Deadline} {w : World} {es : List Exchange} {f : Exchange}
  {reason : DenialReason} {fault : Fault}

/-! ## Searches -/

/-- The exchanges of a whole search: the search account is bound on a connection of its own, the
search `f` is sent, and the connection is unbound. -/
inductive Searches (config : DirectoryConfig) (c : Connector) (username : String)
    (deadline : Option Deadline) (w : World) (f : Exchange) : List Exchange → Prop
  | bound {op : List Exchange} {b q : Exchange} :
      c.Welcomes config.searchBindDn config.searchBindPassword deadline w op b →
      f = (w.pushAll (op ++ [b])).exchange c.directory w.nextConnection
        (.search config.userBaseDn (config.userFilter username) config.usernameAttributes) →
      q = ((w.pushAll (op ++ [b])).push f).exchange c.directory w.nextConnection .unbind →
      Searches config c username deadline w f (op ++ [b, f, q])

/-- A search is an errand of the search account. -/
theorem Searches.errand (h : Searches config c username deadline w f es) :
    c.Errand config.searchBindDn config.searchBindPassword w es := by
  cases h with
  | @bound op b q hb hf hq =>
    have hbf := hb.errand.onward (by simp) hf rfl
    have hbfq := hbf.onward (by simp) (by simpa using hq) rfl
    simpa using hbfq

theorem Searches.unbinds_last (h : Searches config c username deadline w f es) {q : Exchange}
    (hlast : es.getLast? = some q) : ∃ v n, q = World.exchange v c.directory n .unbind := by
  cases h with
  | bound _ _ hq =>
    obtain rfl : _ = q := by simpa using hlast
    exact ⟨_, _, hq⟩

/-- A search that finds one entry yields its name. -/
theorem Searches.yields (h : Searches config c username deadline w f es) {dn : String}
    (hfound : f.reply.outcome = .ok true) (hdn : entryNames f.reply.response = [dn]) :
    (search config c).Yields username w.nextConnection dn es := by
  cases h with
  | bound hbound hf hq =>
    obtain ⟨account, bytes, hs, hb⟩ := hbound.submits
    exact .searched hbound.opens.opens hs (by rw [hb]; rfl) (by rw [hb]; rfl) hbound.accepted
      (by rw [hf]; rfl) (by rw [hf]; rfl) hfound hdn (by rw [hq]; rfl) (by rw [hq]; rfl)

/-! ### What a search comes to -/

/-- A search that raises nothing either succeeded, and gives the names of its entries, or gives no
name. -/
theorem searchOutcome_eq_ok {r : Except DenialReason (List String)}
    (h : searchOutcome f = .ok r) :
    f.reply.outcome = .ok true ∧ r = .ok (entryNames f.reply.response) ∨
      f.reply.outcome ≠ .ok true ∧ (r = .error .identityUnresolved ∨ r = .ok []) := by
  unfold searchOutcome at h
  rcases hr : f.reply.outcome with fault | _ | _
  · by_cases hk : fault.kind.isDirectory = true
    · exact .inr ⟨by simp, .inl (by simpa [hr, hk] using h.symm)⟩
    · simp [hr, hk] at h
  · exact .inr ⟨by simp, .inr (by simpa [hr] using h.symm)⟩
  · exact .inl ⟨rfl, by simpa [hr] using h.symm⟩

theorem not_found_of_searchOutcome (h : searchOutcome f = .ok (.error reason)) :
    reason = .identityUnresolved ∧ f.reply.outcome ≠ .ok true := by
  rcases searchOutcome_eq_ok h with ⟨-, hr⟩ | ⟨hne, hr | hr⟩
  · cases hr
  · exact ⟨Except.error.inj hr, hne⟩
  · cases hr

theorem entryNames_eq_of_searchOutcome (h : searchOutcome f = .ok (.ok [])) :
    f.reply.outcome = .ok true → entryNames f.reply.response = [] := by
  rcases searchOutcome_eq_ok h with ⟨-, hr⟩ | ⟨hne, -⟩
  · exact fun _ => (Except.ok.inj hr).symm
  · exact fun hok => (hne hok).elim

theorem entryNames_of_several {dns : List String} (h : searchOutcome f = .ok (.ok dns))
    (hlen : 2 ≤ dns.length) : f.reply.outcome = .ok true ∧ dns = entryNames f.reply.response := by
  rcases searchOutcome_eq_ok h with ⟨hok, hr⟩ | ⟨-, hr | hr⟩
  · exact ⟨hok, Except.ok.inj hr⟩
  · cases hr
  · obtain rfl : dns = [] := Except.ok.inj hr
    simp at hlen

/-! ## Resolving -/

/-- Why a resolver arrives at no name, with the exchanges up to that point. A template always gives
a name; a search account may not be bound, and its search may find nothing, or too much. -/
inductive Declines (username : String) (deadline : Option Deadline) (w : World) :
    Resolver → DenialReason → List Exchange → Prop
  | unbound {config : DirectoryConfig} {c : Connector} {reason : DenialReason}
      {es : List Exchange} :
      c.Refuses config.searchBindDn config.searchBindPassword deadline w reason es →
      Declines username deadline w (.search config c) reason es
  | notFound {config : DirectoryConfig} {c : Connector} {f : Exchange} {es : List Exchange} :
      Searches config c username deadline w f es →
      (f.reply.outcome = .ok true → entryNames f.reply.response = []) →
      Declines username deadline w (.search config c) .identityUnresolved es
  | ambiguous {config : DirectoryConfig} {c : Connector} {f : Exchange} {es : List Exchange} :
      Searches config c username deadline w f es → f.reply.outcome = .ok true →
      2 ≤ (entryNames f.reply.response).length →
      Declines username deadline w (.search config c) .identityAmbiguous es

/-- Where a fault of resolving comes from: the visit of the search account, or the search, or an
interruption of the release after it. -/
inductive Aborts (username : String) (deadline : Option Deadline) (w : World) :
    Resolver → Fault → List Exchange → Prop
  | unbound {config : DirectoryConfig} {c : Connector} {fault : Fault} {es : List Exchange} :
      c.Aborts config.searchBindDn config.searchBindPassword deadline w fault es →
      Aborts username deadline w (.search config c) fault es
  | searching {config : DirectoryConfig} {c : Connector} {f : Exchange} {fault : Fault}
      {es : List Exchange} : Searches config c username deadline w f es →
      f.reply.outcome = .error fault → fault.kind.isDirectory = false →
      Aborts username deadline w (.search config c) fault es
  | interrupted {config : DirectoryConfig} {c : Connector} {f q : Exchange} {fault : Fault}
      {es : List Exchange} : Searches config c username deadline w f es →
      es.getLast? = some q → q.unbindOutcome = .error fault →
      Aborts username deadline w (.search config c) fault es

/-- Everything that resolving a login name can do, with the reason if there is no name. -/
inductive Consultation (r : Resolver) (username : String) (deadline : Option Deadline) (w : World) :
    Except Fault Resolution × World → Prop
  | found {es : List Exchange} {log : List LogRecord} {identity : DirectoryIdentity} {w' : World} :
      r.Errand w es → r.Yields username w.nextConnection identity.dn es → Background log →
      w' = (w.pushAll es).note log → Consultation r username deadline w (.ok (.ok identity), w')
  | declined {es : List Exchange} {log : List LogRecord} {reason : DenialReason} {w' : World} :
      Declines username deadline w r reason es → Background log → w' = (w.pushAll es).note log →
      Consultation r username deadline w (.ok (.error reason), w')
  | aborted {es : List Exchange} {log : List LogRecord} {fault : Fault} {w' : World} :
      Aborts username deadline w r fault es → Background log → w' = (w.pushAll es).note log →
      Consultation r username deadline w (.error fault, w')

/-- What is sent before a name is given up is an errand of the resolver. -/
theorem Declines.errand (h : Declines username deadline w r reason es) : r.Errand w es := by
  cases h with
  | unbound hr => exact hr.errand
  | notFound hs _ => exact hs.errand
  | ambiguous hs _ _ => exact hs.errand

theorem Declines.reason_mem (h : Declines username deadline w r reason es) :
    reason ∈ [.identityUnresolved, .identityAmbiguous, .connectionFailed, .bindRejected] := by
  cases h with
  | unbound hr => rcases hr.reason_eq with rfl | rfl <;> simp
  | notFound _ _ => simp
  | ambiguous _ _ _ => simp

theorem Searches.of_note {log : List LogRecord}
    (h : Searches config c username deadline (w.note log) f es) :
    Searches config c username deadline w f es := by
  cases h with
  | bound hb hf hq => exact .bound hb.of_note (by simpa using hf) (by simpa using hq)

theorem Declines.of_note {log : List LogRecord}
    (h : Declines username deadline (w.note log) r reason es) :
    Declines username deadline w r reason es := by
  cases h with
  | unbound hr => exact .unbound hr.of_note
  | notFound hs hnone => exact .notFound hs.of_note hnone
  | ambiguous hs hok hlen => exact .ambiguous hs.of_note hok hlen

theorem consultation_template (config : DirectoryConfig) (h : username ≠ "")
    (deadline : Option Deadline) (w : World) :
    Consultation (.template config) username deadline w (derive config username w) := by
  obtain ⟨dn, hdn, hne⟩ := config.deriveDn_ne_empty h
  have hid : DirectoryIdentity.ofText dn = .ok ⟨dn, hne⟩ := by
    rw [DirectoryIdentity.ofText, dif_neg hne]
  simp only [derive, Run.bind_apply, Run.ofExcept_apply, hdn, World.record_apply, hid]
  have hlog : Background [.identityDerived username dn] := rfl
  exact .found rfl (.derived hdn) hlog rfl

/-! ## The visit of the search account -/

/-- What a resolver does when its search account could not be bound. -/
def giveUpSearch (config : DirectoryConfig) (reason : DenialReason) :
    Run World (Except DenialReason (List String)) := do
  World.record (.searchBindFailed config.searchBindDn reason)
  return .error reason

/-- The visit of the search account, up to the choice among the names that it finds. -/
def inquire (config : DirectoryConfig) (c : Connector) (username : String)
    (deadline : Option Deadline) :
    World → Lease (Except DenialReason Session) (Except DenialReason (List String)) × World :=
  c.openBound config.searchBindDn config.searchBindPassword deadline (giveUpSearch config)
    (searchBound config c.directory username)

/-- A search is the visit of the search account, and then the choice. -/
theorem searchFor_apply (config : DirectoryConfig) (c : Connector) (username : String)
    (deadline : Option Deadline) (w : World) :
    searchFor config c username deadline w =
      match inquire config c username deadline w with
      | (⟨_, .error fault, _⟩, w') => (.error fault, w')
      | (⟨_, .ok (.error reason), _⟩, w') => (.ok (.error reason), w')
      | (⟨_, .ok (.ok dns), _⟩, w') => choose username dns w' := by
  show (Lease.toRun (inquire config c username deadline) >>= _) w = _
  rw [Run.bind_apply, Lease.toRun]
  rcases inquire config c username deadline w with ⟨⟨given, fault | reason | dns, session⟩, w'⟩ <;>
    rfl

/-- Everything that the visit of the search account can come to: it ends with a fault, or the account
is not bound, or the search is sent, and then the release may be interrupted. -/
inductive Inquiry (config : DirectoryConfig) (c : Connector) (username : String)
    (deadline : Option Deadline) (w : World) :
    Lease (Except DenialReason Session) (Except DenialReason (List String)) × World → Prop
  | aborted {es : List Exchange} {log : List LogRecord} {fault : Fault} {session : Option Session}
      {w' : World} :
      c.Aborts config.searchBindDn config.searchBindPassword deadline w fault es →
      Background log → w' = (w.pushAll es).note log →
      Inquiry config c username deadline w (⟨none, .error fault, session⟩, w')
  | unbound {es : List Exchange} {log : List LogRecord} {reason : DenialReason}
      {session : Option Session} {w' : World} :
      c.Refuses config.searchBindDn config.searchBindPassword deadline w reason es →
      Background log → w' = (w.pushAll es).note log →
      Inquiry config c username deadline w
        (⟨some (.error reason), .ok (.error reason), session⟩, w')
  | searched {es : List Exchange} {log : List LogRecord} {f : Exchange} {s : Session}
      {session : Option Session} {w' : World} :
      Searches config c username deadline w f es → Background log →
      w' = (w.pushAll es).note log →
      Inquiry config c username deadline w (⟨some (.ok s), searchOutcome f, session⟩, w')
  | interrupted {es : List Exchange} {log : List LogRecord} {f q : Exchange} {fault : Fault}
      {s : Session} {session : Option Session} {w' : World} :
      Searches config c username deadline w f es → es.getLast? = some q →
      q.unbindOutcome = .error fault → Background log → w' = (w.pushAll es).note log →
      Inquiry config c username deadline w (⟨some (.ok s), .error fault, session⟩, w')

theorem inquire_inquiry (config : DirectoryConfig) (c : Connector) (username : String)
    (deadline : Option Deadline) (w : World) :
    Inquiry config c username deadline w (inquire config c username deadline w) := by
  have hv := c.openBound_reception config.searchBindDn config.searchBindPassword deadline
    (giveUpSearch config) w
  generalize hrun : (fun granted => c.openBound config.searchBindDn config.searchBindPassword
    deadline (giveUpSearch config) granted w) = run at hv
  rw [inquire, congrFun hrun (searchBound config c.directory username)]
  cases hv with
  | aborted ha hlog hw => exact .aborted ha hlog hw
  | @refused reason es log _ w' hr hlog hw =>
    subst hw
    exact .unbound hr (by simp [hlog, LogRecord.isOfLogin]) (World.note_note _ _)
  | @received op b s log w' hb hopen _ _ hlog hw =>
    generalize hf : w'.exchange c.directory w.nextConnection (.search config.userBaseDn
      (config.userFilter username) config.usernameAttributes) = f
    obtain ⟨log', hlog', hsearch⟩ := searchBound_apply config username hopen.connection_eq hf.symm
    generalize hq : ((w'.push f).note log').exchange c.directory w.nextConnection .unbind = q
    simp only [hsearch, Connector.release_of_open hopen hq.symm]
    subst hw
    have hsearches : Searches config c username deadline w f (op ++ [b, f, q]) :=
      .bound hb hf.symm hq.symm
    have hall : Background (log ++ log' ++ c.closingLog s "disconnect" q) := by simp [hlog, hlog']
    have hrow : ((((w.pushAll (op ++ [b])).note log).push f).note log').push q =
        ((w.pushAll (op ++ [b, f, q])).note (log ++ log')) := by simp
    rw [hrow, World.note_note]
    cases hu : q.unbindOutcome with
    | error fault =>
      rw [q.ending_of_error hu]
      exact .interrupted hsearches (by simp) hu hall rfl
    | ok _ =>
      rw [q.ending_of_ok hu]
      exact .searched hsearches hall rfl

theorem consultation_search (config : DirectoryConfig) (c : Connector) (username : String)
    (deadline : Option Deadline) (w : World) :
    Consultation (.search config c) username deadline w
      (searchFor config c username deadline w) := by
  rw [searchFor_apply]
  have h := inquire_inquiry config c username deadline w
  generalize inquire config c username deadline w = out at h ⊢
  cases h with
  | aborted ha hlog hw => exact .aborted (.unbound ha) hlog hw
  | unbound hr hlog hw => exact .declined (.unbound hr) hlog hw
  | interrupted hs hq hi hlog hw => exact .aborted (.interrupted hs hq hi) hlog hw
  | @searched es log f _ _ w' hsearches hlog hw =>
    cases hfo : searchOutcome f with
    | error fault =>
      obtain ⟨hfault, hk⟩ := outcome_of_searchOutcome hfo
      exact .aborted (.searching hsearches hfault hk) hlog hw
    | ok found =>
      cases found with
      | error reason =>
        obtain ⟨rfl, hnot⟩ := not_found_of_searchOutcome hfo
        exact .declined (.notFound hsearches fun hok => (hnot hok).elim) hlog hw
      | ok dns =>
        obtain ⟨r, log', hlog', hchoose, hchosen⟩ :=
          choose_apply username (empty_notMem_searchOutcome hfo) w'
        simp only [hchoose]
        subst hw
        have hall : Background (log ++ log') := by simp [hlog, hlog']
        cases hchosen with
        | none =>
          exact .declined (.notFound hsearches (entryNames_eq_of_searchOutcome hfo)) hall
            (World.note_note _ _)
        | one =>
          obtain ⟨hfound, hnames⟩ := entryNames_of_searchOutcome hfo rfl
          exact .found hsearches.errand (hsearches.yields hfound hnames) hall (World.note_note _ _)
        | several hlen =>
          obtain ⟨hfound, rfl⟩ := entryNames_of_several hfo hlen
          exact .declined (.ambiguous hsearches hfound hlen) hall (World.note_note _ _)

/-- What a resolver does with a login name that is not empty is one of the things listed. -/
theorem resolve_consultation (r : Resolver) {username : String} (h : username ≠ "")
    (deadline : Option Deadline) (w : World) :
    Consultation r username deadline w (r.resolve username deadline w) := by
  have hu : username.isEmpty = false := by simpa using h
  simp only [resolve, hu]
  cases r with
  | template config => exact consultation_template config h deadline w
  | search config c => exact consultation_search config c username deadline w

end Resolver

end TwoFactorLogin
