import TwoFactorLogin.Proofs.InTime

/-!
# Requests that start too late

A login looks at its deadline whenever it opens a connection, and before each of its stages. Between
the requests on one connection it does not look, since the timeouts of the connection were shortened
when it was opened. So there is one way in which a request starts after the deadline: the reply to
the request before it, on the same connection, came back too late. Then an upgrade, a bind or a
search is still sent, passwords included.

* `Exchange.IsLate`, `Exchange.Overruns`: requests that start too late, replies that come too late.
* `Line.Course.preceded`: on a connection, something was sent before.
* `authenticate_late_iff`: a request starts too late exactly if the reply before it came too late on
  the same connection.

If a deadline that has passed stays so, a late request is one of the last: the login opens no other
connection, asks no store and lets nobody in.
-/

namespace TwoFactorLogin

/-! ## Late requests -/

namespace Exchange

/-- A request, other than to unbind, that was started when the deadline had passed. -/
def IsLate (e : Exchange) (d : Deadline) : Prop :=
  e.request ≠ .unbind ∧ deadlineExpired (some d) e.sentAt.steady = .ok true

/-- A reply that came when the deadline had passed. -/
def Overruns (e : Exchange) (d : Deadline) : Prop :=
  deadlineExpired (some d) e.reply.clocks.steady = .ok true

end Exchange

/-- A deadline that has passed stays so, whatever the directory is asked. -/
def StaysPast (d : Deadline) (directory : Directory) : Prop :=
  ∀ {past c n r}, deadlineExpired (some d) c.steady = .ok true →
    deadlineExpired (some d) (directory past c n r).clocks.steady = .ok true

namespace World.Answers

variable {d : Deadline} {directory : Directory} {w : World} {pre post es : List Exchange}
  {x e : Exchange}

theorem sentAt_eq (h : w.Answers directory (pre ++ x :: e :: post)) :
    e.sentAt = x.reply.clocks := by
  rw [(answers_append.1 h).2.2.1]
  rfl

theorem sentAt_past (h : w.Answers directory es) (hd : StaysPast d directory)
    (hw : deadlineExpired (some d) w.clocks.steady = .ok true) :
    ∀ e ∈ es, deadlineExpired (some d) e.sentAt.steady = .ok true := by
  induction es generalizing w with
  | nil => simp
  | cons x es ih =>
    have hx : x.sentAt = w.clocks := by
      rw [h.1]
      rfl
    refine List.forall_mem_cons.2 ⟨by rw [hx]; exact hw, ih h.2 ?_⟩
    rw [clocks_push, h.1]
    exact hd hw

theorem from_late (h : w.Answers directory (pre ++ e :: post)) (hlate : e.IsLate d) :
    (w.pushAll pre).Answers directory (e :: post) ∧
      deadlineExpired (some d) (w.pushAll pre).clocks.steady = .ok true := by
  have hrest := (answers_append.1 h).2
  have he : e.sentAt = (w.pushAll pre).clocks := by
    rw [hrest.1]
    rfl
  exact ⟨hrest, by rw [← he]; exact hlate.2⟩

theorem past_of_late (h : w.Answers directory es) (hd : StaysPast d directory) (he : e ∈ es)
    (hlate : e.IsLate d) : deadlineExpired (some d) (w.pushAll es).clocks.steady = .ok true := by
  obtain ⟨pre, post, rfl⟩ := List.append_of_mem he
  obtain ⟨hfrom, hstart⟩ := h.from_late hlate
  rw [pushAll_append]
  exact hfrom.clocks_of (P := fun c => deadlineExpired (some d) c.steady = .ok true) hd hstart

end World.Answers

/-! ## Along the line -/

namespace Line

variable {c : Connector} {deadline : Option Deadline} {l l' : Line} {e : Exchange}
  {es pre post : List Exchange} {n : Nat}

theorem Step.of_held (h : Step c deadline l e l') (hn : l'.held = some n) :
    e.connection = n ∧ e.request ≠ .unbind := by
  cases h with
  | opened hc hr _ _ =>
    cases hn
    exact ⟨hc, by simp [hr]⟩
  | unopened _ _ _ _ => cases hn
  | used hc _ hr =>
    cases hn
    exact ⟨hc, hr⟩
  | unbound _ _ => cases hn

/-- Unless it opens a connection, an exchange follows another one on its connection. -/
theorem Row.preceded (h : Row c deadline ⟨n, none⟩ (pre ++ e :: post) l')
    (hr : e.request.isConnect = false) :
    ∃ pre' x, pre = pre' ++ [x] ∧ x.connection = e.connection ∧ x.request ≠ .unbind := by
  obtain ⟨l, hpre, hrest⟩ := h.split
  have hheld : l.held = some e.connection := by
    cases hrest with
    | cons hs _ =>
      cases hs with
      | opened _ hc _ _ => simp [hc, Request.isConnect] at hr
      | unopened _ hc _ _ => simp [hc, Request.isConnect] at hr
      | used hc _ _ => rw [hc]
      | unbound hc _ => rw [hc]
  rcases List.eq_nil_or_concat pre with rfl | ⟨pre', x, rfl⟩
  · cases hpre with
    | nil => cases hheld
  · rw [List.concat_eq_append] at hpre ⊢
    obtain ⟨l'', -, hlast⟩ := hpre.split
    cases hlast with
    | cons hs hnil =>
      cases hnil with
      | nil => exact ⟨pre', x, rfl, hs.of_held hheld⟩

/-- Without another opening, there is only the connection that is held. -/
theorem Row.on_held (h : Row c deadline l es l')
    (hno : ∀ e ∈ es, e.request.isConnect = false) : ∀ e ∈ es, l.held = some e.connection := by
  induction h with
  | nil => simp
  | @cons l l' _ x xs hs _ ih =>
    obtain ⟨hx, hxs⟩ := List.forall_mem_cons.1 hno
    have hrest := ih hxs
    refine List.forall_mem_cons.2 ?_
    cases hs with
    | opened _ hr _ _ => simp [hr, Request.isConnect] at hx
    | unopened _ hr _ _ => simp [hr, Request.isConnect] at hx
    | used hc _ _ => exact ⟨by rw [hc], hrest⟩
    | unbound hc _ => exact ⟨by rw [hc], fun e he => by cases hrest e he⟩

theorem isConnect_eq_false_of_past {d : Deadline}
    (h : ∀ p, e.request = .connect p → c.Asks (some d) e.sentAt.steady p)
    (hpast : deadlineExpired (some d) e.sentAt.steady = .ok true) : e.request.isConnect = false := by
  cases hr : e.request with
  | connect p =>
    have htime := (h p hr).1
    rw [hpast] at htime
    cases htime
  | _ => rfl

theorem Row.after_late {directory : Directory} {w : World} {d : Deadline}
    (h : Row c (some d) l (pre ++ e :: post) l') (hw : w.Answers directory (pre ++ e :: post))
    (hd : StaysPast d directory) (hlate : e.IsLate d) :
    ∀ x ∈ post, x.connection = e.connection ∧ x.request.isConnect = false := by
  obtain ⟨l'', -, hrest⟩ := h.split
  obtain ⟨hfrom, hstart⟩ := hw.from_late hlate
  have hno : ∀ x ∈ e :: post, x.request.isConnect = false := fun x hx =>
    isConnect_eq_false_of_past (fun _ hp => hrest.asks hx hp) (hfrom.sentAt_past hd hstart x hx)
  have hheld := hrest.on_held hno
  intro x hx
  have hsame := (hheld x (List.mem_cons_of_mem _ hx)).symm.trans (hheld e (by simp))
  exact ⟨Option.some.inj hsame, hno x (List.mem_cons_of_mem _ hx)⟩

/-- Up to an exchange that does not unbind, a course is a row, and what may come after the row is on
a connection that was unbound in it after the exchange. -/
theorem Course.row_through (h : Course c deadline n (pre ++ e :: post) l)
    (hne : e.request ≠ .unbind) :
    ∃ post' again, post = post' ++ again ∧ Row c deadline ⟨n, none⟩ (pre ++ e :: post') l ∧
      ∀ x ∈ again, x.request = .unbind ∧ ∃ q ∈ post', x.connection = q.connection := by
  generalize hes : pre ++ e :: post = es at h
  cases h with
  | kept hr =>
    subst hes
    exact ⟨post, [], by simp, hr, by simp⟩
  | @repeated es q q' m fault hr hq hn hq' =>
    rcases last_or_before_last hes with ⟨-, -, rfl⟩ | ⟨post', rfl, hrow⟩
    · exact (hne hq').elim
    · rcases last_or_before_last hrow.symm with ⟨-, -, rfl⟩ | ⟨post'', rfl, -⟩
      · exact (hne hq.1).elim
      · refine ⟨_, [q'], rfl, hrow ▸ hr, fun x hx => ?_⟩
        obtain rfl := List.mem_singleton.1 hx
        exact ⟨hq', q, by simp, hn⟩

theorem Course.preceded (h : Course c deadline n (pre ++ e :: post) l')
    (hne : e.request ≠ .unbind) (hr : e.request.isConnect = false) :
    ∃ pre' x, pre = pre' ++ [x] ∧ x.connection = e.connection ∧ x.request ≠ .unbind := by
  obtain ⟨_, _, -, hrow, -⟩ := h.row_through hne
  exact hrow.preceded hr

theorem Course.after_late {directory : Directory} {w : World} {d : Deadline}
    (h : Course c (some d) n (pre ++ e :: post) l) (hw : w.Answers directory (pre ++ e :: post))
    (hd : StaysPast d directory) (hlate : e.IsLate d) :
    ∀ x ∈ post, x.connection = e.connection ∧ x.request.isConnect = false := by
  obtain ⟨post', again, rfl, hrow, hagain⟩ := h.row_through hlate.1
  rw [← List.cons_append, ← List.append_assoc] at hw
  have hpost := hrow.after_late (World.answers_append.1 hw).1 hd hlate
  refine List.forall_mem_append.2 ⟨hpost, fun x hx => ?_⟩
  obtain ⟨hunbind, q, hq, hsame⟩ := hagain x hx
  exact ⟨hsame.trans (hpost q hq).1, by rw [hunbind]; rfl⟩

end Line

namespace Authenticator

variable {a : Authenticator} {directory : Directory} {store : SecretStore} {config : AuthConfig}
  {transport : Option Transport} {credentials : Credentials} {d : Deadline} {w : World}
  {out : Except Fault LoginResult × World} {pre post : List Exchange} {x e : Exchange}

theorem Journey.sent_answers {es : List Exchange} {log : List LogRecord} {v : World}
    (h : a.Journey credentials w es) (ha : a.Built directory store config transport)
    (hv : v = (w.pushAll es).note log) : w.Answers directory (w.sent v) := by
  rw [hv, World.sent_note, World.sent_pushAll]
  exact h.answers ha

/-- A login that asks the store sends no request too late, if a deadline that has passed stays so:
its bind came back in time. -/
theorem Probe.Happens.not_isLate {p : Probe} {v : World}
    (h : p.Happens a credentials (some d) w v) (ha : a.Built directory store config transport)
    (hd : StaysPast d directory) : ∀ e ∈ w.sent v, ¬ e.IsLate d := by
  intro e he hlate
  rw [h.sent_eq] at he
  rcases List.mem_append.1 he with hbefore | hlast
  · have hend := (h.before_answers ha).past_of_late hd hbefore hlate
    rw [Probe.before, World.pushAll_append] at hend
    cases hend.symm.trans h.bound_in_time
  · refine hlate.1 ?_
    rw [List.mem_singleton.1 hlast, h.unbind_eq]
    rfl

theorem LoggingIn.sentAt_eq (h : LoggingIn a credentials (some d) w out)
    (ha : a.Built directory store config transport)
    (hs : w.sent out.2 = pre ++ x :: e :: post) (hne : e.request ≠ .unbind) :
    e.sentAt = x.reply.clocks := by
  have hanswered (hanswers : w.Answers directory (w.sent out.2)) : e.sentAt = x.reply.clocks := by
    rw [hs] at hanswers
    exact hanswers.sentAt_eq
  cases h with
  | denied hj hv => exact hanswered (hj.sent_answers ha hv)
  | escaped hj _ hv => exact hanswered (hj.sent_answers ha hv)
  | @probed p r v hp _ _ =>
    -- The store may be asked before the last request, but that is to unbind.
    have hlast : (pre ++ [x]) ++ e :: post = p.before ++ [p.unbind] := by
      rw [← hp.sent_eq, hs, List.append_assoc]
      rfl
    rcases last_or_before_last hlast with ⟨-, -, rfl⟩ | ⟨post', -, hbefore⟩
    · refine (hne ?_).elim
      rw [hp.unbind_eq]
      rfl
    · have hanswers := hp.before_answers ha
      rw [hbefore, List.append_assoc] at hanswers
      exact hanswers.sentAt_eq

theorem LoggingIn.after_late (h : LoggingIn a credentials (some d) w out)
    (ha : a.Built directory store config transport) (hd : StaysPast d directory) {l : Line}
    (hcourse : Line.Course a.connector (some d) w.nextConnection (w.sent out.2) l)
    (hs : w.sent out.2 = pre ++ e :: post) (hlate : e.IsLate d) :
    (∀ x ∈ post, x.connection = e.connection ∧ x.request.isConnect = false) ∧
      (∀ l, .lookup l ∉ w.since out.2) ∧ ∀ user, out.1 ≠ .ok (.ok user) := by
  have hafter (hanswers : w.Answers directory (w.sent out.2)) :
      ∀ x ∈ post, x.connection = e.connection ∧ x.request.isConnect = false := by
    rw [hs] at hanswers hcourse
    exact hcourse.after_late hanswers hd hlate
  cases h with
  | denied hj hv => exact ⟨hafter (hj.sent_answers ha hv), World.lookup_notMem_of_row hv, by simp⟩
  | escaped hj _ hv =>
    exact ⟨hafter (hj.sent_answers ha hv), World.lookup_notMem_of_row hv, by simp⟩
  | probed hp _ _ => exact (hp.not_isLate ha hd e (by simp [hs]) hlate).elim

/-- A request of a login starts too late exactly if the reply to the request before it came too
late, on the same connection; so it opens none. And if a deadline that has passed stays so, a login
with a late request ends on the connection of that request; it asks no store, and lets nobody in. -/
theorem authenticate_late_iff {bundleExists : String → Bool} {w₀ : World}
    (hbuilt : (build bundleExists directory store config transport w₀).1 = .ok a)
    (credentials : Credentials) (d : Deadline) (w : World) :
    (∀ pre e post, w.sent (a.authenticate credentials (some d) w).2 = pre ++ e :: post →
      (e.IsLate d ↔ e.request ≠ .unbind ∧
        ∃ pre' x, pre = pre' ++ [x] ∧ x.connection = e.connection ∧ x.Overruns d)) ∧
    (∀ e ∈ w.sent (a.authenticate credentials (some d) w).2, e.IsLate d →
      e.request.isConnect = false) ∧
    (StaysPast d directory → ∀ pre e post,
      w.sent (a.authenticate credentials (some d) w).2 = pre ++ e :: post → e.IsLate d →
        (∀ x ∈ post, x.connection = e.connection ∧ x.request.isConnect = false) ∧
          (∀ l, .lookup l ∉ w.since (a.authenticate credentials (some d) w).2) ∧
            ∀ user, (a.authenticate credentials (some d) w).1 ≠ .ok (.ok user)) := by
  have ha := build_built hbuilt
  have h := a.authenticate_loggingIn ha credentials (some d) w
  obtain ⟨l, hcourse, -⟩ := (authenticate_tidy ha credentials (some d) w).course
  generalize a.authenticate credentials (some d) w = out at h hcourse ⊢
  have hno {e : Exchange} (he : e ∈ w.sent out.2) (hlate : e.IsLate d) :
      e.request.isConnect = false :=
    Line.isConnect_eq_false_of_past (fun _ hp => hcourse.asks he hp) hlate.2
  refine ⟨fun pre e post hs => ⟨fun hlate => ⟨hlate.1, ?_⟩, ?_⟩,
    fun e he hlate => hno he hlate,
    fun hd pre e post hs hlate => h.after_late ha hd hcourse hs hlate⟩
  · have hopens := hno (e := e) (by simp [hs]) hlate
    rw [hs] at hcourse
    obtain ⟨pre', x, rfl, hsame, -⟩ := hcourse.preceded hlate.1 hopens
    refine ⟨pre', x, rfl, hsame, ?_⟩
    rw [Exchange.Overruns, ← h.sentAt_eq ha (by simpa using hs) hlate.1]
    exact hlate.2
  · rintro ⟨hne, pre', x, rfl, -, hover⟩
    refine ⟨hne, ?_⟩
    rw [h.sentAt_eq ha (by simpa using hs) hne]
    exact hover

end Authenticator

/-! ## A connection that takes too long to open -/

namespace Sample

/-- The directory of the sample, but the second connection takes five seconds to open. -/
def slowOpening : Directory := fun past clocks n r =>
  let reply := directory past clocks n r
  if n = 1 ∧ r.isConnect = true then { reply with clocks := { clocks with steady := .int 5 } }
  else reply

/-- The authenticator of the sample with that directory. -/
def slowOpeningAuthenticator : Authenticator := authenticatorFor slowOpening

/-- The exchanges of a login with a deadline in five seconds. -/
def slowOpeningSent : List Exchange :=
  (World.start clocks).sent
    (slowOpeningAuthenticator.authenticate credentials (some deadline) (World.start clocks)).2

theorem deadline_past : deadlineExpired (some deadline) (.int 5) = .ok true :=
  Deadline.expired_of_le ⟨trivial, trivial, by decide⟩ (by decide +kernel)

theorem staysPast_slowOpening : StaysPast deadline slowOpening := by
  intro past c n r hc
  unfold slowOpening
  by_cases h : n = 1 ∧ r.isConnect = true
  · rw [if_pos h]
    exact deadline_past
  · rw [if_neg h]
    exact hc

end Sample

/-- The bind of such a login carries the password after the deadline, and the login is denied. -/
theorem Authenticator.late_of_slowOpening :
    ∃ pre b post, Sample.slowOpeningSent = pre ++ b :: post ∧
      b.request = .bind "uid=ann,o=org" [115, 101, 99, 114, 101, 116] ∧ b.IsLate Sample.deadline ∧
        (∀ x ∈ post, x.connection = b.connection ∧ x.request.isConnect = false) ∧
          ∀ user, (Sample.slowOpeningAuthenticator.authenticate Sample.credentials
            (some Sample.deadline) (World.start Sample.clocks)).1 ≠ .ok (.ok user) := by
  have hbuilt : (build (fun _ => true) Sample.slowOpening Sample.store Sample.config none
      (World.start Sample.clocks)).1 = .ok Sample.slowOpeningAuthenticator := rfl
  have hbind : (Sample.slowOpeningSent.any fun b =>
      b.request = .bind "uid=ann,o=org" [115, 101, 99, 114, 101, 116] ∧
        b.sentAt.steady = .int 5) = true := by
    decide +kernel
  obtain ⟨b, hb, hshows⟩ := List.any_eq_true.1 hbind
  obtain ⟨hrequest, hsent⟩ := of_decide_eq_true hshows
  obtain ⟨pre, post, hsplit⟩ := List.append_of_mem hb
  have hlate : b.IsLate Sample.deadline := ⟨by simp [hrequest], by rw [hsent, Sample.deadline_past]⟩
  obtain ⟨hafter, -, hdenied⟩ := (authenticate_late_iff hbuilt Sample.credentials Sample.deadline
    (World.start Sample.clocks)).2.2 Sample.staysPast_slowOpening pre b post hsplit hlate
  exact ⟨pre, b, post, hsplit, hrequest, hlate, hafter, hdenied⟩

end TwoFactorLogin
