import TwoFactorLogin.Proofs.InTime
import TwoFactorLogin.Proofs.NoProbing
import TwoFactorLogin.Proofs.Refusing

/-!
# The log tells the truth

Whoever logs in learns only whether it worked. Why it did not is for the operator to read in the
log, so the log has to be right about it. A login that returns has written one verdict, and a denial
among the verdicts names the first step that failed.

**First failures.** `FirstFailure` walks through the steps in their order: the credentials, the
deadline, the name, the deadline, the bind, the deadline, the second factor. Each of its cases says
that everything before it went well, what went wrong then, and which events there have been by the
end. `Resolved` and `Bound` say what went well.

**Stages.** What a stage promises (`Shows`) follows from the first failure. The same reason can
come from two stages, as both visits can be refused alike; the events tell them apart.

* `authenticateAs_told`, `authenticate_told`: what is logged, and where the denial stands in it.
* `authenticate_truthful`: what an operator can rely on.
-/

namespace TwoFactorLogin

namespace LogRecord

/-- Whether a record begins a login. -/
def isStart : LogRecord → Bool
  | authenticateStart _ => true
  | _ => false

/-- Whether a record says that a login was let through. -/
def isSuccess : LogRecord → Bool
  | authenticateSuccess _ _ => true
  | _ => false

/-- Whether a record says how a login ended. -/
def isVerdict : LogRecord → Bool
  | authenticateSuccess _ _ | authenticateDenied _ _ _ _ => true
  | _ => false

theorem isOfLogin_eq (r : LogRecord) : r.isOfLogin = (r.isStart || r.isVerdict) := by
  cases r <;> rfl

end LogRecord

namespace Background

variable {log : List LogRecord}

theorem isOfLogin_eq (h : Background log) {r : LogRecord} (hr : r ∈ log) : r.isOfLogin = false := by
  simpa using List.filter_eq_nil_iff.1 h r hr

theorem filter_isStart (h : Background log) : log.filter LogRecord.isStart = [] := by
  refine List.filter_eq_nil_iff.2 fun r hr => ?_
  have := h.isOfLogin_eq hr
  simp_all [LogRecord.isOfLogin_eq]

theorem filter_isVerdict (h : Background log) : log.filter LogRecord.isVerdict = [] := by
  refine List.filter_eq_nil_iff.2 fun r hr => ?_
  have := h.isOfLogin_eq hr
  simp_all [LogRecord.isOfLogin_eq]

theorem denied_notMem (h : Background log) (username : Option String) (reason : DenialReason)
    (stage : Option Stage) (dn : Option String) :
    .authenticateDenied username reason stage dn ∉ log := fun hr => by
  cases h.isOfLogin_eq hr

end Background

/-! ## Failed second factors -/

/-- Why a look-up lets nobody in. The reasons are told apart in this order. -/
inductive Lookup.Denies (l : Lookup) (config : SecondFactorConfig) (submitted : Option String)
    (deadline : Option Deadline) : DenialReason → Prop
  | late : deadlineExpired deadline l.reply.clocks.steady = .ok true →
      Denies l config submitted deadline .deadlineExceeded
  | unavailable : deadlineExpired deadline l.reply.clocks.steady = .ok false →
      (∀ secret, l.reply.outcome ≠ .ok (some secret)) →
      Denies l config submitted deadline .secretUnavailable
  | missing {secret : SecondFactorSecret} :
      deadlineExpired deadline l.reply.clocks.steady = .ok false →
      l.reply.outcome = .ok (some secret) → ¬ secret.IsBypassed config →
      submitted.all Text.allBlank = true → Denies l config submitted deadline .codeMissing
  | invalid {secret : SecondFactorSecret} :
      deadlineExpired deadline l.reply.clocks.steady = .ok false →
      l.reply.outcome = .ok (some secret) → ¬ secret.IsBypassed config →
      submitted.all Text.allBlank = false →
      SecondFactorValidator.codeValid config secret submitted l.reply.clocks = .ok false →
      Denies l config submitted deadline .codeInvalid

theorem SecondFactorSecret.judged_eq_denied {secret : SecondFactorSecret}
    {config : SecondFactorConfig} {submitted : Option String} {clocks : Clocks}
    {reason : DenialReason} (h : secret.judged config submitted clocks = .ok (.error reason)) :
    ¬ secret.IsBypassed config ∧
      (submitted.all Text.allBlank = true ∧ reason = .codeMissing ∨
        submitted.all Text.allBlank = false ∧ reason = .codeInvalid ∧
          SecondFactorValidator.codeValid config secret submitted clocks = .ok false) := by
  unfold judged at h
  by_cases hb : (!secret.isEnabled && config.allowDisabledBypass) = true
  · rw [if_pos hb] at h
    cases h
  · rw [if_neg hb] at h
    refine ⟨by simpa [IsBypassed] using hb, ?_⟩
    by_cases hblank : submitted.all Text.allBlank = true
    · rw [if_pos hblank] at h
      exact .inl ⟨hblank, (Except.error.inj (Except.ok.inj h)).symm⟩
    · rw [if_neg hblank] at h
      rcases hc : SecondFactorValidator.codeValid config secret submitted clocks with
        fault | _ | _
      · simp [hc, Except.map] at h
      · have hreason : DenialReason.codeInvalid = reason := by simpa [hc, Except.map] using h
        exact .inr ⟨by simpa using hblank, hreason.symm, rfl⟩
      · simp [hc, Except.map] at h

theorem Lookup.denies_of_judged {l : Lookup} {config : SecondFactorConfig}
    {submitted : Option String} {deadline : Option Deadline} {reason : DenialReason}
    (h : l.judged config submitted deadline = .ok (.error reason)) :
    l.Denies config submitted deadline reason := by
  unfold judged at h
  rcases hf : l.reply.found with fault | found
  · simp [hf] at h
  · rcases hd : deadlineExpired deadline l.reply.clocks.steady with fault | _ | _
    · simp [hf, hd] at h
    · cases found with
      | none =>
        obtain rfl : DenialReason.secretUnavailable = reason := by simpa [hf, hd] using h
        refine .unavailable hd fun secret ho => ?_
        rw [← StoreReply.found_eq_some, hf] at ho
        cases ho
      | some secret =>
        have ho := StoreReply.found_eq_some.1 hf
        simp only [hf, hd] at h
        obtain ⟨hb, ⟨hblank, rfl⟩ | ⟨hblank, rfl, hc⟩⟩ := SecondFactorSecret.judged_eq_denied h
        · exact .missing hd ho hb hblank
        · exact .invalid hd ho hb hblank hc
    · obtain rfl : DenialReason.deadlineExceeded = reason := by simpa [hf, hd] using h
      exact .late hd

namespace Authenticator

/-! ## First failures -/

/-- A login begins in time, and its name is resolved. -/
structure Resolved (a : Authenticator) (credentials : Credentials) (deadline : Option Deadline)
    (w : World) (username dn : String) (es : List Exchange) : Prop
    extends a.Named credentials w username dn es where
  complete : credentials.isComplete = true
  begun_in_time : deadlineExpired deadline w.clocks.steady = .ok false

/-- And in time again, the directory accepts the bind as that name, `b`, on a connection opened for
it. -/
structure Bound (a : Authenticator) (credentials : Credentials) (deadline : Option Deadline)
    (w : World) (username dn : String) (es op : List Exchange) (b : Exchange) : Prop where
  resolved : a.Resolved credentials deadline w username dn es
  welcomed : a.connector.Welcomes (some dn) credentials.password deadline (w.pushAll es) op b

/-- The first step of a login that fails: with the events of the whole login, the reason and the
stage, and the name if the login knows it. -/
inductive FirstFailure (a : Authenticator) (credentials : Credentials) (deadline : Option Deadline)
    (w : World) : List Event → DenialReason → Option Stage → Option String → Prop
  | incomplete : credentials.isComplete = false →
      FirstFailure a credentials deadline w [] .missingCredentials none none
  | lateAtFirst : credentials.isComplete = true →
      deadlineExpired deadline w.clocks.steady = .ok true →
      FirstFailure a credentials deadline w [] .deadlineExceeded (some .resolve) none
  | unresolved {username : String} {reason : DenialReason} {es : List Exchange} :
      credentials.isComplete = true → credentials.username = some username →
      deadlineExpired deadline w.clocks.steady = .ok false →
      Resolver.Declines username deadline w a.resolver reason es →
      FirstFailure a credentials deadline w (es.map .exchange) reason (some .resolve) none
  | lateToBind {username dn : String} {es : List Exchange} :
      a.Resolved credentials deadline w username dn es →
      deadlineExpired deadline (w.pushAll es).clocks.steady = .ok true →
      FirstFailure a credentials deadline w (es.map .exchange) .deadlineExceeded (some .bind) none
  | unbound {username dn : String} {reason : DenialReason} {es es' : List Exchange} :
      a.Resolved credentials deadline w username dn es →
      deadlineExpired deadline (w.pushAll es).clocks.steady = .ok false →
      a.connector.Refuses (some dn) credentials.password deadline (w.pushAll es) reason es' →
      FirstFailure a credentials deadline w ((es ++ es').map .exchange) reason (some .bind)
        (some dn)
  | lateToCheck {username dn : String} {es op : List Exchange} {b q : Exchange} :
      a.Bound credentials deadline w username dn es op b →
      deadlineExpired deadline b.reply.clocks.steady = .ok true →
      FirstFailure a credentials deadline w ((es ++ op ++ [b] ++ [q]).map .exchange)
        .deadlineExceeded (some .secondFactor) none
  | unverified {username dn : String} {reason : DenialReason} {es op : List Exchange}
      {b q : Exchange} {l : Lookup} :
      a.Bound credentials deadline w username dn es op b →
      deadlineExpired deadline b.reply.clocks.steady = .ok false →
      l = (w.pushAll (es ++ op ++ [b])).lookupOf a.validator.store username deadline →
      l.Denies a.validator.config credentials.code deadline reason →
      FirstFailure a credentials deadline w
        ((es ++ op ++ [b]).map .exchange ++ [.lookup l, .exchange q]) reason (some .secondFactor)
        (some dn)

/-! ## Stages -/

/-- The reasons that a denial can have at a stage, or before the first one. -/
def reasonsAt : Option Stage → List DenialReason
  | none => [.missingCredentials]
  | some .resolve =>
    [.deadlineExceeded, .identityUnresolved, .identityAmbiguous, .connectionFailed, .bindRejected]
  | some .bind => [.deadlineExceeded, .connectionFailed, .bindRejected]
  | some .secondFactor => [.deadlineExceeded, .secretUnavailable, .codeMissing, .codeInvalid]

/-- What the events of a login show if it is denied at a stage. Before the first stage nothing is
asked of anyone. While resolving, nothing is sent but what resolving needs. A login denied at its
bind has resolved its name, shows no accepted bind after that, and asks no store; one denied at its
second factor shows an accepted bind. -/
def Shows (a : Authenticator) (credentials : Credentials) (w : World) (events : List Event) :
    Option Stage → Prop
  | none => events = []
  | some .resolve => ∃ es, events = es.map .exchange ∧ a.resolver.Errand w es
  | some .bind => ∃ username dn es es', credentials.username = some username ∧
      events = (es ++ es').map .exchange ∧ a.resolver.Yields username w.nextConnection dn es ∧
        a.connector.Errand (some dn) credentials.password (w.pushAll es) es' ∧
          ∀ e ∈ es', ¬ e.IsAcceptedBind
  | some .secondFactor => ∃ n es rest, events = es.map .exchange ++ rest ∧
      a.PrimaryBind credentials w n es

variable {a : Authenticator} {credentials : Credentials} {deadline : Option Deadline}
  {w w' : World} {username dn : String} {es op : List Exchange} {b : Exchange}
  {events : List Event} {reason : DenialReason} {stage : Option Stage} {name : Option String}
  {log : List LogRecord}

theorem FirstFailure.reason_mem
    (h : a.FirstFailure credentials deadline w events reason stage name) :
    reason ∈ reasonsAt stage := by
  cases h with
  | incomplete _ => simp [reasonsAt]
  | lateAtFirst _ _ => simp [reasonsAt]
  | unresolved _ _ _ hr => exact List.mem_cons_of_mem _ hr.reason_mem
  | lateToBind _ _ => simp [reasonsAt]
  | unbound _ _ hr => rcases hr.reason_eq with rfl | rfl <;> simp [reasonsAt]
  | lateToCheck _ _ => simp [reasonsAt]
  | unverified _ _ _ hl => cases hl <;> simp [reasonsAt]

theorem Bound.primaryBind (h : a.Bound credentials deadline w username dn es op b) :
    a.PrimaryBind credentials w (w.pushAll es).nextConnection (es ++ op ++ [b]) := by
  obtain ⟨user, bytes, hs, hb⟩ := h.welcomed.submits
  obtain rfl : dn = user := Option.some.inj hs.dn_eq
  obtain ⟨password, hpassword, -, hbytes⟩ := hs.password_eq
  exact .accepted h.resolved.username_eq h.resolved.yields h.welcomed.opens.opens hpassword hbytes
    (by rw [hb]; rfl) (by rw [hb]; rfl) h.welcomed.accepted

theorem FirstFailure.shows (h : a.FirstFailure credentials deadline w events reason stage name) :
    a.Shows credentials w events stage := by
  cases h with
  | incomplete _ => rfl
  | lateAtFirst _ _ => exact ⟨[], rfl, .nil⟩
  | unresolved _ _ _ hr => exact ⟨_, rfl, hr.errand⟩
  | lateToBind hr _ =>
    exact ⟨_, _, _, [], hr.username_eq, by rw [List.append_nil], hr.yields, .nil, by simp⟩
  | unbound hr _ hrefuses =>
    exact ⟨_, _, _, _, hr.username_eq, rfl, hr.yields, hrefuses.errand,
      hrefuses.not_isAcceptedBind⟩
  | lateToCheck hb _ => exact ⟨_, _, _, List.map_append, hb.primaryBind⟩
  | unverified hb _ _ _ => exact ⟨_, _, _, rfl, hb.primaryBind⟩

/-! ## What a login writes -/

/-- How a login's log begins. -/
def opening (credentials : Credentials) : List LogRecord :=
  if credentials.isComplete then [.authenticateStart credentials.username] else []

/-- What a login tells the operator. A denial names the first failure, and stands alone in the
background; so does a success, at the end. -/
inductive Told (a : Authenticator) (credentials : Credentials) (deadline : Option Deadline)
    (w : World) : Except Fault LoginResult × World → Prop
  | denied {events : List Event} {reason : DenialReason} {stage : Option Stage}
      {name : Option String} {log log' : List LogRecord} {w' : World} :
      a.FirstFailure credentials deadline w events reason stage name →
      Background log → Background log' → w'.trace = w.trace ++ events →
      w'.log = w.log ++ (opening credentials ++ log ++
        .authenticateDenied credentials.username reason stage name :: log') →
      Told a credentials deadline w (.ok (.error {}), w')
  | passed {user : AuthenticatedIdentity} {log : List LogRecord} {w' : World} :
      credentials.isComplete = true → Background log →
      w'.log = w.log ++ (opening credentials ++ log ++
        [.authenticateSuccess credentials.username user.identity.dn]) →
      Told a credentials deadline w (.ok (.ok user), w')
  | raised {fault : Fault} {w' : World} : Told a credentials deadline w (.error fault, w')

/-- What checking the second factor of a bound login writes. -/
inductive Checked (a : Authenticator) (credentials : Credentials) (username dn : String)
    (deadline : Option Deadline) (w : World) :
    Except Fault (Option PermissionDenied) × World → Prop
  | raised {fault : Fault} {w' : World} :
      Checked a credentials username dn deadline w (.error fault, w')
  | late : deadlineExpired deadline w.clocks.steady = .ok true →
      Checked a credentials username dn deadline w (.ok (some {}), w.note
        [.authenticateDenied credentials.username .deadlineExceeded (some .secondFactor) none])
  | denied {l : Lookup} {reason : DenialReason} {log : List LogRecord} :
      deadlineExpired deadline w.clocks.steady = .ok false →
      l = w.lookupOf a.validator.store username deadline →
      l.Denies a.validator.config credentials.code deadline reason → Background log →
      Checked a credentials username dn deadline w (.ok (some {}), (w.looked l).note (log ++
        [.authenticateDenied credentials.username reason (some .secondFactor) (some dn)]))
  | passed {l : Lookup} {log : List LogRecord} : Background log →
      Checked a credentials username dn deadline w (.ok none, (w.looked l).note log)

theorem checkSecondFactor_checked (a : Authenticator) (credentials : Credentials)
    (username dn : String) (deadline : Option Deadline) (w : World) :
    Checked a credentials username dn deadline w
      (a.checkSecondFactor credentials username dn deadline w) := by
  simp only [checkSecondFactor, Run.bind_apply, World.expired_apply]
  rcases hd : deadlineExpired deadline w.clocks.steady with fault | _ | _
  · exact .raised
  · obtain ⟨log, hlog, hv⟩ := a.validator.verify_apply username credentials.code hd
    generalize hl : w.lookupOf a.validator.store username deadline = l at hv
    simp only [Bool.false_eq_true, if_false, Run.bind_apply, hv]
    rcases hj : l.judged a.validator.config credentials.code deadline with
      fault | reason | secret
    · exact .raised
    · simp only [Run.bind_apply, deny_apply, World.note_note]
      exact .denied hd hl.symm (Lookup.denies_of_judged hj) hlog
    · exact .passed hlog
  · exact .late hd

/-- A bound login tells what its second factor comes to, though its connection is released in
between, which logs more. -/
theorem Bound.told {β : Type} {identity : DirectoryIdentity} {s : Session} {n : Nat}
    {out : Except Fault (Option PermissionDenied) × World}
    (hb : a.Bound credentials deadline w username identity.dn es op b) (hlog : Background log)
    (hopen : s.OpenOn n)
    (hc : Checked a credentials username identity.dn deadline
      ((w.pushAll (es ++ op ++ [b])).note (opening credentials ++ log)) out)
    (given : Option β) :
    Told a credentials deadline w (settle credentials identity
      ((a.connector.release given out.1 s out.2).1.outcome,
        (a.connector.release given out.1 s out.2).2)) := by
  rw [Connector.release_of_open hopen rfl]
  generalize World.exchange _ a.connector.directory _ .unbind = q
  have hclosing := a.connector.background_closingLog s "disconnect" q
  rcases hu : q.unbindOutcome with fault | _
  · simp only [q.ending_of_error hu]
    exact .raised
  simp only [q.ending_of_ok hu]
  cases hc with
  | raised => exact .raised
  | late hlate =>
    exact .denied (.lateToCheck (q := q) hb (by simpa using hlate)) hlog hclosing (by simp)
      (by simp)
  | @denied l reason log' htime hl hdenies hlog' =>
    have hbefore : Background (log ++ l.reply.log.map .store ++ log') := by simp [hlog, hlog']
    refine .denied (.unverified (q := q) hb (by simpa using htime) ?_ hdenies) hbefore hclosing
      (by simp) (by simp)
    rw [hl]
    simp [World.lookupOf]
  | @passed l log' hlog' =>
    have hbefore : Background (log ++ l.reply.log.map .store ++ log' ++
        a.connector.closingLog s "disconnect" q) := by
      simp [hlog, hlog', hclosing]
    exact .passed hb.resolved.complete hbefore (by simp)

/-- A login that comes to its bind in time tells what its two factors come to. -/
theorem checkFactors_told {identity : DirectoryIdentity}
    (hr : a.Resolved credentials deadline w username identity.dn es) (hlog : Background log)
    (hd : deadlineExpired deadline (w.pushAll es).clocks.steady = .ok false) :
    Told a credentials deadline w (settle credentials identity (a.checkFactors credentials username
      identity deadline ((w.pushAll es).note (opening credentials ++ log)))) := by
  simp only [checkFactors, Lease.toRun]
  generalize hrefused : (fun reason => do
    return some (← deny credentials reason (some .bind) (some identity.dn)) :
      DenialReason → Run World (Option PermissionDenied)) = refused
  have hv := a.connector.openBound_reception (some identity.dn) credentials.password deadline
    refused ((w.pushAll es).note (opening credentials ++ log))
  generalize hrun : (fun granted => a.connector.openBound (some identity.dn)
    credentials.password deadline refused granted
      ((w.pushAll es).note (opening credentials ++ log))) = run at hv
  rw [congrFun hrun
    (Run.onSecond (a.checkSecondFactor credentials username identity.dn deadline))]
  cases hv with
  | aborted _ _ _ => exact .raised
  | @refused reason es' log' _ v hrefuses hlog' hv =>
    subst hrefused hv
    simp only [Run.bind_apply, deny_apply]
    have hbefore : Background (log ++ log') := by simp [hlog, hlog']
    exact .denied (.unbound hr hd hrefuses.of_note) hbefore background_nil (by simp) (by simp)
  | @received op b s log' v hb hopen _ _ hlog' hv =>
    have hbefore : Background (log ++ log') := by simp [hlog, hlog']
    refine Bound.told ⟨hr, hb.of_note⟩ hbefore hopen ?_ _
    have hrow : v = (w.pushAll (es ++ op ++ [b])).note (opening credentials ++ (log ++ log')) := by
      rw [hv]
      simp
    rw [← hrow]
    exact a.checkSecondFactor_checked credentials username identity.dn deadline v

theorem authenticateAs_told {identity : DirectoryIdentity}
    (hr : a.Resolved credentials deadline w username identity.dn es) (hlog : Background log) :
    Told a credentials deadline w (a.authenticateAs credentials username identity deadline
      ((w.pushAll es).note (opening credentials ++ log))) := by
  rcases hd : deadlineExpired deadline (w.pushAll es).clocks.steady with fault | _ | _
  · simp only [authenticateAs, Run.bind_apply, World.expired_apply, World.clocks_note, hd]
    exact .raised
  · rw [authenticateAs_eq_settle username identity (by simpa using hd)]
    exact checkFactors_told hr hlog hd
  · simp only [authenticateAs, Run.bind_apply, World.expired_apply, World.clocks_note, hd, if_true,
      deny_apply]
    exact .denied (.lateToBind hr hd) hlog background_nil (by simp) (by simp)

theorem authenticate_told (a : Authenticator) (credentials : Credentials)
    (deadline : Option Deadline) (w : World) :
    Told a credentials deadline w (a.authenticate credentials deadline w) := by
  cases hc : credentials.isComplete with
  | false =>
    rw [authenticate_of_incomplete hc]
    exact .denied (.incomplete hc) background_nil background_nil (by simp) (by simp [opening, hc])
  | true =>
    obtain ⟨username, husername, hne⟩ :=
      (Option.any_eq_true _ _).1 (Bool.and_eq_true_iff.1 hc).1
    have hopening : opening credentials = [.authenticateStart credentials.username] := if_pos hc
    rw [authenticate_of_complete a deadline w hc husername, ← husername, ← hopening]
    rcases hd : deadlineExpired deadline w.clocks.steady with fault | _ | _
    · exact .raised
    · have hfull : username ≠ "" := by simpa using hne
      have hr := a.resolver.resolve_consultation hfull deadline (w.note (opening credentials))
      generalize a.resolver.resolve username deadline (w.note (opening credentials)) = out at hr ⊢
      cases hr with
      | aborted _ _ _ => exact .raised
      | @declined es log reason v hdeclines hlog hv =>
        subst hv
        exact .denied (.unresolved hc husername hd hdeclines.of_note) hlog background_nil (by simp)
          (by simp)
      | @found es log identity v he hy hlog hv =>
        have hresolved : a.Resolved credentials deadline w username identity.dn es :=
          ⟨⟨husername, (Resolver.errand_note _).1 he, hy⟩, hc, hd⟩
        have hrow : ((w.note (opening credentials)).pushAll es).note log =
            (w.pushAll es).note (opening credentials ++ log) := by
          simp
        dsimp only
        rw [hv, hrow]
        exact authenticateAs_told hresolved hlog
    · exact .denied (.lateAtFirst hc hd) background_nil background_nil (by simp)
        (by simp [hopening])

/-! ## What an operator can rely on -/

/-- The log of a login that returns begins with its start, if it has one, and holds one verdict,
which is a success exactly if the login succeeded. A denial names the first failure, with a reason
that its stage can have, and the events show what the stage promises. -/
structure Truthful (a : Authenticator) (credentials : Credentials) (deadline : Option Deadline)
    (w : World) (result : LoginResult) (events : List Event) (log : List LogRecord) : Prop where
  starts : log.filter LogRecord.isStart = opening credentials
  starts_first : credentials.isComplete = true →
    log.head? = some (.authenticateStart credentials.username)
  verdict : ∃ verdict, log.filter LogRecord.isVerdict = [verdict] ∧
    (verdict.isSuccess = true ↔ ∃ user, result = .ok user)
  denied : ∀ username reason stage name, .authenticateDenied username reason stage name ∈ log →
    a.FirstFailure credentials deadline w events reason stage name ∧ reason ∈ reasonsAt stage ∧
      a.Shows credentials w events stage

theorem filter_opening (credentials : Credentials) :
    (opening credentials).filter LogRecord.isStart = opening credentials ∧
      (opening credentials).filter LogRecord.isVerdict = [] ∧
        ∀ username reason stage name,
          .authenticateDenied username reason stage name ∉ opening credentials := by
  unfold opening
  split <;> simp [LogRecord.isStart, LogRecord.isVerdict]

theorem Told.truthful {result : LoginResult}
    (h : Told a credentials deadline w (.ok result, w')) :
    ∃ log, w'.log = w.log ++ log ∧
      a.Truthful credentials deadline w result (w.since w') log := by
  obtain ⟨hstart, hverdict, hdenied⟩ := filter_opening credentials
  have hfirst (log : List LogRecord) (hc : credentials.isComplete = true) :
      (opening credentials ++ log).head? = some (.authenticateStart credentials.username) := by
    simp [opening, hc]
  generalize hout : (Except.ok result, w') = out at h
  cases h with
  | raised => simp at hout
  | @passed user log v hc hlog hv =>
    obtain ⟨hresult, rfl⟩ := Prod.mk.inj hout
    obtain rfl : result = .ok user := Except.ok.inj hresult
    refine ⟨_, hv, ⟨?_, ?_, ⟨.authenticateSuccess credentials.username user.identity.dn, ?_,
      by simp [LogRecord.isSuccess]⟩, ?_⟩⟩
    · simp [hstart, hlog.filter_isStart, LogRecord.isStart]
    · intro hc
      rw [List.append_assoc]
      exact hfirst _ hc
    · simp [hverdict, hlog.filter_isVerdict, LogRecord.isVerdict]
    · intro username reason stage name hmem
      simp [hdenied, hlog.denied_notMem] at hmem
  | @denied events reason stage name log log' v hfailure hlog hlog' htrace hv =>
    obtain ⟨hresult, rfl⟩ := Prod.mk.inj hout
    obtain rfl : result = .error {} := Except.ok.inj hresult
    refine ⟨_, hv, ⟨?_, ?_, ⟨.authenticateDenied credentials.username reason stage name, ?_,
      by simp [LogRecord.isSuccess]⟩, ?_⟩⟩
    · simp [hstart, hlog.filter_isStart, hlog'.filter_isStart, LogRecord.isStart]
    · intro hc
      rw [List.append_assoc]
      exact hfirst _ hc
    · simp [hverdict, hlog.filter_isVerdict, hlog'.filter_isVerdict, List.filter_cons,
        LogRecord.isVerdict]
    · intro username reason' stage' name' hmem
      obtain ⟨-, rfl, rfl, rfl⟩ : username = credentials.username ∧ reason' = reason ∧
          stage' = stage ∧ name' = name := by
        simpa [hdenied, hlog.denied_notMem, hlog'.denied_notMem] using hmem
      rw [World.since_eq htrace]
      exact ⟨hfailure, hfailure.reason_mem, hfailure.shows⟩

end Authenticator

/-! ## Slow directories -/

namespace Sample

/-- The clocks when five seconds have passed. -/
def lateClocks : Clocks := { clocks with steady := .int 5 }

/-- Whether the reply to a request comes late: to the search, or to the bind of a user. -/
def isSlow : Stage → Request → Bool
  | .bind, .search _ _ _ => true
  | .secondFactor, .bind user _ => user = "uid=ann,o=org"
  | _, _ => false

/-- The directory of the sample, late with one of its replies. -/
def slowDirectory (stage : Stage) : Directory := fun past clocks n r =>
  let reply := directory past clocks n r
  if isSlow stage r then { reply with clocks := lateClocks } else reply

/-- The clocks at which a login begins that runs out of time at a stage. -/
def clocksFor : Stage → Clocks
  | .resolve => lateClocks
  | _ => clocks

/-- The authenticator of the sample with such a directory. -/
def slowAuthenticator (stage : Stage) : Authenticator :=
  let c : Connector := ⟨config.directory, .ofMode .startTls, some ⟨true, none⟩,
    slowDirectory stage⟩
  ⟨c, .search config.directory c, ⟨store, config.secondFactor⟩⟩

theorem build_slow (stage : Stage) :
    (Authenticator.build (fun _ => true) (slowDirectory stage) store config none
      (World.start (clocksFor stage))).1 = .ok (slowAuthenticator stage) := rfl

/-- A login that runs out of time at a stage. -/
def slowLogin (stage : Stage) : Except Fault LoginResult × World :=
  (slowAuthenticator stage).authenticate credentials (some deadline)
    (World.start (clocksFor stage))

theorem slowLogin_eq (stage : Stage) :
    slowLogin stage = (.ok (.error {}), (slowLogin stage).2) := by
  have hdenied : ((slowLogin stage).1.toOption.any fun result => result.toOption.isNone) = true := by
    cases stage <;> decide +kernel
  rcases hr : slowLogin stage with ⟨fault | denied | user, w'⟩
  · simp [hr, Except.toOption] at hdenied
  · rfl
  · simp [hr, Except.toOption] at hdenied

theorem denied_mem_slowLogin (stage : Stage) :
    .authenticateDenied (some "ann") .deadlineExceeded (some stage) none ∈
      (slowLogin stage).2.log := by
  cases stage <;> decide +kernel

end Sample

namespace Authenticator

/-- Every login that returns leaves a truthful log. And at each of the stages there are logins that
are denied there because their deadline has passed. -/
theorem authenticate_truthful (a : Authenticator) (credentials : Credentials)
    (deadline : Option Deadline) (w : World) :
    (∀ result w', a.authenticate credentials deadline w = (.ok result, w') →
      ∃ log, w'.log = w.log ++ log ∧
        a.Truthful credentials deadline w result (w.since w') log) ∧
      ∀ stage, ∃ directory v b v',
        (build (fun _ => true) directory Sample.store Sample.config none v).1 = .ok b ∧
          b.authenticate Sample.credentials (some Sample.deadline) v = (.ok (.error {}), v') ∧
            v.Logged v' (.authenticateDenied Sample.credentials.username .deadlineExceeded
              (some stage) none) := by
  refine ⟨fun result w' hrun => ?_, fun stage => ?_⟩
  · have h := a.authenticate_told credentials deadline w
    rw [hrun] at h
    exact h.truthful
  · exact ⟨Sample.slowDirectory stage, World.start (Sample.clocksFor stage),
      Sample.slowAuthenticator stage, _, Sample.build_slow stage, Sample.slowLogin_eq stage, _,
      rfl, Sample.denied_mem_slowLogin stage⟩

/-- A login whose search took too long says so truthfully. -/
theorem truthful_of_slowSearch :
    ∃ log, (Sample.slowLogin .bind).2.log = [] ++ log ∧
      (Sample.slowAuthenticator .bind).Truthful Sample.credentials (some Sample.deadline)
        (World.start Sample.clocks) (.error {})
        ((World.start Sample.clocks).since (Sample.slowLogin .bind).2) log :=
  ((Sample.slowAuthenticator .bind).authenticate_truthful Sample.credentials (some Sample.deadline)
    (World.start Sample.clocks)).1 _ _ (Sample.slowLogin_eq .bind)

end Authenticator

end TwoFactorLogin
