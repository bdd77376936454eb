import TwoFactorLogin.Login
import TwoFactorLogin.Proofs.Resolving
import TwoFactorLogin.Proofs.SecondFactor

/-!
# What a login comes to

`LoggingIn` lists what a login can do, and `Admitting` what it can do once it has an identity. In
only one case of the two lists is the store asked for a secret, and in the same case alone can the
login succeed: the connection is open, and the bind as the identity was accepted. A second factor
that fails there is logged with its reason; of other records the lists do not speak. The judgement
of the look-up is the end of the login, unless the release of the connection is interrupted.

* `build_built`: what an authenticator is put together from.
* `authenticate_loggingIn`: the lists are complete.
-/

namespace TwoFactorLogin

/-- What a connector is put together from. -/
theorem Connector.eq_of_build {bundleExists : String → Bool} {directory : Directory}
    {config : DirectoryConfig} {transport : Option Transport} {w : World} {c : Connector}
    (h : (build bundleExists directory config transport w).1 = .ok c) :
    ∃ tls, c = ⟨config, transport.getD (.ofMode config.encryption), tls, directory⟩ := by
  have hrest (t : Transport) (v : World)
      (h : ((do
        let tls ← if config.encryption = .none then pure none else do
          let settings ← buildTls bundleExists config
          pure (some settings)
        return ⟨config, t, tls, directory⟩ : Run World Connector) v).1 = .ok c) :
      ∃ tls, c = ⟨config, t, tls, directory⟩ := by
    split at h
    · exact ⟨none, (Except.ok.inj h).symm⟩
    · obtain ⟨settings, v', -, h⟩ := Run.ok_of_bind h
      exact ⟨some settings, (Except.ok.inj h).symm⟩
  cases transport with
  | none => exact hrest _ _ h
  | some t => exact hrest _ _ h

namespace Authenticator

/-- An authenticator is put together from a configuration, a directory and a store. -/
structure Built (a : Authenticator) (directory : Directory) (store : SecretStore)
    (config : AuthConfig) (transport : Option Transport) : Prop where
  directory_eq : a.connector.directory = directory
  config_eq : a.connector.config = config.directory
  transport_eq : a.connector.transport = transport.getD (.ofMode config.directory.encryption)
  resolver_eq : a.resolver = .ofConfig config.directory a.connector
  validator_eq : a.validator = ⟨store, config.secondFactor⟩

theorem build_built {bundleExists : String → Bool} {directory : Directory} {store : SecretStore}
    {config : AuthConfig} {transport : Option Transport} {w : World} {a : Authenticator}
    (h : (build bundleExists directory store config transport w).1 = .ok a) :
    a.Built directory store config transport := by
  obtain ⟨c, v, hc, hac⟩ := Run.ok_of_bind h
  obtain rfl : ⟨c, .ofConfig config.directory c, ⟨store, config.secondFactor⟩⟩ = a :=
    Except.ok.inj hac
  obtain ⟨tls, rfl⟩ := Connector.eq_of_build (congrArg Prod.fst hc)
  exact ⟨rfl, rfl, rfl, rfl, rfl⟩

/-- How the judgement of the second factor ends a login. -/
def conclude (credentials : Credentials) (identity : DirectoryIdentity) (date : String) :
    Except Fault (Except DenialReason SecondFactorSecret) → Except Fault LoginResult
  | .error fault => .error fault
  | .ok (.error _) => .ok (.error {})
  | .ok (.ok _) => .ok (.ok ⟨credentials, identity, date⟩)

/-- Everything that a login can do once it has an identity. -/
inductive Admitting (a : Authenticator) (credentials : Credentials) (username : String)
    (identity : DirectoryIdentity) (deadline : Option Deadline) (w : World) :
    Except Fault LoginResult × World → Prop
  | denied {es : List Exchange} {log : List LogRecord} {w' : World} :
      a.connector.Errand (some identity.dn) credentials.password w es →
      w' = (w.pushAll es).note log →
      Admitting a credentials username identity deadline w (.ok (.error {}), w')
  | escaped {es : List Exchange} {log : List LogRecord} {w' : World} {fault : Fault} :
      a.connector.Errand (some identity.dn) credentials.password w es →
      a.connector.Strays deadline w fault → w' = (w.pushAll es).note log →
      Admitting a credentials username identity deadline w (.error fault, w')
  | probed {es : List Exchange} {bytes : List UInt8} {b q : Exchange} {l : Lookup}
      {log log' : List LogRecord} {r : Except Fault LoginResult} {w' : World} :
      a.connector.Opening deadline w es →
      Connector.Submits (some identity.dn) credentials.password identity.dn bytes →
      b = (w.pushAll es).exchange a.connector.directory w.nextConnection
        (.bind identity.dn bytes) →
      b.reply.outcome = .ok true → deadlineExpired deadline b.reply.clocks.steady = .ok false →
      l = (w.pushAll (es ++ [b])).lookupOf a.validator.store username deadline →
      q = ((w.pushAll (es ++ [b])).looked l).exchange a.connector.directory w.nextConnection
        .unbind →
      r = q.ending (conclude credentials identity q.reply.clocks.date
        (l.judged a.validator.config credentials.code deadline)) →
      w' = ((((w.pushAll (es ++ [b])).note log).looked l).push q).note log' →
      (∀ reason, l.judged a.validator.config credentials.code deadline = .ok (.error reason) →
        .authenticateDenied credentials.username reason (some .secondFactor) (some identity.dn)
          ∈ log') →
      Admitting a credentials username identity deadline w (r, w')

/-- The exchanges that a login makes before it asks the store: those of resolving the name and, if
that yields one, an errand as that name. -/
inductive Journey (a : Authenticator) (credentials : Credentials) (w : World) :
    List Exchange → Prop
  | unresolved {es : List Exchange} : a.resolver.Errand w es → Journey a credentials w es
  | resolved {username dn : String} {es es' : List Exchange} :
      credentials.username = some username → a.resolver.Errand w es →
      a.resolver.Yields username w.nextConnection dn es →
      a.connector.Errand (some dn) credentials.password (w.pushAll es) es' →
      Journey a credentials w (es ++ es')

/-- The exchanges of resolving the login name, which yield one name. -/
structure Named (a : Authenticator) (credentials : Credentials) (w : World) (username dn : String)
    (es : List Exchange) : Prop where
  username_eq : credentials.username = some username
  errand : a.resolver.Errand w es
  yields : a.resolver.Yields username w.nextConnection dn es

/-- What a login that asks the store has to do with. -/
structure Probe where
  username : String
  identity : DirectoryIdentity
  bytes : List UInt8
  resolution : List Exchange
  opening : List Exchange
  bind : Exchange
  lookup : Lookup
  unbind : Exchange

/-- The exchanges before the store is asked. -/
def Probe.before (p : Probe) : List Exchange := p.resolution ++ p.opening ++ [p.bind]

/-- The events of a login that asks the store. -/
def Probe.events (p : Probe) : List Event :=
  p.before.map .exchange ++ [.lookup p.lookup, .exchange p.unbind]

/-- A login from `w` to `w'` asks the store: within the deadline, the name was resolved, a
connection was opened, and the bind was accepted. The connection is unbound afterwards. -/
structure Probe.Happens (p : Probe) (a : Authenticator) (credentials : Credentials)
    (deadline : Option Deadline) (w w' : World) : Prop where
  username_eq : credentials.username = some p.username
  username_ne : p.username ≠ ""
  begun_in_time : deadlineExpired deadline w.clocks.steady = .ok false
  errand : a.resolver.Errand w p.resolution
  yields : a.resolver.Yields p.username w.nextConnection p.identity.dn p.resolution
  opens : a.connector.Opening deadline (w.pushAll p.resolution) p.opening
  submits : Connector.Submits (some p.identity.dn) credentials.password p.identity.dn p.bytes
  bind_eq : p.bind = (w.pushAll (p.resolution ++ p.opening)).exchange a.connector.directory
    (w.pushAll p.resolution).nextConnection (.bind p.identity.dn p.bytes)
  accepted : p.bind.reply.outcome = .ok true
  bound_in_time : deadlineExpired deadline p.bind.reply.clocks.steady = .ok false
  lookup_eq : p.lookup =
    (w.pushAll p.before).lookupOf a.validator.store p.username deadline
  unbind_eq : p.unbind = ((w.pushAll p.before).looked p.lookup).exchange a.connector.directory
    (w.pushAll p.resolution).nextConnection .unbind
  trace_eq : w'.trace = w.trace ++ p.events
  clocks_eq : w'.clocks = p.unbind.reply.clocks

/-- Everything that a login can do. -/
inductive LoggingIn (a : Authenticator) (credentials : Credentials) (deadline : Option Deadline)
    (w : World) : Except Fault LoginResult × World → Prop
  | denied {es : List Exchange} {log : List LogRecord} {w' : World} :
      a.Journey credentials w es → w' = (w.pushAll es).note log →
      LoggingIn a credentials deadline w (.ok (.error {}), w')
  | escaped {es : List Exchange} {log : List LogRecord} {w' : World} {fault : Fault} :
      a.Journey credentials w es → a.connector.Strays deadline w fault →
      w' = (w.pushAll es).note log → LoggingIn a credentials deadline w (.error fault, w')
  | probed {p : Probe} {r : Except Fault LoginResult} {w' : World} :
      p.Happens a credentials deadline w w' →
      r = p.unbind.ending (conclude credentials p.identity w'.clocks.date
        (p.lookup.judged a.validator.config credentials.code deadline)) →
      (∀ reason,
        p.lookup.judged a.validator.config credentials.code deadline = .ok (.error reason) →
          w.Logged w' (.authenticateDenied credentials.username reason (some .secondFactor)
            (some p.identity.dn))) →
      LoggingIn a credentials deadline w (r, w')

variable {a : Authenticator} {credentials : Credentials} {username : String}
  {identity : DirectoryIdentity} {deadline : Option Deadline} {w : World}

@[simp] theorem deny_apply (reason : DenialReason) (stage : Option Stage) (dn : Option String) :
    deny credentials reason stage dn w =
      (.ok {}, w.note [.authenticateDenied credentials.username reason stage dn]) := rfl

/-- A resolver searches on connections of the authenticator's own. -/
theorem Built.strays {directory : Directory} {store : SecretStore} {config : AuthConfig}
    {transport : Option Transport} (ha : a.Built directory store config transport) {fault : Fault}
    (h : a.resolver.Strays deadline w fault) : a.connector.Strays deadline w fault := by
  rw [ha.resolver_eq, Resolver.ofConfig] at h
  split at h
  · exact h
  · exact h.elim

theorem Built.answers {directory : Directory} {store : SecretStore} {config : AuthConfig}
    {transport : Option Transport} (ha : a.Built directory store config transport)
    {es : List Exchange} (h : a.resolver.Errand w es) : w.Answers a.connector.directory es := by
  rw [ha.resolver_eq, Resolver.ofConfig] at h
  split at h
  · exact h.answered
  · obtain rfl : es = [] := h
    trivial

/-- What a login exchanges on its way is what the directory answers. -/
theorem Journey.answers {directory : Directory} {store : SecretStore} {config : AuthConfig}
    {transport : Option Transport} {es : List Exchange} (h : a.Journey credentials w es)
    (ha : a.Built directory store config transport) : w.Answers directory es := by
  rw [← ha.directory_eq]
  cases h with
  | unresolved he => exact ha.answers he
  | resolved _ he _ he' => exact World.answers_append.2 ⟨ha.answers he, he'.answered⟩

/-- What a login exchanges before it asks the store is what the directory answers. -/
theorem Probe.Happens.before_answers {directory : Directory} {store : SecretStore}
    {config : AuthConfig} {transport : Option Transport} {p : Probe} {w' : World}
    (h : p.Happens a credentials deadline w w') (ha : a.Built directory store config transport) :
    w.Answers directory p.before := by
  have hresolved : w.Answers a.connector.directory p.resolution := ha.answers h.errand
  have hbound : (w.pushAll p.resolution).Answers a.connector.directory (p.opening ++ [p.bind]) :=
    (h.opens.errand_bind h.submits (by rw [h.bind_eq, World.pushAll_append])).answered
  rw [← ha.directory_eq, Probe.before, List.append_assoc]
  exact World.answers_append.2 ⟨hresolved, hbound⟩

/-! ## The second factor of a login -/

/-- What is left of a judgement until the login ends. -/
def denialOf : Except DenialReason SecondFactorSecret → Option PermissionDenied
  | .ok _ => none
  | .error _ => some {}

/-- Everything that checking the second factor of a bound login can do. -/
inductive Probing (a : Authenticator) (credentials : Credentials) (username dn : String)
    (deadline : Option Deadline) (w : World) :
    Except Fault (Option PermissionDenied) × World → Prop
  | unreckoned {fault : Fault} : deadlineExpired deadline w.clocks.steady = .error fault →
      Probing a credentials username dn deadline w (.error fault, w)
  | late {log : List LogRecord} : deadlineExpired deadline w.clocks.steady = .ok true →
      Probing a credentials username dn deadline w (.ok (some {}), w.note log)
  | judged {l : Lookup} {log : List LogRecord} {r : Except Fault (Option PermissionDenied)}
      {w' : World} :
      deadlineExpired deadline w.clocks.steady = .ok false →
      l = w.lookupOf a.validator.store username deadline →
      r = (l.judged a.validator.config credentials.code deadline).map denialOf →
      w' = (w.looked l).note log →
      (∀ reason, l.judged a.validator.config credentials.code deadline = .ok (.error reason) →
        .authenticateDenied credentials.username reason (some .secondFactor) (some dn) ∈ log) →
      Probing a credentials username dn deadline w (r, w')

theorem checkSecondFactor_probing (a : Authenticator) (credentials : Credentials)
    (username dn : String) (deadline : Option Deadline) (w : World) :
    Probing a credentials username dn deadline w
      (a.checkSecondFactor credentials username dn deadline w) := by
  simp only [checkSecondFactor, Run.bind_apply, World.expired_apply]
  rcases hd : deadlineExpired deadline w.clocks.steady with fault | _ | _
  · exact .unreckoned hd
  · obtain ⟨log, -, hv⟩ := a.validator.verify_apply username credentials.code hd
    generalize hl : w.lookupOf a.validator.store username deadline = l at hv
    simp only [Bool.false_eq_true, if_false, Run.bind_apply, hv]
    cases hj : l.judged a.validator.config credentials.code deadline with
    | error fault => exact .judged hd hl.symm (by rw [hj]; rfl) rfl (by simp [hj])
    | ok r =>
      cases r with
      | error reason =>
        exact .judged hd hl.symm (by rw [hj]; rfl) (World.note_note _ _) (by simp [hj])
      | ok secret => exact .judged hd hl.symm (by rw [hj]; rfl) rfl (by simp [hj])
  · exact .late hd

/-- Checking the second factor sends nothing, and takes no other time than the store. -/
theorem Probing.world {out : Except Fault (Option PermissionDenied) × World}
    (h : Probing a credentials username dn deadline w out) :
    out.2.exchanges = w.exchanges ∧
      out.2.clocks = match deadlineExpired deadline w.clocks.steady with
        | .ok false => (a.validator.store w.clocks username deadline).clocks
        | _ => w.clocks := by
  cases h with
  | unreckoned hd => rw [hd]; exact ⟨rfl, rfl⟩
  | late hd => rw [hd]; exact ⟨rfl, rfl⟩
  | judged hd hl _ hw _ =>
    rw [hd, hw, World.exchanges_note, World.exchanges_looked]
    exact ⟨rfl, by rw [hl]; rfl⟩

/-! ## A login with an identity -/

/-- How a login with an identity ends after both factors were checked. -/
def settle (credentials : Credentials) (identity : DirectoryIdentity) :
    Except Fault (Option PermissionDenied) × World → Except Fault LoginResult × World
  | (.error fault, w) => (.error fault, w)
  | (.ok (some denied), w) => (.ok (.error denied), w)
  | (.ok none, w) => (.ok (.ok ⟨credentials, identity, w.clocks.date⟩),
      w.note [.authenticateSuccess credentials.username identity.dn])

theorem authenticateAs_eq_settle (username : String) (identity : DirectoryIdentity)
    (hd : deadlineExpired deadline w.clocks.steady = .ok false) :
    a.authenticateAs credentials username identity deadline w =
      settle credentials identity (a.checkFactors credentials username identity deadline w) := by
  simp only [authenticateAs, Run.bind_apply, World.expired_apply, hd, Bool.false_eq_true, if_false]
  generalize a.checkFactors credentials username identity deadline w = x
  rcases x with ⟨fault | _ | denied, v⟩ <;> rfl

/-- A judgement that outlasts the release of the connection is the end of the login; a success is
logged after it. -/
theorem exists_settle_eq (credentials : Credentials) (identity : DirectoryIdentity) (q : Exchange)
    (judgement : Except Fault (Except DenialReason SecondFactorSecret)) (v : World) :
    ∃ log, settle credentials identity (q.ending (judgement.map denialOf), v) =
      (q.ending (conclude credentials identity v.clocks.date judgement), v.note log) := by
  cases hu : q.unbindOutcome with
  | error fault =>
    simp only [q.ending_of_error hu]
    exact ⟨[], by rw [World.note_nil]; rfl⟩
  | ok _ =>
    simp only [q.ending_of_ok hu]
    rcases judgement with fault | _ | secret
    · exact ⟨[], by rw [World.note_nil]; rfl⟩
    · exact ⟨[], by rw [World.note_nil]; rfl⟩
    · exact ⟨_, rfl⟩

section Settling

variable {es : List Exchange} {log closing : List LogRecord} {b q : Exchange}

/-- A visit that asks no store is released and ends the login. -/
theorem admitting_of_unasked {r : Except Fault (Option PermissionDenied)}
    (he : a.connector.Errand (some identity.dn) credentials.password w es) (hne : es ≠ [])
    (hq : q = (w.pushAll es).exchange a.connector.directory w.nextConnection .unbind)
    (hr : r = .ok (some {}) ∨ ∃ fault, r = .error fault ∧ a.connector.Strays deadline w fault) :
    Admitting a credentials username identity deadline w
      (settle credentials identity
        (q.ending r, (((w.pushAll es).note log).push q).note closing)) := by
  have he' := he.onward hne hq rfl
  have hrow := World.pushAll_note_pushAll (w := w) es [q] log closing
  cases hu : q.unbindOutcome with
  | error fault =>
    rw [q.ending_of_error hu]
    exact .escaped he' (.of_interruption hq hu) hrow
  | ok _ =>
    rw [q.ending_of_ok hu]
    rcases hr with rfl | ⟨fault, rfl, hs⟩
    · exact .denied he' hrow
    · exact .escaped he' hs hrow

/-- Checking the second factor of a bound session, and releasing it, as the end of a login. -/
theorem Probing.admitting {bytes : List UInt8}
    {out : Except Fault (Option PermissionDenied) × World}
    (hp : Probing a credentials username identity.dn deadline
      ((w.pushAll (es ++ [b])).note log) out)
    (ho : a.connector.Opening deadline w es)
    (hs : Connector.Submits (some identity.dn) credentials.password identity.dn bytes)
    (hb : b = (w.pushAll es).exchange a.connector.directory w.nextConnection
      (.bind identity.dn bytes)) (hok : b.reply.outcome = .ok true)
    (hq : q = out.2.exchange a.connector.directory w.nextConnection .unbind) :
    Admitting a credentials username identity deadline w
      (settle credentials identity (q.ending out.1, (out.2.push q).note closing)) := by
  have he := ho.errand_bind hs hb
  cases hp with
  | unreckoned hd =>
    exact admitting_of_unasked he (by simp) hq (.inr ⟨_, rfl, .inl ⟨es ++ [b], he.answered, hd⟩⟩)
  | late _ =>
    rw [World.note_note] at hq ⊢
    exact admitting_of_unasked he (by simp) hq (.inl rfl)
  | @judged l log' r w' hd hl hr hw hdenied =>
    obtain ⟨log'', hsettle⟩ := exists_settle_eq credentials identity q
      (l.judged a.validator.config credentials.code deadline) ((w'.push q).note closing)
    subst hr hw
    rw [hsettle]
    have hrow : ((((((w.pushAll (es ++ [b])).note log).looked l).note log').push q).note
        closing).note log'' = ((((w.pushAll (es ++ [b])).note log).looked l).push q).note
          (log' ++ (closing ++ log'')) := by
      simp
    exact .probed ho hs hb hok (by simpa using hd) hl hq rfl hrow
      fun reason hreason => List.mem_append_left _ (hdenied reason hreason)

end Settling

theorem authenticateAs_admitting (a : Authenticator) (credentials : Credentials)
    (username : String) (identity : DirectoryIdentity) (deadline : Option Deadline) (w : World) :
    Admitting a credentials username identity deadline w
      (a.authenticateAs credentials username identity deadline w) := by
  rcases hd : deadlineExpired deadline w.clocks.steady with fault | _ | _
  · simp only [authenticateAs, Run.bind_apply, World.expired_apply, hd]
    exact .escaped .nil (.inl ⟨[], trivial, hd⟩) World.note_nil.symm
  · rw [authenticateAs_eq_settle username identity hd]
    simp only [checkFactors, Lease.toRun]
    generalize hrefused : (fun reason => do
      return some (← deny credentials reason (some .bind) (some identity.dn)) :
        DenialReason → Run World (Option PermissionDenied)) = refused
    have hv := a.connector.openBound_visit (some identity.dn) credentials.password deadline refused
      w
    generalize hrun : (fun granted => a.connector.openBound (some identity.dn)
      credentials.password deadline refused granted w) = run at hv
    rw [congrFun hrun
      (Run.onSecond (a.checkSecondFactor credentials username identity.dn deadline))]
    cases hv with
    | escaped he _ hs hw => exact .escaped he hs hw
    | refused he _ hw =>
      subst hrefused hw
      exact .denied he (World.note_note _ _)
    | @granted es user bytes b s log v ho hs hb hok hopen hw =>
      obtain rfl : identity.dn = user := Option.some.inj hs.dn_eq
      subst hw
      have hp := a.checkSecondFactor_probing credentials username identity.dn deadline
        ((w.pushAll (es ++ [b])).note log)
      simp only [Run.onSecond_apply, Connector.release_of_open hopen rfl]
      exact hp.admitting ho hs hb hok rfl
  · simp only [authenticateAs, Run.bind_apply, World.expired_apply, hd]
    exact .denied .nil rfl

/-! ## Whole logins -/

/-- What a login does with an identity, seen from its beginning. -/
theorem Admitting.loggingIn {es : List Exchange} {log : List LogRecord}
    {out : Except Fault LoginResult × World} (husername : credentials.username = some username)
    (hne : username ≠ "") (hd : deadlineExpired deadline w.clocks.steady = .ok false)
    (he : a.resolver.Errand w es) (ha : w.Answers a.connector.directory es)
    (hy : a.resolver.Yields username w.nextConnection identity.dn es)
    (h : Admitting a credentials username identity deadline ((w.pushAll es).note log) out) :
    LoggingIn a credentials deadline w out := by
  cases h with
  | @denied es' log' w' he' hw =>
    rw [World.pushAll_note_pushAll] at hw
    exact .denied (.resolved husername he hy ((Connector.errand_note _).1 he')) hw
  | @escaped es' log' w' fault he' hs hw =>
    rw [World.pushAll_note_pushAll] at hw
    exact .escaped (.resolved husername he hy ((Connector.errand_note _).1 he'))
      (((Connector.strays_note _).1 hs).after ha) hw
  | @probed es' bytes b q l log' log'' r w' ho hs hb hok hd' hl hq hr hw hdenied =>
    have hclocks : w'.clocks = q.reply.clocks := by rw [hw]; rfl
    have hbefore : ((w.pushAll es).note log).pushAll (es' ++ [b]) =
        (w.pushAll (es ++ es' ++ [b])).note log := by
      simp
    rw [hbefore] at hl hq hw
    refine .probed (p := ⟨username, identity, bytes, es, es', b, l, q⟩) ?_
      (by rw [hclocks]; exact hr) fun reason hreason =>
        ⟨log ++ log' ++ l.reply.log.map .store ++ log'', by rw [hw]; simp,
          List.mem_append_right _ (hdenied reason hreason)⟩
    exact {
      username_eq := husername
      username_ne := hne
      begun_in_time := hd
      errand := he
      yields := hy
      opens := (Connector.opening_note _).1 ho
      submits := hs
      bind_eq := by simpa using hb
      accepted := hok
      bound_in_time := hd'
      lookup_eq := hl
      unbind_eq := hq
      trace_eq := by simp [hw, Probe.events, Probe.before]
      clocks_eq := hclocks }

theorem authenticate_of_incomplete (h : credentials.isComplete = false) :
    a.authenticate credentials deadline w = (.ok (.error {}),
      w.note [.authenticateDenied credentials.username .missingCredentials none none]) := by
  simp only [authenticate, h, Bool.not_false, if_true, Run.bind_apply, deny_apply]
  rfl

theorem authenticate_of_complete (a : Authenticator) (deadline : Option Deadline) (w : World)
    (h : credentials.isComplete = true) (husername : credentials.username = some username) :
    a.authenticate credentials deadline w =
      match deadlineExpired deadline w.clocks.steady with
      | .error fault => (.error fault, w.note [.authenticateStart (some username)])
      | .ok true => (.ok (.error {}), w.note [.authenticateStart (some username),
          .authenticateDenied (some username) .deadlineExceeded (some .resolve) none])
      | .ok false =>
        match a.resolver.resolve username deadline
          (w.note [.authenticateStart (some username)]) with
        | (.error fault, v) => (.error fault, v)
        | (.ok (.error reason), v) => (.ok (.error {}),
            v.note [.authenticateDenied (some username) reason (some .resolve) none])
        | (.ok (.ok identity), v) =>
          a.authenticateAs credentials username identity deadline v := by
  simp only [authenticate, h, Bool.not_true, Bool.false_eq_true, if_false, Run.bind_apply,
    World.record_apply, World.expired_apply, husername, Option.getD_some, World.clocks_note]
  rcases deadlineExpired deadline w.clocks.steady with fault | _ | _
  · rfl
  · simp only [Bool.false_eq_true, if_false, Run.bind_apply]
    rcases a.resolver.resolve username deadline (w.note [.authenticateStart (some username)]) with
      ⟨fault | reason | identity, v⟩
    · rfl
    · simp only [Run.bind_apply, deny_apply, husername]
      rfl
    · rfl
  · simp only [if_true, Run.bind_apply, deny_apply, husername, World.note_note]
    rfl

theorem authenticate_loggingIn {directory : Directory} {store : SecretStore} {config : AuthConfig}
    {transport : Option Transport} (ha : a.Built directory store config transport)
    (credentials : Credentials) (deadline : Option Deadline) (w : World) :
    LoggingIn a credentials deadline w (a.authenticate credentials deadline w) := by
  have hnil : a.Journey credentials w [] := .unresolved .nil
  cases hc : credentials.isComplete with
  | false =>
    rw [authenticate_of_incomplete hc]
    exact .denied hnil rfl
  | true =>
    obtain ⟨username, husername, hne⟩ :=
      (Option.any_eq_true _ _).1 (Bool.and_eq_true_iff.1 hc).1
    rw [authenticate_of_complete a deadline w hc husername]
    rcases hd : deadlineExpired deadline w.clocks.steady with fault | _ | _
    · exact .escaped hnil (.inl ⟨[], trivial, hd⟩) rfl
    · have hr := a.resolver.resolve_resolving username deadline
        (w.note [.authenticateStart (some username)])
      generalize a.resolver.resolve username deadline
        (w.note [.authenticateStart (some username)]) = out at hr ⊢
      have hrow (es : List Exchange) (log : List LogRecord) :
          ((w.note [.authenticateStart (some username)]).pushAll es).note log =
            (w.pushAll es).note (.authenticateStart (some username) :: log) := by
        simp
      cases hr with
      | @escaped es log fault w' he hs hw =>
        rw [hrow] at hw
        exact .escaped (.unresolved ((Resolver.errand_note _).1 he))
          ((Connector.strays_note _).1 (ha.strays hs)) hw
      | @unresolved es log reason w' he hw =>
        rw [hrow] at hw
        exact .denied (.unresolved ((Resolver.errand_note _).1 he))
          (by rw [hw]; exact World.note_note _ _)
      | @found es log identity w' he hy hw =>
        rw [hrow] at hw
        have he' := (Resolver.errand_note _).1 he
        have hadm := a.authenticateAs_admitting credentials username identity deadline w'
        rw [hw] at hadm ⊢
        exact hadm.loggingIn husername (by simpa using hne) hd he' (ha.answers he') hy
    · exact .denied hnil rfl

end Authenticator

/-! ## A login to look at -/

namespace Sample

/-- Clocks that stand still. -/
def clocks : Clocks := ⟨.zero, .int 1000, "2024-01-01T00:00:00Z"⟩

/-- A directory that does whatever it is asked and finds one entry. -/
def directory : Directory := fun _ clocks _ _ =>
  ⟨.ok true, none, [⟨some "searchResEntry", some "uid=ann,o=org"⟩], clocks⟩

/-- A store that has a disabled secret for everybody. -/
def store : SecretStore := fun clocks username _ =>
  ⟨.ok (some ⟨username, "GEZDGNBV", .bool false⟩), [], clocks⟩

/-- A configuration that searches, upgrades connections, and honours disabled secrets. -/
def config : AuthConfig where
  directory := {
    userBaseDn := "o=org"
    hostname := "localhost"
    port := none
    encryption := .startTls
    usernameAttributes := ["uid"]
    usernameAttributes_ne := by simp
    userSearchFilter := "(objectClass=*)"
    searchBindDn := some "cn=search"
    searchBindPassword := some [112, 119]
    userDnTemplate := none
    tlsValidate := true
    caBundle := none
    connectTimeout := .int 10
    receiveTimeout := .int 10 }
  secondFactor := { allowDisabledBypass := true }

/-- The authenticator of that configuration. -/
def authenticator : Authenticator :=
  let c : Connector := ⟨config.directory, .ofMode .startTls, some ⟨true, none⟩, directory⟩
  ⟨c, .search config.directory c, ⟨store, config.secondFactor⟩⟩

/-- The credentials of a user, without a code. -/
def credentials : Credentials := ⟨some "ann", some [115, 101, 99, 114, 101, 116], none⟩

/-- The world after a login. -/
def afterLogin : World := (authenticator.authenticate credentials none (World.start clocks)).2

theorem build_eq :
    (Authenticator.build (fun _ => true) directory store config none (World.start clocks)).1 =
      .ok authenticator := rfl

end Sample

end TwoFactorLogin
