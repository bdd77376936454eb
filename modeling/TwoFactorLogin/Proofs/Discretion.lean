import TwoFactorLogin.Proofs.LoggingIn
import TwoFactorLogin.Proofs.SideBySide

/-!
# What the log says of passwords

Two logins that differ in passwords alone, the user's or the search account's, are put side by side.
Most steps never see a password. A bind asks whether there is one and whether it can be encoded, and
sends its bytes to the directory and nowhere else. If it cannot be encoded, though, the log is told
why: the complaint gives the first surrogate of the password and its position.

* `Password.Alike`: passwords that a bind treats alike, up to a mask over that complaint.
* `agree_…`: every step agrees with itself under two such passwords, from the unbinding of a
  connection up to the login.
* `Run.Discreet`, `authenticate_discreet`: the logs of two logins, resolutions or visits differ at
  most in such complaints; if these are the same, or if the passwords can be encoded, the logs do
  not differ at all.
-/

namespace TwoFactorLogin

open Run

/-! ## Passwords to compare -/

/-- What is said of a password that cannot be encoded. -/
def Password.complaint? (p : Password) : Option String :=
  (Text.firstSurrogates? p).map Text.Unencodable.message

/-- Passwords that are the same, or of which neither is empty and both draw the same complaint, or
none, as far as a mask lets it be seen. -/
def Password.Alike (mask : String → String) (p p' : Option Password) : Prop :=
  p = p' ∨ ∃ s s', p = some s ∧ p' = some s' ∧ s ≠ [] ∧ s' ≠ [] ∧
    (complaint? s).map mask = (complaint? s').map mask

namespace Password

variable {mask : String → String} {p p' : Option Password}

theorem alike_rfl (p : Option Password) : Alike mask p p := .inl rfl

/-- A bind is refused for both of two passwords that are alike, or for neither. -/
theorem Alike.filter (h : Alike mask p p') :
    (p.filter (fun s => !s.isEmpty) = none ∧ p'.filter (fun s => !s.isEmpty) = none) ∨
      ∃ s s', p.filter (fun s => !s.isEmpty) = some s ∧ p'.filter (fun s => !s.isEmpty) = some s' ∧
        (complaint? s).map mask = (complaint? s').map mask := by
  rcases h with rfl | ⟨s, s', rfl, rfl, hs, hs', h⟩
  · rcases hs : p.filter (fun s => !s.isEmpty) with _ | s
    · exact .inl ⟨hs, hs⟩
    · exact .inr ⟨s, s, hs, hs, rfl⟩
  · exact .inr ⟨s, s', by simp [hs], by simp [hs'], h⟩

end Password

/-! ## The same directory with another search password -/

/-- The configuration with another password for the search account. -/
def DirectoryConfig.rekeyed (c : DirectoryConfig) (q : Option Password) : DirectoryConfig :=
  { c with searchBindPassword := q }

/-- The connector with another password for the search account, and to another directory. -/
def Connector.rekeyed (c : Connector) (directory : Directory) (q : Option Password) : Connector :=
  { c with config := c.config.rekeyed q, directory }

namespace Connector

variable {mask : String → String} {c : Connector} {directory : Directory} {q : Option Password}

theorem agree_closeQuietly (n : Nat) :
    Agree mask Eq (c.closeQuietly n) ((c.rekeyed directory q).closeQuietly n) := by
  refine (World.agree_send rfl n).bind fun reply => ?_
  cases reply.outcome with
  | error fault => exact .ite (fun _ => agree_raise _ _) fun _ => World.agree_record rfl
  | ok _ => exact .pure rfl

theorem agree_endpoint (deadline : Option Deadline) :
    Agree mask Eq (c.endpoint deadline) ((c.rekeyed directory q).endpoint deadline) :=
  (World.agree_clamp _ _).bind fun _ => (World.agree_clamp _ _).bind fun _ => .pure rfl

theorem agree_upgrade (n : Nat) :
    Agree mask Eq (c.upgrade n) ((c.rekeyed directory q).upgrade n) := by
  refine .ite (fun _ => (World.agree_send rfl n).bind fun reply => ?_) fun _ => .pure rfl
  rcases reply.outcome with fault | _ | _
  · exact agree_raise _ _
  · exact agree_raise _ _
  · exact .pure rfl

theorem agree_connectFailed (s : Session) (connection : Option Nat) (fault : Fault) :
    Agree mask Eq (c.connectFailed s connection fault)
      ((c.rekeyed directory q).connectFailed s connection fault) := by
  refine .ite (fun _ => (World.agree_record rfl).bind fun _ => ?_) fun _ => agree_raise _ _
  have hend : Agree mask Eq
      (s.abandon (.sessionClosed "connect failed") >>= fun _ => pure (none : Option Session))
      (s.abandon (.sessionClosed "connect failed") >>= fun _ => pure none) :=
    (s.agree_abandon _).bind fun _ => .pure rfl
  cases connection with
  | none => exact hend
  | some n => exact (agree_closeQuietly n).bind fun _ => hend

theorem agree_connect (deadline : Option Deadline) :
    Agree mask Eq (c.connect deadline) ((c.rekeyed directory q).connect deadline) := by
  refine (World.agree_expired deadline).bind fun _ => .ite (fun _ => ?_) fun _ => ?_
  · exact (World.agree_record rfl).bind fun _ => (Session.agree_abandon _ _).bind fun _ => .pure rfl
  · refine (agree_endpoint deadline).bind fun endpoint => ?_
    refine (Agree.read fun h => World.nextConnection_eq_of_veil h).bind fun n => ?_
    refine (World.agree_send rfl n).bind fun reply => ?_
    cases reply.outcome with
    | error fault => exact agree_connectFailed _ _ fault
    | ok _ =>
      refine (agree_upgrade n).attempt.bind fun r => ?_
      cases r with
      | error fault => exact agree_connectFailed _ _ fault
      | ok _ =>
        exact (Session.agree_advance _ _).bind fun _ =>
          (World.agree_record rfl).bind fun _ => .pure rfl

theorem agree_disconnect (reason : Option String) :
    Agree mask Eq (c.disconnect reason) ((c.rekeyed directory q).disconnect reason) := by
  refine Session.agree_session.bind fun s => .ite (fun _ => .pure rfl) fun _ => ?_
  have hend : Agree mask Eq (Session.transition (.sessionClosed reason))
      (Session.transition (.sessionClosed reason)) := Session.agree_transition _
  cases s.connection with
  | none => exact hend
  | some n => exact (agree_closeQuietly n).onSecond.bind fun _ => hend

theorem agree_giveUpBind {r r' : LogRecord} (h : r.masked mask = r'.masked mask) (reason : String) :
    Agree mask Eq (c.giveUpBind r reason) ((c.rekeyed directory q).giveUpBind r' reason) :=
  (World.agree_record h).onSecond.bind fun _ => (agree_disconnect _).bind fun _ => .pure rfl

theorem agree_sendBind (n : Nat) (dn : String) (bytes bytes' : List UInt8) :
    Agree mask Eq (c.sendBind n dn bytes) ((c.rekeyed directory q).sendBind n dn bytes') := by
  have hveil : (Request.bind dn bytes).veil = (Request.bind dn bytes').veil := rfl
  refine (World.agree_send hveil n).onSecond.bind fun reply => ?_
  rcases reply.outcome with fault | _ | _
  · exact .ite (fun _ => agree_giveUpBind rfl _) fun _ => agree_raise _ _
  · exact agree_giveUpBind rfl _
  · exact (Session.agree_transition _).bind fun _ =>
      (World.agree_record rfl).onSecond.bind fun _ => .pure rfl

/-- A bind with a password that is there. -/
theorem agree_encode (connection : Option Nat) (dn : String) {s s' : Password}
    (h : (Password.complaint? s).map mask = (Password.complaint? s').map mask) :
    Agree mask Eq
      (match Text.utf8? s with
        | .error failure =>
          c.giveUpBind (.passwordNotEncoded dn failure.message) "password encoding failed"
        | .ok bytes =>
          match connection with
          | some n => c.sendBind n dn bytes
          | none => raise (.session (.noConnection "user")))
      (match Text.utf8? s' with
        | .error failure =>
          (c.rekeyed directory q).giveUpBind (.passwordNotEncoded dn failure.message)
            "password encoding failed"
        | .ok bytes =>
          match connection with
          | some n => (c.rekeyed directory q).sendBind n dn bytes
          | none => raise (.session (.noConnection "user"))) := by
  simp only [Password.complaint?, Option.map_map] at h
  simp only [Text.utf8?]
  generalize Text.firstSurrogates? s = u, Text.firstSurrogates? s' = u' at h ⊢
  rcases u with _ | u <;> rcases u' with _ | u'
  · cases connection with
    | none => exact agree_raise _ _
    | some n => exact agree_sendBind n dn _ _
  · cases h
  · cases h
  · have hmask : (LogRecord.passwordNotEncoded dn u.message).masked mask =
        (LogRecord.passwordNotEncoded dn u'.message).masked mask :=
      congrArg (LogRecord.passwordNotEncoded dn) (Option.some.inj h)
    exact agree_giveUpBind hmask _

theorem agree_bindAs (dn : Option String) {p p' : Option Password} (hp : Password.Alike mask p p') :
    Agree mask Eq (c.bindAs dn p) ((c.rekeyed directory q).bindAs dn p') := by
  refine Session.agree_session.bind fun session => .ite (fun _ => agree_raise _ _) fun _ => ?_
  rcases hp.filter with ⟨hs, hs'⟩ | ⟨s, s', hs, hs', h⟩
  · simp only [hs, hs']
    cases dn.filter fun s => !s.isEmpty <;> exact agree_giveUpBind rfl _
  · simp only [hs, hs']
    generalize dn.filter (fun s => !s.isEmpty) = name
    rcases name with _ | name
    · exact agree_giveUpBind rfl _
    · exact agree_encode session.connection name h

/-! ### Visits -/

section Visits

variable {α β : Type}

theorem release_eq (given : Option β) (outcome : Except Fault α) (s : Session) :
    Lease.run (c.release given outcome s) = Run.within s (c.disconnect "disconnect") >>= fun p =>
      pure ⟨given, p.1.bind fun _ => outcome, some p.2⟩ := by
  funext w
  simp only [Lease.run, release, Run.within, bind_apply]
  rcases c.disconnect "disconnect" (s, w) with ⟨_ | _, s', w'⟩ <;> rfl

theorem openBound_eq (dn : Option String) (p : Option Password) (deadline : Option Deadline)
    (refused : DenialReason → Run World α) (granted : Run (Session × World) α) :
    Lease.run (c.openBound dn p deadline refused granted) =
      (c.connect deadline).attempt >>= fun
        | .error fault => pure ⟨none, .error fault, none⟩
        | .ok none => (refused .connectionFailed).attempt >>= fun outcome =>
          pure ⟨some (.error .connectionFailed), outcome, none⟩
        | .ok (some s) => Run.within s (c.bindAs dn p) >>= fun
          | (.error fault, s) => Lease.run (c.release none (.error fault) s)
          | (.ok true, s) => Run.within s granted >>= fun left =>
            Lease.run (c.release (some (.ok s)) left.1 left.2)
          | (.ok false, s) => (refused .bindRejected).attempt >>= fun outcome =>
            Lease.run (c.release (some (.error .bindRejected)) outcome s) := by
  funext w
  simp only [Lease.run, openBound, bind_apply, attempt_apply]
  rcases c.connect deadline w with ⟨fault | _ | s, v⟩
  · rfl
  · rfl
  · simp only [bind_apply, Run.within]
    rcases c.bindAs dn p (s, v) with ⟨fault | _ | _, s', v'⟩ <;> rfl

theorem agree_release (given : Option β) (outcome : Except Fault α) (s : Session) :
    Agree mask Eq (Lease.run (c.release given outcome s))
      (Lease.run ((c.rekeyed directory q).release given outcome s)) := by
  rw [release_eq, release_eq]
  exact ((agree_disconnect _).within s).bind fun _ => .pure rfl

theorem agree_openBound (dn : Option String) {p p' : Option Password}
    (hp : Password.Alike mask p p') (deadline : Option Deadline)
    {refused refused' : DenialReason → Run World α} {granted granted' : Run (Session × World) α}
    (hrefused : ∀ reason, Agree mask Eq (refused reason) (refused' reason))
    (hgranted : Agree mask Eq granted granted') :
    Agree mask Eq (Lease.run (c.openBound dn p deadline refused granted))
      (Lease.run ((c.rekeyed directory q).openBound dn p' deadline refused' granted')) := by
  rw [openBound_eq, openBound_eq]
  refine (agree_connect deadline).attempt.bind fun r => ?_
  rcases r with fault | _ | s
  · exact .pure rfl
  · exact (hrefused _).attempt.bind fun _ => .pure rfl
  · refine ((agree_bindAs dn hp).within s).bind fun b => ?_
    rcases b with ⟨fault | _ | _, s'⟩
    · exact agree_release _ _ s'
    · exact (hrefused _).attempt.bind fun _ => agree_release _ _ s'
    · exact (hgranted.within s').bind fun e => agree_release _ _ e.2

/-- The end of a visit agrees if its blocks do. -/
theorem agree_toRun_openBound (dn : Option String) {p p' : Option Password}
    (hp : Password.Alike mask p p') (deadline : Option Deadline)
    {refused refused' : DenialReason → Run World α} {granted granted' : Run (Session × World) α}
    (hrefused : ∀ reason, Agree mask Eq (refused reason) (refused' reason))
    (hgranted : Agree mask Eq granted granted') :
    Agree mask Eq (Lease.toRun (c.openBound dn p deadline refused granted))
      (Lease.toRun ((c.rekeyed directory q).openBound dn p' deadline refused' granted')) :=
  (agree_openBound dn hp deadline hrefused hgranted).bind fun lease => agree_ofExcept lease.outcome

end Visits

end Connector

/-! ## Resolving -/

namespace Resolver

variable {mask : String → String} {config : DirectoryConfig} {c : Connector}
  {directory directory' : Directory} {q : Option Password}

theorem agree_findUserDns (username : String) :
    Agree mask Eq (findUserDns config directory username)
      (findUserDns (config.rekeyed q) directory' username) := by
  refine Session.agree_session.bind fun s => ?_
  cases s.connection with
  | none => exact agree_raise _ _
  | some n =>
    refine (World.agree_send rfl n).onSecond.bind fun reply => ?_
    rcases reply.outcome with fault | _ | _
    · exact agree_raise _ _
    · exact .pure rfl
    · exact .pure rfl

theorem agree_searchBound (username : String) :
    Agree mask Eq (searchBound config directory username)
      (searchBound (config.rekeyed q) directory' username) := by
  refine (agree_findUserDns username).attempt.bind fun r => ?_
  cases r with
  | ok dns => exact .pure rfl
  | error fault =>
    exact .ite (fun _ => (World.agree_record rfl).onSecond.bind fun _ => .pure rfl)
      fun _ => agree_raise _ _

theorem agree_choose (username : String) (dns : List String) :
    Agree mask Eq (choose username dns) (choose username dns) := by
  rcases dns with _ | ⟨dn, _ | ⟨dn', dns⟩⟩
  · exact (World.agree_record rfl).bind fun _ => .pure rfl
  · exact (World.agree_record rfl).bind fun _ => (agree_ofExcept _).bind fun _ => .pure rfl
  · exact (World.agree_record rfl).bind fun _ => .pure rfl

theorem agree_derive (username : String) :
    Agree mask Eq (derive config username) (derive (config.rekeyed q) username) :=
  (agree_ofExcept _).bind fun _ => (World.agree_record rfl).bind fun _ =>
    (agree_ofExcept _).bind fun _ => .pure rfl

theorem agree_searchFor (hq : Password.Alike mask config.searchBindPassword q) (username : String)
    (deadline : Option Deadline) :
    Agree mask Eq (searchFor config c username deadline)
      (searchFor (config.rekeyed q) (c.rekeyed directory q) username deadline) := by
  refine (Connector.agree_toRun_openBound _ hq deadline
    (fun _ => (World.agree_record rfl).bind fun _ => .pure rfl)
    (agree_searchBound username)).bind fun found => ?_
  cases found with
  | error reason => exact .pure rfl
  | ok dns => exact agree_choose username dns

theorem agree_resolve (hq : Password.Alike mask config.searchBindPassword q) (username : String)
    (deadline : Option Deadline) :
    Agree mask Eq ((ofConfig config c).resolve username deadline)
      ((ofConfig (config.rekeyed q) (c.rekeyed directory q)).resolve username deadline) := by
  refine .ite (fun _ => .pure rfl) fun _ => ?_
  simp only [ofConfig, show (config.rekeyed q).usesSearch = config.usesSearch from rfl]
  cases config.usesSearch with
  | true => exact agree_searchFor hq username deadline
  | false => exact agree_derive username

end Resolver

/-! ## The second factor -/

namespace SecondFactorValidator

variable {mask : String → String}

theorem agree_fetchSecret (v : SecondFactorValidator) (username : String)
    (deadline : Option Deadline) :
    Agree mask Eq (v.fetchSecret username deadline) (v.fetchSecret username deadline) := by
  refine (World.agree_lookUp _ _ _).attempt.bind fun r => ?_
  cases r with
  | ok secret => exact .pure rfl
  | error fault =>
    exact .ite (fun _ => agree_raise _ _) fun _ => (World.agree_record rfl).bind fun _ => .pure rfl

theorem agree_timeOrNow (time : Option Number) :
    Agree mask Eq (timeOrNow time) (timeOrNow time) :=
  .read fun h => by rw [World.clocks_eq_of_veil h]

theorem agree_validateCode (config : SecondFactorConfig) (secret : SecondFactorSecret)
    (submitted : Option String) (time : Option Number) :
    Agree mask Eq (validateCode config secret submitted time)
      (validateCode config secret submitted time) := by
  unfold validateCode
  split
  · exact (World.agree_record rfl).bind fun _ => .pure rfl
  · exact agree_raise _ _
  · split
    · exact (World.agree_record rfl).bind fun _ => .pure rfl
    · exact (agree_timeOrNow time).bind fun _ => (agree_ofExcept _).bind fun _ => agree_ofExcept _

theorem agree_checkSecret (v : SecondFactorValidator) (username : String)
    (secret : SecondFactorSecret) (submitted : Option String) (time : Option Number) :
    Agree mask Eq (v.checkSecret username secret submitted time)
      (v.checkSecret username secret submitted time) :=
  .ite (fun _ => (World.agree_record rfl).bind fun _ => .pure rfl) fun _ =>
    .ite (fun _ => .pure rfl) fun _ =>
      (agree_validateCode _ _ _ _).bind fun _ => .ite (fun _ => .pure rfl) fun _ => .pure rfl

theorem agree_verify (v : SecondFactorValidator) (username : String) (submitted : Option String)
    (time : Option Number) (deadline : Option Deadline) :
    Agree mask Eq (v.verify username submitted time deadline)
      (v.verify username submitted time deadline) := by
  refine (World.agree_expired deadline).bind fun _ => .ite (fun _ => .pure rfl) fun _ => ?_
  refine (v.agree_fetchSecret username deadline).bind fun secret => ?_
  refine (World.agree_expired deadline).bind fun _ => .ite (fun _ => ?_) fun _ => ?_
  · exact (World.agree_record rfl).bind fun _ => .pure rfl
  · cases secret with
    | none => exact .pure rfl
    | some secret => exact v.agree_checkSecret username secret submitted time

end SecondFactorValidator

/-! ## Logging in -/

/-- What is put together from the same configuration with another password for the search account,
and to another directory. -/
theorem Connector.build_rekeyed (bundleExists : String → Bool) (directory directory' : Directory)
    (config : DirectoryConfig) (q : Option Password) (transport : Option Transport) (w : World) :
    (build bundleExists directory' (config.rekeyed q) transport w).1 =
      (build bundleExists directory config transport w).1.map fun c => c.rekeyed directory' q := by
  have hsome (t : Transport) (v : World) :
      (build bundleExists directory' (config.rekeyed q) (some t) v).1 =
        (build bundleExists directory config (some t) v).1.map fun c => c.rekeyed directory' q := by
    -- Certificates are checked as before, since that asks for no password.
    have htls : buildTls bundleExists (config.rekeyed q) = buildTls bundleExists config := rfl
    have hmode : (config.rekeyed q).encryption = config.encryption := rfl
    simp only [build, htls, hmode, bind_apply, pure_apply]
    split
    · rfl
    · simp only [bind_apply]
      rcases buildTls bundleExists config v with ⟨_ | _, v'⟩ <;> rfl
  cases transport with
  | none => exact hsome (.ofMode config.encryption) (w.note [.transportSelected config.encryption])
  | some t => exact hsome t w

namespace Authenticator

variable {mask : String → String} {c : Connector} {v : SecondFactorValidator}
  {credentials : Credentials} {directory : Directory} {p q : Option Password}

/-- The authenticator that a connector and a validator make. -/
def ofConnector (c : Connector) (v : SecondFactorValidator) : Authenticator :=
  ⟨c, .ofConfig c.config c, v⟩

theorem agree_deny (credentials : Credentials) (p : Option Password) (reason : DenialReason)
    (stage : Option Stage) (dn : Option String) :
    Agree mask Eq (deny credentials reason stage dn)
      (deny { credentials with password := p } reason stage dn) :=
  (World.agree_record rfl).bind fun _ => .pure rfl

theorem agree_checkSecondFactor (username dn : String) (deadline : Option Deadline) :
    Agree mask Eq ((ofConnector c v).checkSecondFactor credentials username dn deadline)
      ((ofConnector (c.rekeyed directory q) v).checkSecondFactor { credentials with password := p }
        username dn deadline) := by
  refine (World.agree_expired deadline).bind fun _ => .ite (fun _ => ?_) fun _ => ?_
  · exact (agree_deny _ _ _ _ _).bind fun _ => .pure rfl
  · refine (v.agree_verify _ _ _ _).bind fun r => ?_
    cases r with
    | ok _ => exact .pure rfl
    | error reason => exact (agree_deny _ _ _ _ _).bind fun _ => .pure rfl

theorem agree_checkFactors (hp : Password.Alike mask credentials.password p) (username : String)
    (identity : DirectoryIdentity) (deadline : Option Deadline) :
    Agree mask Eq ((ofConnector c v).checkFactors credentials username identity deadline)
      ((ofConnector (c.rekeyed directory q) v).checkFactors { credentials with password := p }
        username identity deadline) :=
  Connector.agree_toRun_openBound _ hp deadline
    (fun _ => (agree_deny _ _ _ _ _).bind fun _ => .pure rfl)
    (agree_checkSecondFactor username identity.dn deadline).onSecond

/-- Results of two logins that differ in nothing but the password that was submitted. -/
def SameResult (p : Option Password) (r r' : LoginResult) : Prop :=
  r' = r.map fun user => { user with credentials.password := p }

theorem agree_authenticateAs (hp : Password.Alike mask credentials.password p) (username : String)
    (identity : DirectoryIdentity) (deadline : Option Deadline) :
    Agree mask (SameResult p)
      ((ofConnector c v).authenticateAs credentials username identity deadline)
      ((ofConnector (c.rekeyed directory q) v).authenticateAs { credentials with password := p }
        username identity deadline) := by
  refine (World.agree_expired deadline).bind fun _ => .ite (fun _ => ?_) fun _ => ?_
  · exact (agree_deny _ _ _ _ _).bind fun _ => .pure rfl
  · refine (agree_checkFactors hp username identity deadline).bind fun denied => ?_
    cases denied with
    | some denied => exact .pure rfl
    | none =>
      refine (Agree.read fun h => by rw [World.clocks_eq_of_veil h]).bind fun date => ?_
      exact (World.agree_record rfl).bind fun _ => .pure rfl

theorem isComplete_withPassword (hp : Password.Alike mask credentials.password p) :
    { credentials with password := p : Credentials }.isComplete = credentials.isComplete := by
  have hany : p.any (fun s => !s.isEmpty) = credentials.password.any fun s => !s.isEmpty := by
    rcases hp with h | ⟨s, s', h, rfl, hs, hs', -⟩
    · rw [h]
    · simp [h, List.isEmpty_eq_false_iff.2 hs, List.isEmpty_eq_false_iff.2 hs']
  simp only [Credentials.isComplete, hany]

theorem agree_authenticate (hp : Password.Alike mask credentials.password p)
    (hq : Password.Alike mask c.config.searchBindPassword q) (deadline : Option Deadline) :
    Agree mask (SameResult p) ((ofConnector c v).authenticate credentials deadline)
      ((ofConnector (c.rekeyed directory q) v).authenticate { credentials with password := p }
        deadline) := by
  unfold authenticate
  rw [isComplete_withPassword hp]
  refine .ite (fun _ => ?_) fun _ => ?_
  · exact (agree_deny _ _ _ _ _).bind fun _ => .pure rfl
  · refine (World.agree_record rfl).bind fun _ => ?_
    refine (World.agree_expired deadline).bind fun _ => .ite (fun _ => ?_) fun _ => ?_
    · exact (agree_deny _ _ _ _ _).bind fun _ => .pure rfl
    · refine (Resolver.agree_resolve hq _ deadline).bind fun r => ?_
      cases r with
      | error reason => exact (agree_deny _ _ _ _ _).bind fun _ => .pure rfl
      | ok identity => exact agree_authenticateAs hp _ identity deadline

/-- Two authenticators that are put together from the same configuration, but for the password of
the search account, and to two directories. -/
theorem ofConnector_of_build {bundleExists : String → Bool} {directory directory' : Directory}
    {store : SecretStore} {config : AuthConfig} {transport : Option Transport} {w₀ : World}
    {a a' : Authenticator} {q : Option Password}
    (hbuilt : (build bundleExists directory store config transport w₀).1 = .ok a)
    (hbuilt' : (build bundleExists directory' store
      { config with directory := config.directory.rekeyed q } transport w₀).1 = .ok a') :
    ∃ c v, c.config = config.directory ∧ a = ofConnector c v ∧
      a' = ofConnector (c.rekeyed directory' q) v := by
  obtain ⟨c, w, hc, ha⟩ := Run.ok_of_bind hbuilt
  obtain ⟨c', w', hc', ha'⟩ := Run.ok_of_bind hbuilt'
  obtain rfl : c' = c.rekeyed directory' q := by
    have hrekeyed := Connector.build_rekeyed bundleExists directory directory' config.directory q
      transport w₀
    rw [hc, hc'] at hrekeyed
    exact Except.ok.inj hrekeyed
  obtain ⟨tls, rfl⟩ := Connector.eq_of_build (congrArg Prod.fst hc)
  exact ⟨_, ⟨store, config.secondFactor⟩, rfl, (Except.ok.inj ha).symm, (Except.ok.inj ha').symm⟩

end Authenticator

/-! ## The log -/

/-- Two passwords that are the same, or of which neither is empty and both can be encoded or
neither can. -/
def Password.Comparable (p p' : Option Password) : Prop :=
  p = p' ∨ ∃ s s', p = some s ∧ p' = some s' ∧ s ≠ [] ∧ s' ≠ [] ∧
    (complaint? s).isSome = (complaint? s').isSome

/-- Two passwords that draw the same complaint, or none. -/
def Password.SameComplaint (p p' : Option Password) : Prop := p.bind complaint? = p'.bind complaint?

theorem Password.Comparable.alike {p p' : Option Password} (h : Comparable p p') :
    Alike (fun _ => "") p p' := by
  rcases h with rfl | ⟨s, s', rfl, rfl, hs, hs', h⟩
  · exact alike_rfl p
  · refine .inr ⟨s, s', rfl, rfl, hs, hs', ?_⟩
    cases hc : complaint? s <;> cases hc' : complaint? s' <;> simp_all

theorem Password.Comparable.alike_id {p p' : Option Password} (h : Comparable p p')
    (hsame : SameComplaint p p') : Alike id p p' := by
  rcases h with rfl | ⟨s, s', rfl, rfl, hs, hs', -⟩
  · exact alike_rfl p
  · exact .inr ⟨s, s', rfl, rfl, hs, hs', congrArg (Option.map id) hsame⟩

/-- Two runs that write the same to the log, from any world on, if the directory concurs: the same
but for complaints about passwords, and the very same if `told` holds. -/
structure Run.Discreet {α β : Type} (told : Prop) (x : Run World α) (x' : Run World β) : Prop where
  masked (w : World) : Concur (x w).2.exchanges (x' w).2.exchanges →
    (x w).2.log.map (LogRecord.masked fun _ => "") =
      (x' w).2.log.map (LogRecord.masked fun _ => "")
  same (w : World) : told → Concur (x w).2.exchanges (x' w).2.exchanges →
    (x w).2.log = (x' w).2.log

theorem LogRecord.masked_id : masked id = id := by
  funext r
  cases r <;> rfl

theorem Run.discreet_of_agree {α β : Type} {R : α → β → Prop} {told : Prop} {x : Run World α}
    {x' : Run World β} (hmasked : Agree (fun _ => "") R x x') (hsame : told → Agree id R x x') :
    Discreet told x x' where
  masked _ hc := World.log_eq_of_veil (hmasked.agrees rfl hc).2
  same w ht hc := by
    have h := World.log_eq_of_veil ((hsame ht).agrees (s := w) rfl hc).2
    simpa [LogRecord.masked_id] using h

/-! ## Passwords that cannot be encoded -/

namespace Sample

/-- Credentials with a password that begins with a surrogate. -/
def unencodable : Credentials := { credentials with password := some [0xD800, 97] }

/-- A password of the same length that ends with one. -/
def otherPassword : Option Password := some [97, 0xD801]

/-- A shorter password for the search account. -/
def otherSearchPassword : Option Password := some [113]

/-- The authenticator of the sample with that password. -/
def otherAuthenticator : Authenticator :=
  .ofConnector (authenticator.connector.rekeyed directory otherSearchPassword)
    authenticator.validator

theorem build_other :
    (Authenticator.build (fun _ => true) directory store
      { config with directory := config.directory.rekeyed otherSearchPassword } none
      (World.start clocks)).1 = .ok otherAuthenticator := rfl

/-- What a login with such a password exchanges with the directory of the sample, if the search
account has a password with these bytes. -/
def exchangesWith (bytes : List UInt8) : List Exchange :=
  let endpoint := .connect (authenticator.connector.endpointWithin (.int 10) (.int 10))
  [(0, endpoint), (0, .startTls), (0, .bind "cn=search" bytes),
    (0, .search "o=org" (config.directory.userFilter "ann") ["uid"]), (0, .unbind),
    (1, endpoint), (1, .startTls), (1, .unbind)].map fun sent =>
      ⟨sent.1, sent.2, clocks, directory [] clocks sent.1 sent.2⟩

theorem exchanges_login :
    (authenticator.authenticate unencodable none (World.start clocks)).2.exchanges =
      exchangesWith [112, 119] := rfl

theorem exchanges_other :
    (otherAuthenticator.authenticate { unencodable with password := otherPassword } none
      (World.start clocks)).2.exchanges = exchangesWith [113] := rfl

end Sample

namespace Authenticator

/-- However two logins, resolutions or visits differ in passwords, their logs differ at most in what
is said of a password that cannot be encoded. Where nothing is said, or the same, they do not
differ. -/
theorem authenticate_discreet {bundleExists : String → Bool} {directory directory' : Directory}
    {store : SecretStore} {config : AuthConfig} {transport : Option Transport} {w₀ : World}
    {a a' : Authenticator} {credentials : Credentials} {p q : Option Password}
    (hbuilt : (build bundleExists directory store config transport w₀).1 = .ok a)
    (hbuilt' : (build bundleExists directory' store
      { config with directory := config.directory.rekeyed q } transport w₀).1 = .ok a')
    (hp : Password.Comparable credentials.password p)
    (hq : Password.Comparable config.directory.searchBindPassword q) (deadline : Option Deadline) :
    Discreet
        (Password.SameComplaint credentials.password p ∧
          Password.SameComplaint config.directory.searchBindPassword q)
        (a.authenticate credentials deadline)
        (a'.authenticate { credentials with password := p } deadline) ∧
      (∀ username, Discreet (Password.SameComplaint config.directory.searchBindPassword q)
        (a.resolver.resolve username deadline) (a'.resolver.resolve username deadline)) ∧
      ∀ {α : Type} (dn : Option String) {refused refused' : DenialReason → Run World α}
        {granted granted' : Run (Session × World) α},
        (∀ mask reason, Agree mask Eq (refused reason) (refused' reason)) →
        (∀ mask, Agree mask Eq granted granted') →
        Discreet (Password.SameComplaint credentials.password p)
          (Lease.toRun
            (a.connector.openBound dn credentials.password deadline refused granted))
          (Lease.toRun (a'.connector.openBound dn p deadline refused' granted')) := by
  obtain ⟨c, v, hconfig, rfl, rfl⟩ := ofConnector_of_build hbuilt hbuilt'
  rw [← hconfig] at hq ⊢
  refine ⟨?_, fun username => ?_, fun dn _ _ _ _ hrefused hgranted => ?_⟩
  · exact discreet_of_agree (agree_authenticate hp.alike hq.alike deadline)
      fun h => agree_authenticate (hp.alike_id h.1) (hq.alike_id h.2) deadline
  · exact discreet_of_agree (Resolver.agree_resolve hq.alike username deadline)
      fun h => Resolver.agree_resolve (hq.alike_id h) username deadline
  · exact discreet_of_agree
      (Connector.agree_toRun_openBound dn hp.alike deadline (hrefused _) (hgranted _))
      fun h => Connector.agree_toRun_openBound dn (hp.alike_id h) deadline (hrefused _) (hgranted _)

/-- Two passwords that cannot be encoded are told apart by what the log says of them, and by nothing
else in it. -/
theorem discreet_of_unencodable :
    (Sample.authenticator.authenticate Sample.unencodable none
        (World.start Sample.clocks)).2.log.map (LogRecord.masked fun _ => "") =
      (Sample.otherAuthenticator.authenticate
        { Sample.unencodable with password := Sample.otherPassword } none
        (World.start Sample.clocks)).2.log.map (LogRecord.masked fun _ => "") ∧
    (Sample.authenticator.authenticate Sample.unencodable none
        (World.start Sample.clocks)).2.log ≠
      (Sample.otherAuthenticator.authenticate
        { Sample.unencodable with password := Sample.otherPassword } none
        (World.start Sample.clocks)).2.log := by
  have hp : Password.Comparable Sample.unencodable.password Sample.otherPassword :=
    .inr ⟨_, _, rfl, rfl, by simp, by simp, rfl⟩
  have hq : Password.Comparable Sample.config.directory.searchBindPassword
      Sample.otherSearchPassword :=
    .inr ⟨_, _, rfl, rfl, by simp, by simp, rfl⟩
  obtain ⟨hlogin, -, -⟩ := authenticate_discreet Sample.build_eq Sample.build_other hp hq none
  refine ⟨hlogin.masked _ (concur_of_veil ?_), by decide +kernel⟩
  rw [Sample.exchanges_login, Sample.exchanges_other]
  rfl

end Authenticator

end TwoFactorLogin
