import TwoFactorLogin.Proofs.LoggingIn

/-!
# Every bind is safe

Whatever calls were made before, and whatever the directory does, each bind that a login or a rebind
sends is a bind with a name and a password, on a connection of its own that is encrypted as the
configuration says and was not unbound: either as the search account, to search, or as the name that
the login name was resolved to, with the submitted password.

* `SafeBind`: what is true of a bind, given the exchanges before and after it.
* `Journey.safe`: the binds of a call are safe.
* `Reached`: the worlds that some calls lead to. `Numbered` is kept by each call, so connections
  that are opened later have numbers of their own.
* `bind_safe`: all of this for a call after any others. What the block of a rebind does is its own
  affair, and stands apart.
-/

namespace TwoFactorLogin

/-! ## Numbers of connections -/

/-- Every exchange was on a connection that had been opened. -/
def World.Numbered (w : World) : Prop := ∀ e ∈ w.exchanges, e.connection < w.nextConnection

/-- The events of `w'` continue those of `w`, on connections that had been opened. -/
def World.Continues (w w' : World) : Prop := (∃ t, w'.trace = w.trace ++ t) ∧ w'.Numbered

namespace World

variable {w w' : World} {es : List Exchange}

theorem numbered_of_trace_eq_nil (h : w.trace = []) : w.Numbered := by
  intro e he
  simp [exchanges, h] at he

theorem Numbered.pushAll (h : w.Numbered)
    (hes : ∀ e ∈ es, e.connection < (w.pushAll es).nextConnection) : (w.pushAll es).Numbered := by
  intro e he
  rw [exchanges_pushAll] at he
  rcases List.mem_append.1 he with he | he
  · have hlt := h e he
    rw [nextConnection_pushAll]
    omega
  · exact hes e he

theorem Numbered.congr (h : w.Numbered) (ht : w'.trace = w.trace) : w'.Numbered := by
  intro e he
  rw [nextConnection, exchanges, ht]
  rw [exchanges, ht] at he
  exact h e he

theorem Numbered.push (h : w.Numbered) {e : Exchange} (he : e.connection < w.nextConnection) :
    (w.push e).Numbered := by
  refine Numbered.pushAll h fun x (hx : x ∈ [e]) => ?_
  obtain rfl := List.mem_singleton.1 hx
  rw [nextConnection_pushAll]
  omega

theorem Numbered.looked (h : w.Numbered) (l : Lookup) : (w.looked l).Numbered := by
  intro e he
  rw [exchanges_looked] at he
  rw [nextConnection_looked]
  exact h e he

end World

/-! ## Passwords -/

theorem utf8Bytes_ne_nil (code : Nat) : Text.utf8Bytes code ≠ [] := by
  unfold Text.utf8Bytes
  split
  · simp
  · split
    · simp
    · split <;> simp

theorem utf8?_ne_nil {password : Password} {bytes : List UInt8}
    (h : Text.utf8? password = .ok bytes) (hne : password ≠ []) : bytes ≠ [] := by
  cases password with
  | nil => exact absurd rfl hne
  | cons code codes =>
    unfold Text.utf8? at h
    split at h
    · cases h
    · obtain rfl := Except.ok.inj h
      rw [List.flatMap_cons]
      exact List.append_ne_nil_of_left_ne_nil (utf8Bytes_ne_nil code) _

namespace Authenticator

/-! ## Safe binds -/

/-- A bind with the search account: in search mode, on the connection that is opened first. -/
def AccountBind (config : DirectoryConfig) (w : World) (user : String) (bytes : List UInt8)
    (pre : List Exchange) (b : Exchange) : Prop :=
  config.usesSearch = true ∧
    Connector.Submits config.searchBindDn config.searchBindPassword user bytes ∧
    b.connection = w.nextConnection ∧ ∀ e ∈ pre, e.connection = b.connection

/-- A bind with the submitted password as the one name that the configured resolver yielded before,
on a connection that was opened after that. -/
def UserBind (config : DirectoryConfig) (c : Connector) (credentials : Credentials) (w : World)
    (user : String) (bytes : List UInt8) (pre : List Exchange) (b : Exchange) : Prop :=
  ∃ username es op, credentials.username = some username ∧
    (Resolver.ofConfig config c).Yields username w.nextConnection user es ∧
    Connector.Submits (some user) credentials.password user bytes ∧
    pre = es ++ op ∧ c.Opens b.connection op ∧ ∀ e ∈ es, e.connection ≠ b.connection

/-- What is true of every bind of a call that began at `w`, given the exchanges of the call before
and after it. -/
structure SafeBind (config : DirectoryConfig) (c : Connector) (credentials : Credentials)
    (w : World) (user : String) (bytes : List UInt8) (pre : List Exchange) (b : Exchange)
    (post : List Exchange) : Prop where
  user_ne : user ≠ ""
  bytes_ne : bytes ≠ []
  identity : AccountBind config w user bytes pre b ∨
    UserBind config c credentials w user bytes pre b
  /-- Its connection was opened in this call, encrypted from the first byte exactly if the mode says
  so. -/
  opened : ∃ o ∈ pre, ∃ p x, o.connection = b.connection ∧ o.request = .connect p ∧
    o.reply.outcome = .ok x ∧ (p.useSsl = true ↔ config.encryption = .implicitTls)
  upgraded : config.encryption = .startTls → ∃ u ∈ pre, u.connection = b.connection ∧
    u.request = .startTls ∧ u.reply.outcome = .ok true
  not_unbound : ∀ e ∈ w.exchanges ++ pre, e.connection = b.connection → e.request ≠ .unbind
  /-- Nothing but searches and the unbinding follows on its connection. -/
  followed : ∀ e ∈ post, e.connection = b.connection → e.request.followsBind = true

variable {a : Authenticator} {directory : Directory} {store : SecretStore} {config : AuthConfig}
  {credentials : Credentials} {w : World} {es : List Exchange}

theorem opened_of_opens {c : Connector} {n : Nat} {mode : EncryptionMode}
    (ht : c.transport = .ofMode mode) (h : c.Opens n es) :
    (∃ o ∈ es, ∃ p x, o.connection = n ∧ o.request = .connect p ∧ o.reply.outcome = .ok x ∧
        (p.useSsl = true ↔ mode = .implicitTls)) ∧
      (mode = .startTls → ∃ u ∈ es, u.connection = n ∧ u.request = .startTls ∧
        u.reply.outcome = .ok true) := by
  have hssl : c.transport.useSsl = true ↔ mode = .implicitTls := by
    rw [ht]
    cases mode <;> simp [Transport.ofMode]
  cases h with
  | @plain p o x hr hn ho hp hx =>
    refine ⟨⟨o, by simp, p, x, hn, ho, hx, by rw [hp]; exact hssl⟩, fun hmode => ?_⟩
    rw [ht, hmode] at hr
    cases hr
  | @upgraded p o u x hr hn ho hp hx hun hu hux =>
    exact ⟨⟨o, by simp, p, x, hn, ho, hx, by rw [hp]; exact hssl⟩,
      fun _ => ⟨u, by simp, hun, hu, hux⟩⟩

/-- A bind of an errand is safe if it belongs to somebody. The exchanges `tr` of the call came
before the errand. -/
theorem safe_of_errand {c : Connector} {config : DirectoryConfig}
    (ht : c.transport = .ofMode config.encryption) {dn : Option String}
    {password : Option Password} {tr : List Exchange} (hn : (w.pushAll tr).Numbered)
    (h : c.Errand dn password (w.pushAll tr) es)
    (hid : ∀ user bytes pre b, Connector.Submits dn password user bytes →
      b.connection = (w.pushAll tr).nextConnection → c.Opens b.connection pre →
      (∀ e ∈ pre, e.connection = b.connection) →
      AccountBind config w user bytes (tr ++ pre) b ∨
        UserBind config c credentials w user bytes (tr ++ pre) b) :
    Throughout (fun pre b post => ∀ user bytes, b.request = .bind user bytes →
      SafeBind config c credentials w user bytes (tr ++ pre) b post) es := by
  intro pre b post hsplit user bytes hreq
  obtain ⟨hopens, hsub⟩ := h.binds pre b post hsplit user bytes hreq
  have hbn : b.connection = (w.pushAll tr).nextConnection := h.on_connection b (by simp [hsplit])
  have hpre : ∀ e ∈ pre, e.connection = b.connection := fun e he => by
    rw [hbn]
    exact h.on_connection e (by simp [hsplit, he])
  rw [← hbn] at hopens
  obtain ⟨⟨o, ho, p, x, hon, hop, hox, hssl⟩, hup⟩ := opened_of_opens ht hopens
  obtain ⟨password', -, hne, hbytes⟩ := hsub.password_eq
  refine ⟨hsub.user_ne, utf8?_ne_nil hbytes hne, hid user bytes pre b hsub hbn hopens hpre,
    ⟨o, by simp [ho], p, x, hon, hop, hox, hssl⟩, fun hmode => ?_, ?_, ?_⟩
  · obtain ⟨u, hu, hun, hur, hux⟩ := hup hmode
    exact ⟨u, by simp [hu], hun, hur, hux⟩
  · intro e he hen hunbind
    rw [← List.append_assoc, ← World.exchanges_pushAll] at he
    rcases List.mem_append.1 he with he | he
    · have hlt := hn e he
      omega
    · rcases hopens.request_eq he with ⟨q, hq⟩ | hq
      · rw [hq] at hunbind
        cases hunbind
      · rw [hq] at hunbind
        cases hunbind
  · intro e he _
    obtain ⟨post', post'', rfl⟩ := List.append_of_mem he
    exact h.after_bind (pre ++ b :: post') e post'' (by simp [hsplit])
      ⟨b, by simp, by rw [hreq]; rfl⟩

/-- What follows on other connections does not matter to a bind. -/
theorem SafeBind.append {c : Connector} {config : DirectoryConfig} {user : String}
    {bytes : List UInt8} {pre post : List Exchange} {b : Exchange}
    (h : SafeBind config c credentials w user bytes pre b post)
    (hes : ∀ e ∈ es, e.connection ≠ b.connection) :
    SafeBind config c credentials w user bytes pre b (post ++ es) := by
  refine ⟨h.user_ne, h.bytes_ne, h.identity, h.opened, h.upgraded, h.not_unbound, ?_⟩
  intro e he hen
  rcases List.mem_append.1 he with he | he
  · exact h.followed e he hen
  · exact absurd hen (hes e he)

/-! ## The binds of a call -/

theorem Built.transport_eq_ofMode (ha : a.Built directory store config none) :
    a.connector.transport = .ofMode config.directory.encryption := ha.transport_eq

/-- The binds of resolving are safe: there are none but those of the search account. -/
theorem resolution_safe (ha : a.Built directory store config none) (hn : w.Numbered)
    (h : a.resolver.Errand w es) (credentials : Credentials) :
    Throughout (fun pre b post => ∀ user bytes, b.request = .bind user bytes →
      SafeBind config.directory a.connector credentials w user bytes pre b post) es := by
  rw [ha.resolver_eq, Resolver.ofConfig] at h
  split at h
  · rename_i hsearch
    have hnil : (w.pushAll []).Numbered := hn
    refine safe_of_errand ha.transport_eq_ofMode hnil h ?_
    intro user bytes pre b hsub hbn _ hpre
    exact .inl ⟨hsearch, hsub, hbn, hpre⟩
  · obtain rfl : es = [] := h
    exact throughout_nil

theorem Journey.safe (ha : a.Built directory store config none) (hn : w.Numbered)
    (h : a.Journey credentials w es) :
    Throughout (fun pre b post => ∀ user bytes, b.request = .bind user bytes →
      SafeBind config.directory a.connector credentials w user bytes pre b post) es := by
  cases h with
  | unresolved he => exact resolution_safe ha hn he credentials
  | @resolved username dn es es' husername he hy he' =>
    have hnext : ∀ e ∈ es, e.connection < (w.pushAll es).nextConnection :=
      fun e hmem => he.connection_lt hmem
    refine throughout_append.2 ⟨?_, ?_⟩
    · refine (resolution_safe ha hn he credentials).mono ?_
      intro pre b post hb hsafe user bytes hreq
      refine (hsafe user bytes hreq).append fun e hmem => ?_
      rw [he'.on_connection e hmem]
      exact Nat.ne_of_gt (hnext b hb)
    · refine safe_of_errand ha.transport_eq_ofMode (hn.pushAll hnext) he' ?_
      intro user bytes pre b hsub hbn hopens _
      obtain rfl : dn = user := Option.some.inj hsub.dn_eq
      refine .inr ⟨username, es, pre, husername, ha.resolver_eq ▸ hy, hsub, rfl, hopens, ?_⟩
      intro e hmem
      rw [hbn]
      exact Nat.ne_of_lt (hnext e hmem)

theorem Journey.numbered (hn : w.Numbered) (h : a.Journey credentials w es) :
    (w.pushAll es).Numbered := by
  cases h with
  | unresolved he => exact hn.pushAll fun e hmem => he.connection_lt hmem
  | resolved _ he _ he' =>
    rw [World.pushAll_append]
    exact (hn.pushAll fun e hmem => he.connection_lt hmem).pushAll
      fun e hmem => (he'.connection_lt hmem).2

/-! ## Calls -/

/-- A call of the library: a login, or a rebind with its two blocks. -/
inductive Call where
  | login (credentials : Credentials) (deadline : Option Deadline)
  | rebind {α : Type} (user : AuthenticatedIdentity) (deadline : Option Deadline)
      (absent : Run World α) (granted : Run (Session × World) α)

namespace Call

/-- The credentials that a call submits. -/
def submitted : Call → Credentials
  | login credentials _ => credentials
  | rebind user _ _ _ => user.credentials

/-- The world after a call. -/
def run (a : Authenticator) (w : World) : Call → World
  | login credentials deadline => (a.authenticate credentials deadline w).2
  | rebind user deadline absent granted => (a.bindAuthenticated user deadline absent granted w).2

/-- The blocks of a call use only connections that were opened, and undo nothing. -/
def Orderly : Call → Prop
  | login _ _ => True
  | rebind _ _ absent granted =>
    (∀ v : World, v.Numbered → v.Continues (absent v).2) ∧
      ∀ (s : Session) (v : World) (n : Nat), v.Numbered → s.connection = some n →
        n < v.nextConnection → v.Continues (granted (s, v)).2.2 ∧
          ∀ m, (granted (s, v)).2.1.connection = some m → m < (granted (s, v)).2.2.nextConnection

/-- The events that are not the library's own requests, in a call from `w` that has sent some
requests before: the look-up of a login, or what a block of a rebind did. -/
def Meanwhile (w : World) (before : List Exchange) (during : List Event) : Call → Prop
  | login _ _ => ∀ e, .exchange e ∉ during
  | rebind _ _ absent granted =>
    during = [] ∨ ∃ v : World, v.trace = w.trace ++ before.map .exchange ∧
      (during = v.since (absent v).2 ∨ ∃ s, during = v.since (granted (s, v)).2.2)

/-- The events of a call: its own requests, with a journey first and only unbinding last. -/
structure Shape (k : Call) (a : Authenticator) (w w' : World) (before : List Exchange)
    (during : List Event) (after : List Exchange) : Prop where
  journey : a.Journey k.submitted w before
  trace_eq : w'.trace = w.trace ++ (before.map .exchange ++ during ++ after.map .exchange)
  meanwhile : k.Meanwhile w before during
  after_unbinds : ∀ e ∈ after, e.request = .unbind
  numbered : w'.Numbered

end Call

/-- The worlds that calls lead to, with time passing between them. -/
inductive Reached (a : Authenticator) : World → Prop
  | start {w : World} : w.trace = [] → Reached a w
  | wait {w : World} (clocks : Clocks) : Reached a w → Reached a { w with clocks }
  | call {w : World} {k : Call} : Reached a w → k.Orderly → Reached a (k.run a w)

/-- The exchanges before a probe asks the store are a journey. -/
theorem Probe.Happens.journey {p : Probe} {deadline : Option Deadline} {w' : World}
    (h : p.Happens a credentials deadline w w') : a.Journey credentials w p.before := by
  have hbind : a.connector.Errand (some p.identity.dn) credentials.password
      (w.pushAll p.resolution) (p.opening ++ [p.bind]) :=
    h.opens.errand_bind h.submits (by rw [← World.pushAll_append]; exact h.bind_eq)
  rw [Probe.before, List.append_assoc]
  exact .resolved h.username_eq h.errand h.yields hbind

theorem login_shape (ha : a.Built directory store config none) (hn : w.Numbered)
    (credentials : Credentials) (deadline : Option Deadline) :
    ∃ before during after, (Call.login credentials deadline).Shape a w
      ((Call.login credentials deadline).run a w) before during after := by
  have h := a.authenticate_loggingIn ha credentials deadline w
  rw [Call.run]
  generalize a.authenticate credentials deadline w = out at h ⊢
  have hquiet {es : List Exchange} {log : List LogRecord} {w' : World}
      (hj : a.Journey credentials w es) (hw : w' = (w.pushAll es).note log) :
      (Call.login credentials deadline).Shape a w w' es [] [] := by
    refine ⟨hj, by simp [hw], ?_, fun e he => by simp at he, by rw [hw]; exact hj.numbered hn⟩
    intro e he
    simp at he
  cases h with
  | denied hj hw => exact ⟨_, _, _, hquiet hj hw⟩
  | escaped hj _ hw => exact ⟨_, _, _, hquiet hj hw⟩
  | @probed p r w' hp hr =>
    have hj := hp.journey
    have hopen : p.unbind.connection < (w.pushAll p.before).nextConnection := by
      have hlt := hj.numbered hn p.bind (by rw [World.exchanges_pushAll]; simp [Probe.before])
      rw [hp.bind_eq] at hlt
      rw [hp.unbind_eq]
      exact hlt
    refine ⟨p.before, [.lookup p.lookup], [p.unbind], hj, ?_, ?_, ?_, ?_⟩
    · simp [hp.trace_eq, Probe.events]
    · intro e he
      simp at he
    · intro e he
      obtain rfl := List.mem_singleton.1 he
      rw [hp.unbind_eq]
      rfl
    · have hend : (((w.pushAll p.before).looked p.lookup).push p.unbind).Numbered :=
        ((hj.numbered hn).looked p.lookup).push (by rwa [World.nextConnection_looked])
      exact hend.congr (by simp [hp.trace_eq, Probe.events])

/-! ## Rebinds -/

/-- Releasing any session sends nothing but the unbinding of its connection. -/
theorem disconnect_sends (c : Connector) (reason : Option String) (s : Session) (v : World) :
    ∃ es log, (c.disconnect reason (s, v)).2.2 = (v.pushAll es).note log ∧
      ∀ e ∈ es, e.request = .unbind ∧ s.connection = some e.connection := by
  simp only [Connector.disconnect, Run.bind_apply, Run.read_apply]
  by_cases hc : s.isClosed = true
  · simp only [hc, if_true]
    exact ⟨[], [], by simp, by simp⟩
  · simp only [hc, if_false, Bool.false_eq_true]
    cases hn : s.connection with
    | none => exact ⟨[], _, rfl, by simp⟩
    | some n =>
      generalize hqe : v.exchange c.directory n .unbind = q
      have hsent : ∀ e ∈ [q], e.request = .unbind ∧ some n = some e.connection := by
        intro e he
        obtain rfl := List.mem_singleton.1 he
        rw [← hqe]
        exact ⟨rfl, rfl⟩
      have hq := c.closeQuietly_apply hqe.symm
      simp only [Run.bind_apply, Run.onSecond_apply, hq]
      cases q.unbindOutcome with
      | error fault => exact ⟨[q], _, rfl, hsent⟩
      | ok _ => exact ⟨[q], _, World.note_note _ _, hsent⟩

theorem release_world {α β : Type} (c : Connector) (given : Option β) (outcome : Except Fault α)
    (s : Session) (v : World) :
    (c.release given outcome s v).2 = (c.disconnect "disconnect" (s, v)).2.2 := by
  unfold Connector.release
  rcases c.disconnect "disconnect" (s, v) with ⟨fault | _, s', v'⟩ <;> rfl

theorem release_numbered {α β : Type} (c : Connector) (given : Option β) (outcome : Except Fault α)
    {s : Session} {v : World} (hn : v.Numbered)
    (hs : ∀ n, s.connection = some n → n < v.nextConnection) :
    ∃ es log, (c.release given outcome s v).2 = (v.pushAll es).note log ∧
      (∀ e ∈ es, e.request = .unbind) ∧ (v.pushAll es).Numbered := by
  obtain ⟨es, log, hw, hes⟩ := disconnect_sends c "disconnect" s v
  refine ⟨es, log, (release_world c given outcome s v).trans hw, fun e he => (hes e he).1, ?_⟩
  refine hn.pushAll fun e he => ?_
  have hlt := hs e.connection (hes e he).2
  rw [World.nextConnection_pushAll]
  omega

section Rebind

variable {α : Type} {user : AuthenticatedIdentity} {deadline : Option Deadline}
  {absent : Run World α} {granted : Run (Session × World) α}

/-- A rebind that ends without entering a block. -/
theorem shape_of_quiet (hj : a.Journey user.credentials w es) (hn : w.Numbered) {w' : World}
    {log : List LogRecord} (hw : w' = (w.pushAll es).note log) :
    (Call.rebind user deadline absent granted).Shape a w w' es [] [] := by
  refine ⟨hj, by simp [hw], .inl rfl, fun e he => by simp at he, ?_⟩
  rw [hw]
  exact hj.numbered hn

/-- A rebind that runs the block for a user who cannot be bound. -/
theorem shape_of_absent (hj : a.Journey user.credentials w es) (hn : w.Numbered) {v : World}
    {log : List LogRecord} (hv : v = (w.pushAll es).note log)
    (hk : (Call.rebind user deadline absent granted).Orderly) :
    (Call.rebind user deadline absent granted).Shape a w (absent v).2 es (v.since (absent v).2)
      [] := by
  have htrace : v.trace = w.trace ++ es.map .exchange := World.trace_of_row hv
  have hvn : v.Numbered := by
    rw [hv]
    exact hj.numbered hn
  obtain ⟨⟨t, ht⟩, hnum⟩ := hk.1 v hvn
  refine ⟨hj, ?_, .inr ⟨v, htrace, .inl rfl⟩, fun e he => by simp at he, hnum⟩
  rw [World.since_eq ht, ht, htrace]
  simp

/-- A rebind that runs the block for a bound user and releases the session. -/
theorem shape_of_granted (hj : a.Journey user.credentials w es) (hn : w.Numbered) {v : World}
    {log : List LogRecord} (hv : v = (w.pushAll es).note log) {s : Session} {n : Nat}
    (hs : s.connection = some n) (hlt : n < v.nextConnection)
    (hk : (Call.rebind user deadline absent granted).Orderly) {β : Type} (c : Connector)
    (given : Option β) :
    ∃ after, (Call.rebind user deadline absent granted).Shape a w
      (c.release given (granted (s, v)).1 (granted (s, v)).2.1 (granted (s, v)).2.2).2 es
      (v.since (granted (s, v)).2.2) after := by
  have htrace : v.trace = w.trace ++ es.map .exchange := World.trace_of_row hv
  have hvn : v.Numbered := by
    rw [hv]
    exact hj.numbered hn
  obtain ⟨⟨⟨t, ht⟩, hnum⟩, hleft⟩ := hk.2 s v n hvn hs hlt
  obtain ⟨after, log', hw, hunbinds, hend⟩ :=
    release_numbered c given (granted (s, v)).1 hnum hleft
  refine ⟨after, hj, ?_, .inr ⟨v, htrace, .inr ⟨s, rfl⟩⟩, hunbinds, ?_⟩
  · rw [hw, World.since_eq ht, World.trace_note, World.trace_pushAll, ht, htrace]
    simp
  · rw [hw]
    exact hend

theorem rebind_shape (hn : w.Numbered) (user : AuthenticatedIdentity) (deadline : Option Deadline)
    (hk : (Call.rebind user deadline absent granted).Orderly) :
    ∃ before during after, (Call.rebind user deadline absent granted).Shape a w
      ((Call.rebind user deadline absent granted).run a w) before during after := by
  have hnil : a.Journey user.credentials w [] := .unresolved .nil
  rw [Call.run]
  unfold bindAuthenticated
  cases hc : user.credentials.isComplete with
  | false =>
    simp only [hc, Bool.not_false, if_true]
    exact ⟨[], _, [], shape_of_absent hnil hn (World.note_nil.symm) hk⟩
  | true =>
    obtain ⟨username, husername, -⟩ := (Option.any_eq_true _ _).1 (Bool.and_eq_true_iff.1 hc).1
    have hr := a.resolver.resolve_resolving username deadline w
    simp only [hc, Bool.not_true, Bool.false_eq_true, if_false, husername, Option.getD_some]
    generalize a.resolver.resolve username deadline w = out at hr ⊢
    cases hr with
    | escaped he _ hw => exact ⟨_, _, _, shape_of_quiet (.unresolved he) hn hw⟩
    | @unresolved es log reason v he hw =>
      subst hw
      exact ⟨es, _, [], shape_of_absent (.unresolved he) hn (World.note_note _ _) hk⟩
    | @found es log identity v he hy hw =>
      have hv := a.connector.openBound_visit (some identity.dn) user.credentials.password deadline
        (fun reason => do
          World.record (.rebindFailed (some username) reason)
          absent) v
      generalize hrun : (fun granted => a.connector.openBound (some identity.dn)
        user.credentials.password deadline (fun reason => do
          World.record (.rebindFailed (some username) reason)
          absent) granted v) = run at hv
      have hworld := congrArg Prod.snd (congrFun hrun granted)
      simp only [hworld]
      have hjourney {es' : List Exchange} (he' : a.connector.Errand (some identity.dn)
          user.credentials.password v es') : a.Journey user.credentials w (es ++ es') := by
        rw [hw] at he'
        exact .resolved husername he hy ((Connector.errand_note _).1 he')
      have hrow (es' : List Exchange) (log' : List LogRecord) :
          (v.pushAll es').note log' = (w.pushAll (es ++ es')).note (log ++ log') := by
        rw [hw]
        exact World.pushAll_note_pushAll es es' log log'
      cases hv with
      | escaped he' _ _ hw' =>
        rw [hrow] at hw'
        exact ⟨_, _, _, shape_of_quiet (hjourney he') hn hw'⟩
      | refused he' _ hw' =>
        rw [hrow] at hw'
        subst hw'
        exact ⟨_, _, [], shape_of_absent (hjourney he') hn (World.note_note _ _) hk⟩
      | @granted op dn bytes b s log' v' ho hs hb _ hopen hw' =>
        have he' := ho.errand_bind hs hb
        have hlt : v.nextConnection < v'.nextConnection := by
          have hb' := he'.connection_lt (List.mem_append_right op (List.mem_singleton.2 rfl))
          rw [hw', World.nextConnection_note]
          omega
        rw [hrow] at hw'
        obtain ⟨after, hshape⟩ := shape_of_granted (hjourney he') hn hw' hopen.connection_eq hlt hk
          a.connector (some (Except.ok s : Except DenialReason Session))
        exact ⟨_, _, after, hshape⟩

end Rebind

/-! ## After any calls -/

theorem call_shape (ha : a.Built directory store config none) (hn : w.Numbered) {k : Call}
    (hk : k.Orderly) :
    ∃ before during after, k.Shape a w (k.run a w) before during after := by
  cases k with
  | login credentials deadline => exact login_shape ha hn credentials deadline
  | rebind user deadline absent granted => exact rebind_shape hn user deadline hk

theorem Reached.numbered (ha : a.Built directory store config none) (h : a.Reached w) :
    w.Numbered := by
  induction h with
  | start ht => exact World.numbered_of_trace_eq_nil ht
  | wait clocks _ ih => exact ih.congr rfl
  | call _ hk ih =>
    obtain ⟨_, _, _, hshape⟩ := call_shape ha ih hk
    exact hshape.numbered

/-- Each bind that a call sends after any calls is safe. The events of the call are its own requests
before, what a block does meanwhile, and the unbinding after. -/
theorem bind_safe {bundleExists : String → Bool} {w₀ : World}
    (hbuilt : (build bundleExists directory store config none w₀).1 = .ok a) (hw : a.Reached w)
    {k : Call} (hk : k.Orderly) :
    ∃ (before : List Exchange) (during : List Event) (after : List Exchange),
      w.since (k.run a w) = before.map .exchange ++ during ++ after.map .exchange ∧
        k.Meanwhile w before during ∧ (∀ e ∈ after, e.request = .unbind) ∧
          ∀ pre b post user bytes, before = pre ++ b :: post → b.request = .bind user bytes →
            SafeBind config.directory a.connector k.submitted w user bytes pre b post := by
  have ha := build_built hbuilt
  have hn := hw.numbered ha
  obtain ⟨before, during, after, hshape⟩ := call_shape ha hn hk
  refine ⟨before, during, after, World.since_eq hshape.trace_eq, hshape.meanwhile,
    hshape.after_unbinds, ?_⟩
  intro pre b post user bytes hsplit hreq
  exact hshape.journey.safe ha hn pre b post hsplit user bytes hreq

/-- A login after another one. -/
theorem bind_safe_of_second :
    ∃ (before : List Exchange) (during : List Event) (after : List Exchange),
      Sample.afterLogin.since
          ((Call.login Sample.credentials none).run Sample.authenticator Sample.afterLogin) =
        before.map .exchange ++ during ++ after.map .exchange ∧
        (Call.login Sample.credentials none).Meanwhile Sample.afterLogin before during ∧
          (∀ e ∈ after, e.request = .unbind) ∧
            ∀ pre b post user bytes, before = pre ++ b :: post → b.request = .bind user bytes →
              SafeBind Sample.config.directory Sample.authenticator.connector Sample.credentials
                Sample.afterLogin user bytes pre b post :=
  bind_safe Sample.build_eq
    (.call (w := World.start Sample.clocks) (k := .login Sample.credentials none) (.start rfl)
      trivial)
    (k := .login Sample.credentials none) trivial

end Authenticator

end TwoFactorLogin
