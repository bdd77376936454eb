import TwoFactorLogin.Proofs.LoggingIn

/-!
# No probing of the second factor without the password

Whoever does not know the password learns nothing about the second factor, and neither does the
directory. Within one run the store is asked at most once, and only between an accepted bind with
the submitted password and the unbinding of its connection. Two runs that differ in the code and in
what the store says ask the same of the directory, and are the same in all respects if the bind
fails.

* `PrimaryBind`: the exchanges up to the accepted bind of a login.
* `authenticateAs_alike`, `authenticate_alike`: two runs side by side.
* `authenticate_trace_eq`: with one store, the code makes no difference to the events at all.
* `authenticate_probes_after_bind`: what one run and two runs show, together.

Side by side, two runs are the same run until the second factor is checked, since nothing before
that reads the code or asks the store. The checks leave the same clocks behind and send nothing, so
the connection is unbound in the same way after both, however they ended.
-/

namespace TwoFactorLogin

namespace Event

/-- The look-up that an event is. -/
def lookup? : Event → Option Lookup
  | lookup l => some l
  | exchange _ => none

end Event

namespace Authenticator

/-- The exchanges of a login up to a bind on connection `n` that the directory accepted: with the
submitted password, and as the name that the login name was resolved to. -/
inductive PrimaryBind (a : Authenticator) (credentials : Credentials) (w : World) (n : Nat) :
    List Exchange → Prop
  | accepted {username dn : String} {password : Password} {bytes : List UInt8}
      {tr op : List Exchange} {b : Exchange} :
      credentials.username = some username → a.resolver.Yields username w.nextConnection dn tr →
      a.connector.Opens n op → credentials.password = some password →
      Text.utf8? password = .ok bytes → b.connection = n → b.request = .bind dn bytes →
      b.reply.outcome = .ok true → PrimaryBind a credentials w n (tr ++ op ++ [b])

/-- The same authenticator with another store. -/
def withStore (a : Authenticator) (store : SecretStore) : Authenticator :=
  { a with validator := { a.validator with store } }

/-- The run from `w` to `w'` shows that the bind of a login was accepted. -/
def ShowsPrimaryBind (a : Authenticator) (credentials : Credentials) (w w' : World) : Prop :=
  ∃ n es rest, w'.exchanges = w.exchanges ++ (es ++ rest) ∧ a.PrimaryBind credentials w n es

@[simp] theorem resolver_withStore (a : Authenticator) (store : SecretStore) :
    (a.withStore store).resolver = a.resolver := rfl

variable {a : Authenticator} {directory : Directory} {store store' : SecretStore}
  {config : AuthConfig} {transport : Option Transport} {credentials : Credentials}
  {deadline : Option Deadline} {w w' : World} {code : Option String}

/-! ## One run -/

/-- A look-up splits the events of a run at one place if there are only exchanges around it. -/
theorem eq_of_split_lookup {es : List Exchange} (rest : List Exchange) {l l' : Lookup}
    {pre post : List Event}
    (h : es.map Event.exchange ++ .lookup l :: rest.map Event.exchange =
      pre ++ .lookup l' :: post) :
    pre = es.map .exchange ∧ l' = l ∧ post = rest.map .exchange := by
  rcases List.append_eq_append_iff.1 h with ⟨xs, rfl, hxs⟩ | ⟨xs, hes, hxs⟩
  · cases xs with
    | nil =>
      obtain ⟨rfl, rfl⟩ : l = l' ∧ rest.map Event.exchange = post := by simpa using hxs
      exact ⟨by simp, rfl, rfl⟩
    | cons x xs =>
      have hmem : Event.lookup l' ∈ rest.map Event.exchange := by
        rw [(List.cons.inj hxs).2]
        simp
      simp at hmem
  · cases xs with
    | nil =>
      obtain ⟨rfl, rfl⟩ : l' = l ∧ post = rest.map Event.exchange := by simpa using hxs
      exact ⟨by simpa using hes.symm, rfl, rfl⟩
    | cons x xs =>
      have hmem : Event.lookup l' ∈ es.map Event.exchange := by
        rw [hes, (List.cons.inj hxs).1]
        simp
      simp at hmem

/-- The exchanges before a probe asks the store end with an accepted bind, and its connection is
still open. -/
theorem Probe.Happens.primaryBind {p : Probe} (h : p.Happens a credentials deadline w w') :
    ∃ n, a.PrimaryBind credentials w n p.before ∧
      (∀ e ∈ p.before, e.request = .unbind → e.connection ≠ n) ∧ p.unbind.connection = n ∧
        p.unbind.request = .unbind := by
  obtain ⟨password, hpassword, -, hbytes⟩ := h.submits.password_eq
  refine ⟨(w.pushAll p.resolution).nextConnection, ?_, ?_, by rw [h.unbind_eq]; rfl,
    by rw [h.unbind_eq]; rfl⟩
  · exact .accepted h.username_eq h.yields h.opens.opens hpassword hbytes (by rw [h.bind_eq]; rfl)
      (by rw [h.bind_eq]; rfl) h.accepted
  · intro e he hunbind
    rcases List.mem_append.1 he with he | he
    · rcases List.mem_append.1 he with he | he
      · exact Nat.ne_of_lt (h.errand.connection_lt he)
      · rcases h.opens.opens.request_eq he with ⟨q, hq⟩ | hq
        · rw [hunbind] at hq
          cases hq
        · rw [hunbind] at hq
          cases hq
    · obtain rfl := List.mem_singleton.1 he
      rw [h.bind_eq] at hunbind
      cases hunbind

theorem LoggingIn.lookup_after_bind {out : Except Fault LoginResult × World}
    (h : LoggingIn a credentials deadline w out) {pre post : List Event} {l : Lookup}
    (hs : w.since out.2 = pre ++ .lookup l :: post) :
    credentials.username = some l.username ∧ ∃ n es q, a.PrimaryBind credentials w n es ∧
      (∀ e ∈ es, e.request = .unbind → e.connection ≠ n) ∧ pre = es.map .exchange ∧
        post = [.exchange q] ∧ q.connection = n ∧ q.request = .unbind := by
  have hnone {es : List Exchange} {log : List LogRecord} {v : World}
      (hv : v = (w.pushAll es).note log) (hs : w.since v = pre ++ .lookup l :: post) : False :=
    World.lookup_notMem_of_row hv l (by simp [hs])
  cases h with
  | denied _ hw => exact (hnone hw hs).elim
  | escaped _ _ hw => exact (hnone hw hs).elim
  | @probed p r w' hp hr =>
    rw [World.since_eq hp.trace_eq] at hs
    obtain ⟨rfl, rfl, rfl⟩ := eq_of_split_lookup [p.unbind] hs
    obtain ⟨n, hbind, hopen, hq, hunbind⟩ := hp.primaryBind
    refine ⟨by rw [hp.username_eq, hp.lookup_eq]; rfl, n, p.before, p.unbind, hbind, hopen, rfl,
      rfl, hq, hunbind⟩

/-! ## Two runs -/

/-- Two stores that take the same time for every look-up. -/
def SameTime (store store' : SecretStore) : Prop :=
  ∀ clocks username deadline,
    (store' clocks username deadline).clocks = (store clocks username deadline).clocks

/-- The run from `w` to `w'` begins with opening a connection and an accepted bind on it. -/
def BindAccepted (c : Connector) (dn : Option String) (password : Option Password)
    (deadline : Option Deadline) (w w' : World) : Prop :=
  ∃ op user bytes b rest, c.Opening deadline w op ∧ Connector.Submits dn password user bytes ∧
    b = (w.pushAll op).exchange c.directory w.nextConnection (.bind user bytes) ∧
    b.reply.outcome = .ok true ∧ w'.exchanges = w.exchanges ++ (op ++ [b] ++ rest)

/-- Two visits whose blocks send nothing and take the same time ask the same of the directory. They
are one and the same, with no word from the blocks, unless the session is bound. -/
theorem openBound_alike {α : Type} (c : Connector) (deadline : Option Deadline)
    (dn : Option String) (password : Option Password) (refused : DenialReason → Run World α)
    {g g' : Run World α}
    (hg : ∀ v, (g v).2.exchanges = v.exchanges ∧ (g' v).2.exchanges = v.exchanges ∧
      (g' v).2.clocks = (g v).2.clocks) (w : World) :
    (c.openBound dn password deadline refused (Run.onSecond g') w).2.exchanges =
        (c.openBound dn password deadline refused (Run.onSecond g) w).2.exchanges ∧
      ((c.openBound dn password deadline refused (Run.onSecond g') w =
          c.openBound dn password deadline refused (Run.onSecond g) w ∧
          ((∃ fault, (c.openBound dn password deadline refused (Run.onSecond g) w).1.outcome =
            .error fault) ∨
            ∃ reason v, (c.openBound dn password deadline refused (Run.onSecond g) w).1.outcome =
              (refused reason v).1)) ∨
        BindAccepted c dn password deadline w
          (c.openBound dn password deadline refused (Run.onSecond g) w).2) := by
  have hv := c.openBound_visit dn password deadline refused w
  generalize hrun : (fun granted => c.openBound dn password deadline refused granted w) = run at hv
  rw [congrFun hrun (Run.onSecond g), congrFun hrun (Run.onSecond g')]
  cases hv with
  | escaped _ _ _ _ => exact ⟨rfl, .inl ⟨rfl, .inl ⟨_, rfl⟩⟩⟩
  | refused _ _ _ => exact ⟨rfl, .inl ⟨rfl, .inr ⟨_, _, rfl⟩⟩⟩
  | @granted op user bytes b s log v ho hs hb hok hopen hw =>
    obtain ⟨he, he', hc⟩ := hg v
    have hq := World.exchange_congr (he'.trans he.symm) hc c.directory w.nextConnection .unbind
    simp only [Run.onSecond_apply, Connector.release_of_open hopen rfl, World.exchanges_note,
      World.exchanges_push, hq, he, he']
    refine ⟨trivial, .inr ⟨op, user, bytes, b,
      [(g v).2.exchange c.directory w.nextConnection .unbind], ho, hs, hb, hok, ?_⟩⟩
    have hv : v.exchanges = w.exchanges ++ (op ++ [b]) := by
      rw [hw, World.exchanges_note, World.exchanges_pushAll]
    rw [World.exchanges_note, World.exchanges_push, he, hv, List.append_assoc]

theorem checkSecondFactor_alike (hs : SameTime a.validator.store store')
    (credentials : Credentials) (code : Option String) (username dn : String)
    (deadline : Option Deadline) (w : World) :
    (a.checkSecondFactor credentials username dn deadline w).2.exchanges = w.exchanges ∧
      ((a.withStore store').checkSecondFactor { credentials with code } username dn deadline
          w).2.exchanges = w.exchanges ∧
      ((a.withStore store').checkSecondFactor { credentials with code } username dn deadline
          w).2.clocks =
        (a.checkSecondFactor credentials username dn deadline w).2.clocks := by
  have h := (a.checkSecondFactor_probing credentials username dn deadline w).world
  have h' := ((a.withStore store').checkSecondFactor_probing { credentials with code } username dn
    deadline w).world
  refine ⟨h.1, h'.1, ?_⟩
  rw [h.2, h'.2]
  rcases deadlineExpired deadline w.clocks.steady with fault | _ | _
  · rfl
  · exact hs _ _ _
  · rfl

/-- Two checks of both factors ask the same of the directory. They are one and the same, and do not
pass, unless the session is bound. -/
theorem checkFactors_alike (hs : SameTime a.validator.store store') (credentials : Credentials)
    (code : Option String) (username : String) (identity : DirectoryIdentity)
    (deadline : Option Deadline) (w : World) :
    ((a.withStore store').checkFactors { credentials with code } username identity deadline
          w).2.exchanges =
        (a.checkFactors credentials username identity deadline w).2.exchanges ∧
      (((a.withStore store').checkFactors { credentials with code } username identity deadline w =
          a.checkFactors credentials username identity deadline w ∧
          (a.checkFactors credentials username identity deadline w).1 ≠ .ok none) ∨
        BindAccepted a.connector (some identity.dn) credentials.password deadline w
          (a.checkFactors credentials username identity deadline w).2) := by
  obtain ⟨hexchanges, hv⟩ := openBound_alike a.connector deadline (some identity.dn)
    credentials.password
    (fun reason => do return some (← deny credentials reason (some .bind) (some identity.dn)))
    (checkSecondFactor_alike hs credentials code username identity.dn deadline) w
  refine ⟨hexchanges, ?_⟩
  rcases hv with ⟨heq, hend⟩ | hbound
  · refine .inl ⟨congrArg (fun x => (x.1.outcome, x.2)) heq, fun hnone => ?_⟩
    rcases hend with ⟨fault, hfault⟩ | ⟨reason, v, hrefused⟩
    · cases hfault.symm.trans hnone
    · cases hrefused.symm.trans hnone
  · exact .inr hbound

theorem trace_settle (identity : DirectoryIdentity)
    (x : Except Fault (Option PermissionDenied) × World) :
    (settle credentials identity x).2.trace = x.2.trace := by
  rcases x with ⟨fault | _ | denied, v⟩ <;> rfl

theorem exchanges_settle (identity : DirectoryIdentity)
    (x : Except Fault (Option PermissionDenied) × World) :
    (settle credentials identity x).2.exchanges = x.2.exchanges := by
  rw [World.exchanges, trace_settle]
  rfl

theorem authenticateAs_alike (hs : SameTime a.validator.store store') (credentials : Credentials)
    (code : Option String) (username : String) (identity : DirectoryIdentity)
    (deadline : Option Deadline) (w : World) :
    ((a.withStore store').authenticateAs { credentials with code } username identity deadline
          w).2.exchanges =
        (a.authenticateAs credentials username identity deadline w).2.exchanges ∧
      ((a.withStore store').authenticateAs { credentials with code } username identity deadline
          w = a.authenticateAs credentials username identity deadline w ∨
        BindAccepted a.connector (some identity.dn) credentials.password deadline w
          (a.authenticateAs credentials username identity deadline w).2) := by
  rcases hd : deadlineExpired deadline w.clocks.steady with fault | _ | _
  · simp [authenticateAs, Run.bind_apply, hd]
  · obtain ⟨hexchanges, hc⟩ := checkFactors_alike hs credentials code username identity deadline w
    rw [authenticateAs_eq_settle username identity hd,
      authenticateAs_eq_settle username identity hd, exchanges_settle, exchanges_settle]
    refine ⟨hexchanges, ?_⟩
    rcases hc with ⟨heq, hne⟩ | hbound
    · left
      rw [heq]
      generalize a.checkFactors credentials username identity deadline w = x at hne ⊢
      rcases x with ⟨fault | _ | denied, v⟩
      · rfl
      · exact absurd rfl hne
      · rfl
    · right
      unfold BindAccepted at hbound ⊢
      rwa [exchanges_settle]
  · simp [authenticateAs, Run.bind_apply, hd]

/-- A login ends in the same way for every store and code, or comes to a login with an identity. -/
theorem authenticate_cases (a : Authenticator) (credentials : Credentials)
    (deadline : Option Deadline) (w : World) :
    (∃ out, ∀ store code,
        (a.withStore store).authenticate { credentials with code } deadline w = out) ∨
      ∃ username identity es log, credentials.username = some username ∧
        a.resolver.Yields username w.nextConnection identity.dn es ∧
        ∀ store code, (a.withStore store).authenticate { credentials with code } deadline w =
          (a.withStore store).authenticateAs { credentials with code } username identity deadline
            ((w.pushAll es).note log) := by
  have hsame (code : Option String) :
      { credentials with code }.isComplete = credentials.isComplete := rfl
  cases hc : credentials.isComplete with
  | false =>
    refine .inl ⟨(.ok (.error {}), w.note
      [.authenticateDenied credentials.username .missingCredentials none none]), fun _ code => ?_⟩
    exact authenticate_of_incomplete ((hsame code).trans hc)
  | true =>
    obtain ⟨username, husername, -⟩ := (Option.any_eq_true _ _).1 (Bool.and_eq_true_iff.1 hc).1
    have hrun (store : SecretStore) (code : Option String) :=
      (a.withStore store).authenticate_of_complete deadline w ((hsame code).trans hc) husername
    simp only [resolver_withStore] at hrun
    rcases hd : deadlineExpired deadline w.clocks.steady with fault | _ | _
    · refine .inl ⟨(.error fault, w.note [.authenticateStart (some username)]), fun _ _ => ?_⟩
      rw [hrun, hd]
    · have hr := a.resolver.resolve_resolving username deadline
        (w.note [.authenticateStart (some username)])
      rcases hout : a.resolver.resolve username deadline
        (w.note [.authenticateStart (some username)]) with ⟨r, v⟩
      rw [hout] at hr
      simp only [hd, hout] at hrun
      cases hr with
      | escaped _ _ _ => exact .inl ⟨_, hrun⟩
      | unresolved _ _ => exact .inl ⟨_, hrun⟩
      | @found es log identity _ _ hy hw =>
        refine .inr ⟨username, identity, es, .authenticateStart (some username) :: log, husername,
          hy, fun store code => ?_⟩
        rw [hrun, hw, World.pushAll_note, World.note_note]
        rfl
    · exact .inl ⟨_, fun store code => by rw [hrun, hd]⟩

theorem authenticate_alike (hs : SameTime a.validator.store store') (credentials : Credentials)
    (code : Option String) (deadline : Option Deadline) (w : World) :
    ((a.withStore store').authenticate { credentials with code } deadline w).2.exchanges =
        (a.authenticate credentials deadline w).2.exchanges ∧
      ((a.withStore store').authenticate { credentials with code } deadline w =
          a.authenticate credentials deadline w ∨
        a.ShowsPrimaryBind credentials w (a.authenticate credentials deadline w).2) := by
  rcases authenticate_cases a credentials deadline w with ⟨out, hout⟩ |
    ⟨username, identity, es, log, husername, hy, hlogin⟩
  · have h : a.authenticate credentials deadline w = out :=
      hout a.validator.store credentials.code
    rw [hout store' code, h]
    exact ⟨rfl, .inl rfl⟩
  · have h : a.authenticate credentials deadline w = a.authenticateAs credentials username identity
        deadline ((w.pushAll es).note log) := hlogin a.validator.store credentials.code
    rw [hlogin store' code, h]
    obtain ⟨hexchanges, halike⟩ := authenticateAs_alike hs credentials code username identity
      deadline ((w.pushAll es).note log)
    refine ⟨hexchanges, halike.imp_right ?_⟩
    rintro ⟨op, user, bytes, b, rest, ho, hsub, hb, hok, hrest⟩
    obtain ⟨password, hpassword, -, hbytes⟩ := hsub.password_eq
    obtain rfl : identity.dn = user := Option.some.inj hsub.dn_eq
    refine ⟨(w.pushAll es).nextConnection, es ++ op ++ [b], rest, ?_, ?_⟩
    · rw [hrest]
      simp
    · exact .accepted husername hy ho.opens hpassword hbytes (by rw [hb]; rfl) (by rw [hb]; rfl) hok

/-! ## Two codes -/

theorem openBound_trace_congr {α : Type} (c : Connector) (deadline : Option Deadline)
    (dn : Option String) (password : Option Password) (refused : DenialReason → Run World α)
    {g g' : Run World α}
    (hg : ∀ v, (g' v).2.trace = (g v).2.trace ∧ (g' v).2.clocks = (g v).2.clocks) (w : World) :
    (c.openBound dn password deadline refused (Run.onSecond g') w).2.trace =
      (c.openBound dn password deadline refused (Run.onSecond g) w).2.trace := by
  have hv := c.openBound_visit dn password deadline refused w
  generalize hrun : (fun granted => c.openBound dn password deadline refused granted w) = run at hv
  rw [congrFun hrun (Run.onSecond g), congrFun hrun (Run.onSecond g')]
  cases hv with
  | escaped _ _ _ _ => rfl
  | refused _ _ _ => rfl
  | @granted op user bytes b s log v ho hs hb hok hopen hw =>
    obtain ⟨ht, hc⟩ := hg v
    have hexchanges : (g' v).2.exchanges = (g v).2.exchanges := by
      rw [World.exchanges, ht]
      rfl
    have hq := World.exchange_congr hexchanges hc c.directory w.nextConnection .unbind
    simp only [Run.onSecond_apply, Connector.release_of_open hopen rfl, World.trace_note,
      World.trace_push, hq, ht]

theorem Probing.trace_eq {username dn : String}
    {out : Except Fault (Option PermissionDenied) × World}
    (h : Probing a credentials username dn deadline w out) :
    out.2.trace = match deadlineExpired deadline w.clocks.steady with
      | .ok false => w.trace ++ [.lookup (w.lookupOf a.validator.store username deadline)]
      | _ => w.trace := by
  cases h with
  | unreckoned hd => rw [hd]
  | late hd => rw [hd]; rfl
  | judged hd hl _ hw => rw [hd, hw, hl]; rfl

theorem authenticateAs_trace_eq (credentials : Credentials) (code : Option String)
    (username : String) (identity : DirectoryIdentity) (deadline : Option Deadline) (w : World) :
    (a.authenticateAs { credentials with code } username identity deadline w).2.trace =
      (a.authenticateAs credentials username identity deadline w).2.trace := by
  rcases hd : deadlineExpired deadline w.clocks.steady with fault | _ | _
  · simp [authenticateAs, Run.bind_apply, hd]
  · rw [authenticateAs_eq_settle username identity hd,
      authenticateAs_eq_settle username identity hd, trace_settle, trace_settle]
    have hchecks (v : World) :
        (a.checkSecondFactor { credentials with code } username identity.dn deadline v).2.trace =
            (a.checkSecondFactor credentials username identity.dn deadline v).2.trace ∧
          (a.checkSecondFactor { credentials with code } username identity.dn deadline v).2.clocks =
            (a.checkSecondFactor credentials username identity.dn deadline v).2.clocks := by
      have h := a.checkSecondFactor_probing credentials username identity.dn deadline v
      have h' := a.checkSecondFactor_probing { credentials with code } username identity.dn
        deadline v
      exact ⟨h'.trace_eq.trans h.trace_eq.symm, h'.world.2.trans h.world.2.symm⟩
    exact openBound_trace_congr a.connector deadline (some identity.dn) credentials.password
      (fun reason => do return some (← deny credentials reason (some .bind) (some identity.dn)))
      hchecks w
  · simp [authenticateAs, Run.bind_apply, hd]

theorem authenticate_trace_eq (a : Authenticator) (credentials : Credentials)
    (code : Option String) (deadline : Option Deadline) (w : World) :
    (a.authenticate { credentials with code } deadline w).2.trace =
      (a.authenticate credentials deadline w).2.trace := by
  rcases authenticate_cases a credentials deadline w with ⟨out, hout⟩ |
    ⟨username, identity, es, log, -, -, hlogin⟩
  · have h (code : Option String) : a.authenticate { credentials with code } deadline w = out :=
      hout a.validator.store code
    rw [h code]
    exact congrArg (fun x => x.2.trace) (h credentials.code).symm
  · have h (code : Option String) : a.authenticate { credentials with code } deadline w =
        a.authenticateAs { credentials with code } username identity deadline
          ((w.pushAll es).note log) := hlogin a.validator.store code
    rw [h code, authenticateAs_trace_eq]
    exact congrArg (fun x => x.2.trace) (h credentials.code).symm

/-! ## Both together -/

theorem LoggingIn.trace_extends {out : Except Fault LoginResult × World}
    (h : LoggingIn a credentials deadline w out) : out.2.trace = w.trace ++ w.since out.2 := by
  have hext {t : List Event} {v : World} (ht : v.trace = w.trace ++ t) :
      v.trace = w.trace ++ w.since v := by
    rw [World.since_eq ht]
    exact ht
  cases h with
  | denied _ hw => exact hext (World.trace_of_row hw)
  | escaped _ _ hw => exact hext (World.trace_of_row hw)
  | probed hp _ => exact hext hp.trace_eq

theorem LoggingIn.length_lookups_le {out : Except Fault LoginResult × World}
    (h : LoggingIn a credentials deadline w out) :
    ((w.since out.2).filterMap Event.lookup?).length ≤ 1 := by
  have hnone (es : List Exchange) : (es.map Event.exchange).filterMap Event.lookup? = [] := by
    rw [List.filterMap_map]
    exact List.filterMap_eq_nil_iff.2 fun _ _ => rfl
  have hquiet {es : List Exchange} {log : List LogRecord} {v : World}
      (hv : v = (w.pushAll es).note log) :
      ((w.since v).filterMap Event.lookup?).length ≤ 1 := by
    rw [World.since_of_row hv, hnone]
    exact Nat.zero_le 1
  cases h with
  | denied _ hw => exact hquiet hw
  | escaped _ _ hw => exact hquiet hw
  | probed hp _ =>
    rw [World.since_eq hp.trace_eq, Probe.events, List.filterMap_append, hnone]
    exact Nat.le_refl 1

/-- The store is asked at most once in a run, for the submitted name, and only between the accepted
bind as the resolved name and the unbinding of its connection. Whatever else it says in the same
time, and whatever the code is, the directory is asked the same; and if the bind is not accepted,
the whole run is the same, its log included, and no store is asked. -/
theorem authenticate_probes_after_bind {bundleExists : String → Bool} {w₀ : World}
    (hbuilt : (build bundleExists directory store config transport w₀).1 = .ok a)
    (credentials : Credentials) (deadline : Option Deadline) (w : World) :
    ((w.since (a.authenticate credentials deadline w).2).filterMap Event.lookup?).length ≤ 1 ∧
      (∀ pre l post,
        w.since (a.authenticate credentials deadline w).2 = pre ++ .lookup l :: post →
          credentials.username = some l.username ∧ ∃ n es q, a.PrimaryBind credentials w n es ∧
            (∀ e ∈ es, e.request = .unbind → e.connection ≠ n) ∧ pre = es.map .exchange ∧
              post = [.exchange q] ∧ q.connection = n ∧ q.request = .unbind) ∧
      ∀ store' code, SameTime store store' →
        ((a.withStore store').authenticate { credentials with code } deadline w).2.exchanges =
            (a.authenticate credentials deadline w).2.exchanges ∧
          (¬ a.ShowsPrimaryBind credentials w (a.authenticate credentials deadline w).2 →
            (a.withStore store').authenticate { credentials with code } deadline w =
                a.authenticate credentials deadline w ∧
              (w.since (a.authenticate credentials deadline w).2).filterMap Event.lookup? = []) := by
  have ha := build_built hbuilt
  have h := a.authenticate_loggingIn ha credentials deadline w
  refine ⟨h.length_lookups_le, fun pre l post hs => h.lookup_after_bind hs, ?_⟩
  intro store' code hs
  obtain ⟨hexchanges, halike⟩ :=
    authenticate_alike (by rwa [ha.validator_eq]) credentials code deadline w
  refine ⟨hexchanges, fun hunbound => ⟨halike.resolve_right hunbound, ?_⟩⟩
  refine List.filterMap_eq_nil_iff.2 fun e he => ?_
  cases e with
  | exchange e => rfl
  | lookup l =>
    -- A look-up would show the bind as accepted.
    obtain ⟨pre, post, hsplit⟩ := List.append_of_mem he
    obtain ⟨-, n, es, q, hbind, -, rfl, rfl, -, -⟩ := h.lookup_after_bind hsplit
    refine (hunbound ⟨n, es, [q], ?_, hbind⟩).elim
    rw [World.exchanges, h.trace_extends, hsplit, List.filterMap_append, List.filterMap_append,
      World.filterMap_exchange]
    rfl

/-- A store that fails instead shows the directory nothing new. -/
theorem exchanges_of_failing_store :
    ((Sample.authenticator.withStore fun clocks _ _ =>
          ⟨.error (.session (.noConnection "search")), [], clocks⟩).authenticate
        { Sample.credentials with code := some "123456" } none (World.start Sample.clocks)
        ).2.exchanges =
      (Sample.authenticator.authenticate Sample.credentials none (World.start Sample.clocks)
        ).2.exchanges := by
  obtain ⟨-, -, halike⟩ := authenticate_probes_after_bind Sample.build_eq Sample.credentials none
    (World.start Sample.clocks)
  have htime : SameTime Sample.store fun clocks _ _ =>
      ⟨.error (.session (.noConnection "search")), [], clocks⟩ := fun _ _ _ => rfl
  exact (halike _ (some "123456") htime).1

end Authenticator

end TwoFactorLogin
