import TwoFactorLogin.Proofs.LoggingIn

/-!
# Both factors

A login succeeds exactly if its run shows that both factors passed in time. `Passage` names what has
to be found in the run, and `Passage.Holds` says what has to be true of it: whatever the directory,
the store and the clocks do, nothing less lets anybody in, and nothing more is asked for, except that
the run is not interrupted.

* `Yields.unique`: a run shows at most one name that the login name was resolved to.
* `authenticate_succeeds_iff`: soundness and completeness of a login.

That nothing less is enough is read off the one path of `LoggingIn` that succeeds. That nothing more
is asked for holds because the store is only asked on that path, so a look-up in the run gives the
path away, and the judgement of the look-up is the outcome.
-/

namespace TwoFactorLogin

/-! ## One name -/

/-- A run shows at most one name that a login name was resolved to. -/
theorem Resolver.Yields.unique {r : Resolver} {username dn dn' : String} {n : Nat}
    {es es' : List Exchange} {t t' : List Event} (h : r.Yields username n dn es)
    (h' : r.Yields username n dn' es')
    (ht : es.map Event.exchange ++ t = es'.map Event.exchange ++ t') :
    es = es' ∧ dn = dn' ∧ t = t' := by
  have hinj {l l' : List Exchange} (hl : l.map Event.exchange = l'.map Event.exchange) :
      l = l' := by
    have := congrArg (List.filterMap Event.exchange?) hl
    rwa [World.filterMap_exchange, World.filterMap_exchange] at this
  cases h with
  | derived hdn =>
    cases h' with
    | derived hdn' =>
      rw [hdn] at hdn'
      exact ⟨rfl, Except.ok.inj hdn', ht⟩
  | @searched _ _ o _ _ b f q ho _ _ _ _ _ _ _ hdn =>
    cases h' with
    | @searched _ _ o' _ _ b' f' q' ho' _ _ _ _ _ _ _ hdn' =>
      have hlen : (o.map Event.exchange).length = (o'.map Event.exchange).length := by
        rw [List.length_map, List.length_map, ho.length_eq, ho'.length_eq]
      have hsplit : o.map Event.exchange ++ (.exchange b :: .exchange f :: .exchange q :: t) =
          o'.map Event.exchange ++ (.exchange b' :: .exchange f' :: .exchange q' :: t') := by
        simpa using ht
      obtain ⟨hoo, hrest⟩ := List.append_inj hsplit hlen
      obtain ⟨rfl, rfl, rfl, rfl⟩ : b = b' ∧ f = f' ∧ q = q' ∧ t = t' := by simpa using hrest
      rw [hdn] at hdn'
      exact ⟨by rw [hinj hoo], by simpa using hdn', rfl⟩

/-! ## Passages -/

/-- What a run has to show for a login to succeed. -/
structure Passage where
  username : String
  password : Password
  bytes : List UInt8
  dn : String
  resolution : List Exchange
  later : List Event
  connection : Nat
  opening : List Exchange
  bind : Exchange
  lookup : Lookup
  secret : SecondFactorSecret

/-- Both factors pass, in time, in a run from `w` with some events. -/
structure Passage.Holds (p : Passage) (config : AuthConfig) (c : Connector)
    (credentials : Credentials) (deadline : Option Deadline) (w : World) (events : List Event) :
    Prop where
  username_eq : credentials.username = some p.username
  username_ne : p.username ≠ ""
  password_eq : credentials.password = some p.password
  password_ne : p.password ≠ []
  /-- The configured resolver yields one name. -/
  yields : (Resolver.ofConfig config.directory c).Yields p.username w.nextConnection p.dn
    p.resolution
  events_eq : events = p.resolution.map .exchange ++ p.later
  /-- A connection is opened after that, and accepts a bind with the name and the password. -/
  opens : c.Opens p.connection p.opening
  bound_later : ((p.opening ++ [p.bind]).map .exchange).Sublist p.later
  bind_connection : p.bind.connection = p.connection
  bind_request : p.bind.request = .bind p.dn p.bytes
  bytes_eq : Text.utf8? p.password = .ok p.bytes
  accepted : p.bind.reply.outcome = .ok true
  /-- The store returns a secret for the login name. -/
  looked_up : .lookup p.lookup ∈ events
  lookup_username : p.lookup.username = p.username
  secret_found : p.lookup.reply.outcome = .ok (some p.secret)
  /-- The secret is bypassed, or the submitted code is one of its codes at that moment. -/
  second_factor : p.secret.IsBypassed config.secondFactor ∨
    SecondFactorValidator.codeValid config.secondFactor p.secret credentials.code
      p.lookup.reply.clocks = .ok true
  /-- The deadline expires at none of the moments between the steps. -/
  begun_in_time : deadlineExpired deadline w.clocks.steady = .ok false
  resolved_in_time : deadlineExpired deadline (w.pushAll p.resolution).clocks.steady = .ok false
  bound_in_time : deadlineExpired deadline p.bind.reply.clocks.steady = .ok false
  looked_up_in_time : deadlineExpired deadline p.lookup.reply.clocks.steady = .ok false

namespace Authenticator

variable {a : Authenticator} {directory : Directory} {store : SecretStore} {config : AuthConfig}
  {transport : Option Transport} {credentials : Credentials} {deadline : Option Deadline}
  {w w' : World}

/-- A probe whose look-up is judged well is a passage. -/
theorem Probe.Happens.passage {p : Probe} (h : p.Happens a credentials deadline w w')
    (ha : a.Built directory store config transport) {secret : SecondFactorSecret}
    (hj : p.lookup.judged a.validator.config credentials.code deadline = .ok (.ok secret)) :
    ∃ v : Passage, v.Holds config a.connector credentials deadline w (w.since w') ∧
      v.dn = p.identity.dn := by
  obtain ⟨password, hpassword, hne, hbytes⟩ := h.submits.password_eq
  obtain ⟨htime, hfound, hpassed⟩ := Lookup.judged_eq_ok.1 hj
  have hevents : w.since w' = p.events := World.since_eq h.trace_eq
  refine ⟨⟨p.username, password, p.bytes, p.identity.dn, p.resolution,
    (p.opening ++ [p.bind]).map .exchange ++ [.lookup p.lookup, .exchange p.unbind],
    (w.pushAll p.resolution).nextConnection, p.opening, p.bind, p.lookup, secret⟩, ?_, rfl⟩
  exact {
    username_eq := h.username_eq
    username_ne := h.username_ne
    password_eq := hpassword
    password_ne := hne
    yields := ha.resolver_eq ▸ h.yields
    events_eq := by rw [hevents]; simp [Probe.events, Probe.before]
    opens := h.opens.opens
    bound_later := List.sublist_append_left _ _
    bind_connection := by rw [h.bind_eq]; rfl
    bind_request := by rw [h.bind_eq]; rfl
    bytes_eq := hbytes
    accepted := h.accepted
    looked_up := by rw [hevents]; simp [Probe.events]
    lookup_username := by rw [h.lookup_eq]; rfl
    secret_found := hfound
    second_factor := by rwa [ha.validator_eq] at hpassed
    begun_in_time := h.begun_in_time
    resolved_in_time := h.opens.in_time
    bound_in_time := h.bound_in_time
    looked_up_in_time := htime }

/-- A passage in the run of a probe has the look-up and the name of the probe. -/
theorem Probe.Happens.judged {p : Probe} (h : p.Happens a credentials deadline w w')
    (ha : a.Built directory store config transport) {v : Passage}
    (hv : v.Holds config a.connector credentials deadline w (w.since w')) :
    p.lookup.judged a.validator.config credentials.code deadline = .ok (.ok v.secret) ∧
      p.identity.dn = v.dn := by
  have hevents : w.since w' = p.events := World.since_eq h.trace_eq
  have hlookup : v.lookup = p.lookup := by
    have := hv.looked_up
    rw [hevents] at this
    simpa [Probe.events] using this
  have hname : v.username = p.username := by
    rw [← Option.some.injEq, ← hv.username_eq, h.username_eq]
  have hyields := hv.yields
  rw [← ha.resolver_eq, hname] at hyields
  have hsplit : p.resolution.map Event.exchange ++
      ((p.opening ++ [p.bind]).map Event.exchange ++ [.lookup p.lookup, .exchange p.unbind]) =
        v.resolution.map Event.exchange ++ v.later := by
    rw [← hv.events_eq, hevents]
    simp [Probe.events, Probe.before]
  refine ⟨?_, (h.yields.unique hyields hsplit).2.1⟩
  rw [← hlookup, ha.validator_eq]
  exact Lookup.judged_eq_ok.2 ⟨hv.looked_up_in_time, hv.secret_found, hv.second_factor⟩

theorem authenticate_succeeds_iff {bundleExists : String → Bool} {w₀ : World}
    (hbuilt : (build bundleExists directory store config transport w₀).1 = .ok a)
    (credentials : Credentials) (deadline : Option Deadline) (w : World)
    (user : AuthenticatedIdentity) :
    (a.authenticate credentials deadline w).1 = .ok (.ok user) ↔
      (∀ fault, (a.authenticate credentials deadline w).1 = .error fault →
        fault.kind.isInterruption = false) ∧
      ∃ p : Passage,
        p.Holds config a.connector credentials deadline w
            (w.since (a.authenticate credentials deadline w).2) ∧
          user.credentials = credentials ∧ user.identity.dn = p.dn ∧
            user.authenticatedAt = (a.authenticate credentials deadline w).2.clocks.date := by
  have ha := build_built hbuilt
  have h := a.authenticate_loggingIn ha credentials deadline w
  generalize a.authenticate credentials deadline w = out at h ⊢
  -- On the paths that do not ask the store there is no look-up, and so no passage.
  have hnone {es : List Exchange} {log : List LogRecord} {w' : World} {v : Passage}
      (hw : w' = (w.pushAll es).note log)
      (hv : v.Holds config a.connector credentials deadline w (w.since w')) : False :=
    World.lookup_notMem_of_row hw v.lookup hv.looked_up
  cases h with
  | denied _ hw =>
    constructor
    · intro h
      cases h
    · rintro ⟨-, v, hv, -⟩
      exact (hnone hw hv).elim
  | escaped _ _ hw =>
    constructor
    · intro h
      cases h
    · rintro ⟨-, v, hv, -⟩
      exact (hnone hw hv).elim
  | @probed p r w' hp hr =>
    constructor
    · intro hok
      have hend := hok
      rw [hr, Exchange.ending_eq_ok] at hend
      rcases hj : p.lookup.judged a.validator.config credentials.code deadline with
        fault | reason | secret
      · rw [hj] at hend
        cases hend.2
      · rw [hj] at hend
        cases hend.2
      · rw [hj] at hend
        obtain rfl := Except.ok.inj (Except.ok.inj hend.2)
        obtain ⟨v, hv, hdn⟩ := hp.passage ha hj
        refine ⟨fun fault hfault => ?_, v, hv, rfl, hdn.symm, rfl⟩
        cases hok.symm.trans hfault
    · rintro ⟨hrun, v, hv, hcredentials, hdn, hdate⟩
      obtain ⟨hj, hdn'⟩ := hp.judged ha hv
      have hid : p.identity = user.identity := by
        rw [DirectoryIdentity.mk.injEq, hdn, hdn']
      -- The judgement is the outcome unless the release was interrupted, and then the run was.
      cases hu : p.unbind.unbindOutcome with
      | error fault =>
        rw [p.unbind.ending_of_error hu] at hr
        have hk := hrun fault hr
        rw [(Exchange.unbindOutcome_eq_error.1 hu).2] at hk
        cases hk
      | ok _ => rw [hr, p.unbind.ending_of_ok hu, hj, conclude, ← hcredentials, hid, ← hdate]

/-- A login with a disabled secret, which the configuration honours. -/
theorem passage_of_sample :
    ∃ p : Passage, p.Holds Sample.config Sample.authenticator.connector Sample.credentials none
      (World.start Sample.clocks)
      ((World.start Sample.clocks).since (Sample.authenticator.authenticate Sample.credentials none
        (World.start Sample.clocks)).2) := by
  obtain ⟨-, p, hp, -⟩ := (authenticate_succeeds_iff Sample.build_eq Sample.credentials none
    (World.start Sample.clocks)
    ⟨Sample.credentials, ⟨"uid=ann,o=org", by decide⟩, "2024-01-01T00:00:00Z"⟩).1 rfl
  exact ⟨p, hp⟩

end Authenticator

end TwoFactorLogin
