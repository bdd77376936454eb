import TwoFactorLogin.Proofs.Discipline
import TwoFactorLogin.Proofs.TimeLeft

/-!
# Logins in time

The deadline of a login is looked at again and again, and the clock moves on between. A login that
succeeds was before its deadline at each of the moments that count (`Probe.Meets`). One whose
look-up came too late is denied for that reason, whatever was looked up. And no connection is opened
with more time than the deadline leaves.

* `KeepsTime`: what is asked of clocks. They need not be monotonic.
* `authenticate_punctual`: the three together.
-/

namespace TwoFactorLogin

/-- The directory and the store leave the steady clock at times that can be compared with a
deadline. -/
structure KeepsTime (d : Deadline) (directory : Directory) (store : SecretStore) : Prop where
  asked : ∀ {past c n r}, d.Comparable c.steady → d.Comparable (directory past c n r).clocks.steady
  looked_up : ∀ {c username deadline}, d.Comparable c.steady →
    d.Comparable (store c username deadline).clocks.steady

theorem World.Answers.comparable {d : Deadline} {directory : Directory} {store : SecretStore}
    {w : World} {es : List Exchange} (hk : KeepsTime d directory store)
    (h : w.Answers directory es) (hw : d.Comparable w.clocks.steady) :
    d.Comparable (w.pushAll es).clocks.steady :=
  h.clocks_of (P := fun c => d.Comparable c.steady) hk.asked hw

/-! ## Timeouts -/

/-- A timeout is positive, and the minimum of the configured one and what is left. -/
structure Number.IsWithin (timeout configured left : Number) : Prop where
  min : timeout.IsMinOf configured left
  pos : zero.lt timeout = true

theorem Number.smaller_isWithin {configured left : Number} (hc : zero.lt configured = true)
    (hl : zero.lt left = true) : (configured.smaller left).IsWithin configured left :=
  ⟨smaller_isMinOf (Double.ne_nan_of_lt hc).2 (Double.ne_nan_of_lt hl).2, smaller_pos hc hl⟩

namespace Connector

variable {c : Connector} {d : Deadline} {w : World} {es : List Exchange}

/-- A connection is opened with timeouts within the time that is left, which is positive. -/
theorem Asks.isWithin {now : Number} {p : Endpoint} (h : c.Asks (some d) now p)
    (hconnect : Number.zero.lt c.config.connectTimeout = true)
    (hreceive : Number.zero.lt c.config.receiveTimeout = true) :
    ∃ left, d.expiresAt.sub? now = some left ∧ Number.zero.lt left = true ∧
      p.connectTimeout.IsWithin c.config.connectTimeout left ∧
        p.receiveTimeout.IsWithin c.config.receiveTimeout left := by
  obtain ⟨hexpired, connectTimeout, receiveTimeout, hct, hrt, rfl⟩ := h
  obtain ⟨left, hleft, hpos, rfl⟩ := Deadline.clampTo_eq_ok hexpired hct
  obtain ⟨left', hleft', -, rfl⟩ := Deadline.clampTo_eq_ok hexpired hrt
  obtain rfl : left = left' := Option.some.inj (hleft.symm.trans hleft')
  exact ⟨left, hleft, hpos, Number.smaller_isWithin hconnect hpos,
    Number.smaller_isWithin hreceive hpos⟩

/-- An opening begins with the opening of the connection, at once. -/
theorem Opening.head {deadline : Option Deadline} (h : c.Opening deadline w es) :
    ∃ o, es.head? = some o ∧ o.request.isConnect = true ∧ o.sentAt = w.clocks := by
  cases h with
  | plain _ _ ho _ => exact ⟨_, rfl, by rw [ho]; rfl, by rw [ho]; rfl⟩
  | upgraded _ _ ho _ _ _ => exact ⟨_, rfl, by rw [ho]; rfl, by rw [ho]; rfl⟩

end Connector

namespace Authenticator

variable {a : Authenticator} {directory : Directory} {store : SecretStore} {config : AuthConfig}
  {transport : Option Transport} {credentials : Credentials} {d : Deadline} {w w' : World}
  {p : Probe}

/-! ## The moments of a login -/

/-- The clock was strictly before the deadline when the login began, when it opened the connection
to bind on, when the bind had returned, when the store was asked, and when it had answered. -/
structure Probe.Meets (p : Probe) (d : Deadline) (w : World) : Prop where
  begun : w.clocks.steady.lt d.expiresAt = true
  opened : ∃ o, p.opening.head? = some o ∧ o.request.isConnect = true ∧
    o.sentAt.steady.lt d.expiresAt = true
  bound : p.bind.reply.clocks.steady.lt d.expiresAt = true
  asked : p.lookup.askedAt.steady.lt d.expiresAt = true
  answered : p.lookup.reply.clocks.steady.lt d.expiresAt = true

theorem Probe.Happens.askedAt_eq {deadline : Option Deadline}
    (h : p.Happens a credentials deadline w w') : p.lookup.askedAt = p.bind.reply.clocks := by
  rw [h.lookup_eq, World.lookupOf, Probe.before, World.pushAll_append]
  rfl

/-- The clock can be compared with the deadline when the store has answered. -/
theorem Probe.Happens.comparable (h : p.Happens a credentials (some d) w w')
    (ha : a.Built directory store config transport) (hk : KeepsTime d directory store)
    (hw : d.Comparable w.clocks.steady) : d.Comparable p.lookup.reply.clocks.steady := by
  rw [h.lookup_eq, ha.validator_eq]
  exact hk.looked_up ((h.before_answers ha).comparable hk hw)

/-- A probe whose look-up is judged well meets the deadline. -/
theorem Probe.Happens.meets (h : p.Happens a credentials (some d) w w')
    (ha : a.Built directory store config transport) (hk : KeepsTime d directory store)
    (hw : d.Comparable w.clocks.steady) {secret : SecondFactorSecret}
    (hj : p.lookup.judged a.validator.config credentials.code (some d) = .ok (.ok secret)) :
    p.Meets d w := by
  have hresolution : w.Answers directory p.resolution := ha.directory_eq ▸ ha.answers h.errand
  have hresolved := hresolution.comparable hk hw
  have hbound : d.Comparable p.bind.reply.clocks.steady := by
    have hbefore := (h.before_answers ha).comparable hk hw
    rwa [Probe.before, World.pushAll_append] at hbefore
  have hbind := Deadline.lt_of_not_expired hw.expiry_exists hbound.now_exists h.bound_in_time
  obtain ⟨o, ho, hconnect, hsent⟩ := h.opens.head
  exact {
    begun := Deadline.lt_of_not_expired hw.expiry_exists hw.now_exists h.begun_in_time
    opened := ⟨o, ho, hconnect, by
      rw [hsent]
      exact Deadline.lt_of_not_expired hw.expiry_exists hresolved.now_exists h.opens.in_time⟩
    bound := hbind
    asked := by rw [h.askedAt_eq]; exact hbind
    answered := Deadline.lt_of_not_expired hw.expiry_exists (h.comparable ha hk hw).now_exists
      (Lookup.judged_eq_ok.1 hj).1 }

/-! ## Whole logins -/

/-- What a login with a deadline comes to. -/
structure Punctual (a : Authenticator) (config : DirectoryConfig) (credentials : Credentials)
    (d : Deadline) (w : World) (out : Except Fault LoginResult × World) : Prop where
  /-- A login that succeeds met the deadline throughout. -/
  in_time : ∀ user, out.1 = .ok (.ok user) →
    ∃ p : Probe, p.Happens a credentials (some d) w out.2 ∧ p.Meets d w
  /-- A login whose look-up returned at the deadline or after it is denied for that reason; an
  interruption of the unbinding may still keep the caller from hearing of it. -/
  late_denied : ∀ l, .lookup l ∈ w.since out.2 → (∀ fault, l.reply.found ≠ .error fault) →
    d.expiresAt.le l.reply.clocks.steady = true →
      (out.1 = .ok (.error {}) ∨ ∃ q ∈ w.sent out.2, ∃ fault, q.Interrupts fault ∧
        out.1 = .error fault) ∧
      ∃ dn, w.Logged out.2
        (.authenticateDenied credentials.username .deadlineExceeded (some .secondFactor) (some dn))
  /-- Every connection is opened with timeouts within the time that is left at that moment. -/
  within : ∀ e ∈ w.sent out.2, ∀ p, e.request = .connect p →
    ∃ left, d.expiresAt.sub? e.sentAt.steady = some left ∧ Number.zero.lt left = true ∧
      p.connectTimeout.IsWithin config.connectTimeout left ∧
        p.receiveTimeout.IsWithin config.receiveTimeout left

theorem LoggingIn.in_time {out : Except Fault LoginResult × World}
    (h : LoggingIn a credentials (some d) w out) (ha : a.Built directory store config transport)
    (hk : KeepsTime d directory store) (hw : d.Comparable w.clocks.steady)
    (user : AuthenticatedIdentity) (hok : out.1 = .ok (.ok user)) :
    ∃ p : Probe, p.Happens a credentials (some d) w out.2 ∧ p.Meets d w := by
  cases h with
  | denied _ _ => cases hok
  | escaped _ _ _ => cases hok
  | @probed p r w' hp hr _ =>
    refine ⟨p, hp, ?_⟩
    replace hok := (Exchange.ending_eq_ok.1 (hr ▸ hok)).2
    rcases hj : p.lookup.judged a.validator.config credentials.code (some d) with
      fault | reason | secret
    · rw [hj] at hok
      cases hok
    · rw [hj] at hok
      cases hok
    · exact hp.meets ha hk hw hj

theorem LoggingIn.late_denied {out : Except Fault LoginResult × World}
    (h : LoggingIn a credentials (some d) w out) (ha : a.Built directory store config transport)
    (hk : KeepsTime d directory store) (hw : d.Comparable w.clocks.steady) {l : Lookup}
    (hl : .lookup l ∈ w.since out.2) (hfound : ∀ fault, l.reply.found ≠ .error fault)
    (hlate : d.expiresAt.le l.reply.clocks.steady = true) :
    (out.1 = .ok (.error {}) ∨ ∃ q ∈ w.sent out.2, ∃ fault, q.Interrupts fault ∧
        out.1 = .error fault) ∧
      ∃ dn, w.Logged out.2
        (.authenticateDenied credentials.username .deadlineExceeded (some .secondFactor)
          (some dn)) := by
  cases h with
  | denied _ hw' => exact (World.lookup_notMem_of_row hw' l hl).elim
  | escaped _ _ hw' => exact (World.lookup_notMem_of_row hw' l hl).elim
  | @probed p r w' hp hr hdenied =>
    obtain rfl : l = p.lookup := by
      rw [World.since_eq hp.trace_eq] at hl
      simpa [Probe.events] using hl
    have hexpired : deadlineExpired (some d) p.lookup.reply.clocks.steady = .ok true :=
      Deadline.expired_of_le (hp.comparable ha hk hw) hlate
    have hj : p.lookup.judged a.validator.config credentials.code (some d) =
        .ok (.error .deadlineExceeded) := by
      rcases hf : p.lookup.reply.found with fault | found
      · exact (hfound fault hf).elim
      · rw [Lookup.judged, hf, hexpired]
    refine ⟨?_, p.identity.dn, hdenied _ hj⟩
    subst hr
    rw [hj]
    cases hu : p.unbind.unbindOutcome with
    | ok _ => exact .inl (p.unbind.ending_of_ok hu _)
    | error fault =>
      refine .inr ⟨p.unbind, ?_, fault, ⟨by rw [hp.unbind_eq]; rfl, hu⟩,
        p.unbind.ending_of_error hu _⟩
      rw [hp.sent_eq]
      simp

/-- Whatever time the directory and the store take, a login with a deadline is punctual. -/
theorem authenticate_punctual {bundleExists : String → Bool} {w₀ : World}
    (hbuilt : (build bundleExists directory store config transport w₀).1 = .ok a)
    (hk : KeepsTime d directory store) (hw : d.Comparable w.clocks.steady)
    (hconnect : Number.zero.lt config.directory.connectTimeout = true)
    (hreceive : Number.zero.lt config.directory.receiveTimeout = true)
    (credentials : Credentials) :
    a.Punctual config.directory credentials d w (a.authenticate credentials (some d) w) := by
  have ha := build_built hbuilt
  have h := a.authenticate_loggingIn ha credentials (some d) w
  obtain ⟨_, hcourse, -⟩ := (authenticate_tidy ha credentials (some d) w).course
  exact {
    in_time := h.in_time ha hk hw
    late_denied := fun l hl hfound hlate => h.late_denied ha hk hw hl hfound hlate
    within := by
      intro e he p hp
      rw [← ha.config_eq] at hconnect hreceive ⊢
      exact (hcourse.asks he hp).isWithin hconnect hreceive }

end Authenticator

/-! ## A login with five seconds -/

namespace Sample

/-- Five seconds after the clock of the sample. -/
def deadline : Deadline := ⟨.int 5⟩

theorem deadline_comparable : deadline.Comparable clocks.steady where
  expiry_exists := trivial
  now_exists := Double.roundUnits_zero
  difference := by decide +kernel

theorem keepsTime : KeepsTime deadline directory store where
  asked := id
  looked_up := id

end Sample

/-- A login that takes no time meets such a deadline. -/
theorem Authenticator.meets_of_sample :
    ∃ p : Probe, p.Happens Sample.authenticator Sample.credentials (some Sample.deadline)
        (World.start Sample.clocks)
        (Sample.authenticator.authenticate Sample.credentials (some Sample.deadline)
          (World.start Sample.clocks)).2 ∧
      p.Meets Sample.deadline (World.start Sample.clocks) := by
  have h := authenticate_punctual Sample.build_eq Sample.keepsTime
    (w := World.start Sample.clocks) Sample.deadline_comparable (by decide +kernel)
    (by decide +kernel) Sample.credentials
  have hok : ((Sample.authenticator.authenticate Sample.credentials (some Sample.deadline)
      (World.start Sample.clocks)).1.toOption.bind Except.toOption).isSome = true := by
    decide +kernel
  rcases hr : (Sample.authenticator.authenticate Sample.credentials (some Sample.deadline)
      (World.start Sample.clocks)).1 with fault | denied | user
  · simp [hr, Except.toOption] at hok
  · simp [hr, Except.toOption] at hok
  · exact h.in_time user hr

end TwoFactorLogin
