import TwoFactorLogin.Proofs.NoProbing
import TwoFactorLogin.Proofs.Reckoning

/-!
# Which logins end with a fault

A login is denied in one way, whatever goes wrong, and three things alone make it end with a fault
instead: a deadline that no double comes near, a look-up that is interrupted, and a submitted code of
more digits than can be read as a number. The last takes somebody who knows the password, since a
code is only read after the bind was accepted, and a user whose secret asks for a code.

* `Clocks.Ordinary`: what the clocks of a machine show.
* `Unhandled`: what the run of a login shows if it ends with a fault.
* `authenticate_fails_iff`: it ends with a fault exactly if its run shows one of the three.

The clocks stay ordinary along a run, so every deadline that can be compared once can be compared
throughout, and every code can be reckoned at the time of the look-up.
-/

namespace TwoFactorLogin

/-! ## Clocks -/

/-- The steady clock shows a double, and the wall clock a time between the epoch and `2⁵³` seconds
after it. -/
structure Clocks.Ordinary (c : Clocks) : Prop where
  steady_eq : ∃ d, c.steady = .double d
  wall_nonneg : (Number.int 0).le c.wall = true
  wall_le : c.wall.le (.int (2 ^ 53)) = true

/-- A deadline that no double comes near. -/
def Deadline.Unreckonable (d : Deadline) : Prop := d.expiresAt.toDouble? = none

theorem deadlineExpired_eq_error {deadline : Option Deadline} {c : Clocks} {fault : Fault}
    (hc : ∃ now, c.steady = .double now) :
    deadlineExpired deadline c.steady = .error fault ↔
      (∃ d, deadline = some d ∧ d.Unreckonable) ∧ fault = .value .integerTooLarge := by
  obtain ⟨now, hnow⟩ := hc
  cases deadline with
  | none => simp [deadlineExpired]
  | some d =>
    have hsub : d.expiresAt.sub? (.double now) =
        d.expiresAt.toDouble?.map fun x => .double (x.sub now) := by
      cases h : d.expiresAt with
      | int i =>
        cases hi : (Number.int i).toDouble? with
        | none => simp [Number.sub?, hi]
        | some x => simp [Number.sub?, hi, Number.toDouble?.eq_2]
      | double x => rfl
    have hd : (∃ d', some d = some d' ∧ d'.Unreckonable) ↔ d.expiresAt.toDouble? = none := by
      simp [Deadline.Unreckonable]
    rw [hd, hnow, deadlineExpired, Deadline.expired, Deadline.remaining, hsub]
    cases d.expiresAt.toDouble? with
    | none => simp [Fault.orTooLarge, Except.map, eq_comm]
    | some x => simp [Except.map]

/-! ## Codes -/

namespace SecondFactorValidator

theorem codeValid_of_overlong (config : SecondFactorConfig) (secret : SecondFactorSecret)
    (clocks : Clocks) {s : String} (hs : Otp.Overlong s) :
    codeValid config secret (some s) clocks =
      .error (.code (.tooManyDigits (Otp.digitsOf s).length)) := by
  simp only [codeValid, validateCode, Otp.parseCode_of_overlong config hs, Run.raise_apply]

/-- A code that is not overlong is valid or not, whatever the text of the secret. -/
theorem codeValid_of_not_overlong (config : SecondFactorConfig) (secret : SecondFactorSecret)
    {clocks : Clocks} (hc : clocks.Ordinary) {submitted : Option String}
    (hs : ∀ s ∈ submitted, ¬ Otp.Overlong s) :
    ∃ valid, codeValid config secret submitted clocks = .ok valid := by
  unfold codeValid validateCode
  rcases Otp.parseCode_of_not_overlong config hs with ⟨cause, hp⟩ | ⟨code, hp⟩
  · rw [hp]
    exact ⟨false, rfl⟩
  · rw [hp]
    rcases Base32.decodeSecret secret.secret with cause | key
    · exact ⟨false, rfl⟩
    · obtain ⟨times, htimes, hrange⟩ := Otp.candidateTimes_ok config hc.wall_nonneg hc.wall_le
      obtain ⟨valid, hmatches⟩ := Otp.matchesAny_ok config key code hrange
      refine ⟨valid, ?_⟩
      simp only [timeOrNow, Run.bind_apply, Run.read_apply, Run.ofExcept_apply, Option.getD_none,
        World.clocks_start, htimes, hmatches]

theorem codeValid_eq_error {config : SecondFactorConfig} {secret : SecondFactorSecret}
    {submitted : Option String} {clocks : Clocks} {fault : Fault} (hc : clocks.Ordinary) :
    codeValid config secret submitted clocks = .error fault ↔
      ∃ s, submitted = some s ∧ Otp.Overlong s ∧
        fault = .code (.tooManyDigits (Otp.digitsOf s).length) := by
  by_cases hs : ∃ s, submitted = some s ∧ Otp.Overlong s
  · obtain ⟨s, rfl, hs⟩ := hs
    rw [codeValid_of_overlong config secret clocks hs]
    constructor
    · rintro ⟨⟩
      exact ⟨s, rfl, hs, rfl⟩
    · rintro ⟨_, ⟨⟩, -, rfl⟩
      rfl
  · obtain ⟨valid, hvalid⟩ := codeValid_of_not_overlong config secret hc
      fun s (hsub : s ∈ submitted) hover => hs ⟨s, hsub, hover⟩
    rw [hvalid]
    constructor
    · intro h
      cases h
    · rintro ⟨s, hsub, hover, -⟩
      exact (hs ⟨s, hsub, hover⟩).elim

end SecondFactorValidator

open SecondFactorValidator

/-! ## Runs -/

/-- The directory raises no faults but its own, and clocks that are ordinary stay so, however long
the directory and the store take. -/
structure Surroundings (directory : Directory) (store : SecretStore) : Prop where
  faults : ∀ {es c n r fault}, (directory es c n r).outcome = .error fault →
    fault.kind.isDirectory = true
  asked : ∀ {es c n r}, Clocks.Ordinary c → (directory es c n r).clocks.Ordinary
  looked_up : ∀ {c username d}, Clocks.Ordinary c → (store c username d).clocks.Ordinary

theorem Surroundings.unbindOutcome_eq {directory : Directory} {store : SecretStore}
    (hs : Surroundings directory store) {w : World} {n : Nat} {q : Exchange}
    (hq : q = w.exchange directory n .unbind) : q.unbindOutcome = .ok () := by
  refine Exchange.unbindOutcome_eq_ok fun fault hfault => ?_
  rw [hq] at hfault
  exact FaultKind.isInterruption_of_isDirectory (hs.faults hfault)

theorem World.Answers.ordinary {directory : Directory} {store : SecretStore}
    (hs : Surroundings directory store) {w : World} {es : List Exchange}
    (h : w.Answers directory es) (hw : w.clocks.Ordinary) : (w.pushAll es).clocks.Ordinary :=
  h.clocks_of hs.asked hw

/-! ## A code of many zeros -/

namespace Sample

/-- A store whose secrets ask for a code. -/
def askingStore : SecretStore := fun clocks username _ =>
  ⟨.ok (some ⟨username, "GEZDGNBV", .bool true⟩), [], clocks⟩

/-- One zero more than can be read as a number. -/
def zeros : String := String.ofList (List.replicate (maxIntDigits + 1) '0')

theorem digitsOf_zeros : Otp.digitsOf zeros = List.replicate (maxIntDigits + 1) '0' := by
  rw [Otp.digitsOf, zeros, String.toList_ofList]
  refine Text.Trimmed.stripChars_eq (Text.trimmed_of_not_blank fun c hc => ?_)
  rw [(List.mem_replicate.1 hc).2]
  rfl

theorem overlong_zeros : Otp.Overlong zeros := by
  rw [Otp.Overlong, digitsOf_zeros, List.length_replicate, List.all_eq_true]
  refine ⟨fun c hc => ?_, Nat.lt_succ_self _⟩
  rw [(List.mem_replicate.1 hc).2]
  rfl

theorem surroundings : Surroundings directory askingStore where
  faults := by
    intro es c n r fault h
    cases h
  asked := id
  looked_up := id

theorem clocks_ordinary : clocks.Ordinary where
  steady_eq := ⟨_, rfl⟩
  wall_nonneg := by decide +kernel
  wall_le := by decide +kernel

end Sample

/-! ## Logins -/

namespace Authenticator

/-- What the run of a login shows if it ends with a fault: the deadline cannot be compared with the
clock, or the look-up was interrupted, or a secret was found in time that asks for a code, and the
code is overlong. -/
inductive Unhandled (config : SecondFactorConfig) (credentials : Credentials)
    (deadline : Option Deadline) (events : List Event) : Fault → Prop
  | deadline {d : Deadline} : credentials.isComplete = true → deadline = some d →
      d.Unreckonable → Unhandled config credentials deadline events (.value .integerTooLarge)
  | interrupted {l : Lookup} {fault : Fault} : .lookup l ∈ events → l.reply.found = .error fault →
      Unhandled config credentials deadline events fault
  | code {l : Lookup} {secret : SecondFactorSecret} {s : String} : .lookup l ∈ events →
      l.reply.outcome = .ok (some secret) →
      deadlineExpired deadline l.reply.clocks.steady = .ok false → ¬ secret.IsBypassed config →
      credentials.code = some s → Otp.Overlong s →
      Unhandled config credentials deadline events
        (.code (.tooManyDigits (Otp.digitsOf s).length))

variable {a : Authenticator} {directory : Directory} {store : SecretStore} {config : AuthConfig}
  {transport : Option Transport} {credentials : Credentials} {deadline : Option Deadline}
  {w w' : World} {fault : Fault}

/-- A run without a look-up shows at most a deadline that cannot be compared. -/
theorem Unhandled.of_quiet {c : SecondFactorConfig} {es : List Exchange} {log : List LogRecord}
    (hw : w' = (w.pushAll es).note log)
    (h : Unhandled c credentials deadline (w.since w') fault) :
    (∃ d, deadline = some d ∧ d.Unreckonable) ∧ fault = .value .integerTooLarge := by
  cases h with
  | deadline _ hd hu => exact ⟨⟨_, hd, hu⟩, rfl⟩
  | interrupted hl => exact (World.lookup_notMem_of_row hw _ hl).elim
  | code hl => exact (World.lookup_notMem_of_row hw _ hl).elim

theorem Probe.Happens.ordinary {p : Probe} (h : p.Happens a credentials deadline w w')
    (ha : a.Built directory store config transport) (hs : Surroundings directory store)
    (hw : w.clocks.Ordinary) : p.lookup.reply.clocks.Ordinary := by
  rw [h.lookup_eq, ha.validator_eq]
  exact hs.looked_up ((h.before_answers ha).ordinary hs hw)

/-- No fault escapes from a directory within its bounds if the deadline can be compared. -/
theorem Built.not_strays (ha : a.Built directory store config transport)
    (hs : Surroundings directory store) (hw : w.clocks.Ordinary)
    (hd : ¬ ∃ d, deadline = some d ∧ d.Unreckonable) : ¬ a.connector.Strays deadline w fault := by
  rintro (⟨es, hes, hexpired⟩ | ⟨v, n, r, hraised, hkind⟩)
  · rw [ha.directory_eq] at hes
    exact hd ((deadlineExpired_eq_error (hes.ordinary hs hw).steady_eq).1 hexpired).1
  · rw [ha.directory_eq] at hraised
    rw [hs.faults hraised] at hkind
    cases hkind

/-- A login whose deadline can be compared fails exactly if it is interrupted, or on an overlong
code. -/
theorem LoggingIn.fails_iff {out : Except Fault LoginResult × World}
    (h : LoggingIn a credentials deadline w out) (ha : a.Built directory store config transport)
    (hs : Surroundings directory store) (hw : w.clocks.Ordinary)
    (hd : ¬ ∃ d, deadline = some d ∧ d.Unreckonable) :
    out.1 = .error fault ↔
      Unhandled config.secondFactor credentials deadline (w.since out.2) fault := by
  cases h with
  | denied _ hw' =>
    constructor
    · intro h
      cases h
    · exact fun h => (hd (h.of_quiet hw').1).elim
  | escaped _ hstrays _ => exact (ha.not_strays hs hw hd hstrays).elim
  | @probed p r w' hp hr =>
    have hlookup : p.lookup.reply.clocks.Ordinary := hp.ordinary ha hs hw
    have hevents : w.since w' = p.events := World.since_eq hp.trace_eq
    have hjudged : r = .error fault ↔
        p.lookup.judged config.secondFactor credentials.code deadline = .error fault := by
      have hunbind := hp.unbind_eq
      rw [ha.directory_eq] at hunbind
      rw [hr, p.unbind.ending_of_ok (hs.unbindOutcome_eq hunbind), ha.validator_eq]
      rcases p.lookup.judged config.secondFactor credentials.code deadline with f | reason | secret
      · simp [conclude]
      · simp [conclude]
      · simp [conclude]
    rw [hjudged, Lookup.judged_eq_error, deadlineExpired_eq_error hlookup.steady_eq, hevents]
    constructor
    · rintro (hinterrupted | ⟨-, hbad, -⟩ | ⟨htime, secret, hfound, hasks, hcode⟩)
      · exact .interrupted (by simp [Probe.events]) hinterrupted
      · exact (hd hbad).elim
      · obtain ⟨s, hsub, hover, rfl⟩ := (codeValid_eq_error hlookup).1 hcode
        exact .code (by simp [Probe.events]) hfound htime hasks hsub hover
    · intro hu
      cases hu with
      | deadline _ hdl hbad => exact (hd ⟨_, hdl, hbad⟩).elim
      | @interrupted l _ hl hinterrupted =>
        obtain rfl : l = p.lookup := by simpa [Probe.events] using hl
        exact .inl hinterrupted
      | @code l secret s hl hfound htime hasks hsub hover =>
        obtain rfl : l = p.lookup := by simpa [Probe.events] using hl
        exact .inr (.inr ⟨htime, secret, hfound, hasks,
          (codeValid_eq_error hlookup).2 ⟨s, hsub, hover, rfl⟩⟩)

/-- A login with a deadline that cannot be compared fails at once, if it is complete. -/
theorem authenticate_of_unreckonable (hw : w.clocks.Ordinary)
    (hcomplete : credentials.isComplete = true) (hd : ∃ d, deadline = some d ∧ d.Unreckonable) :
    ∃ log, a.authenticate credentials deadline w =
      (.error (.value .integerTooLarge), w.note log) := by
  obtain ⟨username, husername, -⟩ :=
    (Option.any_eq_true _ _).1 (Bool.and_eq_true_iff.1 hcomplete).1
  rw [authenticate_of_complete a deadline w hcomplete husername,
    (deadlineExpired_eq_error hw.steady_eq).2 ⟨hd, rfl⟩]
  exact ⟨_, rfl⟩

theorem authenticate_eq_error_iff (ha : a.Built directory store config transport)
    (hs : Surroundings directory store) (hw : w.clocks.Ordinary) (credentials : Credentials)
    (deadline : Option Deadline) (fault : Fault) :
    (a.authenticate credentials deadline w).1 = .error fault ↔
      Unhandled config.secondFactor credentials deadline
        (w.since (a.authenticate credentials deadline w).2) fault := by
  by_cases hd : ∃ d, deadline = some d ∧ d.Unreckonable
  · cases hc : credentials.isComplete with
    | false =>
      rw [authenticate_of_incomplete hc]
      constructor
      · intro h
        cases h
      · intro h
        cases h with
        | deadline hcomplete => simp [hc] at hcomplete
        | interrupted hl => simp [World.since] at hl
        | code hl => simp [World.since] at hl
    | true =>
      obtain ⟨log, hrun⟩ := authenticate_of_unreckonable (a := a) hw hc hd
      rw [hrun]
      constructor
      · rintro ⟨⟩
        obtain ⟨d, hdl, hbad⟩ := hd
        exact .deadline hc hdl hbad
      · intro h
        have hquiet : w.note log = (w.pushAll []).note log := rfl
        rw [(h.of_quiet hquiet).2]
  · exact (a.authenticate_loggingIn ha credentials deadline w).fails_iff ha hs hw hd

/-- A login ends with a fault exactly if its run shows one of three things; in every other case it
succeeds or is denied. -/
theorem authenticate_fails_iff {bundleExists : String → Bool} {w₀ : World}
    (hbuilt : (build bundleExists directory store config transport w₀).1 = .ok a)
    (hs : Surroundings directory store) (hw : w.clocks.Ordinary) (credentials : Credentials)
    (deadline : Option Deadline) :
    (∀ fault, (a.authenticate credentials deadline w).1 = .error fault ↔
      Unhandled config.secondFactor credentials deadline
        (w.since (a.authenticate credentials deadline w).2) fault) ∧
    ((∀ fault, ¬ Unhandled config.secondFactor credentials deadline
        (w.since (a.authenticate credentials deadline w).2) fault) →
      (∃ user, (a.authenticate credentials deadline w).1 = .ok (.ok user)) ∨
        (a.authenticate credentials deadline w).1 = .ok (.error {})) := by
  have hiff := authenticate_eq_error_iff (build_built hbuilt) hs hw credentials deadline
  refine ⟨hiff, fun hnone => ?_⟩
  rcases hrun : (a.authenticate credentials deadline w).1 with fault | denied | user
  · exact (hnone fault ((hiff fault).1 hrun)).elim
  · exact .inr rfl
  · exact .inl ⟨user, rfl⟩

/-- The right password does not help against a code of too many zeros. -/
theorem authenticate_zeros_fails :
    ((Sample.authenticator.withStore Sample.askingStore).authenticate
      { Sample.credentials with code := some Sample.zeros } none (World.start Sample.clocks)).1 =
        .error (.code (.tooManyDigits (maxIntDigits + 1))) := by
  have hbuilt : (build (fun _ => true) Sample.directory Sample.askingStore Sample.config none
      (World.start Sample.clocks)).1 =
        .ok (Sample.authenticator.withStore Sample.askingStore) := rfl
  have hclocks : (World.start Sample.clocks).clocks.Ordinary := Sample.clocks_ordinary
  obtain ⟨hiff, -⟩ := authenticate_fails_iff hbuilt Sample.surroundings hclocks
    { Sample.credentials with code := some Sample.zeros } none
  -- The events are those of the login without a code, and there the look-up can be seen.
  have hlookup : Event.lookup ⟨"ann", none, Sample.clocks,
      Sample.askingStore Sample.clocks "ann" none⟩ ∈
        ((Sample.authenticator.withStore Sample.askingStore).authenticate Sample.credentials none
          (World.start Sample.clocks)).2.trace := List.mem_of_getElem? (i := 8) rfl
  rw [← authenticate_trace_eq _ _ (some Sample.zeros), ← World.since_start Sample.clocks]
    at hlookup
  have hasks : ¬ (⟨"ann", "GEZDGNBV", .bool true⟩ : SecondFactorSecret).IsBypassed
      Sample.config.secondFactor := by
    rintro ⟨⟨⟩, -⟩
  have hfault := (hiff _).2 (.code hlookup rfl rfl hasks rfl Sample.overlong_zeros)
  rwa [Sample.digitsOf_zeros, List.length_replicate] at hfault

end Authenticator

end TwoFactorLogin
