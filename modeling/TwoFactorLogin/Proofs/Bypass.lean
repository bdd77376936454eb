import TwoFactorLogin.Proofs.CheckingAlike

/-!
# What the flag of a secret is good for

A secret carries a flag that says whether it is enabled. The flag has one use: a disabled secret
lets its owner in without a code, and only if the configuration allows it. Without that permission
nobody can tell from a check which flag a secret has; the flag just comes back with the secret.

The order of the steps of a check matters here. The flag is looked at behind everything that says
whether a secret was found in time (`SecretStore.FindsInTime`), so the permission makes no
difference to a check that has no secret, and before the code, so that a bypassed check does not
depend on the code.

The two halves are proved apart. Two checks that differ in flags are put beside each other
(`verify_alike`); two that differ in the permission take the same path up to the found secret
(`verify_of_findsInTime`).

Main statement: `SecondFactorValidator.flag_onlyBypasses`.
-/

namespace TwoFactorLogin

/-! ## Flags and permissions -/

/-- The secret with another flag. -/
def SecondFactorSecret.flagged (flag : Value) (s : SecondFactorSecret) : SecondFactorSecret :=
  { s with enabled := flag }

/-- The store with another flag on every secret. -/
def SecretStore.flagged (store : SecretStore) (flag : Value) : SecretStore :=
  fun clocks username deadline =>
    let reply := store clocks username deadline
    { reply with outcome := reply.outcome.map (Option.map (SecondFactorSecret.flagged flag)) }

/-- The configuration with the bypass allowed or not. -/
def SecondFactorConfig.withBypass (config : SecondFactorConfig) (allowed : Bool) :
    SecondFactorConfig :=
  { config with allowDisabledBypass := allowed }

/-- Asked before the deadline, a store answers with a secret, and the deadline has still not expired
then. -/
structure SecretStore.FindsInTime (store : SecretStore) (username : String)
    (deadline : Option Deadline) (w : World) (secret : SecondFactorSecret) : Prop where
  asked : deadlineExpired deadline w.clocks.steady = .ok false
  outcome : (store w.clocks username deadline).outcome = .ok (some secret)
  answered : deadlineExpired deadline (store w.clocks username deadline).clocks.steady = .ok false

theorem SecretStore.alike_flagged (store : SecretStore) (flag : Value) (clocks : Clocks)
    (username : String) (deadline : Option Deadline) :
    (store clocks username deadline).Alike (fun s s' => s' = s.flagged flag)
      (store.flagged flag clocks username deadline) where
  outcome := by
    simp only [flagged]
    rcases (store clocks username deadline).outcome with fault | _ | secret
    · exact .fault fault
    · exact .answer Option.Rel.none
    · exact .answer (Option.Rel.some rfl)
  log := rfl
  clocks := rfl

theorem SameVerdict.eq_map_flagged {flag : Value}
    {r r' : Except Fault (Except DenialReason SecondFactorSecret)}
    (h : Run.Matches (SameVerdict fun s s' => s' = s.flagged flag) r r') :
    r' = r.map (Except.map (SecondFactorSecret.flagged flag)) := by
  cases h with
  | fault fault => rfl
  | answer h =>
    cases h with
    | denied reason => rfl
    | passed h => rw [h]; rfl

namespace SecondFactorValidator

section

variable {config : SecondFactorConfig} {store : SecretStore} {username : String}
  {secret : SecondFactorSecret} {submitted : Option String} {time : Option Number}
  {deadline : Option Deadline} {w : World}

/-! ## Without the permission -/

/-- Checking a secret goes by its flag only if the configuration allows the bypass. -/
theorem checkSecret_flagged_alike {store' : SecretStore} {w' : World} (flag : Value)
    (hconfig : config.allowDisabledBypass = false) (hw : w.clocks = w'.clocks) :
    Run.Alike (SameVerdict fun s s' => s' = s.flagged flag) w w'
      (checkSecret ⟨store, config⟩ username secret submitted time w)
      (checkSecret ⟨store', config⟩ username (secret.flagged flag) submitted time w') := by
  refine checkSecret_alike rfl hw ?_ rfl ?_
  · rw [hconfig, Bool.and_false, Bool.and_false]
  · intro _
    -- A code is validated against the owner and the text of a secret.
    exact validateCode_alike_rfl config secret submitted time hw

/-! ## With the permission -/

/-- The permission has nothing to do with how codes are read and compared. -/
theorem validateCode_withBypass (config : SecondFactorConfig) (allowed : Bool)
    (secret : SecondFactorSecret) (submitted : Option String) (time : Option Number) :
    validateCode (config.withBypass allowed) secret submitted time =
      validateCode config secret submitted time := by
  have hmatches (key : List UInt8) (code : String) :
      Otp.matchesAny (config.withBypass allowed) key code = Otp.matchesAny config key code := by
    funext times
    induction times with
    | nil => rfl
    | cons t rest ih =>
      rw [Otp.matchesAny, Otp.matchesAny, ih]
      rfl
  funext w
  rw [validateCode_paths, validateCode_paths]
  simp only [hmatches]
  rfl

/-- An enabled secret is checked the same, with or without the permission. -/
theorem checkSecret_of_enabled (h : secret.isEnabled = true) (allowed : Bool) :
    checkSecret ⟨store, config.withBypass allowed⟩ username secret submitted time =
      checkSecret ⟨store, config⟩ username secret submitted time := by
  simp only [checkSecret, validateCode_withBypass, h, Bool.not_true, Bool.false_and]

/-- A disabled secret passes with the permission, whatever code was submitted. -/
theorem checkSecret_of_disabled (h : secret.isEnabled = false) :
    checkSecret ⟨store, config.withBypass true⟩ username secret submitted time w =
      (.ok (.ok secret), w.note [.secondFactorBypassed username]) := by
  have hbypass : (!secret.isEnabled && (config.withBypass true).allowDisabledBypass) = true := by
    rw [h]
    rfl
  unfold checkSecret
  rw [if_pos hbypass]
  rfl

/-- A check that finds a secret in time comes to what checking the secret comes to. -/
theorem verify_of_findsInTime (h : store.FindsInTime username deadline w secret) :
    verify ⟨store, config⟩ username submitted time deadline w =
      checkSecret ⟨store, config⟩ username secret submitted time
        (w.consulted store username deadline) := by
  rw [verify_paths, h.asked]
  simp only [StoreReply.found_eq_some.2 h.outcome, World.clocks_consulted, h.answered]

/-- A check that finds no secret in time does not pass, and ends the same for all configurations. -/
theorem verify_of_not_findsInTime (h : ∀ secret, ¬ store.FindsInTime username deadline w secret) :
    ∃ r w', (∀ secret, r ≠ .ok (.ok secret)) ∧
      ∀ config, verify ⟨store, config⟩ username submitted time deadline w = (r, w') := by
  simp only [verify_paths, World.clocks_consulted]
  rcases hasked : deadlineExpired deadline w.clocks.steady with fault | _ | _
  · exact ⟨_, _, by simp, fun _ => rfl⟩
  · rcases hfound : (store w.clocks username deadline).found with fault | found
    · exact ⟨_, _, by simp, fun _ => rfl⟩
    · rcases hanswered : deadlineExpired deadline
        (store w.clocks username deadline).clocks.steady with fault | _ | _
      · exact ⟨_, _, by simp, fun _ => rfl⟩
      · cases found with
        | none => exact ⟨_, _, by simp, fun _ => rfl⟩
        | some secret =>
          exact (h secret ⟨hasked, StoreReply.found_eq_some.1 hfound, hanswered⟩).elim
      · exact ⟨_, _, by simp, fun _ => rfl⟩
  · exact ⟨_, _, by simp, fun _ => rfl⟩

end

/-! ## The flag only bypasses -/

/-- The flag of a secret matters for the bypass, and for nothing else. -/
structure FlagOnlyBypasses (store : SecretStore) (config : SecondFactorConfig) (username : String)
    (submitted : Option String) (time : Option Number) (deadline : Option Deadline) (w : World) :
    Prop where
  /-- Where the bypass is not allowed, a check comes to the same with any other flag, at the same
  time and with the same records; only the secret comes back with that flag. -/
  unseen (flag : Value) :
    let check := verify ⟨store, config.withBypass false⟩ username submitted time deadline w
    let other := verify ⟨store.flagged flag, config.withBypass false⟩ username submitted time
      deadline w
    other.1 = check.1.map (Except.map (SecondFactorSecret.flagged flag)) ∧
      other.2.log = check.2.log ∧ other.2.clocks = check.2.clocks
  /-- Unless a disabled secret is found in time, it makes no difference whether the bypass is
  allowed. -/
  unused (h : ∀ secret, store.FindsInTime username deadline w secret → secret.isEnabled = true) :
    verify ⟨store, config.withBypass true⟩ username submitted time deadline w =
      verify ⟨store, config.withBypass false⟩ username submitted time deadline w
  /-- A disabled secret that is found in time passes where the bypass is allowed, and that is logged
  once, behind the records of the store. -/
  used {secret : SecondFactorSecret} (h : store.FindsInTime username deadline w secret)
    (hdisabled : secret.isEnabled = false) :
    let check := verify ⟨store, config.withBypass true⟩ username submitted time deadline w
    check.1 = .ok (.ok secret) ∧
      check.2.log = w.log ++ (store w.clocks username deadline).log.map .store ++
        [.secondFactorBypassed username]
  /-- Nobody passes without a secret that is found in time. -/
  unopened (h : ∀ secret, ¬ store.FindsInTime username deadline w secret) (allowed : Bool)
    (secret : SecondFactorSecret) :
    (verify ⟨store, config.withBypass allowed⟩ username submitted time deadline w).1 ≠
      .ok (.ok secret)

theorem flag_onlyBypasses (store : SecretStore) (config : SecondFactorConfig) (username : String)
    (submitted : Option String) (time : Option Number) (deadline : Option Deadline) (w : World) :
    FlagOnlyBypasses store config username submitted time deadline w where
  unseen flag := by
    have halike : Run.Alike (SameVerdict fun s s' => s' = s.flagged flag) w w
        (verify ⟨store, config.withBypass false⟩ username submitted time deadline w)
        (verify ⟨store.flagged flag, config.withBypass false⟩ username submitted time deadline
          w) := by
      apply verify_alike rfl (store.alike_flagged flag w.clocks username deadline)
      intro secret secret' v v' hs _ hv
      subst hs
      exact checkSecret_flagged_alike flag rfl hv
    obtain ⟨log, hlog, hlog'⟩ := halike.logged
    exact ⟨SameVerdict.eq_map_flagged halike.outcome, hlog'.trans hlog.symm, halike.clocks.symm⟩
  unused h := by
    by_cases hfound : ∃ secret, store.FindsInTime username deadline w secret
    · obtain ⟨secret, hsecret⟩ := hfound
      rw [verify_of_findsInTime hsecret, verify_of_findsInTime hsecret,
        checkSecret_of_enabled (h secret hsecret), checkSecret_of_enabled (h secret hsecret)]
    · obtain ⟨r, w', -, hend⟩ :=
        verify_of_not_findsInTime fun secret hsecret => hfound ⟨secret, hsecret⟩
      rw [hend, hend]
  used {secret} h hdisabled := by
    have hquiet : (store w.clocks username deadline).complaint username = [] := by
      rw [StoreReply.complaint, h.outcome]
    intro check
    have hcheck : check = (.ok (.ok secret),
        (w.consulted store username deadline).note [.secondFactorBypassed username]) :=
      (verify_of_findsInTime h).trans (checkSecret_of_disabled hdisabled)
    rw [hcheck]
    refine ⟨rfl, ?_⟩
    rw [World.log_note, World.log_consulted, hquiet, List.append_nil]
  unopened h allowed secret := by
    obtain ⟨r, w', hdenied, hend⟩ := verify_of_not_findsInTime h
    rw [hend]
    exact hdenied secret

end SecondFactorValidator

end TwoFactorLogin
