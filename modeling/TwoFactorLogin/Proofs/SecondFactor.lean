import TwoFactorLogin.Otp.Validator
import TwoFactorLogin.Proofs.World

/-!
# What checking the second factor comes to

A check asks the store at most once. What it comes to afterwards is decided by the look-up and the
submitted code: `Lookup.judged` says how.

* `validateCode_paths`, `verify_paths`: every way that validating a code and a whole check can take,
  with what is logged on it.
* `verify_apply`: a check whose deadline has not expired looks up the secret once and judges.
* `judged_eq_ok`: the second factor passes exactly if a secret was found in time, and it is bypassed
  or the code is one of its codes.
-/

namespace TwoFactorLogin

namespace SecondFactorValidator

variable {w : World}

/-! ## Codes -/

/-- Whether a submitted code is one that a secret has when the clocks show the given time. -/
def codeValid (config : SecondFactorConfig) (secret : SecondFactorSecret)
    (submitted : Option String) (clocks : Clocks) : Except Fault Bool :=
  (validateCode config secret submitted none (World.start clocks)).1

/-- The paths of validating a code: it is read, then the secret, and then the code is compared. -/
theorem validateCode_paths (config : SecondFactorConfig) (secret : SecondFactorSecret)
    (submitted : Option String) (time : Option Number) (w : World) :
    validateCode config secret submitted time w =
      match Otp.parseCode config submitted with
      | .error (.codeRefused cause) =>
        (.ok false, w.note [.codeMalformed secret.owner cause.message])
      | .error fault => (.error fault, w)
      | .ok code =>
        match Base32.decodeSecret secret.secret with
        | .error cause => (.ok false, w.note [.secretMalformed secret.owner cause.message])
        | .ok key =>
          ((Otp.candidateTimes config (time.getD w.clocks.wall)).bind
            (Otp.matchesAny config key code), w) := by
  unfold validateCode
  rcases Otp.parseCode config submitted with fault | code
  · cases fault <;> rfl
  · rcases Base32.decodeSecret secret.secret with cause | key
    · rfl
    · simp only [timeOrNow, Run.bind_apply, Run.read_apply, Run.ofExcept_apply]
      cases Otp.candidateTimes config (time.getD w.clocks.wall) <;> rfl

/-- Validating a code only writes to the log, and depends on nothing but the clocks. -/
theorem validateCode_apply (config : SecondFactorConfig) (secret : SecondFactorSecret)
    (submitted : Option String) (w : World) :
    ∃ log, Background log ∧ validateCode config secret submitted none w =
      (codeValid config secret submitted w.clocks, w.note log) := by
  unfold codeValid
  rw [validateCode_paths, validateCode_paths]
  rcases Otp.parseCode config submitted with fault | code
  · cases fault with
    | codeRefused cause => exact ⟨[_], by rfl, rfl⟩
    | _ => exact ⟨[], rfl, by simp⟩
  · rcases Base32.decodeSecret secret.secret with cause | key
    · exact ⟨[_], by rfl, rfl⟩
    · exact ⟨[], rfl, by simp⟩

/-- A code that is missing or blank is not valid. -/
theorem codeValid_of_blank {submitted : Option String} (h : submitted.all Text.allBlank = true)
    (config : SecondFactorConfig) (secret : SecondFactorSecret) (clocks : Clocks) :
    codeValid config secret submitted clocks = .ok false := by
  cases submitted with
  | none => rfl
  | some s =>
    have hs : Text.stripChars s.toList = [] := Text.stripChars_of_allBlank (by simpa using h)
    have hp : Otp.parseCode config (some s) = .error (.codeRefused .notDigits) := by
      simp [Otp.parseCode, hs]
    simp only [codeValid, validateCode, hp]
    rfl

end SecondFactorValidator

open SecondFactorValidator

/-! ## The check of a secret -/

/-- Whether a secret lets its owner in without a code. -/
def SecondFactorSecret.IsBypassed (secret : SecondFactorSecret) (config : SecondFactorConfig) :
    Prop :=
  secret.isEnabled = false ∧ config.allowDisabledBypass = true

/-- What checking a found secret comes to. -/
def SecondFactorSecret.judged (secret : SecondFactorSecret) (config : SecondFactorConfig)
    (submitted : Option String) (clocks : Clocks) :
    Except Fault (Except DenialReason SecondFactorSecret) :=
  if !secret.isEnabled && config.allowDisabledBypass then .ok (.ok secret)
  else if submitted.all Text.allBlank then .ok (.error .codeMissing)
  else (codeValid config secret submitted clocks).map fun valid =>
    if valid then .ok secret else .error .codeInvalid

theorem SecondFactorSecret.judged_eq_ok {secret found : SecondFactorSecret}
    {config : SecondFactorConfig} {submitted : Option String} {clocks : Clocks} :
    secret.judged config submitted clocks = .ok (.ok found) ↔
      found = secret ∧ (secret.IsBypassed config ∨
        codeValid config secret submitted clocks = .ok true) := by
  unfold judged IsBypassed
  by_cases hb : (!secret.isEnabled && config.allowDisabledBypass) = true
  · have hb' : secret.isEnabled = false ∧ config.allowDisabledBypass = true := by simpa using hb
    rw [if_pos hb]
    constructor
    · intro h
      cases h
      exact ⟨rfl, .inl hb'⟩
    · rintro ⟨rfl, -⟩
      rfl
  · have hb' : ¬ (secret.isEnabled = false ∧ config.allowDisabledBypass = true) := by
      simpa using hb
    rw [if_neg hb]
    by_cases hblank : submitted.all Text.allBlank = true
    · rw [if_pos hblank, codeValid_of_blank hblank]
      simp [hb']
    · rw [if_neg hblank]
      rcases codeValid config secret submitted clocks with fault | _ | _
      · simp [Except.map, hb']
      · simp [Except.map, hb']
      · constructor
        · intro h
          cases h
          exact ⟨rfl, .inr rfl⟩
        · rintro ⟨rfl, -⟩
          rfl

theorem SecondFactorSecret.judged_eq_error {secret : SecondFactorSecret}
    {config : SecondFactorConfig} {submitted : Option String} {clocks : Clocks} {fault : Fault} :
    secret.judged config submitted clocks = .error fault ↔
      ¬ secret.IsBypassed config ∧ codeValid config secret submitted clocks = .error fault := by
  unfold judged IsBypassed
  by_cases hb : (!secret.isEnabled && config.allowDisabledBypass) = true
  · rw [if_pos hb]
    have hb' : secret.isEnabled = false ∧ config.allowDisabledBypass = true := by simpa using hb
    simp [hb']
  · rw [if_neg hb]
    have hb' : ¬ (secret.isEnabled = false ∧ config.allowDisabledBypass = true) := by
      simpa using hb
    by_cases hblank : submitted.all Text.allBlank = true
    · rw [if_pos hblank, codeValid_of_blank hblank]
      simp
    · rw [if_neg hblank]
      rcases codeValid config secret submitted clocks with fault | valid
      · simp [Except.map, hb']
      · simp [Except.map]

/-- The secret that a look-up finds. Of its faults only an interruption goes on; any other one finds
none. -/
def StoreReply.found (r : StoreReply) : Except Fault (Option SecondFactorSecret) :=
  match r.outcome with
  | .ok secret => .ok secret
  | .error fault => if fault.kind.isInterruption then .error fault else .ok none

theorem StoreReply.exists_found {r : StoreReply}
    (h : ∀ {fault}, r.outcome = .error fault → fault.kind.isInterruption = false) :
    ∃ found, r.found = .ok found := by
  unfold found
  cases ho : r.outcome with
  | ok secret => exact ⟨secret, rfl⟩
  | error fault => exact ⟨none, by simp [h ho]⟩

theorem StoreReply.found_eq_some {r : StoreReply} {secret : SecondFactorSecret} :
    r.found = .ok (some secret) ↔ r.outcome = .ok (some secret) := by
  unfold found
  cases r.outcome with
  | ok secret => simp
  | error fault => by_cases hk : fault.kind.isInterruption = true <;> simp [hk]

/-- What a look-up comes to, with the submitted code. -/
def Lookup.judged (l : Lookup) (config : SecondFactorConfig) (submitted : Option String)
    (deadline : Option Deadline) : Except Fault (Except DenialReason SecondFactorSecret) :=
  match l.reply.found with
  | .error fault => .error fault
  | .ok found =>
    match deadlineExpired deadline l.reply.clocks.steady with
    | .error fault => .error fault
    | .ok true => .ok (.error .deadlineExceeded)
    | .ok false =>
      match found with
      | some secret => secret.judged config submitted l.reply.clocks
      | none => .ok (.error .secretUnavailable)

/-- The second factor passes exactly if a secret was found in time, and it is bypassed or the code
is one of its codes. -/
theorem Lookup.judged_eq_ok {l : Lookup} {config : SecondFactorConfig} {submitted : Option String}
    {deadline : Option Deadline} {secret : SecondFactorSecret} :
    l.judged config submitted deadline = .ok (.ok secret) ↔
      deadlineExpired deadline l.reply.clocks.steady = .ok false ∧
        l.reply.outcome = .ok (some secret) ∧
          (secret.IsBypassed config ∨
            codeValid config secret submitted l.reply.clocks = .ok true) := by
  rw [← StoreReply.found_eq_some]
  unfold judged
  rcases l.reply.found with fault | found
  · simp
  · rcases deadlineExpired deadline l.reply.clocks.steady with fault | _ | _
    · simp
    · cases found with
      | none => simp
      | some found =>
        simp only [SecondFactorSecret.judged_eq_ok, true_and, Except.ok.injEq, Option.some.injEq]
        constructor
        · rintro ⟨rfl, h⟩
          exact ⟨rfl, h⟩
        · rintro ⟨rfl, h⟩
          exact ⟨rfl, h⟩
    · simp

/-- A look-up is judged with a fault if it was interrupted, or else if its deadline cannot be
compared, or if the found secret asks for a code and the code cannot be validated. -/
theorem Lookup.judged_eq_error {l : Lookup} {config : SecondFactorConfig}
    {submitted : Option String} {deadline : Option Deadline} {fault : Fault} :
    l.judged config submitted deadline = .error fault ↔
      l.reply.found = .error fault ∨
        (∃ found, l.reply.found = .ok found) ∧
          deadlineExpired deadline l.reply.clocks.steady = .error fault ∨
        deadlineExpired deadline l.reply.clocks.steady = .ok false ∧
          ∃ secret, l.reply.outcome = .ok (some secret) ∧ ¬ secret.IsBypassed config ∧
            codeValid config secret submitted l.reply.clocks = .error fault := by
  simp only [← StoreReply.found_eq_some]
  unfold judged
  rcases l.reply.found with fault' | found
  · simp
  · rcases deadlineExpired deadline l.reply.clocks.steady with fault' | _ | _
    · simp
    · cases found with
      | none => simp
      | some secret => simp [SecondFactorSecret.judged_eq_error]
    · simp

namespace SecondFactorValidator

theorem checkSecret_apply (v : SecondFactorValidator) (username : String)
    (secret : SecondFactorSecret) (submitted : Option String) (w : World) :
    ∃ log, Background log ∧ v.checkSecret username secret submitted none w =
      (secret.judged v.config submitted w.clocks, w.note log) := by
  unfold checkSecret SecondFactorSecret.judged
  by_cases hb : (!secret.isEnabled && v.config.allowDisabledBypass) = true
  · simp only [hb, if_true]
    exact ⟨[_], by rfl, rfl⟩
  · rw [if_neg hb, if_neg hb]
    by_cases hblank : submitted.all Text.allBlank = true
    · rw [if_pos hblank, if_pos hblank]
      exact ⟨[], rfl, by simp⟩
    · obtain ⟨log, hlog, hv⟩ := validateCode_apply v.config secret submitted w
      rw [if_neg hblank, if_neg hblank]
      simp only [Run.bind_apply, hv]
      refine ⟨log, hlog, ?_⟩
      rcases codeValid v.config secret submitted w.clocks with fault | _ | _ <;> rfl

end SecondFactorValidator

/-! ## Asking the store -/

/-- What is logged of a reply: its fault, if it is one and no interruption. -/
def StoreReply.complaint (r : StoreReply) (username : String) : List LogRecord :=
  match r.outcome with
  | .ok _ => []
  | .error fault =>
    if fault.kind.isInterruption then []
    else if fault.kind.isSecretUnavailable then
      [.secretUnavailable username fault.message fault.kind.name]
    else [.secretStoreError username fault.message fault.kind.name]

theorem StoreReply.background_complaint (r : StoreReply) (username : String) :
    Background (r.complaint username) := by
  unfold complaint
  cases r.outcome with
  | ok secret => exact background_nil
  | error fault =>
    dsimp only
    split
    · exact background_nil
    · split <;> rfl

/-- The world after a store was asked for a secret, and a fault of it was logged. -/
def World.consulted (w : World) (store : SecretStore) (username : String)
    (deadline : Option Deadline) : World :=
  (w.looked (w.lookupOf store username deadline)).note
    ((store w.clocks username deadline).complaint username)

@[simp] theorem World.clocks_consulted (w : World) (store : SecretStore) (username : String)
    (deadline : Option Deadline) :
    (w.consulted store username deadline).clocks = (store w.clocks username deadline).clocks := rfl

theorem World.log_consulted (w : World) (store : SecretStore) (username : String)
    (deadline : Option Deadline) :
    (w.consulted store username deadline).log =
      w.log ++ ((store w.clocks username deadline).log.map .store ++
        (store w.clocks username deadline).complaint username) :=
  List.append_assoc _ _ _

namespace SecondFactorValidator

/-- A fault of the store counts as no secret, unless it is an interruption. -/
theorem fetchSecret_apply (v : SecondFactorValidator) (username : String)
    (deadline : Option Deadline) (w : World) :
    v.fetchSecret username deadline w =
      ((v.store w.clocks username deadline).found, w.consulted v.store username deadline) := by
  simp only [fetchSecret, Run.bind_apply, Run.attempt_apply, World.lookUp_apply, World.consulted,
    World.lookupOf, StoreReply.found, StoreReply.complaint]
  cases (v.store w.clocks username deadline).outcome with
  | ok secret => simp
  | error fault =>
    by_cases hi : fault.kind.isInterruption = true
    · simp [hi]
    · by_cases hk : fault.kind.isSecretUnavailable = true <;> simp [Run.bind_apply, hi, hk]

/-- The paths of a check: the deadline is looked at before the store is asked and after it has
answered, and only then it matters what was found. -/
theorem verify_paths (v : SecondFactorValidator) (username : String) (submitted : Option String)
    (time : Option Number) (deadline : Option Deadline) (w : World) :
    v.verify username submitted time deadline w =
      match deadlineExpired deadline w.clocks.steady with
      | .error fault => (.error fault, w)
      | .ok true => (.ok (.error .deadlineExceeded), w)
      | .ok false =>
        let asked := w.consulted v.store username deadline
        match (v.store w.clocks username deadline).found with
        | .error fault => (.error fault, asked)
        | .ok found =>
          match deadlineExpired deadline asked.clocks.steady with
          | .error fault => (.error fault, asked)
          | .ok true =>
            (.ok (.error .deadlineExceeded), asked.note [.lookupOverranDeadline username])
          | .ok false =>
            match found with
            | none => (.ok (.error .secretUnavailable), asked)
            | some secret => v.checkSecret username secret submitted time asked := by
  simp only [verify, Run.bind_apply, World.expired_apply]
  rcases deadlineExpired deadline w.clocks.steady with fault | _ | _
  · rfl
  · simp only [Bool.false_eq_true, if_false, Run.bind_apply, fetchSecret_apply]
    rcases (v.store w.clocks username deadline).found with fault | found
    · rfl
    · simp only [World.expired_apply]
      rcases deadlineExpired deadline (w.consulted v.store username deadline).clocks.steady with
        fault | _ | _
      · rfl
      · cases found <;> rfl
      · rfl
  · rfl

/-- A check within its deadline looks up the secret once, and judges. -/
theorem verify_apply (v : SecondFactorValidator) (username : String) (submitted : Option String)
    {deadline : Option Deadline} {w : World}
    (h : deadlineExpired deadline w.clocks.steady = .ok false) :
    ∃ log, Background log ∧ v.verify username submitted none deadline w =
      ((w.lookupOf v.store username deadline).judged v.config submitted deadline,
        (w.looked (w.lookupOf v.store username deadline)).note log) := by
  have hlog := (v.store w.clocks username deadline).background_complaint username
  rw [verify_paths, h]
  simp only [Lookup.judged, World.clocks_consulted, World.lookupOf]
  rcases (v.store w.clocks username deadline).found with fault | found
  · exact ⟨_, hlog, rfl⟩
  · rcases deadlineExpired deadline (v.store w.clocks username deadline).clocks.steady with
      fault | _ | _
    · exact ⟨_, hlog, rfl⟩
    · cases found with
      | none => exact ⟨_, hlog, rfl⟩
      | some secret =>
        obtain ⟨log', hlog', hs⟩ := v.checkSecret_apply username secret submitted
          (w.consulted v.store username deadline)
        exact ⟨_ ++ log', background_append.2 ⟨hlog, hlog'⟩, by
          rw [← World.note_note]; exact hs⟩
    · exact ⟨_ ++ [.lookupOverranDeadline username],
        background_append.2 ⟨hlog, by simp [LogRecord.isOfLogin]⟩, by rw [← World.note_note]; rfl⟩

end SecondFactorValidator

end TwoFactorLogin
