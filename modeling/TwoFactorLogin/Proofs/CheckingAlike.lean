import TwoFactorLogin.Proofs.SecondFactor
import TwoFactorLogin.Proofs.SideBySide

/-!
# Two checks of the second factor

Two runs are alike if they come to the same fault or to answers that belong together, end at the
same time, and log the same (`Run.Alike`). What was asked may differ. Steps that are alike can be
put in a row (`Run.Alike.bind`).

A check asks a store and then checks what was found. So two checks are alike if the stores reply
alike (`StoreReply.Alike`) and checking the two secrets is alike (`verify_alike`). That holds for
any relation between the secrets, whatever else is different about the checks.
-/

namespace TwoFactorLogin

/-! ## Runs that end alike -/

namespace Run

variable {α β γ δ : Type} {R : α → β → Prop} {w w' : World}

/-- The ends of two runs, one from `w` and one from `w'`, that nobody can tell apart who knows the
clocks and reads the log. Their answers are related by `R`. -/
structure Alike (R : α → β → Prop) (w w' : World) (r : Except Fault α × World)
    (r' : Except Fault β × World) : Prop where
  outcome : Matches R r.1 r'.1
  clocks : r.2.clocks = r'.2.clocks
  logged : ∃ log, r.2.log = w.log ++ log ∧ r'.2.log = w'.log ++ log

theorem Alike.of_note {r : Except Fault α} {r' : Except Fault β} (hw : w.clocks = w'.clocks)
    (h : Matches R r r') (log : List LogRecord) :
    Alike R w w' (r, w.note log) (r', w'.note log) where
  outcome := h
  clocks := hw
  logged := ⟨log, rfl, rfl⟩

theorem Alike.of_still {r : Except Fault α} {r' : Except Fault β} (hw : w.clocks = w'.clocks)
    (h : Matches R r r') : Alike R w w' (r, w) (r', w') := by
  simpa using Alike.of_note hw h []

/-- Runs that are alike from some point on, up to which the same was logged, are alike. -/
theorem Alike.from {v v' : World} {r : Except Fault α × World} {r' : Except Fault β × World}
    {log : List LogRecord} (hv : v.log = w.log ++ log) (hv' : v'.log = w'.log ++ log)
    (h : Alike R v v' r r') : Alike R w w' r r' where
  outcome := h.outcome
  clocks := h.clocks
  logged := by
    obtain ⟨rest, hr, hr'⟩ := h.logged
    exact ⟨log ++ rest, by rw [hr, hv, List.append_assoc], by rw [hr', hv', List.append_assoc]⟩

theorem Alike.bind {S : γ → δ → Prop} {x : Run World α} {x' : Run World β} {f : α → Run World γ}
    {f' : β → Run World δ} (hx : Alike R w w' (x w) (x' w'))
    (hf : ∀ {a b v v'}, R a b → v.clocks = v'.clocks → Alike S v v' (f a v) (f' b v')) :
    Alike S w w' ((x >>= f) w) ((x' >>= f') w') := by
  obtain ⟨houtcome, hclocks, log, hlog, hlog'⟩ := hx
  simp only [bind_apply]
  generalize x w = out, x' w' = out' at houtcome hclocks hlog hlog' ⊢
  obtain ⟨r, v⟩ := out
  obtain ⟨r', v'⟩ := out'
  cases houtcome with
  | fault fault => exact ⟨.fault fault, hclocks, log, hlog, hlog'⟩
  | answer h => exact (hf h hclocks).from hlog hlog'

end Run

open Run

/-! ## Replies and verdicts -/

/-- Replies of a store that come at the same time with the same records: the same fault, no secret,
or secrets that are related by `S`. -/
structure StoreReply.Alike (S : SecondFactorSecret → SecondFactorSecret → Prop)
    (r r' : StoreReply) : Prop where
  outcome : Matches (Option.Rel S) r.outcome r'.outcome
  log : r.log = r'.log
  clocks : r.clocks = r'.clocks

/-- Verdicts of two checks: denied for the same reason, or passed with related secrets. -/
inductive SameVerdict (S : SecondFactorSecret → SecondFactorSecret → Prop) :
    Except DenialReason SecondFactorSecret → Except DenialReason SecondFactorSecret → Prop where
  | denied (reason : DenialReason) : SameVerdict S (.error reason) (.error reason)
  | passed {secret secret' : SecondFactorSecret} (h : S secret secret') :
    SameVerdict S (.ok secret) (.ok secret')

theorem SameVerdict.eq {v v' : Except DenialReason SecondFactorSecret} (h : SameVerdict Eq v v') :
    v = v' := by
  cases h with
  | denied reason => rfl
  | passed h => rw [h]

namespace StoreReply.Alike

variable {S : SecondFactorSecret → SecondFactorSecret → Prop} {r r' : StoreReply}

theorem found (h : r.Alike S r') : Matches (Option.Rel S) r.found r'.found := by
  have houtcome := h.outcome
  unfold StoreReply.found
  generalize r.outcome = o, r'.outcome = o' at houtcome ⊢
  cases houtcome with
  | fault fault =>
    dsimp only
    split
    · exact .fault fault
    · exact .answer .none
  | answer h => exact .answer h

theorem complaint (h : r.Alike S r') (username : String) :
    r.complaint username = r'.complaint username := by
  have houtcome := h.outcome
  unfold StoreReply.complaint
  generalize r.outcome = o, r'.outcome = o' at houtcome ⊢
  cases houtcome with
  | fault fault => rfl
  | answer h => rfl

end StoreReply.Alike

/-! ## The check -/

namespace SecondFactorValidator

variable {S : SecondFactorSecret → SecondFactorSecret → Prop} {store store' : SecretStore}
  {config config' : SecondFactorConfig} {username : String} {secret secret' : SecondFactorSecret}
  {submitted submitted' : Option String} {time : Option Number} {deadline : Option Deadline}
  {w w' : World}

/-- Validating a code depends on nothing but the clocks. -/
theorem validateCode_alike_rfl (config : SecondFactorConfig) (secret : SecondFactorSecret)
    (submitted : Option String) (time : Option Number) (hw : w.clocks = w'.clocks) :
    Alike Eq w w' (validateCode config secret submitted time w)
      (validateCode config secret submitted time w') := by
  rw [validateCode_paths, validateCode_paths, ← hw]
  rcases Otp.parseCode config submitted with fault | code
  · cases fault with
    | codeRefused cause => exact .of_note hw (.answer rfl) [_]
    | _ => exact .of_still hw (.fault _)
  · rcases Base32.decodeSecret secret.secret with cause | key
    · exact .of_note hw (.answer rfl) [_]
    · exact .of_still hw (matches_rfl _)

/-- Two secrets are checked alike if both are bypassed or neither is, and a code is asked for both
or for neither and validated alike. -/
theorem checkSecret_alike (hs : S secret secret') (hw : w.clocks = w'.clocks)
    (hbypass : (!secret.isEnabled && config.allowDisabledBypass) =
      (!secret'.isEnabled && config'.allowDisabledBypass))
    (hblank : submitted.all Text.allBlank = submitted'.all Text.allBlank)
    (hcode : submitted.all Text.allBlank = false →
      Alike Eq w w' (validateCode config secret submitted time w)
        (validateCode config' secret' submitted' time w')) :
    Alike (SameVerdict S) w w' (checkSecret ⟨store, config⟩ username secret submitted time w)
      (checkSecret ⟨store', config'⟩ username secret' submitted' time w') := by
  unfold checkSecret
  rw [← hbypass, ← hblank]
  by_cases hb : (!secret.isEnabled && config.allowDisabledBypass) = true
  · rw [if_pos hb, if_pos hb]
    exact .of_note hw (.answer (.passed hs)) [_]
  · rw [if_neg hb, if_neg hb]
    by_cases hempty : submitted.all Text.allBlank = true
    · rw [if_pos hempty, if_pos hempty]
      exact .of_still hw (.answer (.denied _))
    · rw [if_neg hempty, if_neg hempty]
      refine (hcode (Bool.not_eq_true _ ▸ hempty)).bind ?_
      intro valid valid' v v' hvalid hv
      subst hvalid
      cases valid with
      | true => exact .of_still hv (.answer (.passed hs))
      | false => exact .of_still hv (.answer (.denied _))

/-- Checking a secret depends on the clocks and the configuration, not on the store. -/
theorem checkSecret_alike_rfl (store store' : SecretStore) (config : SecondFactorConfig)
    (username : String) (secret : SecondFactorSecret) (submitted : Option String)
    (time : Option Number) (hw : w.clocks = w'.clocks) :
    Alike (SameVerdict Eq) w w'
      (checkSecret ⟨store, config⟩ username secret submitted time w)
      (checkSecret ⟨store', config⟩ username secret submitted time w') :=
  checkSecret_alike rfl hw rfl rfl fun _ => validateCode_alike_rfl config secret submitted time hw

/-- Two checks are alike if the stores reply alike and the secrets that they find are checked
alike. -/
theorem verify_alike (hw : w.clocks = w'.clocks)
    (hreply : (store w.clocks username deadline).Alike S (store' w.clocks username deadline))
    (hcheck : ∀ {secret secret' v v'}, S secret secret' →
      v.clocks = (store w.clocks username deadline).clocks → v.clocks = v'.clocks →
        Alike (SameVerdict S) v v'
          (checkSecret ⟨store, config⟩ username secret submitted time v)
          (checkSecret ⟨store', config'⟩ username secret' submitted' time v')) :
    Alike (SameVerdict S) w w' (verify ⟨store, config⟩ username submitted time deadline w)
      (verify ⟨store', config'⟩ username submitted' time deadline w') := by
  rw [verify_paths, verify_paths]
  simp only [World.clocks_consulted, ← hw, ← hreply.clocks]
  rcases deadlineExpired deadline w.clocks.steady with fault | _ | _
  · exact .of_still hw (.fault fault)
  · have hasked : (w.consulted store username deadline).clocks =
        (w'.consulted store' username deadline).clocks := by
      rw [World.clocks_consulted, World.clocks_consulted, ← hw, hreply.clocks]
    have hlog' : (w'.consulted store' username deadline).log =
        w'.log ++ ((store w.clocks username deadline).log.map .store ++
          (store w.clocks username deadline).complaint username) := by
      rw [World.log_consulted, ← hw, ← hreply.log, ← hreply.complaint]
    -- Up to here both have logged the records of the store and the same complaint.
    refine .from (w.log_consulted store username deadline) hlog' ?_
    have hfound := hreply.found
    dsimp only
    generalize (store w.clocks username deadline).found = found,
      (store' w.clocks username deadline).found = found' at hfound ⊢
    cases hfound with
    | fault fault => exact .of_still hasked (.fault fault)
    | answer hfound =>
      dsimp only
      rcases deadlineExpired deadline (store w.clocks username deadline).clocks.steady with
        fault | _ | _
      · exact .of_still hasked (.fault fault)
      · cases hfound with
        | none => exact .of_still hasked (.answer (.denied _))
        | some h => exact hcheck h (w.clocks_consulted store username deadline) hasked
      · exact .of_note hasked (.answer (.denied _)) [_]
  · exact .of_still hw (.answer (.denied _))

end SecondFactorValidator

end TwoFactorLogin
