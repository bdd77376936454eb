import TwoFactorLogin.Proofs.CheckingAlike
import TwoFactorLogin.Proofs.Window
import TwoFactorLogin.Store.Table

/-!
# What the log says of codes and secrets

A check of the second factor logs why a code or a secret cannot be read. The reasons are few: a code
belongs to one of four classes (`Otp.InClass`), and the text of a secret spells a key or is wrong in
one of a few ways. Two checks of one login are put beside each other whose codes are in one class
and whose secrets are wrong in the same way, or in none. If both codes are right or both are wrong
(`Otp.Fits`), the two come to the same and log the same. So a reader of the log learns nothing else
of a code or a secret, neither its characters nor how many there are.

Trying one time after another might give more away: which of them has the code, or whether trying
ended with a time that has no counter. It does not, because the times are tried in order and later
times have larger counters. If the time that has the code has a counter, so have those before it
(`Otp.counterAt_of_le`), and where no time has the code, trying ends in the same way for every code
(`Otp.matchesAny_of_unfit`).

Main statement: `SecondFactorValidator.verify_discreet`.
-/

namespace TwoFactorLogin

namespace Otp

/-! ## Counters in order -/

/-- A time has a counter exactly if its quotient, as it is rounded, is below `2⁶⁴`. -/
theorem exists_counterAt_iff {step time : Nat} :
    (∃ counter, counterAt step time = .ok counter) ↔
      Double.roundUnits (time * Double.unitsPerOne) step / Double.unitsPerOne < 2 ^ 64 := by
  have hlimit : 2 ^ 64 * Double.unitsPerOne < Double.unitLimit := by decide +kernel
  by_cases hlt : Double.roundUnits (time * Double.unitsPerOne) step < Double.unitLimit
  · rw [counterAt, Double.ofQuotient?_of_finite (Double.ofUnits_of_lt hlt)]
    by_cases hsmall :
        Double.roundUnits (time * Double.unitsPerOne) step / Double.unitsPerOne < 2 ^ 64
    · rw [counterOf_whole hsmall]
      exact iff_of_true ⟨_, rfl⟩ hsmall
    · rw [counterOf_of_large hsmall]
      exact iff_of_false (by simp) hsmall
  · rw [counterAt, Double.ofQuotient?_of_large hlt]
    refine iff_of_false (by simp [counterOf]) fun h => hlt ?_
    exact Nat.lt_trans ((Nat.div_lt_iff_lt_mul Double.unitsPerOne_pos).1 h) hlimit

theorem counterAt_of_le {step : Nat} {s t : Int} (hstep : 0 < step) (hs : 0 ≤ s) (hle : s ≤ t)
    (h : ∃ counter, counterAt step t = .ok counter) :
    ∃ counter, counterAt step s = .ok counter := by
  obtain ⟨m, rfl⟩ := Int.eq_ofNat_of_zero_le hs
  obtain ⟨n, rfl⟩ := Int.eq_ofNat_of_zero_le (Int.le_trans hs hle)
  have hmn : m * Double.unitsPerOne ≤ n * Double.unitsPerOne :=
    Nat.mul_le_mul_right _ (Int.ofNat_le.1 hle)
  apply exists_counterAt_iff.2
  exact Nat.lt_of_le_of_lt (Nat.div_le_div_right (Double.roundUnits_mono hstep hmn))
    (exists_counterAt_iff.1 h)

/-! ## Trying one time after another -/

variable {config : SecondFactorConfig} {key key' : List UInt8} {code code' : String}
  {times : List Int} {t : Int}

theorem exists_counterAt_of_codeAt (h : codeAt config key t = .ok code) :
    ∃ counter, counterAt config.timeStep t = .ok counter := by
  rw [codeAt] at h
  cases hcounter : counterAt config.timeStep t with
  | error fault => rw [hcounter] at h; cases h
  | ok counter => exact ⟨counter, rfl⟩

theorem matchesAny_cons_of_fault {fault : Fault} (h : counterAt config.timeStep t = .error fault) :
    matchesAny config key code (t :: times) = .error fault := by
  rw [matchesAny, codeAt, h]
  rfl

/-- The accepted times are in order, and none is before the epoch. -/
theorem candidateTimes_ascending {time : Number} (h : candidateTimes config time = .ok times) :
    times.Pairwise (· ≤ ·) ∧ ∀ t ∈ times, 0 ≤ t := by
  rw [candidateTimes] at h
  cases hbase : wholeSeconds time with
  | error fault => rw [hbase] at h; cases h
  | ok base =>
    rw [hbase] at h
    cases h
    constructor
    · apply List.Pairwise.filter
      apply List.pairwise_map.2
      apply List.Pairwise.imp _ List.pairwise_lt_range
      intro i j hij
      have hoffset : ((i : Int) - config.window) * config.timeStep ≤
          ((j : Int) - config.window) * config.timeStep :=
        Int.mul_le_mul_of_nonneg_right (by omega) (Int.natCast_nonneg _)
      exact Int.add_le_add_left hoffset base
    · intro t ht
      exact of_decide_eq_true (List.mem_filter.1 ht).2

/-- A code that one of some times has is found, if the times are in order. -/
theorem matchesAny_of_fit (hsorted : times.Pairwise (· ≤ ·)) (hpos : ∀ t ∈ times, 0 ≤ t)
    (h : ∃ t ∈ times, codeAt config key t = .ok code) :
    matchesAny config key code times = .ok true := by
  obtain ⟨t, ht, hcode⟩ := h
  induction times with
  | nil => cases ht
  | cons first rest ih =>
    have hle : first ≤ t := by
      rcases List.mem_cons.1 ht with rfl | hrest
      · exact Int.le_refl _
      · exact (List.pairwise_cons.1 hsorted).1 t hrest
    obtain ⟨counter, hcounter⟩ := counterAt_of_le config.timeStep_pos (hpos first (by simp)) hle
      (exists_counterAt_of_codeAt hcode)
    rw [matchesAny_cons_of_counter hcounter]
    by_cases heq : hotp config.digits key counter = code
    · exact if_pos heq
    · refine (if_neg heq).trans ?_
      apply ih (List.pairwise_cons.1 hsorted).2 fun t ht => hpos t (List.mem_cons_of_mem _ ht)
      rcases List.mem_cons.1 ht with rfl | hrest
      · rw [codeAt_of_counter hcounter] at hcode
        exact absurd (Except.ok.inj hcode) heq
      · exact hrest

/-- Where no time has the code, trying ends the same way, whatever the key and the code. -/
theorem matchesAny_of_unfit (h : ¬ ∃ t ∈ times, codeAt config key t = .ok code)
    (h' : ¬ ∃ t ∈ times, codeAt config key' t = .ok code') :
    matchesAny config key code times = matchesAny config key' code' times := by
  induction times with
  | nil => rfl
  | cons first rest ih =>
    have hrest : ¬ ∃ t ∈ rest, codeAt config key t = .ok code := by
      rintro ⟨t, ht, hcode⟩
      exact h ⟨t, List.mem_cons_of_mem _ ht, hcode⟩
    have hrest' : ¬ ∃ t ∈ rest, codeAt config key' t = .ok code' := by
      rintro ⟨t, ht, hcode⟩
      exact h' ⟨t, List.mem_cons_of_mem _ ht, hcode⟩
    cases hcounter : counterAt config.timeStep first with
    | error fault => rw [matchesAny_cons_of_fault hcounter, matchesAny_cons_of_fault hcounter]
    | ok counter =>
      have hne : ¬ hotp config.digits key counter = code := by
        rintro rfl
        exact h ⟨first, by simp, codeAt_of_counter hcounter⟩
      have hne' : ¬ hotp config.digits key' counter = code' := by
        rintro rfl
        exact h' ⟨first, by simp, codeAt_of_counter hcounter⟩
      rw [matchesAny_cons_of_counter hcounter, matchesAny_cons_of_counter hcounter, if_neg hne,
        if_neg hne']
      exact ih hrest hrest'

/-- A submitted code is right for the text of a secret at a time: it is read as the code that the
secret has at one of the accepted times. -/
def Fits (config : SecondFactorConfig) (time : Number) (secret : String)
    (submitted : Option String) : Prop :=
  ∃ code key times, parseCode config submitted = .ok code ∧
    Base32.decodeSecret secret = .ok key ∧ candidateTimes config time = .ok times ∧
      ∃ t ∈ times, codeAt config key t = .ok code

/-- Two codes and keys are compared with the same result if both codes are right or neither is. -/
theorem matchesAny_eq_of_fits {time : Number} {secret secret' : String}
    {submitted submitted' : Option String} (hcode : parseCode config submitted = .ok code)
    (hcode' : parseCode config submitted' = .ok code')
    (hkey : Base32.decodeSecret secret = .ok key) (hkey' : Base32.decodeSecret secret' = .ok key')
    (h : Fits config time secret submitted ↔ Fits config time secret' submitted') :
    (candidateTimes config time).bind (matchesAny config key code) =
      (candidateTimes config time).bind (matchesAny config key' code') := by
  cases htimes : candidateTimes config time with
  | error fault => simp only [Except.bind]
  | ok times =>
    obtain ⟨hsorted, hpos⟩ := candidateTimes_ascending htimes
    have hfits : Fits config time secret submitted ↔
        ∃ t ∈ times, codeAt config key t = .ok code := by
      simp [Fits, hcode, hkey, htimes]
    have hfits' : Fits config time secret' submitted' ↔
        ∃ t ∈ times, codeAt config key' t = .ok code' := by
      simp [Fits, hcode', hkey', htimes]
    show matchesAny config key code times = matchesAny config key' code' times
    by_cases hfit : Fits config time secret submitted
    · rw [matchesAny_of_fit hsorted hpos (hfits.1 hfit),
        matchesAny_of_fit hsorted hpos (hfits'.1 (h.1 hfit))]
    · exact matchesAny_of_unfit (fun ht => hfit (hfits.2 ht))
        fun ht => hfit (h.2 (hfits'.2 ht))

/-! ## Classes of codes -/

/-- The classes of submitted codes: none or a blank one, one that is no numeral, one whose number is
too large, and all others. -/
inductive CodeClass where
  | missing
  | notDigits
  | tooLarge
  | wellFormed
  deriving DecidableEq, Repr

/-- The class that a submitted code belongs to. -/
inductive InClass (config : SecondFactorConfig) : Option String → CodeClass → Prop where
  | absent : InClass config none .missing
  | blank {s : String} (h : Text.allBlank s = true) : InClass config (some s) .missing
  | notDigits {s : String} (hblank : Text.allBlank s = false) (h : ∀ n, ¬ Denotes s n) :
    InClass config (some s) .notDigits
  | tooLarge {s : String} {n : Nat} (h : Denotes s n) (hn : 10 ^ config.digits ≤ n) :
    InClass config (some s) .tooLarge
  | wellFormed {s : String} {n : Nat} (h : Denotes s n) (hn : n < 10 ^ config.digits) :
    InClass config (some s) .wellFormed

theorem Denotes.not_allBlank {s : String} {n : Nat} (h : Denotes s n) :
    Text.allBlank s = false := by
  apply Bool.eq_false_iff.2
  intro hblank
  exact not_denotes_of_blank (fun c hc => List.all_eq_true.1 hblank c hc) n h

theorem exists_code_of_denotes {s : String} {n : Nat} (hshort : s.length ≤ maxIntDigits)
    (h : Denotes s n) (hn : n < 10 ^ config.digits) :
    ∃ code, parseCode config (some s) = .ok code :=
  ⟨_, (parseCode_of_denotes (not_overlong_of_length hshort) h).trans (if_neg (Nat.not_le.2 hn))⟩

theorem InClass.all_allBlank {submitted : Option String} {c : CodeClass}
    (h : InClass config submitted c) :
    submitted.all Text.allBlank = decide (c = .missing) := by
  cases h with
  | absent => rfl
  | blank h => exact h
  | notDigits hblank h => exact hblank
  | tooLarge h hn => exact h.not_allBlank
  | wellFormed h hn => exact h.not_allBlank

end Otp

/-! ## The check -/

/-- Two secrets with the codes submitted for them, of which the log shows no difference: they have
one owner, are both enabled or both not, their texts spell keys or are wrong in the same way, and
both codes are right or neither is. -/
structure SecondFactorSecret.Comparable (config : SecondFactorConfig) (time : Number)
    (submitted submitted' : Option String) (s s' : SecondFactorSecret) : Prop where
  owner_eq : s.owner = s'.owner
  isEnabled_eq : s.isEnabled = s'.isEnabled
  decode_eq : (Base32.decodeSecret s.secret).map (fun _ => ()) =
    (Base32.decodeSecret s'.secret).map fun _ => ()
  fits_iff : Otp.Fits config time s.secret submitted ↔ Otp.Fits config time s'.secret submitted'

theorem SecondFactorSecret.Comparable.decode_cases {config : SecondFactorConfig} {time : Number}
    {submitted submitted' : Option String} {s s' : SecondFactorSecret}
    (h : s.Comparable config time submitted submitted' s') :
    (∃ cause, Base32.decodeSecret s.secret = .error cause ∧
        Base32.decodeSecret s'.secret = .error cause) ∨
      ∃ key key', Base32.decodeSecret s.secret = .ok key ∧
        Base32.decodeSecret s'.secret = .ok key' := by
  have hdecode := h.decode_eq
  generalize Base32.decodeSecret s.secret = r, Base32.decodeSecret s'.secret = r' at hdecode ⊢
  cases r with
  | error cause =>
    cases r' with
    | error cause' =>
      cases hdecode
      exact .inl ⟨cause, rfl, rfl⟩
    | ok key' => cases hdecode
  | ok key =>
    cases r' with
    | error cause' => cases hdecode
    | ok key' => exact .inr ⟨key, key', rfl, rfl⟩

namespace SecondFactorValidator

open Otp

variable {config : SecondFactorConfig} {store store' : SecretStore} {username : String}
  {secret secret' : SecondFactorSecret} {submitted submitted' : Option String}
  {time : Option Number} {deadline : Option Deadline} {w w' : World} {c : CodeClass}

theorem validateCode_alike (hw : w.clocks = w'.clocks)
    (hs : secret.Comparable config (time.getD w.clocks.wall) submitted submitted' secret')
    (hclass : InClass config submitted c) (hclass' : InClass config submitted' c)
    (hshort : ∀ s ∈ submitted, s.length ≤ maxIntDigits)
    (hshort' : ∀ s ∈ submitted', s.length ≤ maxIntDigits)
    (hpresent : submitted.all Text.allBlank = false) :
    Run.Alike Eq w w' (validateCode config secret submitted time w)
      (validateCode config secret' submitted' time w') := by
  rw [validateCode_paths, validateCode_paths, ← hw, ← hs.owner_eq]
  cases hclass with
  | absent => cases hpresent
  | blank h => exact absurd h (Bool.eq_false_iff.1 hpresent)
  | notDigits _ h =>
    cases hclass' with
    | notDigits _ h' =>
      rw [parseCode_of_not_denotes h, parseCode_of_not_denotes h']
      exact .of_note hw (.answer rfl) [_]
  | tooLarge h hn =>
    cases hclass' with
    | tooLarge h' hn' =>
      rw [parseCode_of_denotes (not_overlong_of_length (hshort _ rfl)) h, if_pos hn,
        parseCode_of_denotes (not_overlong_of_length (hshort' _ rfl)) h', if_pos hn']
      exact .of_note hw (.answer rfl) [_]
  | wellFormed h hn =>
    cases hclass' with
    | wellFormed h' hn' =>
      obtain ⟨code, hcode⟩ := exists_code_of_denotes (hshort _ rfl) h hn
      obtain ⟨code', hcode'⟩ := exists_code_of_denotes (hshort' _ rfl) h' hn'
      rw [hcode, hcode']
      obtain ⟨cause, hkey, hkey'⟩ | ⟨key, key', hkey, hkey'⟩ := hs.decode_cases
      · rw [hkey, hkey']
        exact .of_note hw (.answer rfl) [_]
      · rw [hkey, hkey']
        simp only [matchesAny_eq_of_fits hcode hcode' hkey hkey' hs.fits_iff]
        exact .of_still hw (Run.matches_rfl _)

/-- Two checks of one login, with codes of one class and stores that reply alike with comparable
secrets, come to the same and log the same. -/
theorem verify_discreet (hw : w.clocks = w'.clocks) (hclass : InClass config submitted c)
    (hclass' : InClass config submitted' c) (hshort : ∀ s ∈ submitted, s.length ≤ maxIntDigits)
    (hshort' : ∀ s ∈ submitted', s.length ≤ maxIntDigits)
    (hreply : (store w.clocks username deadline).Alike
      (SecondFactorSecret.Comparable config
        (time.getD (store w.clocks username deadline).clocks.wall) submitted submitted')
      (store' w.clocks username deadline)) :
    Run.Alike
      (SameVerdict (SecondFactorSecret.Comparable config
        (time.getD (store w.clocks username deadline).clocks.wall) submitted submitted')) w w'
      (verify ⟨store, config⟩ username submitted time deadline w)
      (verify ⟨store', config⟩ username submitted' time deadline w') := by
  apply verify_alike hw hreply
  intro secret secret' v v' hs hasked hv
  apply checkSecret_alike hs hv
  · rw [hs.isEnabled_eq]
  · rw [hclass.all_allBlank, hclass'.all_allBlank]
  · intro hpresent
    rw [← hasked] at hs
    exact validateCode_alike hv hs hclass hclass' hshort hshort' hpresent

/-- A table with one secret of a given text. -/
def Sample.holding (text : String) : SecretStore :=
  SecretTable.toStore ⟨some [⟨"ann", some text, true⟩]⟩

/-- Two secrets that are no base32 leave the same log, though one is longer than the other and so is
one of the codes. -/
theorem log_eq_of_malformed_secrets :
    (verify ⟨Sample.holding "a1", {}⟩ "ann" (some "123456") none none Sample.world).2.log =
      (verify ⟨Sample.holding "password 8", {}⟩ "ann" (some " 42") none none
        Sample.world).2.log := by
  have hdenotes : Denotes "123456" 123456 :=
    denotes_iff.2 ⟨by decide, List.all_eq_true.1 rfl, rfl⟩
  have hdenotes' : Denotes " 42" 42 := denotes_iff.2 ⟨by decide, List.all_eq_true.1 rfl, rfl⟩
  have hcode : InClass {} (some "123456") .wellFormed := .wellFormed hdenotes (by decide)
  have hcode' : InClass {} (some " 42") .wellFormed := .wellFormed hdenotes' (by decide)
  have hdecode : Base32.decodeSecret "a1" = .error .badDigit := rfl
  have hdecode' : Base32.decodeSecret "password 8" = .error .badDigit := rfl
  have hreply : (Sample.holding "a1" Sample.world.clocks "ann" none).Alike
      (SecondFactorSecret.Comparable {}
        ((none : Option Number).getD
          (Sample.holding "a1" Sample.world.clocks "ann" none).clocks.wall)
        (some "123456") (some " 42"))
      (Sample.holding "password 8" Sample.world.clocks "ann" none) := by
    refine ⟨.answer (Option.Rel.some ⟨rfl, rfl, ?_, ?_⟩), rfl, rfl⟩
    · rw [hdecode, hdecode']
    · simp [Fits, hdecode, hdecode']
  obtain ⟨log, hlog, hlog'⟩ :=
    (verify_discreet rfl hcode hcode' (by decide) (by decide) hreply).logged
  rw [hlog, hlog']

end SecondFactorValidator

end TwoFactorLogin
