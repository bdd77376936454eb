import TwoFactorLogin.Proofs.Window

/-!
# Generated codes are accepted

A code that is generated at one time is accepted at every other time whose step is at most a window
away, however it is typed: with fewer or more zeros in front, and with blanks around it.

Generating and checking take different paths. The generator reckons one counter from the time it is
given; the checker rewrites the submitted text and tries a time for each step of its window. They
meet at the number that a code spells (`spells_hotp`): every way of typing a code denotes that
number (`Respells.denotes`), so what the checker compares is the generated code itself, and its
counter is one of those in the window.

Main statement: `generateCode_verifies`.
-/

namespace TwoFactorLogin

theorem Text.Numeral.of_zeros_append {count : Nat} {cs : List Char} {n : Nat}
    (h : Numeral (List.replicate count '0' ++ cs) n) (hne : cs ≠ []) : Numeral cs n where
  ne_nil := hne
  digits c hc := h.digits c (List.mem_append_right _ hc)
  value_eq := by
    rw [← h.value_eq, Nat.ofDigitChars_append, Nat.ofDigitChars_replicate_zero, Nat.mul_zero]

namespace Otp

open Text

/-! ## Ways of typing a code -/

/-- The digits of a code with another number of zeros in front: fewer, but with a digit left, or
more, but not more than can be read as a number. -/
inductive Rezeroed (code : List Char) : List Char → Prop
  | fewer {count : Nat} {rest : List Char} (h : code = List.replicate count '0' ++ rest)
    (hne : rest ≠ []) : Rezeroed code rest
  | more {count : Nat} (h : count + code.length ≤ maxIntDigits) :
    Rezeroed code (List.replicate count '0' ++ code)

/-- A submitted text is a code with another number of zeros in front and blanks around it. -/
def Respells (code submitted : String) : Prop :=
  ∃ pre digits post, submitted.toList = pre ++ digits ++ post ∧ (∀ c ∈ pre, isBlank c = true) ∧
    Rezeroed code.toList digits ∧ ∀ c ∈ post, isBlank c = true

variable {config : SecondFactorConfig} {code submitted : String} {n : Nat}

theorem Rezeroed.numeral {cs ds : List Char} (h : Rezeroed cs ds) (hcs : Numeral cs n) :
    Numeral ds n := by
  cases h with
  | fewer h hne => exact (h ▸ hcs).of_zeros_append hne
  | more => exact hcs.zeros_append _

theorem Rezeroed.length_le {cs ds : List Char} (h : Rezeroed cs ds)
    (hcs : cs.length ≤ maxIntDigits) : ds.length ≤ maxIntDigits := by
  cases h with
  | fewer h =>
    rw [h, List.length_append] at hcs
    omega
  | more h => simpa using h

theorem Respells.denotes (h : Respells code submitted) (hcode : Spells config code n) :
    Denotes submitted n := by
  obtain ⟨pre, digits, post, hs, hpre, hdigits, hpost⟩ := h
  exact ⟨pre, digits, post, hs, hpre, hdigits.numeral hcode.numeral, hpost⟩

/-- Blanks do not count towards the digits that can be read as a number. -/
theorem Respells.not_overlong (h : Respells code submitted) (hcode : Spells config code n) :
    ¬ Overlong submitted := by
  rintro ⟨-, hlong⟩
  obtain ⟨pre, digits, post, hs, hpre, hdigits, hpost⟩ := h
  have hnumeral := hdigits.numeral hcode.numeral
  have hshort : digits.length ≤ maxIntDigits := by
    refine hdigits.length_le ?_
    rw [String.length_toList, hcode.length_eq]
    exact Nat.le_trans config.digits_le_eight (by decide)
  rw [digitsOf, hs, hnumeral.trimmed.stripChars_append hnumeral.ne_nil hpre hpost] at hlong
  omega

/-- However a code is typed, it is read as itself. -/
theorem parseCode_of_respells (hlt : n < 10 ^ config.digits) (hcode : Spells config code n)
    (h : Respells code submitted) : parseCode config (some submitted) = .ok code :=
  (parseCode_eq_ok (h.not_overlong hcode)).2 ⟨n, hlt, h.denotes hcode, hcode⟩

/-! ## Codes of counters -/

theorem spells_hotp (config : SecondFactorConfig) (key : List UInt8) (counter : Nat) :
    ∃ n < 10 ^ config.digits, Spells config (hotp config.digits key counter) n := by
  have hlt : ∀ m : Nat, m % Nat.pow 10 config.digits < 10 ^ config.digits :=
    fun m => Nat.mod_lt m (Nat.pow_pos (by decide))
  exact ⟨_, hlt _, spells_zeroPadded (hlt _)⟩

theorem generateCode_eq {secret : String} {key : List UInt8} {time : Number} {base : Int}
    (hkey : Base32.decodeSecret secret = .ok key) (htime : time.truncate = .ok base)
    (hpos : 0 ≤ base) (hlt : base < 2 ^ 53) :
    generateCode config secret time =
      .ok (hotp config.digits key (base / config.timeStep).toNat) := by
  have hdecoded : (Base32.decodeSecret secret).mapError Fault.secretText = .ok key := by
    rw [hkey]
    rfl
  simp only [generateCode, hdecoded, wholeSeconds_of_truncate htime, bind, Except.bind]
  exact codeAt_eq hpos hlt

end Otp

namespace SecondFactorValidator

open Otp

theorem generateCode_apply (config : SecondFactorConfig) {secret : String} {key : List UInt8}
    {time : Option Number} {w : World} {base : Int} (hkey : Base32.decodeSecret secret = .ok key)
    (htime : (time.getD w.clocks.wall).truncate = .ok base) (hpos : 0 ≤ base)
    (hlt : base < 2 ^ 53) :
    generateCode config secret time w =
      (.ok (hotp config.digits key (base / config.timeStep).toNat), w) := by
  simp only [generateCode, timeOrNow, Run.bind_apply, Run.read_apply, Run.ofExcept_apply,
    generateCode_eq hkey htime hpos hlt]

/-- A code generated at one time, in any way of typing it, is valid at every time whose step is at
most a window away. -/
theorem generateCode_verifies {config : SecondFactorConfig} {secret : SecondFactorSecret}
    {key : List UInt8} (hkey : Base32.decodeSecret secret.secret = .ok key)
    {generated checked : Option Number} {w v : World} {base base' : Int}
    (hgenerated : (generated.getD w.clocks.wall).truncate = .ok base)
    (hchecked : (checked.getD v.clocks.wall).truncate = .ok base') (hpos : 0 ≤ base)
    (hnear : (base / config.timeStep - base' / config.timeStep).natAbs ≤ config.window)
    (hlt : base < 2 ^ 53) (hlimit : base' + config.window * config.timeStep < 2 ^ 53) :
    ∃ code, generateCode config secret.secret generated w = (.ok code, w) ∧
      code.length = config.digits ∧ (∀ c ∈ code.toList, c.isDigit = true) ∧
      parseCode config (some code) = .ok code ∧
      ∀ submitted, Respells code submitted →
        validateCode config secret (some submitted) checked v = (.ok true, v) := by
  obtain ⟨n, hn, hspells⟩ := spells_hotp config key (base / config.timeStep).toNat
  refine ⟨_, generateCode_apply config hkey hgenerated hpos hlt, hspells.length_eq,
    hspells.numeral.digits, parseCode_of_spells hn hspells, fun submitted hsubmitted => ?_⟩
  obtain ⟨valid, hvalid, hiff⟩ := validateCode_of_code hkey hchecked hlimit
    (parseCode_of_respells hn hspells hsubmitted)
  have hwindow : InWindow config base' (base / config.timeStep).toNat := by
    have hcounter : 0 ≤ base / config.timeStep := Int.ediv_nonneg hpos (Int.natCast_nonneg _)
    rwa [InWindow, Int.toNat_of_nonneg hcounter]
  rw [hvalid, hiff.2 ⟨_, hwindow, rfl⟩]

/-- A code that begins with a zero, typed without it two seconds later, in the next step. -/
theorem generateCode_verifies_of_zero :
    generateCode {} Sample.secret.secret (some (.int 1111111109)) Sample.world =
        (.ok "081804", Sample.world) ∧
      validateCode {} Sample.secret (some " 81804\n") (some (.int 1111111111)) Sample.world =
        (.ok true, Sample.world) := by
  have hgenerated : ((some (Number.int 1111111109)).getD Sample.world.clocks.wall).truncate =
      .ok 1111111109 := rfl
  have hchecked : ((some (Number.int 1111111111)).getD Sample.world.clocks.wall).truncate =
      .ok 1111111111 := rfl
  have hnear : ((1111111109 : Int) / ({} : SecondFactorConfig).timeStep -
      1111111111 / ({} : SecondFactorConfig).timeStep).natAbs ≤
        ({} : SecondFactorConfig).window := by decide
  obtain ⟨code, hmade, -, -, -, hvalid⟩ := generateCode_verifies Sample.decode_eq hgenerated
    hchecked (by decide) hnear (by decide) (by decide)
  have hhotp : hotp ({} : SecondFactorConfig).digits Sample.key
      ((1111111109 : Int) / ({} : SecondFactorConfig).timeStep).toNat = "081804" := by
    decide +kernel
  have hmade' := generateCode_apply {} Sample.decode_eq hgenerated (by decide) (by decide)
  rw [hhotp] at hmade'
  obtain rfl : "081804" = code := Except.ok.inj (congrArg Prod.fst (hmade'.symm.trans hmade))
  have hzero : "081804".toList = List.replicate 1 '0' ++ "81804".toList := rfl
  exact ⟨hmade, hvalid _ ⟨[' '], "81804".toList, ['\n'], rfl, List.forall_mem_singleton.2 rfl,
    .fewer hzero (by decide), List.forall_mem_singleton.2 rfl⟩⟩

end SecondFactorValidator

end TwoFactorLogin
