import TwoFactorLogin.Directory.Transport
import TwoFactorLogin.Proofs.Usable

/-!
# Mistyped switches

Two properties are switches: whether certificates are checked, and whether a disabled secret lets
its owner in without a code. A switch is on if its property is one of the true words, in either case
and with blanks around it, and it has its default if there is no property. Everything else switches
off, and there is the gap: a word that is neither true nor false is not refused, it does what a
false word in its place does (`mistyped_eq`).

For the second factor that is the safe side. For certificates it is not: they are left unchecked not
only by the false words, but also by any mistyped one.

* `Properties.SpellsOneOf`, `Properties.Mistyped`: what a switch can be.
* `Properties.getSwitch_of_…`: what each is read as.
* `AuthSettings.ofProperties_readsSwitches`: the way from the text of a switch to the settings that
  certificates are checked with.
-/

namespace TwoFactorLogin

open Text

namespace Properties

/-! ## What a switch can be -/

/-- The properties that are switches. -/
def switchNames : List String := ["ldap-tls-validate", "totp-allow-disabled-bypass"]

/-- The words that are meant to switch something off. -/
def falseWords : List String := ["0", "false", "no", "off"]

/-- A property is one of some words, in either case and with nothing but blanks around it. -/
def SpellsOneOf (p : Properties) (words : List String) (name : String) : Prop :=
  ∃ t, p.lookup name = some (.string t) ∧ lower (strip t) ∈ words

/-- A property is a text that has more than blanks and is neither a true word nor a false one. -/
def Mistyped (p : Properties) (name : String) : Prop :=
  ∃ t, p.lookup name = some (.string t) ∧ allBlank t = false ∧
    lower (strip t) ∉ trueWords ∧ lower (strip t) ∉ falseWords

variable {p q : Properties} {name : String} {absent : Bool}

theorem SpellsOneOf.get?_eq {words : List String} (h : p.SpellsOneOf words name)
    (hwords : "" ∉ words) : ∃ t, p.get? name = some (.string t) ∧ lower t ∈ words := by
  obtain ⟨t, ht, hword⟩ := h
  refine ⟨strip t, get?_eq_string.2 ⟨t, ht, ?_, rfl⟩, hword⟩
  rw [← Bool.not_eq_true]
  intro hblank
  have hempty : lower (strip t) = "" := by
    rw [strip, stripChars_of_allBlank hblank]
    rfl
  exact hwords (hempty ▸ hword)

/-- A switch in properties that are texts is absent, or a true word, or a false one, or mistyped. -/
theorem switch_cases (hp : p.Textual) (name : String) :
    p.get? name = none ∨ p.SpellsOneOf trueWords name ∨ p.SpellsOneOf falseWords name ∨
      p.Mistyped name := by
  cases h : p.get? name with
  | none => exact .inl rfl
  | some v =>
    obtain ⟨s, rfl⟩ := get?_text hp h
    obtain ⟨t, ht, hblank, rfl⟩ := get?_eq_string.1 h
    by_cases htrue : lower (strip t) ∈ trueWords
    · exact .inr (.inl ⟨t, ht, htrue⟩)
    · by_cases hfalse : lower (strip t) ∈ falseWords
      · exact .inr (.inr (.inl ⟨t, ht, hfalse⟩))
      · exact .inr (.inr (.inr ⟨t, ht, hblank, htrue, hfalse⟩))

/-! ## How a switch is read -/

theorem getSwitch_of_none (h : p.get? name = none) : p.getSwitch name absent = .ok absent := by
  rw [getSwitch, h]

theorem getSwitch_of_string {t : String} (h : p.get? name = some (.string t)) :
    p.getSwitch name absent = .ok (trueWords.contains (lower t)) := by
  rw [getSwitch, h]
  rfl

theorem getSwitch_of_trueWord (h : p.SpellsOneOf trueWords name) :
    p.getSwitch name absent = .ok true := by
  obtain ⟨t, ht, hword⟩ := h.get?_eq (by decide)
  rw [getSwitch_of_string ht, List.contains_iff_mem.2 hword]

theorem getSwitch_of_falseWord (h : p.SpellsOneOf falseWords name) :
    p.getSwitch name absent = .ok false := by
  obtain ⟨t, ht, hword⟩ := h.get?_eq (by decide)
  have hapart : ∀ word ∈ falseWords, trueWords.contains word = false := by decide
  rw [getSwitch_of_string ht, hapart _ hword]

theorem getSwitch_of_mistyped (h : p.Mistyped name) : p.getSwitch name absent = .ok false := by
  obtain ⟨t, ht, hblank, htrue, -⟩ := h
  have hcontains : trueWords.contains (lower (strip t)) = false := by
    rwa [← Bool.not_eq_true, List.contains_iff_mem]
  rw [getSwitch_of_string (get?_eq_string.2 ⟨t, ht, hblank, rfl⟩), hcontains]

/-- A switch that is off by default is on exactly if it is a true word. -/
theorem getSwitch_eq_true (hp : p.Textual) :
    p.getSwitch name false = .ok true ↔ p.SpellsOneOf trueWords name := by
  constructor
  · intro h
    obtain hnone | htrue | hfalse | hmistyped := switch_cases hp name
    · cases (getSwitch_of_none hnone).symm.trans h
    · exact htrue
    · cases (getSwitch_of_falseWord hfalse).symm.trans h
    · cases (getSwitch_of_mistyped hmistyped).symm.trans h
  · exact getSwitch_of_trueWord

/-- A switch that is on by default is off exactly if it is a false word or mistyped. -/
theorem getSwitch_eq_false (hp : p.Textual) :
    p.getSwitch name true = .ok false ↔ p.SpellsOneOf falseWords name ∨ p.Mistyped name := by
  constructor
  · intro h
    obtain hnone | htrue | hfalse | hmistyped := switch_cases hp name
    · cases (getSwitch_of_none hnone).symm.trans h
    · cases (getSwitch_of_trueWord htrue).symm.trans h
    · exact .inl hfalse
    · exact .inr hmistyped
  · rintro (h | h)
    · exact getSwitch_of_falseWord h
    · exact getSwitch_of_mistyped h

theorem get?_congr (h : p.lookup name = q.lookup name) : p.get? name = q.get? name := by
  rw [get?, get?, h]

end Properties

/-! ## How it is put into a configuration -/

/-- The switches are the values of two settings. -/
theorem AuthSettings.switches_of_ok {p : Properties} {s : AuthSettings}
    (h : ofProperties p = .ok s) :
    ∃ validate bypass, p.getSwitch "ldap-tls-validate" true = .ok validate ∧
      s.directory.tlsValidate = .bool validate ∧
      p.getSwitch "totp-allow-disabled-bypass" false = .ok bypass ∧
      s.secondFactor.allowDisabledBypass = .bool bypass := by
  unfold ofProperties at h
  split at h
  · cases h
  · rw [reportMalformed_eq_ok] at h
    simp only [bind_eq_ok, Properties.directorySettings, Properties.secondFactorSettings,
      DirectoryArguments.check_eq_ok] at h
    obtain ⟨directory, ⟨_, -, _, -, validate, hvalidate, _, -, _, -, _, _, _, -, -, -, -, -, -, -,
      -, rfl⟩, secondFactor, ⟨_, -, _, -, _, -, bypass, hbypass, _, -, hs⟩, h⟩ := h
    cases hs
    cases h
    exact ⟨validate, bypass, hvalidate, rfl, hbypass, rfl⟩

/-- Properties that differ in switches alone make the same configuration if the switches are read as
the same. -/
theorem AuthSettings.ofProperties_congr {p q : Properties}
    (hget : ∀ name ∉ Properties.switchNames, p.get? name = q.get? name)
    (hswitch : ∀ name ∈ Properties.switchNames, ∀ absent,
      p.getSwitch name absent = q.getSwitch name absent) :
    ofProperties p = ofProperties q := by
  have htls := hswitch "ldap-tls-validate" (by decide) true
  have hbypass := hswitch "totp-allow-disabled-bypass" (by decide) false
  simp (disch := decide) only [ofProperties, Properties.directorySettings,
    Properties.secondFactorSettings, Properties.getInteger, Properties.getSeconds, hget, htls,
    hbypass]

/-- What is prepared for checking certificates checks them exactly if the configuration says so. -/
theorem validate_of_buildTls {bundleExists : String → Bool} {config : DirectoryConfig} {w : World}
    {tls : TlsSettings} (h : (buildTls bundleExists config w).1 = .ok tls) :
    tls.validate = config.tlsValidate := by
  unfold buildTls at h
  cases hvalidate : config.tlsValidate with
  | false =>
    rw [hvalidate] at h
    cases h
    rfl
  | true =>
    rw [hvalidate, if_pos rfl] at h
    cases hbundle : config.caBundle.filter fun path => !path.isEmpty with
    | none =>
      rw [hbundle] at h
      cases h
      rfl
    | some path =>
      rw [hbundle] at h
      cases hexists : bundleExists path with
      | false =>
        simp only [hexists] at h
        cases h
      | true =>
        simp only [hexists] at h
        cases h
        rfl

theorem exists_unchecked_iff {bundleExists : String → Bool} {config : DirectoryConfig} {w : World} :
    (∃ tls, (buildTls bundleExists config w).1 = .ok tls ∧ tls.validate = false) ↔
      config.tlsValidate = false := by
  constructor
  · rintro ⟨tls, htls, hvalidate⟩
    rw [← validate_of_buildTls htls, hvalidate]
  · intro h
    refine ⟨⟨false, none⟩, ?_, rfl⟩
    rw [buildTls, h]
    rfl

/-! ## The whole way -/

namespace AuthSettings

open Properties

theorem tlsValidate_of_config? {s : AuthSettings} {c : AuthConfig} (h : s.config? = some c) :
    c.directory.tlsValidate = s.directory.tlsValidate.truthy := by
  simp only [config?, Option.bind_eq_bind, Option.bind_eq_some_iff] at h
  obtain ⟨directory, hdirectory, secondFactor, -, h⟩ := h
  cases h
  exact (DirectorySettings.of_config? hdirectory).2

/-- How the switches among some properties are read. -/
structure ReadsSwitches (p : Properties) : Prop where
  /-- A mistyped switch is never what a configuration is refused for: it does what a false word in
  its place does. -/
  mistyped_eq {q : Properties} {name : String} (hname : name ∈ switchNames) (h : p.Mistyped name)
    (hq : q.SpellsOneOf falseWords name)
    (hrest : ∀ other, other ≠ name → q.lookup other = p.lookup other) :
    ofProperties p = ofProperties q
  tlsValidate_iff {s : AuthSettings} (h : ofProperties p = .ok s) :
    s.directory.tlsValidate = .bool false ↔
      p.SpellsOneOf falseWords "ldap-tls-validate" ∨ p.Mistyped "ldap-tls-validate"
  bypass_iff {s : AuthSettings} (h : ofProperties p = .ok s) :
    s.secondFactor.allowDisabledBypass = .bool true ↔
      p.SpellsOneOf trueWords "totp-allow-disabled-bypass"
  /-- A login goes by a configuration whose certificates are left unchecked in the same cases. -/
  unchecked_iff {s : AuthSettings} (h : ofProperties p = .ok s) :
    ∃ c, s.config? = some c ∧ ∀ bundleExists w,
      (∃ tls, (buildTls bundleExists c.directory w).1 = .ok tls ∧ tls.validate = false) ↔
        p.SpellsOneOf falseWords "ldap-tls-validate" ∨ p.Mistyped "ldap-tls-validate"

theorem ofProperties_readsSwitches {p : Properties} (hp : p.Textual) : ReadsSwitches p where
  mistyped_eq {q name} hname h hq hrest := by
    have hother : ∀ other, other ≠ name → p.get? other = q.get? other :=
      fun other hne => get?_congr (hrest other hne).symm
    apply ofProperties_congr
    · intro other hout
      exact hother other fun e => hout (e ▸ hname)
    · intro other _ absent
      by_cases he : other = name
      · rw [he, getSwitch_of_mistyped h, getSwitch_of_falseWord hq]
      · rw [getSwitch, getSwitch, hother other he]
  tlsValidate_iff h := by
    obtain ⟨validate, bypass, hvalidate, hs, -, -⟩ := switches_of_ok h
    rw [hs, ← getSwitch_eq_false hp, hvalidate, Value.bool.injEq, Except.ok.injEq]
  bypass_iff h := by
    obtain ⟨validate, bypass, -, -, hbypass, hs⟩ := switches_of_ok h
    rw [hs, ← getSwitch_eq_true hp, hbypass, Value.bool.injEq, Except.ok.injEq]
  unchecked_iff h := by
    obtain ⟨c, hc⟩ := (ofProperties_usable hp h).config
    refine ⟨c, hc, fun bundleExists w => ?_⟩
    obtain ⟨validate, bypass, hvalidate, hs, -, -⟩ := switches_of_ok h
    rw [exists_unchecked_iff, tlsValidate_of_config? hc, hs, ← getSwitch_eq_false hp, hvalidate,
      Except.ok.injEq]
    rfl

end AuthSettings

/-- Properties with a word for checking certificates that is neither true nor false. -/
def Properties.mistypedSwitch : Properties :=
  [("ldap-user-base-dn", .string "ou=people,dc=example,dc=com"),
   ("ldap-tls-validate", .string "ture")]

theorem AuthSettings.unchecked_of_mistypedSwitch :
    ∃ s, ofProperties .mistypedSwitch = .ok s ∧ s.directory.tlsValidate = .bool false := by
  have hp : Properties.mistypedSwitch.Textual := by
    simp [Properties.Textual, Properties.mistypedSwitch]
  have hmistyped : Properties.mistypedSwitch.Mistyped "ldap-tls-validate" :=
    ⟨"ture", rfl, by decide, by decide, by decide⟩
  have hok : (ofProperties .mistypedSwitch).toBool = true := by decide +kernel
  cases h : ofProperties .mistypedSwitch with
  | error fault => simp [h, Except.toBool] at hok
  | ok s => exact ⟨s, rfl, ((ofProperties_readsSwitches hp).tlsValidate_iff h).2 (.inr hmistyped)⟩

end TwoFactorLogin
