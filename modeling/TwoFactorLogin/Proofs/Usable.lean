import Mathlib.Data.List.DropRight
import TwoFactorLogin.Proofs.Malformed
import TwoFactorLogin.Proofs.NotANumber
import TwoFactorLogin.Proofs.TimeLeft

/-!
# Accepted configurations

A configuration that is read from properties that are texts can be used for a login: every field has
the kind that a login needs, and its value is in bounds (`AuthSettings.ofProperties_usable`).

There is one gap. A timeout is refused if it is zero or less, and the double that is not a number is
neither. So a timeout is positive except if its property is one of the words for that double
(`Properties.IsTimeout`); with such a word it is accepted.
-/

namespace TwoFactorLogin

namespace Text

/-! ## Texts -/

theorem not_blank_of_mem_head?_dropWhile {cs : List Char} :
    ∀ c ∈ (cs.dropWhile isBlank).head?, isBlank c = false := by
  intro c hc
  have hnot := List.head?_dropWhile_not isBlank cs
  rwa [hc] at hnot

theorem trimmed_stripChars (cs : List Char) : Trimmed (stripChars cs) where
  head c hc := by
    -- What is cut off at the end does not change the first character.
    obtain ⟨post, hpost⟩ : stripChars cs <+: cs.dropWhile isBlank := List.rdropWhile_prefix _ _
    have hhead : c ∈ (cs.dropWhile isBlank).head? := by
      rw [← hpost, List.head?_append, hc]
      rfl
    exact not_blank_of_mem_head?_dropWhile c hhead
  last c hc := by
    rw [stripChars, List.getLast?_reverse] at hc
    exact not_blank_of_mem_head?_dropWhile c hc

/-- Between the occurrences of a character there is no occurrence. -/
theorem not_mem_of_mem_splitAt {sep : Char} {cs part : List Char} (h : part ∈ splitAt sep cs) :
    sep ∉ part := by
  induction cs generalizing part with
  | nil =>
    rw [List.mem_singleton.1 h]
    exact List.not_mem_nil
  | cons c cs ih =>
    unfold splitAt at h
    split at h
    · rcases List.mem_cons.1 h with rfl | h
      · exact List.not_mem_nil
      · exact ih h
    · rename_i hc
      split at h
      · rename_i first parts hparts
        rcases List.mem_cons.1 h with rfl | h
        · rw [List.mem_cons, not_or]
          exact ⟨fun hsep => hc hsep.symm, ih (by simp [hparts])⟩
        · exact ih (by simp [hparts, h])
      · rw [List.mem_singleton.1 h, List.mem_singleton]
        exact fun hsep => hc hsep.symm

theorem occursIn_iff {word cs : List Char} : occursIn word cs = true ↔ word <:+: cs := by
  induction cs with
  | nil => simp [occursIn]
  | cons c cs ih =>
    rw [occursIn, Bool.or_eq_true, ih, List.isPrefixOf_iff_prefix, List.infix_cons_iff]

end Text

open Text

/-! ## Results -/

section Except

variable {α β : Type}

theorem bind_eq_ok {x : Except Fault α} {f : α → Except Fault β} {b : β} :
    (x >>= f) = .ok b ↔ ∃ a, x = .ok a ∧ f a = .ok b := by
  cases x with
  | error => simp [bind, Except.bind]
  | ok => simp [bind, Except.bind]

theorem map_eq_ok_iff {x : Except Fault α} {f : α → β} {b : β} :
    x.map f = .ok b ↔ ∃ a, x = .ok a ∧ f a = b := by
  cases x <;> simp [Except.map]

theorem ite_eq_ok {p : Prop} [Decidable p] {fault : Fault} {a b : α} :
    (if p then .ok a else .error fault : Except Fault α) = .ok b ↔ p ∧ a = b := by
  split <;> simp [*]

theorem reportMalformed_eq_ok {r : Except Fault α} {a : α} :
    reportMalformed r = .ok a ↔ r = .ok a := by
  unfold reportMalformed
  split
  · split <;> simp
  · rfl

end Except

/-! ## Checks -/

theorem checkNonEmpty_eq_ok {field : String} {full : Bool} {u : Unit} :
    checkNonEmpty field full = .ok u ↔ full = true := by
  rw [checkNonEmpty, ite_eq_ok]
  simp

theorem checkPort_int {i : Int} {u : Unit} :
    checkPort (.int i) = .ok u ↔ 1 ≤ i ∧ i ≤ 65535 := by
  simp only [checkPort, Value.number?, ite_eq_ok, Bool.and_eq_true, Number.int_lt_int, and_true]
  omega

theorem checkTemplate_string {t : String} {u : Unit} :
    checkTemplate (.string t) = .ok u ↔ usernameMark <:+: t.toList := by
  simp only [checkTemplate, holdsUsernameMark, bind_eq_ok, ite_eq_ok, ← occursIn_iff]
  simp

/-- What a timeout is compared with; the double that is not a number is not at most zero. -/
theorem checkTimeout_double {d : Double} {n : Number} :
    checkTimeout (.double d) = .ok n ↔
      n = .double d ∧ (d = .nan ∨ Number.zero.lt (.double d) = true) := by
  have hle : (Number.double d).le (.int 0) = false ↔
      d = .nan ∨ Number.zero.lt (.double d) = true := by
    have hzero : (Number.int 0).exact = .finite false 0 := by simp [Number.exact]
    rw [Number.le, hzero]
    change d.le (.finite false 0) = false ↔ d = .nan ∨ (Double.finite false 0).lt d = true
    by_cases hd : d = .nan
    · simp [hd, Double.le]
    · rw [Double.le_eq_not_lt hd (by rintro ⟨⟩), Bool.not_eq_false', or_iff_right hd]
  rw [← hle, checkTimeout]
  simp only [Value.number?]
  split
  · rename_i hpositive
    simp [hpositive]
  · rename_i hpositive
    rw [Bool.not_eq_true] at hpositive
    simp [hpositive, eq_comm]

theorem checkBounds_int {field : String} {low : Nat} {high : Option Nat} {i : Int} {u : Unit} :
    checkBounds field low high (.int i) = .ok u ↔
      (low : Int) ≤ i ∧ ∀ h ∈ high, i ≤ (h : Int) := by
  simp only [checkBounds, Value.int?, ite_eq_ok, Bool.and_eq_true, decide_eq_true_eq, and_true]
  cases high <;> simp

/-- Arguments that pass make the settings that hold what was given, the attributes as a list and the
timeouts as numbers. -/
theorem DirectoryArguments.check_eq_ok {a : DirectoryArguments} {s : DirectorySettings} :
    a.check = .ok s ↔
      ∃ attributes connectTimeout receiveTimeout,
        attributeList a.usernameAttributes = .ok attributes ∧ attributes ≠ [] ∧
          a.userBaseDn.truthy = true ∧ a.hostname.truthy = true ∧ checkPort a.port = .ok () ∧
          checkTemplate a.userDnTemplate = .ok () ∧
          checkTimeout a.connectTimeout = .ok connectTimeout ∧
          checkTimeout a.receiveTimeout = .ok receiveTimeout ∧
          s = { a with usernameAttributes := attributes, connectTimeout, receiveTimeout } := by
  simp only [check, bind_eq_ok, checkNonEmpty_eq_ok]
  constructor
  · rintro ⟨attributes, hattributes, _, hbase, _, hhost, _, hne, _, hport, _, htemplate, connect,
      hconnect, receive, hreceive, hs⟩
    cases hs
    exact ⟨attributes, connect, receive, hattributes, by simpa using hne, hbase, hhost, hport,
      htemplate, hconnect, hreceive, rfl⟩
  · rintro ⟨attributes, connect, receive, hattributes, hne, hbase, hhost, hport, htemplate,
      hconnect, hreceive, rfl⟩
    exact ⟨attributes, hattributes, (), hbase, (), hhost, (), by simpa using hne, (), hport, (),
      htemplate, connect, hconnect, receive, hreceive, rfl⟩

/-! ## Properties that are texts -/

namespace Properties

variable {p : Properties} {name : String}

/-- Every property is a text, or null. -/
def Textual (p : Properties) : Prop := ∀ x ∈ p, x.2 = .null ∨ ∃ t, x.2 = .string t

/-- A property is one of the words for the double that is not a number. -/
def SpellsNan (p : Properties) (name : String) : Prop :=
  ∃ t, p.lookup name = some (.string t) ∧ (stripChars t.toList).map Char.toLower ∈ nanWords

/-- A property that is a text is read as the text without the blanks at its ends. -/
theorem get?_eq_string {t : String} :
    p.get? name = some (.string t) ↔
      ∃ raw, p.lookup name = some (.string raw) ∧ allBlank raw = false ∧ t = strip raw := by
  unfold get?
  split
  · rename_i raw hraw
    split
    · rename_i hblank
      simp [hraw, hblank]
    · rename_i hblank
      rw [Bool.not_eq_true] at hblank
      simp only [hraw, Option.some.injEq, Value.string.injEq, exists_eq_left', hblank, true_and]
      exact eq_comm
  · rename_i hnull
    simp [hnull]
  · rename_i hstring _
    exact iff_of_false (hstring t) fun ⟨raw, h, _⟩ => hstring raw h

theorem spellsNan_iff :
    p.SpellsNan name ↔ ∃ t, p.get? name = some (.string t) ∧ readDouble? t = some .nan := by
  have hword {raw : String} : readDouble? (strip raw) = some .nan ↔
      (stripChars raw.toList).map Char.toLower ∈ nanWords := by
    rw [readDouble?_eq_nan_iff, strip, String.toList_ofList, (trimmed_stripChars _).stripChars_eq]
  simp only [get?_eq_string]
  constructor
  · rintro ⟨raw, hraw, h⟩
    have hblank : allBlank raw = false := by
      rw [← Bool.not_eq_true]
      intro hblank
      rw [stripChars_of_allBlank hblank] at h
      exact absurd h (by decide)
    exact ⟨_, ⟨raw, hraw, hblank, rfl⟩, hword.2 h⟩
  · rintro ⟨_, ⟨raw, hraw, -, rfl⟩, h⟩
    exact ⟨raw, hraw, hword.1 h⟩

theorem getD_string (hp : p.Textual) (name absent : String) :
    ∃ t, (p.get? name).getD (.string absent) = .string t := by
  cases h : p.get? name with
  | none => exact ⟨absent, rfl⟩
  | some v => exact get?_text hp h

theorem getD_null (hp : p.Textual) (name : String) :
    (p.get? name).getD .null = .null ∨ ∃ t, (p.get? name).getD .null = .string t := by
  cases h : p.get? name with
  | none => exact .inl rfl
  | some v => exact .inr (get?_text hp h)

theorem readInteger_string {t : String} {i : Int} :
    readInteger name (.string t) = .ok i ↔ readInt? t = some i := by
  cases h : readInt? t <;> simp [readInteger, h]

theorem readSeconds_string {t : String} {d : Double} :
    readSeconds (.string t) = .ok d ↔ readDouble? t = some d := by
  cases h : readDouble? t <;> simp [readSeconds, h]

theorem getInteger_of_textual (hp : p.Textual) {absent v : Value}
    (h : p.getInteger name absent = .ok v) :
    (p.get? name = none ∧ v = absent) ∨
      ∃ t i, p.get? name = some (.string t) ∧ readInt? t = some i ∧ v = .int i := by
  unfold getInteger at h
  split at h
  · rename_i w hw
    obtain ⟨t, rfl⟩ := get?_text hp hw
    obtain ⟨i, hi, rfl⟩ := map_eq_ok_iff.1 h
    exact .inr ⟨t, i, hw, readInteger_string.1 hi, rfl⟩
  · rename_i hnone
    cases h
    exact .inl ⟨hnone, rfl⟩

theorem getSeconds_of_textual (hp : p.Textual) {v : Value} (h : p.getSeconds name = .ok v) :
    (p.get? name = none ∧ v = .double (.ofInt 10)) ∨
      ∃ t d, p.get? name = some (.string t) ∧ readDouble? t = some d ∧ v = .double d := by
  unfold getSeconds at h
  split at h
  · rename_i w hw
    obtain ⟨t, rfl⟩ := get?_text hp hw
    obtain ⟨d, hd, rfl⟩ := map_eq_ok_iff.1 h
    exact .inr ⟨t, d, hw, readSeconds_string.1 hd, rfl⟩
  · rename_i hnone
    cases h
    exact .inl ⟨hnone, rfl⟩

/-- A timeout as it comes from a property: positive, unless the property is a word for the double
that is not a number. -/
structure IsTimeout (p : Properties) (name : String) (n : Number) : Prop where
  nan_iff : n = .double .nan ↔ p.SpellsNan name
  pos (h : n ≠ .double .nan) : Number.zero.lt n = true

theorem isTimeout (hp : p.Textual) {v : Value} {n : Number} (hv : p.getSeconds name = .ok v)
    (hn : checkTimeout v = .ok n) : p.IsTimeout name n := by
  obtain ⟨d, rfl, hd⟩ : ∃ d, v = .double d ∧ (d = .nan ↔ p.SpellsNan name) := by
    rw [spellsNan_iff]
    obtain ⟨hnone, rfl⟩ | ⟨t, d, ht, hd, rfl⟩ := getSeconds_of_textual hp hv
    · exact ⟨_, rfl, iff_of_false (Double.ofUnits_ne_nan _ _ _) (by simp [hnone])⟩
    · exact ⟨d, rfl, by simp [ht, hd]⟩
  obtain ⟨rfl, hpos⟩ := checkTimeout_double.1 hn
  exact ⟨by rw [Number.double.injEq, hd], fun hne => hpos.resolve_left fun h => hne (by rw [h])⟩

end Properties

/-! ## The directory -/

/-- A text can be the name of an attribute: it is not empty, without blanks at its ends and without
a comma. -/
structure IsAttributeName (a : String) : Prop where
  ne_empty : a ≠ ""
  trimmed : Trimmed a.toList
  no_comma : ',' ∉ a.toList

theorem isAttributeName_of_mem {t a : String}
    (h : a ∈ attributeNames ((splitAt ',' t.toList).map String.ofList)) : IsAttributeName a := by
  simp only [attributeNames, List.map_map, List.mem_filter, List.mem_map, Function.comp_apply,
    Bool.not_eq_true', String.isEmpty_eq_false_iff] at h
  obtain ⟨⟨part, hpart, rfl⟩, hne⟩ := h
  refine ⟨hne, ?_, fun hcomma => not_mem_of_mem_splitAt hpart ?_⟩
  · rw [strip, String.toList_ofList]
    exact trimmed_stripChars _
  · obtain ⟨pre, post, hsplit, -, -⟩ := stripChars_split part
    rw [strip, String.toList_ofList, String.toList_ofList] at hcomma
    rw [hsplit]
    simp [hcomma]

/-- A port as it comes from a property: what the property spells, or else the conventional one. -/
structure Properties.IsPort (p : Properties) (mode : EncryptionMode) (port : Int) : Prop where
  one_le : 1 ≤ port
  le : port ≤ 65535
  given {t : String} (h : p.get? "ldap-port" = some (.string t)) : readInt? t = some port
  absent (h : p.get? "ldap-port" = none) : port = if mode = .implicitTls then 636 else 389

/-- The settings of a directory can be used for a login. -/
structure DirectorySettings.Usable (p : Properties) (s : DirectorySettings) : Prop where
  userBaseDn : ∃ t, s.userBaseDn = .string t ∧ t ≠ ""
  hostname : ∃ t, s.hostname = .string t ∧ t ≠ ""
  port : ∃ port, s.effectivePort = .int port ∧ p.IsPort s.encryption port
  connectTimeout : p.IsTimeout "ldap-connect-timeout" s.connectTimeout
  receiveTimeout : p.IsTimeout "ldap-receive-timeout" s.receiveTimeout
  attributes_ne : s.usernameAttributes ≠ []
  attributes : ∀ a ∈ s.usernameAttributes, IsAttributeName a
  template : s.userDnTemplate = .null ∨
    ∃ t, s.userDnTemplate = .string t ∧ usernameMark <:+: t.toList
  /-- Every field has the kind that a login needs. -/
  config : ∃ c, s.config? = some c

namespace DirectorySettings

theorem textField?_of_textual {v : Value} (h : v = .null ∨ ∃ t, v = .string t) :
    ∃ o, textField? v = some o := by
  obtain rfl | ⟨t, rfl⟩ := h
  · exact ⟨none, rfl⟩
  · exact ⟨some t, rfl⟩

/-- Two fields of the configuration of a login, in terms of the settings it is made from. -/
theorem of_config? {s : DirectorySettings} {c : DirectoryConfig} (h : s.config? = some c) :
    textField? s.userDnTemplate = some c.userDnTemplate ∧
      c.tlsValidate = s.tlsValidate.truthy := by
  unfold config? at h
  split at h
  · split at h
    · split at h
      · simp only [Option.bind_eq_bind, Option.bind_eq_some_iff] at h
        obtain ⟨port, -, dn, -, password, -, template, htemplate, bundle, -, h⟩ := h
        split at h
        · cases h
        · cases h
          exact ⟨htemplate, rfl⟩
      · cases h
    · cases h
  · cases h

theorem effectivePort_isPort {p : Properties} (hp : p.Textual) {s : DirectorySettings}
    (h : p.getInteger "ldap-port" .null = .ok s.port) (hinside : checkPort s.port = .ok ()) :
    ∃ port, s.effectivePort = .int port ∧ p.IsPort s.encryption port := by
  unfold effectivePort
  obtain ⟨hnone, hs⟩ | ⟨t, i, ht, hi, hs⟩ := Properties.getInteger_of_textual hp h
  · rw [hs]
    have hbounds : 1 ≤ s.encryption.defaultPort ∧ s.encryption.defaultPort ≤ 65535 := by
      cases s.encryption <;> decide
    refine ⟨s.encryption.defaultPort, rfl, by omega, by omega, by simp [hnone], fun _ => ?_⟩
    cases s.encryption <;> rfl
  · rw [hs] at hinside ⊢
    obtain ⟨hpos, hle⟩ := checkPort_int.1 hinside
    refine ⟨i, rfl, hpos, hle, fun ht' => ?_, by simp [ht]⟩
    rw [ht, Option.some.injEq, Value.string.injEq] at ht'
    rw [← ht', hi]

end DirectorySettings

theorem Properties.directorySettings_usable {p : Properties} (hp : p.Textual) {base : String}
    {s : DirectorySettings} (h : p.directorySettings (.string base) = .ok s) : s.Usable p := by
  simp only [directorySettings, bind_eq_ok, DirectoryArguments.check_eq_ok] at h
  obtain ⟨port, hport, mode, -, tls, -, connect, hconnect, receive, hreceive, attributes,
    connectTimeout, receiveTimeout, hattributes, hne, hbase, hhost, hinside, htemplate, hconnect',
    hreceive', rfl⟩ := h
  obtain ⟨host, hhostname⟩ := getD_string hp "ldap-hostname" "localhost"
  obtain ⟨listed, hlisted⟩ := getD_string hp "ldap-username-attribute" "uid"
  obtain ⟨filter, hfilter⟩ := getD_string hp "ldap-user-search-filter" "(objectClass=*)"
  rw [hhostname] at hhost
  rw [hlisted] at hattributes
  cases hattributes
  refine {
    userBaseDn := ⟨base, rfl, by simpa [Value.truthy] using hbase⟩
    hostname := ⟨host, hhostname, by simpa [Value.truthy] using hhost⟩
    port := DirectorySettings.effectivePort_isPort hp hport hinside
    connectTimeout := isTimeout hp hconnect hconnect'
    receiveTimeout := isTimeout hp hreceive hreceive'
    attributes_ne := hne
    attributes := fun _ ha => isAttributeName_of_mem ha
    template := ?_
    config := ?_ }
  · obtain hnull | ⟨t, ht⟩ := getD_null hp "ldap-user-dn-template"
    · exact .inl hnull
    · rw [ht] at htemplate
      exact .inr ⟨t, ht, checkTemplate_string.1 htemplate⟩
  · -- Also the fields that no check looks at are texts or null, and a login asks for no more.
    have htext (name : String) := DirectorySettings.textField?_of_textual (getD_null hp name)
    obtain ⟨dn, hdn⟩ := htext "ldap-search-bind-dn"
    obtain ⟨password, hpassword⟩ := htext "ldap-search-bind-password"
    obtain ⟨template, htemplate'⟩ := htext "ldap-user-dn-template"
    obtain ⟨bundle, hbundle⟩ := htext "ldap-ca-certs-file"
    obtain ⟨given, hgiven⟩ : ∃ o, DirectorySettings.portField? port = some o := by
      obtain ⟨-, rfl⟩ | ⟨t, i, -, -, rfl⟩ := getInteger_of_textual hp hport
      · exact ⟨none, rfl⟩
      · exact ⟨some i.toNat, rfl⟩
    simp [DirectorySettings.config?, hhostname, hfilter, hgiven, hdn, hpassword, htemplate',
      hbundle, hne]

/-! ## The second factor -/

/-- The settings of the second factor can be used for a login. -/
structure SecondFactorSettings.Usable (s : SecondFactorSettings) : Prop where
  digits : ∃ i, s.digits = .int i ∧ 6 ≤ i ∧ i ≤ 8
  timeStep : ∃ i, s.timeStep = .int i ∧ 1 ≤ i
  window : ∃ i, s.window = .int i ∧ 0 ≤ i ∧ i ≤ 3
  /-- Every field has the kind that a login needs. -/
  config : ∃ c, s.config? = some c

/-- Settings that are integers can be used if they pass the checks. -/
theorem SecondFactorSettings.usable_of_check {s : SecondFactorSettings}
    {digits timeStep window : Int} (hdigits : s.digits = .int digits)
    (htimeStep : s.timeStep = .int timeStep) (hwindow : s.window = .int window)
    (h : s.check = .ok ()) : s.Usable := by
  simp only [check, bind_eq_ok, hdigits, htimeStep, hwindow, checkBounds_int, Option.mem_def,
    Option.some.injEq, forall_eq', reduceCtorEq, false_implies, implies_true, and_true,
    maxWindow] at h
  obtain ⟨-, hd, -, ht, hw⟩ := h
  have hconfig : (6 ≤ digits.toNat ∧ digits.toNat ≤ 8) ∧ 0 < timeStep.toNat ∧
      window.toNat ≤ maxWindow := by
    unfold maxWindow
    omega
  refine ⟨⟨digits, hdigits, by omega⟩, ⟨timeStep, htimeStep, by omega⟩, ⟨window, hwindow, by omega⟩,
    ?_⟩
  simp only [config?, hdigits, htimeStep, hwindow, Value.int?, Option.bind_eq_bind,
    Option.bind_some]
  rw [dif_pos hconfig]
  exact ⟨_, rfl⟩

namespace Properties

variable {p : Properties}

theorem getInteger_int (hp : p.Textual) {name : String} {absent : Int} {v : Value}
    (h : p.getInteger name (.int absent) = .ok v) : ∃ i, v = .int i := by
  obtain ⟨-, rfl⟩ | ⟨_, i, -, -, rfl⟩ := getInteger_of_textual hp h
  · exact ⟨absent, rfl⟩
  · exact ⟨i, rfl⟩

theorem secondFactorSettings_usable (hp : p.Textual) {s : SecondFactorSettings}
    (h : p.secondFactorSettings = .ok s) : s.Usable := by
  simp only [secondFactorSettings, bind_eq_ok] at h
  obtain ⟨digits, hdigits, timeStep, htimeStep, window, hwindow, bypass, -, _, hcheck, hs⟩ := h
  obtain ⟨d, rfl⟩ := getInteger_int hp hdigits
  obtain ⟨t, rfl⟩ := getInteger_int hp htimeStep
  obtain ⟨w, rfl⟩ := getInteger_int hp hwindow
  cases hs
  exact SecondFactorSettings.usable_of_check rfl rfl rfl hcheck

end Properties

/-! ## The configuration as a whole -/

namespace AuthSettings

/-- A configuration can be used for a login. -/
structure Usable (p : Properties) (s : AuthSettings) : Prop where
  directory : s.directory.Usable p
  secondFactor : s.secondFactor.Usable
  /-- A login finds all that it needs. -/
  config : ∃ c, s.config? = some c

/-- Every configuration that is accepted can be used. -/
theorem ofProperties_usable {p : Properties} (hp : p.Textual) {s : AuthSettings}
    (h : ofProperties p = .ok s) : s.Usable p := by
  unfold ofProperties at h
  split at h
  · cases h
  · rename_i base hbase
    obtain ⟨t, rfl⟩ := Properties.get?_text hp hbase
    rw [reportMalformed_eq_ok] at h
    simp only [bind_eq_ok] at h
    obtain ⟨directory, hd, secondFactor, hf, hs⟩ := h
    cases hs
    have hdirectory := Properties.directorySettings_usable hp hd
    have hfactor := Properties.secondFactorSettings_usable hp hf
    obtain ⟨c, hc⟩ := hdirectory.config
    obtain ⟨f, hf'⟩ := hfactor.config
    exact ⟨hdirectory, hfactor, ⟨c, f⟩, by simp [config?, hc, hf']⟩

end AuthSettings

/-- Properties with a word for the double that is not a number in the place of a timeout. -/
def Properties.wordForTimeout : Properties :=
  [("ldap-user-base-dn", .string "ou=people,dc=example,dc=com"),
   ("ldap-connect-timeout", .string " NaN ")]

theorem AuthSettings.usable_wordForTimeout :
    ∃ s, ofProperties .wordForTimeout = .ok s ∧ s.directory.connectTimeout = .double .nan ∧
      Number.zero.lt s.directory.receiveTimeout = true := by
  have hp : Properties.wordForTimeout.Textual := by
    simp [Properties.Textual, Properties.wordForTimeout]
  have hok : (ofProperties .wordForTimeout).toBool = true := by decide +kernel
  cases h : ofProperties .wordForTimeout with
  | error fault => simp [h, Except.toBool] at hok
  | ok s =>
    have hs := ofProperties_usable hp h
    have hword : Properties.wordForTimeout.SpellsNan "ldap-connect-timeout" :=
      ⟨" NaN ", rfl, by decide⟩
    refine ⟨s, rfl, hs.directory.connectTimeout.nan_iff.2 hword, hs.directory.receiveTimeout.pos ?_⟩
    rw [Ne, hs.directory.receiveTimeout.nan_iff]
    rintro ⟨t, ht, -⟩
    cases ht

end TwoFactorLogin
