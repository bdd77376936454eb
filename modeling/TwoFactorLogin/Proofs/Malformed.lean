import TwoFactorLogin.Config.Properties
import TwoFactorLogin.Proofs.Reckoning

/-!
# Malformed properties

Reading a configuration from properties reports a property that is missing or malformed as a fault
of the configuration, with four exceptions. These faults come out as they are:

* an infinite number in the place of an integer;
* a timeout that is an integer beyond every double;
* a word for the encryption that is no text, unless it counts as false;
* an item among the username attributes that is no text, unless it counts as false.

**The order** (`directoryReadings`, `secondFactorReadings`). Properties are read one after another,
and the first fault counts. So such a property breaks the reading only if everything in front of it
is read, and, for the second factor, the directory settings pass all their checks.

Main statement: `AuthSettings.ofProperties_failsProperly`.
-/

namespace TwoFactorLogin

/-! ## Faults that come out -/

/-- A fault that is not of the configuration, and is not reported as one. -/
def Fault.Escapes (fault : Fault) : Prop :=
  fault.kind ≠ .own .configuration ∧ ∀ cause, fault = .value cause → cause.kind.isMalformed = false

namespace Fault

theorem not_escapes_configuration (cause : ConfigurationError) : ¬ (configuration cause).Escapes :=
  fun h => h.1 rfl

theorem not_escapes_value {cause : ValueFault} (h : cause.kind.isMalformed = true) :
    ¬ (value cause).Escapes :=
  fun hf => Bool.false_ne_true ((hf.2 cause rfl).symm.trans h)

/-- Neither a refused value nor one that is too long to be shown escapes. -/
theorem not_escapes_refusal (shown : Value) (cause : ConfigurationError) :
    ¬ (refusal shown cause).Escapes := by
  unfold refusal
  split
  · exact not_escapes_configuration cause
  · exact not_escapes_value rfl

theorem ne_of_escapes {fault other : Fault} (h : ¬ other.Escapes) (hf : fault.Escapes) :
    other ≠ fault := by
  rintro rfl
  exact h hf

end Fault

/-- Faults of values are reported as faults of the configuration, unless they escape. -/
theorem reportMalformed_eq_error {α : Type} {r : Except Fault α} {fault : Fault} :
    (reportMalformed r = .error fault ∧ fault.kind ≠ .own .configuration) ↔
      r = .error fault ∧ fault.Escapes := by
  constructor
  · rintro ⟨h, hkind⟩
    unfold reportMalformed at h
    split at h
    · split at h
      · cases h
        exact absurd rfl hkind
      · rename_i hplain
        cases h
        exact ⟨rfl, hkind, by rintro _ ⟨⟩; simpa using hplain⟩
    · rename_i hvalue
      exact ⟨h, hkind, fun cause hcause => absurd (hcause ▸ h) (hvalue cause)⟩
  · rintro ⟨rfl, hf⟩
    refine ⟨?_, hf.1⟩
    cases fault with
    | value cause => simp [reportMalformed, hf.2 cause rfl]
    | _ => rfl

/-- A result that is no fault, or one that does not escape. -/
def Plain {α : Type} (r : Except Fault α) : Prop := ∀ fault, r = .error fault → ¬ fault.Escapes

section Except

variable {α β : Type} {fault : Fault}

theorem Plain.ne_error {r : Except Fault α} (h : Plain r) (hf : fault.Escapes) :
    r ≠ .error fault :=
  fun hr => h fault hr hf

theorem plain_ok (a : α) : Plain (.ok a) := by
  rintro _ ⟨⟩

theorem plain_error (h : ¬ fault.Escapes) : Plain (.error fault : Except Fault α) := by
  rintro _ ⟨⟩
  exact h

theorem bind_eq_error {x : Except Fault α} {f : α → Except Fault β} :
    (x >>= f) = .error fault ↔ x = .error fault ∨ ∃ a, x = .ok a ∧ f a = .error fault := by
  cases x with
  | error => simp [bind, Except.bind]
  | ok => simp [bind, Except.bind]

theorem Plain.bind {x : Except Fault α} {f : α → Except Fault β} (hx : Plain x)
    (hf : ∀ a, Plain (f a)) : Plain (x >>= f) := by
  intro fault h
  obtain h | ⟨a, -, h⟩ := bind_eq_error.1 h
  · exact hx fault h
  · exact hf a fault h

theorem Plain.ite {x y : Except Fault α} {p : Prop} [Decidable p] (hx : Plain x) (hy : Plain y) :
    Plain (if p then x else y) := by
  split
  · exact hx
  · exact hy

/-- What is plain adds no fault that escapes. -/
theorem bind_plain_eq_error (hfault : fault.Escapes) {x : Except Fault α}
    {f : α → Except Fault β} (hf : ∀ a, Plain (f a)) :
    (x >>= f) = .error fault ↔ x = .error fault := by
  rw [bind_eq_error, or_iff_left]
  rintro ⟨a, -, h⟩
  exact (hf a).ne_error hfault h

theorem map_eq_error {x : Except Fault α} {f : α → β} :
    x.map f = .error fault ↔ x = .error fault := by
  cases x <;> simp [Except.map]

theorem map_eq_ok {x : Except Fault α} {f : α → β} :
    (∃ b, x.map f = .ok b) ↔ ∃ a, x = .ok a := by
  cases x <;> simp [Except.map]

end Except

/-! ## Checks

None of the checks of settings has a fault that escapes. -/

theorem plain_checkNonEmpty (field : String) (full : Bool) : Plain (checkNonEmpty field full) :=
  .ite (plain_ok _) (plain_error (Fault.not_escapes_configuration _))

theorem plain_checkPort (v : Value) : Plain (checkPort v) := by
  unfold checkPort
  split
  · exact plain_ok _
  · split
    · exact .ite (plain_ok _) (plain_error (Fault.not_escapes_refusal _ _))
    · exact plain_error (Fault.not_escapes_value rfl)

theorem plain_holdsUsernameMark (v : Value) : Plain (holdsUsernameMark v) := by
  cases v with
  | string | array | object => exact plain_ok _
  | _ => exact plain_error (Fault.not_escapes_value rfl)

theorem plain_checkTemplate (v : Value) : Plain (checkTemplate v) := by
  unfold checkTemplate
  split
  · exact plain_ok _
  · exact (plain_holdsUsernameMark _).bind fun held =>
      .ite (plain_ok _) (plain_error (Fault.not_escapes_configuration _))

theorem plain_checkTimeout (v : Value) : Plain (checkTimeout v) := by
  unfold checkTimeout
  split
  · exact .ite (plain_error (Fault.not_escapes_configuration _)) (plain_ok _)
  · exact plain_error (Fault.not_escapes_value rfl)

theorem plain_checkBounds (field : String) (low : Nat) (high : Option Nat) (v : Value) :
    Plain (checkBounds field low high v) :=
  .ite (plain_ok _) (plain_error (Fault.not_escapes_refusal _ _))

theorem SecondFactorSettings.plain_check (s : SecondFactorSettings) : Plain s.check :=
  (plain_checkBounds _ _ _ _).bind fun _ => (plain_checkBounds _ _ _ _).bind fun _ =>
    plain_checkBounds _ _ _ _

/-- Checking the arguments of a directory breaks only at its username attributes. -/
theorem DirectoryArguments.check_eq_error {fault : Fault} (hf : fault.Escapes)
    (a : DirectoryArguments) :
    a.check = .error fault ↔ attributeList a.usernameAttributes = .error fault :=
  bind_plain_eq_error hf fun _ => (plain_checkNonEmpty _ _).bind fun _ =>
    (plain_checkNonEmpty _ _).bind fun _ => (plain_checkNonEmpty _ _).bind fun _ =>
      (plain_checkPort _).bind fun _ => (plain_checkTemplate _).bind fun _ =>
        (plain_checkTimeout _).bind fun _ => (plain_checkTimeout _).bind fun _ => plain_ok _

/-! ## Values -/

/-- A value that is a text, or counts as false. -/
def Value.TextOrFalse (v : Value) : Prop := v.truthy = true → ∃ s, v = .string s

/-- An integer that fits into 64 bits is not beyond every double. -/
theorem Number.toDouble?_of_lt {i : Int} (h : i.natAbs < 2 ^ 64) :
    ∃ x, (int i).toDouble? = some x := by
  have hround := Double.roundTo_le (show 0 < 53 by decide) (i.natAbs * Double.unitsPerOne) 1
  have hlimit := Double.mul_unitsPerOne_lt h
  have hlt : Double.roundUnits (i.natAbs * Double.unitsPerOne) 1 < Double.unitLimit := by
    unfold Double.roundUnits
    omega
  rw [toDouble?, Double.ofInt, Double.ofUnits_of_lt hlt]
  exact ⟨_, rfl⟩

section Values

variable {fault : Fault}

/-- A word that is a text is looked up, and an unknown one is reported. -/
theorem EncryptionMode.ofWord_eq_error (hf : fault.Escapes) {v : Value} :
    ofWord v = .error fault ↔ ¬ v.TextOrFalse ∧ fault = .value (.notText v) := by
  have hunknown : Fault.configuration (.unknownEncryption v) ≠ fault :=
    Fault.ne_of_escapes (Fault.not_escapes_configuration _) hf
  unfold ofWord
  split
  · split
    · simp [Value.TextOrFalse]
    · simpa [Value.TextOrFalse] using hunknown
  · rename_i hs
    have htext : ¬ ∃ s, v = .string s := fun ⟨s, h⟩ => hs s h
    split
    · rename_i hv
      simp [Value.TextOrFalse, hv, htext, eq_comm]
    · rename_i hv
      simpa [Value.TextOrFalse, hv] using hunknown

theorem attributeItems_cons_eq_error {v : Value} {rest : List Value} :
    attributeItems (v :: rest) = .error fault ↔
      (¬ v.TextOrFalse ∧ fault = .value (.notText v)) ∨
        v.TextOrFalse ∧ attributeItems rest = .error fault := by
  by_cases htext : ∃ s, v = .string s
  · obtain ⟨s, rfl⟩ := htext
    simp [attributeItems, map_eq_error, Value.TextOrFalse]
  · rw [attributeItems.eq_3 v rest fun s h => htext ⟨s, h⟩]
    split
    · rename_i hv
      simp [Value.TextOrFalse, hv, htext, eq_comm]
    · rename_i hv
      simp [Value.TextOrFalse, hv]

/-- The first item that is neither a text nor false breaks a list of attributes. -/
theorem attributeItems_eq_error {items : List Value} :
    attributeItems items = .error fault ↔
      ∃ pre v post, items = pre ++ v :: post ∧ (∀ u ∈ pre, u.TextOrFalse) ∧ ¬ v.TextOrFalse ∧
        fault = .value (.notText v) := by
  induction items with
  | nil => simp [attributeItems]
  | cons v rest ih =>
    rw [attributeItems_cons_eq_error, ih]
    constructor
    · rintro (⟨hv, rfl⟩ | ⟨hv, pre, u, post, rfl, hpre, hu, rfl⟩)
      · exact ⟨[], v, rest, rfl, by simp, hv, rfl⟩
      · exact ⟨v :: pre, u, post, rfl, by simpa [hv] using hpre, hu, rfl⟩
    · rintro ⟨_ | ⟨u, pre⟩, u', post, h, hpre, hu, rfl⟩
      · obtain ⟨rfl, rfl⟩ := List.cons.inj h
        exact .inl ⟨hu, rfl⟩
      · obtain ⟨rfl, rfl⟩ := List.cons.inj h
        exact .inr ⟨hpre _ (by simp), pre, u', post, rfl, fun w hw => hpre w (by simp [hw]), hu, rfl⟩

/-- A value that has no items at all is reported; what is no text is not, as an item. -/
theorem attributeList_eq_error (hf : fault.Escapes) {v : Value} :
    attributeList v = .error fault ↔
      ∃ items, v = .array items ∧ attributeItems items = .error fault := by
  have hiterable : Fault.value (.notIterable v) ≠ fault :=
    Fault.ne_of_escapes (Fault.not_escapes_value rfl) hf
  cases v with
  | array items => simp [attributeList]
  | string | object => simp [attributeList]
  | _ => simpa [attributeList] using hiterable

end Values

/-! ## Readings -/

namespace Properties

variable {p : Properties} {fault : Fault}

/-- One of the properties that are read. -/
inductive Reading where
  | integer (name : String)
  | encryption
  | switch (name : String)
  | seconds (name : String)
  | attributes

/-- What is read on the way to the directory settings, in this order. -/
def directoryReadings : List Reading :=
  [.integer "ldap-port", .encryption, .switch "ldap-tls-validate", .seconds "ldap-connect-timeout",
   .seconds "ldap-receive-timeout", .attributes]

/-- What is read on the way to the second-factor settings, in this order. -/
def secondFactorReadings : List Reading :=
  [.integer "totp-digits", .integer "totp-period", .integer "totp-window",
   .switch "totp-allow-disabled-bypass"]

/-- A property is read without a fault, or has its default. -/
def Reads (p : Properties) : Reading → Prop
  | .integer name => ∀ v, p.get? name = some v → ∃ i, readInteger name v = .ok i
  | .encryption => ∃ mode,
    EncryptionMode.ofWord ((p.get? "ldap-encryption-method").getD (.string "none")) = .ok mode
  | .switch name => ∀ v, p.get? name = some v → v.isWritable = true
  | .seconds name => ∀ v, p.get? name = some v → ∃ d, readSeconds v = .ok d
  | .attributes => ∃ names,
    attributeList ((p.get? "ldap-username-attribute").getD (.string "uid")) = .ok names

/-- A property breaks its reading: the fault comes out as it is. -/
inductive Breaks (p : Properties) : Reading → Fault → Prop where
  | infinite {name : String} {negative : Bool}
    (h : p.get? name = some (.double (.infinity negative))) :
    Breaks p (.integer name) (.value .infinityToInteger)
  | noWord {v : Value} (h : p.get? "ldap-encryption-method" = some v) (hv : ¬ v.TextOrFalse) :
    Breaks p .encryption (.value (.notText v))
  | tooLarge {name : String} {i : Int} (h : p.get? name = some (.int i))
    (hi : (Number.int i).toDouble? = none) : Breaks p (.seconds name) (.value .integerTooLarge)
  | noName {pre post : List Value} {v : Value}
    (h : p.get? "ldap-username-attribute" = some (.array (pre ++ v :: post)))
    (hpre : ∀ u ∈ pre, u.TextOrFalse) (hv : ¬ v.TextOrFalse) :
    Breaks p .attributes (.value (.notText v))

/-- A property breaks its reading, and those in front of it are read. -/
def BreaksAt (p : Properties) (readings : List Reading) (fault : Fault) : Prop :=
  ∃ pre r post, readings = pre ++ r :: post ∧ (∀ q ∈ pre, p.Reads q) ∧ p.Breaks r fault

theorem breaksAt_nil : ¬ p.BreaksAt [] fault := by
  rintro ⟨pre, r, post, h, -, -⟩
  simp at h

theorem breaksAt_cons {r : Reading} {readings : List Reading} :
    p.BreaksAt (r :: readings) fault ↔
      p.Breaks r fault ∨ p.Reads r ∧ p.BreaksAt readings fault := by
  constructor
  · rintro ⟨_ | ⟨q, pre⟩, r', post, h, hpre, hr⟩
    · obtain ⟨rfl, rfl⟩ := List.cons.inj h
      exact .inl hr
    · obtain ⟨rfl, rfl⟩ := List.cons.inj h
      exact .inr ⟨hpre _ (by simp), pre, r', post, rfl, fun q hq => hpre q (by simp [hq]), hr⟩
  · rintro (h | ⟨hr, pre, r', post, rfl, hpre, h⟩)
    · exact ⟨[], r, readings, rfl, by simp, h⟩
    · exact ⟨r :: pre, r', post, rfl, by simpa [hr] using hpre, h⟩

/-- The four ways to break a reading have two kinds of fault between them. -/
theorem Breaks.kind_eq {r : Reading} (h : p.Breaks r fault) :
    fault.kind = .overflow ∨ fault.kind = .missingPart := by
  cases h
  · exact .inl rfl
  · exact .inr rfl
  · exact .inl rfl
  · exact .inr rfl

theorem Breaks.escapes {r : Reading} (h : p.Breaks r fault) : fault.Escapes := by
  cases h <;> exact ⟨by rintro ⟨⟩, by rintro _ ⟨⟩; rfl⟩

/-! ## One reading at a time -/

/-- The number that is none is reported, an infinite one is not. -/
theorem readInteger_eq_error (hf : fault.Escapes) {name : String} {v : Value} :
    readInteger name v = .error fault ↔
      (∃ negative, v = .double (.infinity negative)) ∧ fault = .value .infinityToInteger := by
  have hrefused : Fault.refusal v (.notInteger name v) ≠ fault :=
    Fault.ne_of_escapes (Fault.not_escapes_refusal _ _) hf
  cases v with
  | double d =>
    cases d with
    | infinity negative => simp [readInteger, Double.truncate, eq_comm]
    | nan => simpa [readInteger, Double.truncate] using hrefused
    | finite negative units => simp [readInteger, Double.truncate]
  | string s =>
    cases hs : readInt? s with
    | none => simpa [readInteger, hs] using hrefused
    | some i => simp [readInteger, hs]
  | int i => simp [readInteger]
  | bool b => simp [readInteger]
  | _ => simpa [readInteger] using hrefused

theorem getInteger_eq_error (hf : fault.Escapes) {name : String} {absent : Value} :
    p.getInteger name absent = .error fault ↔ p.Breaks (.integer name) fault := by
  constructor
  · intro h
    unfold getInteger at h
    split at h
    · rename_i v hv
      obtain ⟨⟨negative, rfl⟩, rfl⟩ := (readInteger_eq_error hf).1 (map_eq_error.1 h)
      exact .infinite hv
    · cases h
  · rintro ⟨h⟩
    simp only [getInteger, h]
    rfl

theorem getInteger_eq_ok {name : String} {absent : Value} :
    (∃ v, p.getInteger name absent = .ok v) ↔ p.Reads (.integer name) := by
  simp only [Reads, getInteger]
  cases p.get? name with
  | none => simp
  | some v => simp [map_eq_ok]

theorem encryption_eq_error (hf : fault.Escapes) :
    EncryptionMode.ofWord ((p.get? "ldap-encryption-method").getD (.string "none")) =
      .error fault ↔ p.Breaks .encryption fault := by
  rw [EncryptionMode.ofWord_eq_error hf]
  constructor
  · rintro ⟨hv, rfl⟩
    cases hp : p.get? "ldap-encryption-method" with
    | none => simp [hp, Value.TextOrFalse] at hv
    | some v => exact .noWord hp (by simpa [hp] using hv)
  · intro h
    cases h with
    | noWord h hv => simpa [h] using hv

/-- A switch is read by the text of its value. Only an integer that is too long to be written has
none, and that is reported. -/
theorem plain_getSwitch (p : Properties) (name : String) (absent : Bool) :
    Plain (p.getSwitch name absent) := by
  unfold getSwitch
  split
  · exact plain_ok _
  · split
    · exact plain_ok _
    · exact plain_error (Fault.not_escapes_value rfl)
  · exact plain_ok _

theorem getSwitch_eq_ok {name : String} {absent : Bool} :
    (∃ b, p.getSwitch name absent = .ok b) ↔ p.Reads (.switch name) := by
  simp only [Reads, getSwitch]
  split
  · rename_i b h
    simp [h, Value.isWritable]
  · rename_i v hv h
    simp only [h, Option.some.injEq, forall_eq']
    split <;> simp [*]
  · rename_i h
    simp [h]

theorem orTooLarge_eq_error {r : Option Double} :
    Fault.orTooLarge r = .error fault ↔ r = none ∧ fault = .value .integerTooLarge := by
  cases r <;> simp [Fault.orTooLarge, eq_comm]

/-- An integer can be too large; a text of as many digits reads as an infinite number. -/
theorem readSeconds_eq_error (hf : fault.Escapes) {v : Value} :
    readSeconds v = .error fault ↔
      ∃ i, v = .int i ∧ (Number.int i).toDouble? = none ∧ fault = .value .integerTooLarge := by
  have hnumeric : Fault.value (.notNumeric v) ≠ fault :=
    Fault.ne_of_escapes (Fault.not_escapes_value rfl) hf
  cases v with
  | string s =>
    cases hs : readDouble? s with
    | none =>
      have hdecimal : Fault.value (.notDecimal s) ≠ fault :=
        Fault.ne_of_escapes (Fault.not_escapes_value rfl) hf
      simpa [readSeconds, hs] using hdecimal
    | some d => simp [readSeconds, hs]
  | int i =>
    change Fault.orTooLarge (Number.int i).toDouble? = _ ↔ _
    rw [orTooLarge_eq_error]
    constructor
    · exact fun h => ⟨i, rfl, h⟩
    · rintro ⟨j, ⟨⟩, h⟩
      exact h
  | bool b =>
    have hsmall : (if b then 1 else 0 : Int).natAbs < 2 ^ 64 := by cases b <;> decide
    obtain ⟨d, hd⟩ := Number.toDouble?_of_lt hsmall
    change Fault.orTooLarge (Number.int (if b then 1 else 0)).toDouble? = _ ↔ _
    rw [orTooLarge_eq_error, hd]
    simp
  | double d => simp [readSeconds, Value.number?, Number.toDouble?]
  | _ => simpa [readSeconds, Value.number?] using hnumeric

theorem getSeconds_eq_error (hf : fault.Escapes) {name : String} :
    p.getSeconds name = .error fault ↔ p.Breaks (.seconds name) fault := by
  constructor
  · intro h
    unfold getSeconds at h
    split at h
    · rename_i v hv
      obtain ⟨i, rfl, hi, rfl⟩ := (readSeconds_eq_error hf).1 (map_eq_error.1 h)
      exact .tooLarge hv hi
    · cases h
  · intro h
    cases h with
    | tooLarge h hi =>
      simp only [getSeconds, h, map_eq_error]
      exact (readSeconds_eq_error hf).2 ⟨_, rfl, hi, rfl⟩

theorem getSeconds_eq_ok {name : String} :
    (∃ v, p.getSeconds name = .ok v) ↔ p.Reads (.seconds name) := by
  simp only [Reads, getSeconds]
  cases p.get? name with
  | none => simp
  | some v => simp [map_eq_ok]

theorem attributes_eq_error (hf : fault.Escapes) :
    attributeList ((p.get? "ldap-username-attribute").getD (.string "uid")) = .error fault ↔
      p.Breaks .attributes fault := by
  simp only [attributeList_eq_error hf, attributeItems_eq_error]
  constructor
  · rintro ⟨_, hitems, pre, v, post, rfl, hpre, hv, rfl⟩
    cases hp : p.get? "ldap-username-attribute" with
    | none => simp [hp] at hitems
    | some items => exact .noName (by simpa [hp] using hitems) hpre hv
  · intro h
    cases h with
    | noName h hpre hv => exact ⟨_, by rw [h]; rfl, _, _, _, rfl, hpre, hv, rfl⟩

/-! ## All of them -/

theorem not_breaks_switch {name : String} : ¬ p.Breaks (.switch name) fault := by
  rintro ⟨⟩

theorem directorySettings_eq_error (hf : fault.Escapes) {base : Value} :
    p.directorySettings base = .error fault ↔ p.BreaksAt directoryReadings fault := by
  simp only [directorySettings, bind_eq_error, getInteger_eq_error hf, encryption_eq_error hf,
    (plain_getSwitch _ _ _).ne_error hf, getSeconds_eq_error hf,
    DirectoryArguments.check_eq_error hf, attributes_eq_error hf, false_or, exists_and_right,
    getInteger_eq_ok, getSwitch_eq_ok, getSeconds_eq_ok, directoryReadings, breaksAt_cons,
    breaksAt_nil, not_breaks_switch, and_false, or_false]
  rfl

theorem secondFactorSettings_eq_error (hf : fault.Escapes) :
    p.secondFactorSettings = .error fault ↔ p.BreaksAt secondFactorReadings fault := by
  have hreturn : ∀ s : SecondFactorSettings, (pure s : Except Fault _) ≠ .error fault :=
    fun s => (plain_ok s).ne_error hf
  simp only [secondFactorSettings, bind_eq_error, getInteger_eq_error hf,
    (plain_getSwitch _ _ _).ne_error hf, (SecondFactorSettings.plain_check _).ne_error hf, hreturn,
    and_false, exists_false, or_false, exists_and_right, getInteger_eq_ok, secondFactorReadings,
    breaksAt_cons, breaksAt_nil, not_breaks_switch]

theorem BreaksAt.breaks {readings : List Reading} (h : p.BreaksAt readings fault) :
    ∃ r, p.Breaks r fault := by
  obtain ⟨_, r, _, -, -, hr⟩ := h
  exact ⟨r, hr⟩

/-- The second factor counts only where the settings of the directory pass their checks. -/
theorem ofProperties_escapes_iff {base : Value} (h : p.get? "ldap-user-base-dn" = some base) :
    (AuthSettings.ofProperties p = .error fault ∧ fault.kind ≠ .own .configuration) ↔
      p.BreaksAt directoryReadings fault ∨
        (∃ s, p.directorySettings base = .ok s) ∧ p.BreaksAt secondFactorReadings fault := by
  rw [AuthSettings.ofProperties, h, reportMalformed_eq_error]
  have hreturn (hf : fault.Escapes) (s : AuthSettings) : (pure s : Except Fault _) ≠ .error fault :=
    (plain_ok s).ne_error hf
  constructor
  · rintro ⟨h, hf⟩
    simpa only [bind_eq_error, directorySettings_eq_error hf, secondFactorSettings_eq_error hf,
      hreturn hf, and_false, exists_false, or_false, exists_and_right] using h
  · intro h
    have hf : fault.Escapes := by
      obtain ⟨r, hr⟩ : ∃ r, p.Breaks r fault := h.elim BreaksAt.breaks fun h => h.2.breaks
      exact hr.escapes
    refine ⟨?_, hf⟩
    simpa only [bind_eq_error, directorySettings_eq_error hf, secondFactorSettings_eq_error hf,
      hreturn hf, and_false, exists_false, or_false, exists_and_right] using h

/-! ## Properties that are texts -/

theorem get?_text (h : ∀ x ∈ p, x.2 = .null ∨ ∃ s, x.2 = .string s) {name : String} {v : Value}
    (hv : p.get? name = some v) : ∃ s, v = .string s := by
  unfold get? at hv
  split at hv
  · split at hv
    · cases hv
    · cases hv
      exact ⟨_, rfl⟩
  · cases hv
  · rename_i hstring hnull
    obtain ⟨pre, post, rfl, -⟩ := List.lookup_eq_some_iff.1 hv
    obtain hx | hs := h (name, v) (by simp)
    · exact absurd (hx ▸ hv) hnull
    · exact hs

/-- A reading is broken by a number, a truth value, or a list with such an item. -/
theorem not_breaks_of_texts (h : ∀ x ∈ p, x.2 = .null ∨ ∃ s, x.2 = .string s) {r : Reading} :
    ¬ p.Breaks r fault := by
  intro hr
  cases hr with
  | infinite hv | tooLarge hv | noName hv =>
    obtain ⟨s, hs⟩ := get?_text h hv
    cases hs
  | noWord hv htext => exact htext fun _ => get?_text h hv

end Properties

/-! ## The configuration as a whole -/

/-- How reading a configuration fails: with a fault of the configuration, or with one that comes out
of a property. -/
structure AuthSettings.FailsProperly (p : Properties) : Prop where
  /-- The fault is another one exactly if a property breaks its reading. -/
  escapes_iff (fault : Fault) :
    (ofProperties p = .error fault ∧ fault.kind ≠ .own .configuration) ↔
      ∃ base, p.get? "ldap-user-base-dn" = some base ∧
        (p.BreaksAt Properties.directoryReadings fault ∨
          (∃ s, p.directorySettings base = .ok s) ∧
            p.BreaksAt Properties.secondFactorReadings fault)
  kinds {fault : Fault} (h : ofProperties p = .error fault) :
    fault.kind = .own .configuration ∨ fault.kind = .overflow ∨ fault.kind = .missingPart
  /-- Properties that are texts, as they stand in a file, break no reading. -/
  texts (htexts : ∀ x ∈ p, x.2 = .null ∨ ∃ s, x.2 = .string s) {fault : Fault}
    (h : ofProperties p = .error fault) : fault.kind = .own .configuration

theorem AuthSettings.ofProperties_failsProperly (p : Properties) : FailsProperly p := by
  have hiff (fault : Fault) :
      (ofProperties p = .error fault ∧ fault.kind ≠ .own .configuration) ↔
        ∃ base, p.get? "ldap-user-base-dn" = some base ∧
          (p.BreaksAt Properties.directoryReadings fault ∨
            (∃ s, p.directorySettings base = .ok s) ∧
              p.BreaksAt Properties.secondFactorReadings fault) := by
    cases hbase : p.get? "ldap-user-base-dn" with
    | none =>
      simp only [ofProperties, hbase, reduceCtorEq, false_and, exists_false, iff_false]
      rintro ⟨⟨⟩, hkind⟩
      exact hkind rfl
    | some base => simpa using Properties.ofProperties_escapes_iff hbase
  have hbreaks {fault : Fault} (h : ofProperties p = .error fault)
      (hkind : fault.kind ≠ .own .configuration) : ∃ r, p.Breaks r fault := by
    obtain ⟨base, -, h | ⟨-, h⟩⟩ := (hiff fault).1 ⟨h, hkind⟩
    · exact h.breaks
    · exact h.breaks
  refine ⟨hiff, fun {fault} h => ?_, fun htexts {fault} h => ?_⟩
  · by_cases hkind : fault.kind = .own .configuration
    · exact .inl hkind
    · obtain ⟨r, hr⟩ := hbreaks h hkind
      exact .inr hr.kind_eq
  · refine Decidable.byContradiction fun hkind => ?_
    obtain ⟨r, hr⟩ := hbreaks h hkind
    exact Properties.not_breaks_of_texts htexts hr

/-- Properties with a truth value in the place of the word for the encryption. -/
def Properties.truthWord : Properties :=
  [("ldap-user-base-dn", .string "ou=people,dc=example,dc=com"),
   ("ldap-encryption-method", .bool true)]

theorem AuthSettings.failsProperly_truthWord :
    ofProperties .truthWord = .error (.value (.notText (.bool true))) := by
  have hport : Properties.truthWord.Reads (.integer "ldap-port") := by rintro v ⟨⟩
  have hword : Properties.truthWord.Breaks .encryption (.value (.notText (.bool true))) :=
    .noWord rfl fun h => by simpa using h rfl
  refine (((ofProperties_failsProperly _).escapes_iff _).2 ⟨_, rfl, .inl ?_⟩).1
  exact ⟨[.integer "ldap-port"], .encryption, _, rfl, by simpa using hport, hword⟩

end TwoFactorLogin
