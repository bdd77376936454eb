import TwoFactorLogin.Directory.Name
import TwoFactorLogin.Proofs.Substitution
import TwoFactorLogin.Proofs.Usable

/-!
# Derived names keep to their places

A login name becomes a value inside the name of an entry. Read from left to right, where a backslash
belongs to the character after it (`glyphs?`), the value has no bare character that would end it or
begin another one (`Contained`), so it stays where it is put (`DirectoryConfig.Places`): before the
base, or between the pieces of the template.

**Reading back.** The escaping is a row of replacements on texts. On the characters as they are read
it is simpler: every special character gets a backslash, then the first character and the last get
one if they need it (`protect`), and none is lost. So a login name is read back from its value
(`escapeName_eq`, `map_char_protect`), and different names become different values.

**A lone space** is the exception: it is the first character and the last. The backslash put before
it as the first is put behind a second one when it is guarded as the last, so its value reads as a
backslash and a bare space (`escapeName_lone_space`). No other value ends in a bare space, so this
one is not shared either (`escapeName_inj`).

Main statement: `DirectoryConfig.deriveDn_keepsApart`.
-/

namespace TwoFactorLogin

/-! ## Reading values -/

/-- A character of an attribute value, with a backslash before it or without. -/
inductive Glyph where
  | plain (c : Char)
  | escaped (c : Char)
  deriving DecidableEq

namespace Glyph

/-- The character itself. -/
def char : Glyph → Char
  | plain c => c
  | escaped c => c

/-- The character with its backslash. -/
def chars : Glyph → List Char
  | plain c => [c]
  | escaped c => ['\\', c]

end Glyph

/-- The characters of a value from left to right, where a backslash belongs to the character after
it; `none` if there is no character after the last one. -/
def glyphs? : List Char → Option (List Glyph)
  | [] => some []
  | [c] => if c = '\\' then none else some [.plain c]
  | c :: d :: cs =>
    if c = '\\' then (glyphs? cs).map (.escaped d :: ·) else (glyphs? (d :: cs)).map (.plain c :: ·)

/-- The text before the first comma without a backslash, and the text after it. -/
def splitValue? : List Char → Option (List Char × List Char)
  | [] => none
  | [c] => if c = ',' then some ([], []) else none
  | c :: d :: cs =>
    if c = ',' then some ([], d :: cs)
    else if c = '\\' then (splitValue? cs).map fun p => (c :: d :: p.1, p.2)
    else (splitValue? (d :: cs)).map fun p => (c :: p.1, p.2)

variable {c : Char} {cs : List Char} {gs : List Glyph}

theorem glyphs?_plain (h : c ≠ '\\') (cs : List Char) :
    glyphs? (c :: cs) = (glyphs? cs).map (.plain c :: ·) := by
  cases cs with
  | nil => simp [glyphs?, h]
  | cons d cs => rw [glyphs?, if_neg h]

theorem glyphs?_escaped (c : Char) (cs : List Char) :
    glyphs? ('\\' :: c :: cs) = (glyphs? cs).map (.escaped c :: ·) := by
  rw [glyphs?, if_pos rfl]

theorem splitValue?_plain (hcomma : c ≠ ',') (h : c ≠ '\\') (cs : List Char) :
    splitValue? (c :: cs) = (splitValue? cs).map fun p => (c :: p.1, p.2) := by
  cases cs with
  | nil => simp [splitValue?, hcomma]
  | cons d cs => rw [splitValue?, if_neg hcomma, if_neg h]

theorem splitValue?_escaped (c : Char) (cs : List Char) :
    splitValue? ('\\' :: c :: cs) = (splitValue? cs).map fun p => ('\\' :: c :: p.1, p.2) := by
  rw [splitValue?, if_neg (by decide), if_pos rfl]

theorem splitValue?_comma (cs : List Char) : splitValue? (',' :: cs) = some ([], cs) := by
  cases cs <;> simp [splitValue?]

/-- What is written down is read back. -/
theorem glyphs?_flatMap_chars (h : .plain '\\' ∉ gs) :
    glyphs? (gs.flatMap Glyph.chars) = some gs := by
  induction gs with
  | nil => rfl
  | cons g gs ih =>
    rw [List.mem_cons, not_or] at h
    rw [List.flatMap_cons]
    cases g with
    | plain c =>
      have hc : c ≠ '\\' := fun hc => h.1 (by rw [hc])
      rw [Glyph.chars, List.singleton_append, glyphs?_plain hc, ih h.2, Option.map_some]
    | escaped c =>
      rw [Glyph.chars, List.cons_append, List.singleton_append, glyphs?_escaped, ih h.2,
        Option.map_some]

/-- A value without a comma of its own ends at the first one after it. -/
theorem splitValue?_flatMap_chars (h : .plain '\\' ∉ gs) (hcomma : .plain ',' ∉ gs)
    (rest : List Char) :
    splitValue? (gs.flatMap Glyph.chars ++ ',' :: rest) = some (gs.flatMap Glyph.chars, rest) := by
  induction gs with
  | nil => exact splitValue?_comma rest
  | cons g gs ih =>
    rw [List.mem_cons, not_or] at h hcomma
    rw [List.flatMap_cons, List.append_assoc]
    cases g with
    | plain c =>
      have hc : c ≠ '\\' := fun hc => h.1 (by rw [hc])
      have hc' : c ≠ ',' := fun hc => hcomma.1 (by rw [hc])
      rw [Glyph.chars, List.singleton_append, splitValue?_plain hc' hc, ih h.2 hcomma.2]
      rfl
    | escaped c =>
      rw [Glyph.chars, List.cons_append, List.singleton_append, splitValue?_escaped,
        ih h.2 hcomma.2]
      rfl

/-! ## How a login name is written -/

/-- A character by itself: behind a backslash if it has a meaning in a name. -/
def mark (c : Char) : Glyph := if nameSpecials.contains c then .escaped c else .plain c

/-- A number sign or space at the beginning is put behind a backslash. -/
def protectFirst : List Glyph → List Glyph
  | .plain c :: gs => if c = '#' || c = ' ' then .escaped c :: gs else .plain c :: gs
  | gs => gs

/-- A space at the end is put behind a backslash. -/
def protectLast (gs : List Glyph) : List Glyph :=
  if gs.getLast? = some (.plain ' ') then gs.dropLast ++ [.escaped ' '] else gs

/-- The characters of a login name as they stand in a value. -/
def protect (cs : List Char) : List Glyph := protectLast (protectFirst (cs.map mark))

theorem escapeSpecials_eq (cs : List Char) :
    escapeSpecials cs = (cs.map mark).flatMap Glyph.chars := by
  rw [List.flatMap_map, escapeSpecials]
  refine List.flatMap_congr fun c _ => ?_
  unfold mark
  split <;> rfl

theorem guardFirst_flatMap_chars (gs : List Glyph) :
    guardFirst (gs.flatMap Glyph.chars) = (protectFirst gs).flatMap Glyph.chars := by
  cases gs with
  | nil => rfl
  | cons g gs =>
    rw [List.flatMap_cons]
    cases g with
    | plain c =>
      rw [Glyph.chars, List.singleton_append, guardFirst, protectFirst]
      split <;> rfl
    | escaped c => rfl

/-- The end is guarded by a backslash of its own, unless it is a space that has one already. -/
theorem guardLast_flatMap_chars (h : gs.getLast? ≠ some (.escaped ' ')) :
    guardLast (gs.flatMap Glyph.chars) = (protectLast gs).flatMap Glyph.chars := by
  induction gs using List.reverseRecOn with
  | nil => rfl
  | append_singleton gs g =>
    rw [List.getLast?_concat] at h
    rw [List.flatMap_append, List.flatMap_singleton, guardLast, protectLast, List.getLast?_concat,
      List.dropLast_concat]
    cases g with
    | plain c =>
      rw [Glyph.chars, List.getLast?_concat, List.dropLast_concat]
      by_cases hc : c = ' '
      · subst hc
        simp [Glyph.chars]
      · simp [hc, Glyph.chars]
    | escaped c =>
      have hc : c ≠ ' ' := fun hc => h (by rw [hc])
      simp [hc, Glyph.chars]

theorem mark_ne_escaped_space (c : Char) : mark c ≠ .escaped ' ' := by
  unfold mark
  split
  · rename_i hspecial
    rintro ⟨⟩
    exact absurd hspecial (by decide)
  · rintro ⟨⟩

theorem char_mark (c : Char) : (mark c).char = c := by
  unfold mark
  split <;> rfl

/-- Only the first character is changed at the beginning. -/
theorem exists_protectFirst_cons (g : Glyph) (gs : List Glyph) :
    ∃ g', protectFirst (g :: gs) = g' :: gs := by
  unfold protectFirst
  split
  · rename_i c gs' heq
    cases heq
    split
    · exact ⟨_, rfl⟩
    · exact ⟨_, rfl⟩
  · exact ⟨g, rfl⟩

theorem map_char_protectFirst (gs : List Glyph) :
    (protectFirst gs).map Glyph.char = gs.map Glyph.char := by
  unfold protectFirst
  split
  · split <;> rfl
  · rfl

/-- No space at the end has a backslash before the end is guarded, but for a lone one. -/
theorem getLast?_protectFirst_ne (h : cs ≠ [' ']) :
    (protectFirst (cs.map mark)).getLast? ≠ some (.escaped ' ') := by
  intro hlast
  match cs with
  | [] => cases hlast
  | [c] =>
    obtain ⟨g, hg⟩ := exists_protectFirst_cons (mark c) []
    have hchar := map_char_protectFirst [mark c]
    rw [List.map_cons, List.map_nil, hg, List.getLast?_singleton] at hlast
    rw [hg] at hchar
    cases hlast
    have hc : ' ' = (mark c).char := (List.cons_eq_cons.1 hchar).1
    rw [char_mark] at hc
    exact h (by rw [← hc])
  | c :: d :: cs =>
    obtain ⟨g, hg⟩ := exists_protectFirst_cons (mark c) ((d :: cs).map mark)
    rw [List.map_cons, hg, List.map_cons, List.getLast?_cons_cons] at hlast
    have hmem : .escaped ' ' ∈ (d :: cs).map mark := List.mem_of_getLast? hlast
    obtain ⟨e, -, he⟩ := List.mem_map.1 hmem
    exact mark_ne_escaped_space e he

theorem map_char_protectLast (gs : List Glyph) :
    (protectLast gs).map Glyph.char = gs.map Glyph.char := by
  unfold protectLast
  split
  · rename_i hlast
    rw [← List.dropLast_append_getLast? _ hlast]
    simp [Glyph.char]
  · rfl

/-- Every character of a login name is kept. -/
theorem map_char_protect (cs : List Char) : (protect cs).map Glyph.char = cs := by
  rw [protect, map_char_protectLast, map_char_protectFirst, List.map_map]
  exact List.map_id'' char_mark cs

/-- What has no backslash had none before the ends were protected. -/
theorem plain_mem_protect (h : .plain c ∈ protect cs) : c ∉ nameSpecials := by
  have hfirst {gs : List Glyph} (h : .plain c ∈ protectFirst gs) : .plain c ∈ gs := by
    unfold protectFirst at h
    split at h
    · split at h
      · exact List.mem_cons_of_mem _ (List.mem_of_ne_of_mem (by rintro ⟨⟩) h)
      · exact h
    · exact h
  have hlast {gs : List Glyph} (h : .plain c ∈ protectLast gs) : .plain c ∈ gs := by
    unfold protectLast at h
    split at h
    · rcases List.mem_append.1 h with h | h
      · exact (List.dropLast_sublist gs).subset h
      · cases List.mem_singleton.1 h
    · exact h
  obtain ⟨d, -, hd⟩ := List.mem_map.1 (hfirst (hlast h))
  unfold mark at hd
  split at hd
  · cases hd
  · rename_i hspecial
    cases hd
    simpa using hspecial

theorem head?_protectFirst_ne {d : Char} (hd : d = '#' ∨ d = ' ') (gs : List Glyph) :
    (protectFirst gs).head? ≠ some (.plain d) := by
  unfold protectFirst
  split
  · split
    · simp
    · rename_i hc
      rintro ⟨⟩
      simp [hd] at hc
  · rename_i hplain
    intro hhead
    obtain ⟨gs', rfl⟩ := List.head?_eq_some_iff.1 hhead
    exact hplain d gs' rfl

theorem head?_protectLast_ne {d : Char} (h : gs.head? ≠ some (.plain d)) :
    (protectLast gs).head? ≠ some (.plain d) := by
  unfold protectLast
  split
  · rename_i hlast
    rw [← List.dropLast_append_getLast? _ hlast] at h
    cases hrest : gs.dropLast with
    | nil => simp
    | cons g rest => simpa [hrest] using h
  · exact h

theorem head?_protect_ne {d : Char} (hd : d = '#' ∨ d = ' ') (cs : List Char) :
    (protect cs).head? ≠ some (.plain d) :=
  head?_protectLast_ne (head?_protectFirst_ne hd _)

theorem getLast?_protect_ne (cs : List Char) : (protect cs).getLast? ≠ some (.plain ' ') := by
  unfold protect protectLast
  split
  · simp
  · assumption

/-- Every login name but a lone space is written as its protected characters. -/
theorem escapeName_eq (hne : cs ≠ []) (h : cs ≠ [' ']) :
    escapeName cs = .ok ((protect cs).flatMap Glyph.chars) := by
  rw [escapeName, if_neg (by simpa using hne), escapeSpecials_eq, guardFirst_flatMap_chars,
    guardLast_flatMap_chars (getLast?_protectFirst_ne h), protect]

/-! ## Values that keep to themselves -/

/-- The characters that end a value or change what it means unless a backslash stands before
them. -/
def reserved : List Char := [',', '+', '"', '<', '>', ';', '=', '\x00']

/-- A text read as a value, with no backslash left over, does not end before its end and does not
begin as another sort of value. -/
structure Contained (value : List Char) (gs : List Glyph) : Prop where
  reads : glyphs? value = some gs
  not_reserved : ∀ c ∈ reserved, .plain c ∉ gs
  not_number_sign : gs.head? ≠ some (.plain '#')
  not_space : gs.head? ≠ some (.plain ' ')

theorem plain_backslash_notMem_protect (cs : List Char) : .plain '\\' ∉ protect cs :=
  fun h => plain_mem_protect h (by decide)

theorem mem_nameSpecials_of_mem_reserved {c : Char} (h : c ∈ reserved) : c ∈ nameSpecials :=
  List.mem_cons_of_mem '\\' h

theorem contained_protect (cs : List Char) :
    Contained ((protect cs).flatMap Glyph.chars) (protect cs) where
  reads := glyphs?_flatMap_chars (plain_backslash_notMem_protect cs)
  not_reserved _ hc h := plain_mem_protect h (mem_nameSpecials_of_mem_reserved hc)
  not_number_sign := head?_protect_ne (.inl rfl) cs
  not_space := head?_protect_ne (.inr rfl) cs

/-- A lone space is a special case: the backslash that is put before it as the first character is
put behind a second one when it is guarded as the last. -/
theorem escapeName_lone_space : escapeName [' '] = .ok ['\\', '\\', ' '] := rfl

theorem contained_lone_space : Contained ['\\', '\\', ' '] [.escaped '\\', .plain ' '] where
  reads := by decide
  not_reserved c hc hmem := by
    have hspace : c = ' ' := by simpa using hmem
    rw [hspace] at hc
    exact absurd hc (by decide)
  not_number_sign := by decide
  not_space := by decide

/-- Every login name becomes a value that keeps to itself, as a row of characters. -/
theorem escapeName_contained (hne : cs ≠ []) :
    ∃ gs, escapeName cs = .ok (gs.flatMap Glyph.chars) ∧ .plain '\\' ∉ gs ∧
      Contained (gs.flatMap Glyph.chars) gs := by
  by_cases hspace : cs = [' ']
  · subst hspace
    exact ⟨[.escaped '\\', .plain ' '], escapeName_lone_space, by decide, contained_lone_space⟩
  · exact ⟨protect cs, escapeName_eq hne hspace, plain_backslash_notMem_protect cs,
      contained_protect cs⟩

/-- Different login names become different values. -/
theorem escapeName_inj {ds value : List Char} (hcs : escapeName cs = .ok value)
    (hds : escapeName ds = .ok value) : cs = ds := by
  have hne {cs : List Char} (h : escapeName cs = .ok value) : cs ≠ [] := by
    rintro rfl
    cases h
  -- A value reads as its login name, except the one of a lone space, which ends in a bare space.
  have hread {cs : List Char} (h : escapeName cs = .ok value) (hspace : cs ≠ [' ']) :
      glyphs? value = some (protect cs) := by
    cases (escapeName_eq (hne h) hspace).symm.trans h
    exact (contained_protect cs).reads
  have hlone {cs : List Char} (h : escapeName cs = .ok value)
      (hspace : escapeName [' '] = .ok value) : cs = [' '] := by
    by_contra hother
    cases escapeName_lone_space.symm.trans hspace
    have hglyphs := (hread h hother).symm.trans contained_lone_space.reads
    refine getLast?_protect_ne cs ?_
    rw [Option.some.inj hglyphs]
    rfl
  by_cases hc : cs = [' ']
  · rw [hc] at hcs ⊢
    exact (hlone hds hcs).symm
  · by_cases hd : ds = [' ']
    · rw [hd] at hds ⊢
      exact hlone hcs hds
    · have hglyphs := (hread hcs hc).symm.trans (hread hds hd)
      rw [← map_char_protect cs, Option.some.inj hglyphs, map_char_protect]

/-! ## Configurations -/

theorem DirectorySettings.eq_string_of_textField? {v : Value} {t : String}
    (h : textField? v = some (some t)) : v = .string t := by
  unfold textField? at h
  split at h
  · cases h
    rfl
  · split at h <;> cases h

namespace DirectoryConfig

/-- A configuration is made from arguments that pass the checks. -/
def Checked (c : DirectoryConfig) : Prop :=
  ∃ (a : DirectoryArguments) (s : DirectorySettings), a.check = .ok s ∧ s.config? = some c

/-- A template has the mark for the login name in it. -/
theorem Checked.mark_infix {c : DirectoryConfig} (hc : c.Checked) {template : String}
    (h : c.userDnTemplate = some template) : usernameMark <:+: template.toList := by
  obtain ⟨a, s, hs, hconfig⟩ := hc
  have hfield := (DirectorySettings.of_config? hconfig).1
  rw [h] at hfield
  obtain ⟨_, _, _, -, -, -, -, -, htemplate, -, -, rfl⟩ := DirectoryArguments.check_eq_ok.1 hs
  have hgiven : a.userDnTemplate = .string template :=
    DirectorySettings.eq_string_of_textField? hfield
  rw [hgiven] at htemplate
  exact checkTemplate_string.1 htemplate

/-! ## Names of entries -/

variable {c : DirectoryConfig}

/-- How the name of an entry is made from the value that a login name becomes: after the first
attribute, up to the first comma that is not its own, or wherever the template has the mark. -/
structure Places (c : DirectoryConfig) (value : List Char) (dn : String) : Prop where
  before_base (h : c.userDnTemplate = none) :
    dn.toList = (c.usernameAttributes.head c.usernameAttributes_ne).toList ++
        '=' :: (value ++ ',' :: c.userBaseDn.toList) ∧
      splitValue? (value ++ ',' :: c.userBaseDn.toList) = some (value, c.userBaseDn.toList)
  between_pieces {template : String} (h : c.userDnTemplate = some template) :
    ∃ pieces, Text.Pieces usernameMark template.toList pieces ∧ 2 ≤ pieces.length ∧
      dn.toList = value.intercalate pieces

theorem exists_pieces_of_mark (template : List Char) :
    ∃ pieces, Text.Pieces usernameMark template pieces ∧ ∀ value,
      Text.substitute usernameMark value template = value.intercalate pieces := by
  have hmark : '\x7b' ∉ "username\x7d".toList := by decide
  obtain ⟨first, others, hpieces, hsubstitute⟩ := Text.exists_pieces hmark template
  exact ⟨first :: others, hpieces, hsubstitute⟩

theorem dnAround_of_untemplated (h : c.userDnTemplate = none) (value : List Char) :
    (c.dnAround value).toList =
      (c.usernameAttributes.head c.usernameAttributes_ne).toList ++
        '=' :: (value ++ ',' :: c.userBaseDn.toList) := by
  simp [dnAround, h]

theorem dnAround_of_templated (hc : c.Checked) {template : String}
    (h : c.userDnTemplate = some template) (value : List Char) :
    (c.dnAround value).toList = Text.substitute usernameMark value template.toList := by
  have hne : template.isEmpty = false := by
    rw [String.isEmpty_eq_false_iff]
    rintro rfl
    exact absurd (List.infix_nil.1 (hc.mark_infix h)) (by decide)
  have hfilter : (c.userDnTemplate.filter fun t => !t.isEmpty) = some template := by
    simp [h, hne]
  rw [dnAround, hfilter, String.toList_ofList]

/-- Different values make different names. -/
theorem dnAround_inj (hc : c.Checked) {value value' : List Char}
    (h : c.dnAround value = c.dnAround value') : value = value' := by
  have hchars := congrArg String.toList h
  cases htemplate : c.userDnTemplate with
  | none =>
    rw [dnAround_of_untemplated htemplate, dnAround_of_untemplated htemplate] at hchars
    exact List.append_cancel_right (List.cons.inj (List.append_cancel_left hchars)).2
  | some template =>
    obtain ⟨pieces, hpieces, hsubstitute⟩ := exists_pieces_of_mark template.toList
    rw [dnAround_of_templated hc htemplate, dnAround_of_templated hc htemplate, hsubstitute,
      hsubstitute] at hchars
    exact Text.intercalate_inj (hpieces.two_le_length (hc.mark_infix htemplate)) hchars

theorem dnAround_places (hc : c.Checked) {gs : List Glyph} (hbackslash : .plain '\\' ∉ gs)
    (hgs : Contained (gs.flatMap Glyph.chars) gs) :
    c.Places (gs.flatMap Glyph.chars) (c.dnAround (gs.flatMap Glyph.chars)) where
  before_base h :=
    ⟨dnAround_of_untemplated h _,
      splitValue?_flatMap_chars hbackslash (hgs.not_reserved ',' (by decide)) _⟩
  between_pieces {template} h := by
    obtain ⟨pieces, hpieces, hsubstitute⟩ := exists_pieces_of_mark template.toList
    refine ⟨pieces, hpieces, hpieces.two_le_length (hc.mark_infix h), ?_⟩
    rw [dnAround_of_templated hc h, hsubstitute]

theorem deriveDn_eq_ok {username : String} {value : List Char}
    (h : escapeName username.toList = .ok value) :
    c.deriveDn username = .ok (c.dnAround value) := by
  rw [deriveDn, h]
  rfl

/-- A login name stays inside the value that it becomes, and no other login name derives the same
name. -/
theorem deriveDn_keepsApart (hc : c.Checked) {username : String} (hne : username ≠ "") :
    ∃ value gs dn, escapeName username.toList = .ok value ∧ Contained value gs ∧
      c.deriveDn username = .ok dn ∧ c.Places value dn ∧
      ∀ other, other ≠ "" → other ≠ username →
        ∃ dn', c.deriveDn other = .ok dn' ∧ dn' ≠ dn := by
  have hchars {name : String} (h : name ≠ "") : name.toList ≠ [] := by
    rwa [Ne, String.toList_eq_nil_iff]
  obtain ⟨gs, hescape, hbackslash, hcontained⟩ := escapeName_contained (hchars hne)
  refine ⟨_, gs, _, hescape, hcontained, deriveDn_eq_ok hescape,
    dnAround_places hc hbackslash hcontained, fun other hother hdifferent => ?_⟩
  obtain ⟨gs', hescape', -, -⟩ := escapeName_contained (hchars hother)
  refine ⟨_, deriveDn_eq_ok hescape', fun hdn => hdifferent ?_⟩
  rw [dnAround_inj hc hdn] at hescape'
  exact String.toList_inj.1 (escapeName_inj hescape' hescape)

/-- A configuration with a template that has the mark twice. -/
def twofold : DirectoryConfig where
  userBaseDn := "dc=x"
  hostname := "localhost"
  port := none
  encryption := .none
  usernameAttributes := ["uid"]
  usernameAttributes_ne := by decide
  userSearchFilter := "(objectClass=*)"
  searchBindDn := none
  searchBindPassword := none
  userDnTemplate := some "cn=\x7busername\x7d+uid=\x7busername\x7d,dc=x"
  tlsValidate := true
  caBundle := none
  connectTimeout := .double (.ofInt 10)
  receiveTimeout := .double (.ofInt 10)

theorem twofold_checked : twofold.Checked := by
  have htimeout : checkTimeout (.double (.ofInt 10)) = .ok (.double (.ofInt 10)) :=
    checkTimeout_double.2 ⟨rfl, .inr (by decide +kernel)⟩
  exact ⟨{ userBaseDn := .string "dc=x"
           userDnTemplate := .string "cn=\x7busername\x7d+uid=\x7busername\x7d,dc=x" }, _,
    DirectoryArguments.check_eq_ok.2 ⟨["uid"], _, _, rfl, by decide, rfl, rfl, rfl, rfl, htimeout,
      htimeout, rfl⟩, rfl⟩

/-- A login name that has the mark in it, behind a number sign. -/
theorem keepsApart_twofold :
    twofold.Checked ∧
      twofold.deriveDn "#\x7busername\x7d" =
        .ok "cn=\\#\x7busername\x7d+uid=\\#\x7busername\x7d,dc=x" ∧
      (∃ value gs, escapeName "#\x7busername\x7d".toList = .ok value ∧ Contained value gs) ∧
      twofold.deriveDn "\\#\x7busername\x7d" ≠ twofold.deriveDn "#\x7busername\x7d" := by
  have hne : "#\x7busername\x7d" ≠ "" := by decide
  obtain ⟨value, gs, dn, hvalue, hcontained, hdn, -, happart⟩ :=
    deriveDn_keepsApart twofold_checked hne
  obtain ⟨dn', hdn', hdifferent⟩ := happart "\\#\x7busername\x7d" (by decide) (by decide)
  refine ⟨twofold_checked, rfl, ⟨value, gs, hvalue, hcontained⟩, ?_⟩
  rw [hdn, hdn']
  exact fun h => hdifferent (Except.ok.inj h)

end DirectoryConfig

end TwoFactorLogin
