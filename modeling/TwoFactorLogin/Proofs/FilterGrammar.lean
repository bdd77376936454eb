import Mathlib.Data.List.Basic
import TwoFactorLogin.Directory.Filter

/-!
# The grammar of search filters

What a directory server takes a text for that it is given as a search filter. A filter is written
between parentheses: the conjunction or the disjunction of filters, the negation of a filter, or an
item, which tests an attribute (`SearchFilter.Row`, `FilterItem.WrittenAs`). In the values that
attributes are compared with, parentheses, asterisks, backslashes and NUL are written as a backslash
with two hexadecimal digits; everything else may stand for itself (`value?`).

**Reader.** `SearchFilter.read?` reads a text from left to right. An item is taken apart at its
first equals sign: the character before the sign tells its sort, and with an equals sign alone the
asterisks after it do.

**Why the reader meets the grammar.** A row of filters ends where no opening parenthesis follows,
and an item ends before the first closing one, because neither a name nor a value has parentheses of
its own. So a row is read to its end and no further, whatever comes after it
(`SearchFilter.row?_append`, by induction on the grammar), and what is read was written by its rules
(`SearchFilter.row_of_row?`, by induction on the steps).

Main results: `SearchFilter.read?_eq_some_iff`, and from it `SearchFilter.WrittenAs.unique`.
-/

namespace TwoFactorLogin

/-! ## Filters -/

/-- How an attribute is compared with a value. -/
inductive Comparison where
  | equal | approx | atLeast | atMost
  deriving DecidableEq

/-- What stands before the equals sign of a comparison. -/
def Comparison.sign : Comparison → List Char
  | equal => []
  | approx => ['~']
  | atLeast => ['>']
  | atMost => ['<']

/-- A test of one attribute. Values are bytes. -/
inductive FilterItem where
  | compare (name : List Char) (comparison : Comparison) (value : List UInt8)
  | present (name : List Char)
  | substrings (name : List Char) (values : List (List UInt8))
  | extensible (name : List Char) (tags : List (List Char)) (value : List UInt8)
  deriving DecidableEq

/-- A search filter. -/
inductive SearchFilter where
  | all (filters : List SearchFilter)
  | any (filters : List SearchFilter)
  | not (filter : SearchFilter)
  | item (item : FilterItem)

/-! ## Names and values -/

/-- A letter, digit or hyphen. -/
def isKeyChar (c : Char) : Bool := c.isAlphanum || c == '-'

/-- A row of letters, digits and hyphens. -/
def isKey (cs : List Char) : Bool := !cs.isEmpty && cs.all isKeyChar

/-- The name of an attribute type or a matching rule: a word or a dotted number. Which characters
come first is left open, so that whatever can be configured as an attribute is one. -/
def isTypeName (cs : List Char) : Bool := !cs.isEmpty && cs.all fun c => isKeyChar c || c == '.'

/-- An attribute: its type and its options. -/
def isAttribute (cs : List Char) : Bool :=
  match cs.splitOn ';' with
  | name :: options => isTypeName name && options.all isKey
  | [] => false

/-- What may stand between the attribute and the equals sign of an extensible comparison: the word
`dn`, a matching rule or both. Without an attribute there has to be a matching rule. -/
def isTagged (name : List Char) (tags : List (List Char)) : Bool :=
  (name.isEmpty || isAttribute name) && tags.all isTypeName &&
    match tags with
    | [] => !name.isEmpty
    | [_] => true
    | [dn, _] => dn.map Char.toLower == ['d', 'n']
    | _ => false

/-- The value of a hexadecimal digit. -/
def hexValue? (c : Char) : Option Nat :=
  if c.isDigit then some (c.toNat - '0'.toNat)
  else if 'a' ≤ c ∧ c ≤ 'f' then some (c.toNat - 'a'.toNat + 10)
  else if 'A' ≤ c ∧ c ≤ 'F' then some (c.toNat - 'A'.toNat + 10)
  else none

/-- The characters that never stand for themselves in a value. -/
def filterReserved : List Char := ['\x00', '(', ')', '*', '\\']

/-- The bytes of a value: two hexadecimal digits after a backslash are one byte. -/
def value? : List Char → Option (List UInt8)
  | [] => some []
  | '\\' :: high :: low :: cs =>
    match hexValue? high, hexValue? low with
    | some high, some low => (value? cs).map ((16 * high + low).toUInt8 :: ·)
    | _, _ => none
  | c :: cs =>
    if c ∈ filterReserved then none else (value? cs).map (String.utf8EncodeChar c ++ ·)

/-! ## The rules -/

/-- An item and a text that it is written as. -/
inductive FilterItem.WrittenAs : FilterItem → List Char → Prop
  | compare {name text : List Char} {value : List UInt8} (comparison : Comparison)
      (hname : isAttribute name) (hvalue : value? text = some value) :
      WrittenAs (.compare name comparison value) (name ++ comparison.sign ++ '=' :: text)
  | present {name : List Char} (hname : isAttribute name) :
      WrittenAs (.present name) (name ++ ['=', '*'])
  | substrings {name : List Char} {texts : List (List Char)} {values : List (List UInt8)}
      (hname : isAttribute name) (hvalues : texts.mapM value? = some values)
      (hseveral : 2 ≤ texts.length) (hpresent : texts ≠ [[], []]) :
      WrittenAs (.substrings name values) (name ++ '=' :: ['*'].intercalate texts)
  | extensible {name text : List Char} {tags : List (List Char)} {value : List UInt8}
      (htags : isTagged name tags) (hvalue : value? text = some value) :
      WrittenAs (.extensible name tags value)
        ([':'].intercalate (name :: tags) ++ ':' :: '=' :: text)

/-- A row of filters and a text that it is written as, each filter between parentheses. The filters
inside a filter are a row of their own, so rows are all that the rules need to speak of. -/
inductive SearchFilter.Row : List SearchFilter → List Char → Prop
  | nil : Row [] []
  | all {filters others : List SearchFilter} {inner rest : List Char} (hne : filters ≠ [])
      (hinner : Row filters inner) (hrest : Row others rest) :
      Row (.all filters :: others) (parenthesized ('&' :: inner) ++ rest)
  | any {filters others : List SearchFilter} {inner rest : List Char} (hne : filters ≠ [])
      (hinner : Row filters inner) (hrest : Row others rest) :
      Row (.any filters :: others) (parenthesized ('|' :: inner) ++ rest)
  | not {filter : SearchFilter} {others : List SearchFilter} {inner rest : List Char}
      (hinner : Row [filter] inner) (hrest : Row others rest) :
      Row (.not filter :: others) (parenthesized ('!' :: inner) ++ rest)
  | item {item : FilterItem} {others : List SearchFilter} {inner rest : List Char}
      (hinner : item.WrittenAs inner) (hrest : Row others rest) :
      Row (.item item :: others) (parenthesized inner ++ rest)

/-- A filter and a text that it is written as. -/
def SearchFilter.WrittenAs (filter : SearchFilter) (cs : List Char) : Prop := Row [filter] cs

/-! ## Reading -/

/-- The text before the first occurrence of a character, and the text after it. -/
def cut? (mark : Char) : List Char → Option (List Char × List Char)
  | [] => none
  | c :: cs => if c = mark then some ([], cs) else (cut? mark cs).map fun p => (c :: p.1, p.2)

namespace FilterItem

/-- A comparison that is not an equality. -/
def compare? (comparison : Comparison) (name text : List Char) : Option FilterItem :=
  if isAttribute name then (value? text).map (.compare name comparison) else none

/-- What an equals sign stands for by itself: it depends on the asterisks after it. -/
def equality? (name text : List Char) : Option FilterItem :=
  if isAttribute name then
    match text.splitOn '*' with
    | [text] => (value? text).map (.compare name .equal)
    | [[], []] => some (.present name)
    | texts => (texts.mapM value?).map (.substrings name)
  else none

/-- An extensible comparison. -/
def extensible? (name text : List Char) : Option FilterItem :=
  match name.splitOn ':' with
  | name :: tags =>
    if isTagged name tags then (value? text).map (.extensible name tags) else none
  | [] => none

/-- The item with a text before its equals sign and a text after it. The character before the sign
tells what sort of item it is. -/
def ofSides? (name text : List Char) : Option FilterItem :=
  match name.getLast? with
  | some '~' => compare? .approx name.dropLast text
  | some '>' => compare? .atLeast name.dropLast text
  | some '<' => compare? .atMost name.dropLast text
  | some ':' => extensible? name.dropLast text
  | _ => equality? name text

/-- The item that a text is read as. -/
def read? (cs : List Char) : Option FilterItem :=
  (cut? '=' cs).bind fun sides => ofSides? sides.1 sides.2

end FilterItem

namespace SearchFilter

/-- The filter after an opening parenthesis, and what comes after the closing one, by a reader of
the rows inside it. -/
def component? (row? : List Char → Option (List SearchFilter × List Char)) :
    List Char → Option (SearchFilter × List Char)
  | '&' :: cs =>
    match row? cs with
    | some (f :: fs, ')' :: rest) => some (.all (f :: fs), rest)
    | _ => none
  | '|' :: cs =>
    match row? cs with
    | some (f :: fs, ')' :: rest) => some (.any (f :: fs), rest)
    | _ => none
  | '!' :: cs =>
    match row? cs with
    | some ([f], ')' :: rest) => some (.not f, rest)
    | _ => none
  | cs => (cut? ')' cs).bind fun parts => (FilterItem.read? parts.1).map (.item ·, parts.2)

/-- The row of filters at the beginning of a text, and what comes after it. Every filter takes one
step. -/
def row? : Nat → List Char → Option (List SearchFilter × List Char)
  | steps + 1, '(' :: cs =>
    (component? (row? steps) cs).bind fun first =>
      (row? steps first.2).map fun others => (first.1 :: others.1, others.2)
  | _, cs => some ([], cs)

/-- The filter that a text is read as. -/
def read? (cs : List Char) : Option SearchFilter :=
  match row? cs.length cs with
  | some ([f], []) => some f
  | _ => none

end SearchFilter

/-! ## Cutting texts -/

variable {c mark : Char} {cs name text : List Char} {tags : List (List Char)}

theorem cut?_eq_some_iff {before after : List Char} :
    cut? mark cs = some (before, after) ↔ mark ∉ before ∧ cs = before ++ mark :: after := by
  induction cs generalizing before with
  | nil => simp [cut?]
  | cons c cs ih =>
    rw [cut?]
    split
    · rename_i hc
      subst hc
      constructor
      · rintro ⟨⟩
        exact ⟨List.not_mem_nil, rfl⟩
      · rintro ⟨hbefore, hcs⟩
        cases before with
        | nil =>
          cases hcs
          rfl
        | cons d before =>
          cases hcs
          exact absurd List.mem_cons_self hbefore
    · rename_i hc
      rw [Option.map_eq_some_iff]
      constructor
      · rintro ⟨⟨before, after⟩, hcut, ⟨⟩⟩
        obtain ⟨hbefore, rfl⟩ := ih.1 hcut
        exact ⟨by simp [hbefore, Ne.symm hc], rfl⟩
      · rintro ⟨hbefore, hcs⟩
        cases before with
        | nil =>
          cases hcs
          exact absurd rfl hc
        | cons d before =>
          cases hcs
          exact ⟨(before, after), ih.2 ⟨List.not_mem_of_not_mem_cons hbefore, rfl⟩, rfl⟩

/-- What is joined by a character has no other characters than its parts. -/
theorem mem_intercalate_singleton {css : List (List Char)} (h : c ∈ [mark].intercalate css) :
    c = mark ∨ ∃ cs ∈ css, c ∈ cs := by
  induction css with
  | nil => simp at h
  | cons cs css ih =>
    by_cases hne : css = []
    · subst hne
      rw [List.intercalate_singleton] at h
      exact .inr ⟨cs, List.mem_cons_self, h⟩
    · rw [List.intercalate_cons_of_ne_nil hne, List.append_assoc, List.mem_append, List.mem_append,
        List.mem_singleton] at h
      rcases h with h | h | h
      · exact .inr ⟨cs, List.mem_cons_self, h⟩
      · exact .inl h
      · exact (ih h).imp_right fun ⟨ds, hds, hc⟩ => ⟨ds, List.mem_cons_of_mem _ hds, hc⟩

/-! ## Names -/

/-- A character that may stand in the name of an attribute or a matching rule. -/
def isNameChar (c : Char) : Bool := isKeyChar c || c == '.' || c == ';'

theorem isNameChar_of_isKey (h : isKey cs) (hc : c ∈ cs) : isNameChar c := by
  rw [isKey, Bool.and_eq_true, List.all_eq_true] at h
  simp [isNameChar, h.2 c hc]

theorem isNameChar_of_isTypeName (h : isTypeName cs) (hc : c ∈ cs) : isNameChar c := by
  rw [isTypeName, Bool.and_eq_true, List.all_eq_true] at h
  simp [isNameChar, h.2 c hc]

theorem isNameChar_of_isAttribute (h : isAttribute cs) (hc : c ∈ cs) : isNameChar c := by
  unfold isAttribute at h
  split at h
  · rename_i name options hparts
    rw [Bool.and_eq_true, List.all_eq_true] at h
    have hcs : [';'].intercalate (cs.splitOn ';') = cs := List.intercalate_splitOn ';'
    rw [← hcs, hparts] at hc
    obtain rfl | ⟨part, hpart, hmem⟩ := mem_intercalate_singleton hc
    · rfl
    · rcases List.mem_cons.1 hpart with rfl | hpart
      · exact isNameChar_of_isTypeName h.1 hmem
      · exact isNameChar_of_isKey (h.2 part hpart) hmem
  · cases h

theorem notMem_of_isAttribute (h : isAttribute name) (hc : ¬ isNameChar c) : c ∉ name :=
  fun hmem => hc (isNameChar_of_isAttribute h hmem)

/-- An attribute of letters, digits and hyphens has no options. -/
theorem isAttribute_of_isKey (h : isKey cs) : isAttribute cs := by
  have hsemicolon : ';' ∉ cs := fun hc => by
    rw [isKey, Bool.and_eq_true, List.all_eq_true] at h
    exact absurd (h.2 ';' hc) (by decide)
  rw [isKey, Bool.and_eq_true, List.all_eq_true] at h
  rw [isAttribute, List.splitOn_eq_singleton hsemicolon]
  simp only [isTypeName, List.all_nil, Bool.and_true, Bool.and_eq_true, List.all_eq_true,
    Bool.or_eq_true]
  exact ⟨h.1, fun c hc => .inl (h.2 c hc)⟩

theorem isNameChar_of_isTagged (h : isTagged name tags) {part : List Char}
    (hpart : part ∈ name :: tags) (hc : c ∈ part) : isNameChar c := by
  simp only [isTagged, Bool.and_eq_true, Bool.or_eq_true, List.isEmpty_iff, List.all_eq_true] at h
  rcases List.mem_cons.1 hpart with rfl | hpart
  · rcases h.1.1 with rfl | hname
    · cases hc
    · exact isNameChar_of_isAttribute hname hc
  · exact isNameChar_of_isTypeName (h.1.2 part hpart) hc

/-- Only name characters and colons stand before the last colon of an extensible comparison. -/
theorem notMem_of_isTagged (h : isTagged name tags) (hc : ¬ isNameChar c) (hcolon : c ≠ ':') :
    c ∉ [':'].intercalate (name :: tags) := by
  intro hmem
  obtain hcolon' | ⟨part, hpart, hmem⟩ := mem_intercalate_singleton hmem
  · exact hcolon hcolon'
  · exact hc (isNameChar_of_isTagged h hpart hmem)

/-! ## Values -/

theorem hexValue?_of_reserved (h : c ∈ filterReserved) : hexValue? c = none := by
  simp only [filterReserved, List.mem_cons, List.not_mem_nil, or_false] at h
  rcases h with rfl | rfl | rfl | rfl | rfl <;> rfl

theorem value?_plain (h : c ∉ filterReserved) (cs : List Char) :
    value? (c :: cs) = (value? cs).map (String.utf8EncodeChar c ++ ·) := by
  have hc : c ≠ '\\' := fun hc => h (hc ▸ by decide)
  rw [value?, if_neg h]
  exact fun _ _ _ hbackslash _ => hc hbackslash

theorem value?_escaped {high low : Char} {m n : Nat} (hhigh : hexValue? high = some m)
    (hlow : hexValue? low = some n) (cs : List Char) :
    value? ('\\' :: high :: low :: cs) = (value? cs).map ((16 * m + n).toUInt8 :: ·) := by
  rw [value?, hhigh, hlow]

/-- A value has no character of its own that means something around it. -/
theorem notMem_of_value? {bytes : List UInt8} (h : value? cs = some bytes)
    (hc : c ∈ filterReserved) (hbackslash : c ≠ '\\') : c ∉ cs := by
  fun_induction value? cs generalizing bytes with
  | case1 => exact List.not_mem_nil
  | case2 high low cs m n hlow hhigh ih =>
    obtain ⟨_, hcs, -⟩ := Option.map_eq_some_iff.1 h
    have hnone := hexValue?_of_reserved hc
    simp only [List.mem_cons, not_or]
    refine ⟨hbackslash, ?_, ?_, ih hcs⟩
    · rintro rfl
      rw [hnone] at hhigh
      cases hhigh
    · rintro rfl
      rw [hnone] at hlow
      cases hlow
  | case3 => cases h
  | case4 => cases h
  | case5 d cs _ hd ih =>
    obtain ⟨_, hcs, -⟩ := Option.map_eq_some_iff.1 h
    rw [List.mem_cons, not_or]
    exact ⟨fun heq => hd (heq ▸ hc), ih hcs⟩

theorem exists_value_of_mapM {texts : List (List Char)} {values : List (List UInt8)}
    (h : texts.mapM value? = some values) (ht : text ∈ texts) :
    ∃ value, value? text = some value := by
  induction texts generalizing values with
  | nil => cases ht
  | cons first texts ih =>
    simp only [List.mapM_cons, Option.bind_eq_bind, Option.bind_eq_some_iff] at h
    obtain ⟨value, hfirst, values, hvalues, -⟩ := h
    rcases List.mem_cons.1 ht with rfl | ht
    · exact ⟨value, hfirst⟩
    · exact ih hvalues ht

/-! ## Items -/

namespace FilterItem

variable {item : FilterItem}

/-! ### What is read is written -/

theorem writtenAs_of_compare? {comparison : Comparison}
    (h : compare? comparison name text = some item) :
    item.WrittenAs (name ++ comparison.sign ++ '=' :: text) := by
  unfold compare? at h
  split at h
  · rename_i hname
    obtain ⟨value, hvalue, rfl⟩ := Option.map_eq_some_iff.1 h
    exact .compare comparison hname hvalue
  · cases h

theorem writtenAs_of_equality? (h : equality? name text = some item) :
    item.WrittenAs (name ++ '=' :: text) := by
  unfold equality? at h
  split at h
  · rename_i hname
    have htext : ['*'].intercalate (text.splitOn '*') = text := List.intercalate_splitOn '*'
    rw [← htext]
    split at h
    · rename_i part hpart
      obtain ⟨value, hvalue, rfl⟩ := Option.map_eq_some_iff.1 h
      rw [hpart, List.intercalate_singleton]
      simpa [Comparison.sign] using WrittenAs.compare .equal hname hvalue
    · rename_i hparts
      cases h
      rw [hparts]
      exact .present hname
    · rename_i hone htwo
      obtain ⟨values, hvalues, rfl⟩ := Option.map_eq_some_iff.1 h
      refine .substrings hname hvalues ?_ htwo
      -- A text is never split into no parts, so what is neither of the first two has two or more.
      match hparts : text.splitOn '*' with
      | [] => exact absurd hparts (List.splitOn_ne_nil '*' text)
      | [part] => exact absurd hparts (hone part)
      | _ :: _ :: _ => simp
  · cases h

theorem writtenAs_of_extensible? (h : extensible? name text = some item) :
    item.WrittenAs (name ++ ':' :: '=' :: text) := by
  unfold extensible? at h
  split at h
  · rename_i attr tags hparts
    split at h
    · rename_i htags
      obtain ⟨value, hvalue, rfl⟩ := Option.map_eq_some_iff.1 h
      have hname : [':'].intercalate (name.splitOn ':') = name := List.intercalate_splitOn ':'
      rw [← hname, hparts]
      exact .extensible htags hvalue
    · cases h
  · cases h

theorem writtenAs_of_ofSides? (h : ofSides? name text = some item) :
    item.WrittenAs (name ++ '=' :: text) := by
  have hlast {c : Char} (h : name.getLast? = some c) : name = name.dropLast ++ [c] :=
    (List.dropLast_append_getLast? c h).symm
  unfold ofSides? at h
  split at h
  · rw [hlast ‹_›]
    exact writtenAs_of_compare? h
  · rw [hlast ‹_›]
    exact writtenAs_of_compare? h
  · rw [hlast ‹_›]
    exact writtenAs_of_compare? h
  · rw [hlast ‹_›, List.append_assoc]
    exact writtenAs_of_extensible? h
  · exact writtenAs_of_equality? h

/-! ### What is written is read -/

theorem compare?_eq_some (comparison : Comparison) {value : List UInt8} (hname : isAttribute name)
    (hvalue : value? text = some value) :
    compare? comparison name text = some (.compare name comparison value) := by
  rw [compare?, if_pos hname, hvalue, Option.map_some]

theorem equality?_value {value : List UInt8} (hname : isAttribute name)
    (hvalue : value? text = some value) :
    equality? name text = some (.compare name .equal value) := by
  have hasterisk : '*' ∉ text := notMem_of_value? hvalue (by decide) (by decide)
  rw [equality?, if_pos hname, List.splitOn_eq_singleton hasterisk]
  simp [hvalue]

theorem equality?_present (hname : isAttribute name) :
    equality? name ['*'] = some (.present name) := by
  rw [equality?, if_pos hname]
  rfl

theorem equality?_substrings {texts : List (List Char)} {values : List (List UInt8)}
    (hname : isAttribute name) (hvalues : texts.mapM value? = some values)
    (hseveral : 2 ≤ texts.length) (hpresent : texts ≠ [[], []]) :
    equality? name (['*'].intercalate texts) = some (.substrings name values) := by
  have hasterisk : ∀ text ∈ texts, '*' ∉ text := fun text ht => by
    obtain ⟨value, hvalue⟩ := exists_value_of_mapM hvalues ht
    exact notMem_of_value? hvalue (by decide) (by decide)
  have hne : texts ≠ [] := List.ne_nil_of_length_pos (by omega)
  rw [equality?, if_pos hname, List.splitOn_intercalate '*' hasterisk hne]
  split
  · simp at hseveral
  · exact absurd rfl hpresent
  · rw [hvalues, Option.map_some]

theorem extensible?_eq_some {value : List UInt8} (htags : isTagged name tags)
    (hvalue : value? text = some value) :
    extensible? ([':'].intercalate (name :: tags)) text = some (.extensible name tags value) := by
  have hcolon : ∀ part ∈ name :: tags, ':' ∉ part := fun part hpart hc =>
    absurd (isNameChar_of_isTagged htags hpart hc) (by decide)
  rw [extensible?, List.splitOn_intercalate ':' hcolon (by simp)]
  simp [htags, hvalue]

/-- No attribute ends in a character that makes the equals sign after it something else. -/
theorem ofSides?_equality (hname : isAttribute name) :
    ofSides? name text = equality? name text := by
  have hlast {c : Char} (h : name.getLast? = some c) : isNameChar c :=
    isNameChar_of_isAttribute hname (List.mem_of_getLast? h)
  unfold ofSides?
  split
  case h_5 => rfl
  all_goals exact absurd (hlast ‹_›) (by decide)

theorem ofSides?_compare {value : List UInt8} (comparison : Comparison) (hname : isAttribute name)
    (hvalue : value? text = some value) :
    ofSides? (name ++ comparison.sign) text = some (.compare name comparison value) := by
  cases comparison with
  | equal =>
    rw [Comparison.sign, List.append_nil, ofSides?_equality hname, equality?_value hname hvalue]
  | approx | atLeast | atMost =>
    simp [ofSides?, Comparison.sign, compare?_eq_some _ hname hvalue]

theorem ofSides?_extensible {value : List UInt8} (htags : isTagged name tags)
    (hvalue : value? text = some value) :
    ofSides? ([':'].intercalate (name :: tags) ++ [':']) text =
      some (.extensible name tags value) := by
  simp [ofSides?, extensible?_eq_some htags hvalue]

/-- An item is written with an equals sign, none before it, and what stands on its two sides. -/
theorem WrittenAs.exists_sides (h : item.WrittenAs cs) :
    ∃ name text, '=' ∉ name ∧ cs = name ++ '=' :: text ∧ ofSides? name text = some item := by
  have hequals {name : List Char} (hname : isAttribute name) : '=' ∉ name :=
    notMem_of_isAttribute hname (by decide)
  cases h with
  | compare comparison hname hvalue =>
    refine ⟨_, _, ?_, rfl, ofSides?_compare comparison hname hvalue⟩
    cases comparison <;> simp [Comparison.sign, hequals hname]
  | present hname =>
    exact ⟨_, _, hequals hname, rfl,
      (ofSides?_equality hname).trans (equality?_present hname)⟩
  | substrings hname hvalues hseveral hpresent =>
    exact ⟨_, _, hequals hname, rfl, (ofSides?_equality hname).trans
      (equality?_substrings hname hvalues hseveral hpresent)⟩
  | extensible htags hvalue =>
    refine ⟨_, _, ?_, by rw [List.append_assoc]; rfl, ofSides?_extensible htags hvalue⟩
    rw [List.mem_append, List.mem_singleton, not_or]
    exact ⟨notMem_of_isTagged htags (by decide) (by decide), by decide⟩

/-- Items are read exactly from the texts that they are written as. -/
theorem read?_eq_some_iff : read? cs = some item ↔ item.WrittenAs cs := by
  constructor
  · intro h
    obtain ⟨⟨name, text⟩, hcut, hsides⟩ := Option.bind_eq_some_iff.1 h
    obtain ⟨-, rfl⟩ := cut?_eq_some_iff.1 hcut
    exact writtenAs_of_ofSides? hsides
  · intro h
    obtain ⟨name, text, hname, hcs, hsides⟩ := h.exists_sides
    rw [read?, cut?_eq_some_iff.2 ⟨hname, hcs⟩, Option.bind_some, hsides]

/-- An item ends before the first closing parenthesis. -/
theorem WrittenAs.notMem (h : item.WrittenAs cs) : ')' ∉ cs := by
  have hvalue {text : List Char} {value : List UInt8} (h : value? text = some value) : ')' ∉ text :=
    notMem_of_value? h (by decide) (by decide)
  have hname {name : List Char} (h : isAttribute name) : ')' ∉ name :=
    notMem_of_isAttribute h (by decide)
  cases h with
  | compare comparison h hv =>
    cases comparison <;> simp [Comparison.sign, hname h, hvalue hv]
  | present h => simp [hname h]
  | substrings h hvs =>
    rw [List.mem_append, List.mem_cons, not_or, not_or]
    refine ⟨hname h, by decide, fun hmem => ?_⟩
    obtain hasterisk | ⟨text, htext, hmem⟩ := mem_intercalate_singleton hmem
    · exact absurd hasterisk (by decide)
    · obtain ⟨value, hv⟩ := exists_value_of_mapM hvs htext
      exact hvalue hv hmem
  | extensible htags hv =>
    rw [List.mem_append, List.mem_cons, List.mem_cons, not_or, not_or, not_or]
    exact ⟨notMem_of_isTagged htags (by decide) (by decide), by decide, by decide, hvalue hv⟩

/-- No item begins like a filter of another sort. -/
theorem WrittenAs.exists_cons (h : item.WrittenAs cs) :
    ∃ c rest, cs = c :: rest ∧ c ∉ ['&', '|', '!', '(', ')'] := by
  have hmarks {c : Char} (h : c ∈ ['&', '|', '!', '(', ')']) : ¬ isNameChar c := by
    simp only [List.mem_cons, List.not_mem_nil, or_false] at h
    rcases h with rfl | rfl | rfl | rfl | rfl <;> decide
  have hname {name rest : List Char} (h : isAttribute name) :
      ∃ c cs, name ++ rest = c :: cs ∧ c ∉ ['&', '|', '!', '(', ')'] := by
    cases name with
    | nil => cases h
    | cons c name =>
      exact ⟨c, _, rfl, fun hc => hmarks hc (isNameChar_of_isAttribute h List.mem_cons_self)⟩
  cases h with
  | compare _ h =>
    rw [List.append_assoc]
    exact hname h
  | present h => exact hname h
  | substrings h => exact hname h
  | @extensible name _ tags _ htags =>
    cases name with
    | nil => cases tags <;> exact ⟨':', _, rfl, by decide⟩
    | cons c name =>
      have hc : isNameChar c := isNameChar_of_isTagged htags List.mem_cons_self List.mem_cons_self
      rw [List.intercalate_cons_cons_left]
      exact ⟨c, _, rfl, fun hmem => hmarks hmem hc⟩

end FilterItem

/-! ## Rows of filters -/

namespace SearchFilter

variable {f : SearchFilter} {fs gs : List SearchFilter} {front rest : List Char}
  {reader : List Char → Option (List SearchFilter × List Char)} {steps : Nat}

/-- A filter begins with an opening parenthesis, and no other one follows at once. -/
theorem Row.exists_cons (h : Row (f :: fs) cs) :
    ∃ c rest, cs = '(' :: c :: rest ∧ c ≠ '(' ∧ c ≠ ')' := by
  cases h with
  | all | any | not => exact ⟨_, _, rfl, by decide, by decide⟩
  | item hinner =>
    obtain ⟨c, rest, rfl, hc⟩ := hinner.exists_cons
    simp only [List.mem_cons, not_or] at hc
    exact ⟨c, _, rfl, hc.2.2.2.1, hc.2.2.2.2.1⟩

theorem Row.append {ds : List Char} (h : Row fs cs) (h' : Row gs ds) :
    Row (fs ++ gs) (cs ++ ds) := by
  induction h with
  | nil => exact h'
  | all hne hinner _ _ ih =>
    rw [List.append_assoc]
    exact .all hne hinner ih
  | any hne hinner _ _ ih =>
    rw [List.append_assoc]
    exact .any hne hinner ih
  | not hinner _ _ ih =>
    rw [List.append_assoc]
    exact .not hinner ih
  | item hinner _ ih =>
    rw [List.append_assoc]
    exact .item hinner ih

/-! ### What is read is written -/

/-- A filter that is read begins a row, if what a reader of rows reads is a row. -/
theorem row_of_component? (hreader : ∀ cs fs rest, reader cs = some (fs, rest) →
      ∃ front, cs = front ++ rest ∧ Row fs front)
    (h : component? reader cs = some (f, rest)) :
    ∃ front, cs = front ++ ')' :: rest ∧
      ∀ gs ds, Row gs ds → Row (f :: gs) (parenthesized front ++ ds) := by
  unfold component? at h
  split at h
  · split at h
    · cases h
      obtain ⟨front, rfl, hfront⟩ := hreader _ _ _ ‹_›
      exact ⟨'&' :: front, rfl, fun gs ds => .all (by simp) hfront⟩
    · cases h
  · split at h
    · cases h
      obtain ⟨front, rfl, hfront⟩ := hreader _ _ _ ‹_›
      exact ⟨'|' :: front, rfl, fun gs ds => .any (by simp) hfront⟩
    · cases h
  · split at h
    · cases h
      obtain ⟨front, rfl, hfront⟩ := hreader _ _ _ ‹_›
      exact ⟨'!' :: front, rfl, fun gs ds => .not hfront⟩
    · cases h
  · obtain ⟨⟨inner, rest⟩, hcut, h⟩ := Option.bind_eq_some_iff.1 h
    obtain ⟨item, hitem, heq⟩ := Option.map_eq_some_iff.1 h
    cases heq
    obtain ⟨-, rfl⟩ := cut?_eq_some_iff.1 hcut
    exact ⟨inner, rfl, fun gs ds => .item (FilterItem.read?_eq_some_iff.1 hitem)⟩

theorem row?_of_head?_ne (h : cs.head? ≠ some '(') (steps : Nat) :
    row? steps cs = some ([], cs) := by
  unfold row?
  split
  · exact absurd rfl h
  · rfl

theorem row_of_row? (h : row? steps cs = some (fs, rest)) :
    ∃ front, cs = front ++ rest ∧ Row fs front := by
  induction steps generalizing cs fs rest with
  | zero =>
    cases h
    exact ⟨[], rfl, .nil⟩
  | succ steps ih =>
    by_cases hhead : cs.head? = some '('
    · obtain ⟨cs, rfl⟩ := List.head?_eq_some_iff.1 hhead
      obtain ⟨first, hfirst, h⟩ := Option.bind_eq_some_iff.1 h
      obtain ⟨others, hothers, heq⟩ := Option.map_eq_some_iff.1 h
      cases heq
      obtain ⟨front, rfl, hrow⟩ := row_of_component? (fun _ _ _ h => ih h) hfirst
      obtain ⟨back, hback, hrest⟩ := ih hothers
      refine ⟨parenthesized front ++ back, ?_, hrow _ _ hrest⟩
      rw [hback]
      simp [parenthesized]
    · rw [row?_of_head?_ne hhead] at h
      cases h
      exact ⟨[], rfl, .nil⟩

/-! ### What is written is read -/

theorem component?_all (hne : fs ≠ []) (h : reader cs = some (fs, ')' :: rest)) :
    component? reader ('&' :: cs) = some (.all fs, rest) := by
  obtain ⟨f, fs, rfl⟩ := List.exists_cons_of_ne_nil hne
  simp [component?, h]

theorem component?_any (hne : fs ≠ []) (h : reader cs = some (fs, ')' :: rest)) :
    component? reader ('|' :: cs) = some (.any fs, rest) := by
  obtain ⟨f, fs, rfl⟩ := List.exists_cons_of_ne_nil hne
  simp [component?, h]

theorem component?_not (h : reader cs = some ([f], ')' :: rest)) :
    component? reader ('!' :: cs) = some (.not f, rest) := by
  simp [component?, h]

theorem component?_item {item : FilterItem} (h : item.WrittenAs cs) :
    component? reader (cs ++ ')' :: rest) = some (.item item, rest) := by
  have hread : (cut? ')' (cs ++ ')' :: rest)).bind (fun parts =>
      (FilterItem.read? parts.1).map (SearchFilter.item ·, parts.2)) = some (.item item, rest) := by
    rw [cut?_eq_some_iff.2 ⟨h.notMem, rfl⟩, Option.bind_some, FilterItem.read?_eq_some_iff.2 h,
      Option.map_some]
  obtain ⟨c, cs, rfl, hc⟩ := h.exists_cons
  unfold component?
  split
  case h_4 => exact hread
  -- An item begins with none of the three signs.
  all_goals
    rename_i heq
    cases heq
    exact absurd (by decide) hc

/-- A row is read filter by filter. -/
theorem row?_cons {first others : List Char}
    (hsteps : (parenthesized first ++ others).length ≤ steps)
    (hfirst : ∀ {steps : Nat} {after : List Char}, first.length ≤ steps →
      component? (row? steps) (first ++ ')' :: after) = some (f, after))
    (hothers : ∀ {steps : Nat}, others.length ≤ steps →
      row? steps (others ++ rest) = some (fs, rest)) :
    row? steps (parenthesized first ++ others ++ rest) = some (f :: fs, rest) := by
  simp only [parenthesized, List.length_append, List.length_cons, List.length_nil] at hsteps
  obtain ⟨steps, rfl⟩ := Nat.exists_eq_add_one.2 (show 0 < steps by omega)
  have htext : parenthesized first ++ others ++ rest =
      '(' :: (first ++ ')' :: (others ++ rest)) := by
    simp [parenthesized]
  rw [htext, row?, hfirst (by omega), Option.bind_some, hothers (by omega), Option.map_some]

/-- A row is read as far as it goes, if there is a step for each of its filters. -/
theorem row?_append (h : Row fs cs) (hsteps : cs.length ≤ steps) (hrest : rest.head? ≠ some '(') :
    row? steps (cs ++ rest) = some (fs, rest) := by
  -- The row inside a filter is followed by a closing parenthesis, so it ends where it should.
  have hclosing (after : List Char) : (')' :: after).head? ≠ some '(' := by simp
  induction h generalizing steps rest with
  | nil => exact row?_of_head?_ne hrest steps
  | all hne _ _ ih ihrest =>
    exact row?_cons hsteps
      (fun hsteps => component?_all hne (ih (Nat.le_of_succ_le hsteps) (hclosing _)))
      (fun hsteps => ihrest hsteps hrest)
  | any hne _ _ ih ihrest =>
    exact row?_cons hsteps
      (fun hsteps => component?_any hne (ih (Nat.le_of_succ_le hsteps) (hclosing _)))
      (fun hsteps => ihrest hsteps hrest)
  | not _ _ ih ihrest =>
    exact row?_cons hsteps
      (fun hsteps => component?_not (ih (Nat.le_of_succ_le hsteps) (hclosing _)))
      (fun hsteps => ihrest hsteps hrest)
  | item hinner _ ihrest =>
    exact row?_cons hsteps (fun _ => component?_item hinner) (fun hsteps => ihrest hsteps hrest)

/-- Filters are read exactly from the texts that they are written as. -/
theorem read?_eq_some_iff : read? cs = some f ↔ f.WrittenAs cs := by
  constructor
  · intro h
    unfold read? at h
    split at h
    · rename_i hrow
      cases h
      obtain ⟨front, rfl, hfront⟩ := row_of_row? hrow
      rwa [List.append_nil]
    · cases h
  · intro h
    have hrow : row? cs.length (cs ++ []) = some ([f], []) :=
      row?_append h (Nat.le_refl _) (by simp)
    rw [List.append_nil] at hrow
    rw [read?, hrow]

/-- No text is written for two filters. -/
theorem WrittenAs.unique {g : SearchFilter} (h : f.WrittenAs cs) (h' : g.WrittenAs cs) : f = g :=
  Option.some.inj ((read?_eq_some_iff.2 h).symm.trans (read?_eq_some_iff.2 h'))

example : read? "(&(a=\\2a)(!(b>=\u00e9))(o=x*)(cn:dn:2.5:=))".toList =
    some (.all [.item (.compare ['a'] .equal [0x2a]),
      .not (.item (.compare ['b'] .atLeast [0xc3, 0xa9])),
      .item (.substrings ['o'] [[0x78], []]),
      .item (.extensible ['c', 'n'] [['d', 'n'], ['2', '.', '5']] [])]) := rfl

end SearchFilter

end TwoFactorLogin
