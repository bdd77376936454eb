import TwoFactorLogin.Proofs.FilterGrammar

/-!
# No login name tampers with a search filter

The filter for a login name is text put together from the configured filter, the attributes and the
escaped name. Read by the grammar of filters, it is the conjunction of two: what the configured
filter is read as, and the test that an attribute is equal to the login name, byte for byte
(`namedBy`). The name is one value in this test, without wildcards, whatever characters it has.

There are three steps to this.

* An escaped name is a value, and it is read as the bytes of the name (`value?_escapeFilter`).
* The tests of the attributes are a row of filters (`row_clauses`).
* Parentheses are put around the configured filter exactly if it has none of its own
  (`writtenAs_baseFilter`), because no filter has a second parenthesis right after its first.

Because the filter reads back as the login name, no two names share a filter.

Main statement: `DirectoryConfig.userFilter_readsBack`.
-/

namespace TwoFactorLogin

open SearchFilter

variable {names : List String} {username : String} {base : SearchFilter}

/-! ## Login names as values -/

/-- The bytes of a login name. -/
def nameBytes (username : String) : List UInt8 := username.toList.flatMap String.utf8EncodeChar

theorem nameBytes_inj {other : String} (h : nameBytes other = nameBytes username) :
    other = username := by
  have hutf8 : other.toList.utf8Encode = username.toList.utf8Encode :=
    congrArg List.toByteArray h
  rwa [String.utf8Encode_toList, String.utf8Encode_toList, String.toByteArray_inj] at hutf8

theorem filterEscape?_of_notMem {c : Char} (h : c ∉ filterReserved) : filterEscape? c = none := by
  have hnul : c.toNat ≠ 0 := fun hzero => h (by
    rw [show c = '\x00' from Char.toNat_inj.1 hzero]
    decide)
  simp only [filterReserved, List.mem_cons, not_or] at h
  simp [filterEscape?, h, hnul]

/-- One character of a login name is read back. -/
theorem value?_escape_append (c : Char) (cs : List Char) :
    value? ((filterEscape? c).getD [c] ++ cs) = (value? cs).map (String.utf8EncodeChar c ++ ·) := by
  by_cases hc : c ∈ filterReserved
  · simp only [filterReserved, List.mem_cons, List.not_mem_nil, or_false] at hc
    have zero : hexValue? '0' = some 0 := rfl
    have two : hexValue? '2' = some 2 := rfl
    have five : hexValue? '5' = some 5 := rfl
    rcases hc with rfl | rfl | rfl | rfl | rfl
    · exact value?_escaped zero zero cs
    · exact value?_escaped two (show hexValue? '8' = some 8 from rfl) cs
    · exact value?_escaped two (show hexValue? '9' = some 9 from rfl) cs
    · exact value?_escaped two (show hexValue? 'a' = some 10 from rfl) cs
    · exact value?_escaped five (show hexValue? 'c' = some 12 from rfl) cs
  · rw [filterEscape?_of_notMem hc]
    exact value?_plain hc cs

/-- An escaped login name is a value: the name itself. -/
theorem value?_escapeFilter (username : String) :
    value? (escapeFilter username.toList) = some (nameBytes username) := by
  unfold nameBytes
  induction username.toList with
  | nil => rfl
  | cons c cs ih =>
    rw [escapeFilter, List.flatMap_cons, value?_escape_append]
    rw [escapeFilter] at ih
    rw [ih]
    rfl

/-! ## The tests for a login name -/

/-- The test that an attribute is equal to a login name. -/
def equalTo (username name : String) : SearchFilter :=
  .item (.compare name.toList .equal (nameBytes username))

/-- The test that one of several attributes is equal to a login name, or that the only one is. -/
def namedBy (names : List String) (username : String) : SearchFilter :=
  match names with
  | [name] => equalTo username name
  | names => .any (names.map (equalTo username))

theorem equalTo_inj {other name : String} (h : equalTo other name = equalTo username name) :
    other = username := by
  injection h with hitem
  injection hitem with _ _ hbytes
  exact nameBytes_inj hbytes

theorem namedBy_inj (hne : names ≠ []) {other : String}
    (h : namedBy names other = namedBy names username) : other = username := by
  match names with
  | [] => exact absurd rfl hne
  | [_] => exact equalTo_inj h
  | _ :: _ :: _ => exact equalTo_inj (List.cons.inj (SearchFilter.any.inj h)).1

theorem row_clauses (hnames : ∀ name ∈ names, isKey name.toList) (username : String) :
    Row (names.map (equalTo username))
      (names.flatMap (equalityClause (escapeFilter username.toList))) := by
  induction names with
  | nil => exact .nil
  | cons name names ih =>
    have hitem : FilterItem.WrittenAs (.compare name.toList .equal (nameBytes username))
        (name.toList ++ [] ++ '=' :: escapeFilter username.toList) :=
      .compare .equal (isAttribute_of_isKey (hnames name List.mem_cons_self))
        (value?_escapeFilter username)
    rw [List.append_nil] at hitem
    exact .item hitem (ih fun name hname => hnames name (List.mem_cons_of_mem _ hname))

theorem writtenAs_userClauses (hne : names ≠ []) (hnames : ∀ name ∈ names, isKey name.toList)
    (username : String) :
    (namedBy names username).WrittenAs (userClauses names (escapeFilter username.toList)) := by
  have hrow := row_clauses hnames username
  match names with
  | [] => exact absurd rfl hne
  | [name] => exact hrow
  | name :: second :: names =>
    rw [userClauses, if_pos (by simp), ← List.append_nil (parenthesized _)]
    exact .any (by simp) hrow .nil

/-! ## The configured filter -/

/-- Parentheses are put around the configured filter exactly if it has none. -/
theorem writtenAs_baseFilter {filter : String}
    (h : base.WrittenAs (Text.stripChars filter.toList) ∨
      base.WrittenAs (parenthesized (Text.stripChars filter.toList))) :
    base.WrittenAs (baseFilter filter) := by
  unfold baseFilter
  generalize Text.stripChars filter.toList = cs at h
  rcases h with h | h
  · obtain ⟨c, rest, rfl, -⟩ := Row.exists_cons h
    exact h
  · obtain ⟨c, rest, hcs, hopen, hclose⟩ := Row.exists_cons h
    -- Without its own parentheses the filter begins with the second character of what is read.
    have hhead : cs.head? ≠ some '(' := by
      cases cs with
      | nil =>
        cases hcs
        exact absurd rfl hclose
      | cons d cs =>
        cases hcs
        simpa using hopen
    simp only [if_neg hhead]
    exact h

namespace DirectoryConfig

variable {c : DirectoryConfig}

theorem writtenAs_userFilter (hnames : ∀ name ∈ c.usernameAttributes, isKey name.toList)
    (hbase : base.WrittenAs (baseFilter c.userSearchFilter)) (username : String) :
    SearchFilter.WrittenAs (.all [base, namedBy c.usernameAttributes username])
      (c.userFilter username).toList := by
  rw [userFilter, String.toList_ofList, ← List.append_nil (parenthesized _)]
  exact .all (by simp)
    (hbase.append (writtenAs_userClauses c.usernameAttributes_ne hnames username)) .nil

/-- The filter for a login name is the configured filter and the test for that very name, whatever
the name is, and no other login name has the same filter. -/
theorem userFilter_readsBack (hnames : ∀ name ∈ c.usernameAttributes, isKey name.toList)
    (hbase : read? (Text.stripChars c.userSearchFilter.toList) = some base ∨
      read? (parenthesized (Text.stripChars c.userSearchFilter.toList)) = some base)
    (username : String) :
    read? (c.userFilter username).toList =
        some (.all [base, namedBy c.usernameAttributes username]) ∧
      ∀ other, other ≠ username → c.userFilter other ≠ c.userFilter username := by
  rw [read?_eq_some_iff, read?_eq_some_iff] at hbase
  have hwritten (username : String) :
      SearchFilter.WrittenAs (.all [base, namedBy c.usernameAttributes username])
        (c.userFilter username).toList :=
    writtenAs_userFilter hnames (writtenAs_baseFilter hbase) username
  refine ⟨read?_eq_some_iff.2 (hwritten username), fun other hother heq => hother ?_⟩
  have hother' := hwritten other
  rw [heq] at hother'
  have hparts := (List.cons.inj (SearchFilter.all.inj (hother'.unique (hwritten username)))).2
  exact namedBy_inj c.usernameAttributes_ne (List.cons.inj hparts).1

/-- A configuration with a filter without parentheses and two attributes for the login name. -/
def twoAttributes : DirectoryConfig where
  userBaseDn := "dc=x"
  hostname := "localhost"
  port := none
  encryption := .none
  usernameAttributes := ["uid", "e-mail"]
  usernameAttributes_ne := by decide
  userSearchFilter := " objectClass=* "
  searchBindDn := none
  searchBindPassword := none
  userDnTemplate := none
  tlsValidate := true
  caBundle := none
  connectTimeout := .double (.ofInt 10)
  receiveTimeout := .double (.ofInt 10)

/-- A login name that would be two wildcards and another test if it were not escaped. -/
theorem readsBack_twoAttributes :
    (∀ name ∈ twoAttributes.usernameAttributes, isKey name.toList) ∧
      twoAttributes.userFilter "*)(uid=*" =
        "(&(objectClass=*)(|(uid=\\2a\\29\\28uid=\\2a)(e-mail=\\2a\\29\\28uid=\\2a)))" ∧
      read? (twoAttributes.userFilter "*)(uid=*").toList =
        some (.all [.item (.present "objectClass".toList),
          .any [equalTo "*)(uid=*" "uid", equalTo "*)(uid=*" "e-mail"]]) ∧
      twoAttributes.userFilter "\\2a)(uid=*" ≠ twoAttributes.userFilter "*)(uid=*" := by
  have hnames : ∀ name ∈ twoAttributes.usernameAttributes, isKey name.toList := by decide
  obtain ⟨hread, hapart⟩ := userFilter_readsBack hnames (.inr rfl) "*)(uid=*"
  exact ⟨hnames, rfl, hread, hapart _ (by decide)⟩

end DirectoryConfig

end TwoFactorLogin
