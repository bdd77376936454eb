import TwoFactorLogin.Config.Directory

/-!
# Search filters

The filter for a login name joins the configured filter with a comparison for each attribute that
may hold the name. The name is escaped, so it stands for itself and for nothing else.
-/

namespace TwoFactorLogin

/-- The escape of a character that has a meaning in a filter. -/
def filterEscape? (c : Char) : Option (List Char) :=
  if c = '\\' then some ['\\', '5', 'c']
  else if c = '*' then some ['\\', '2', 'a']
  else if c = '(' then some ['\\', '2', '8']
  else if c = ')' then some ['\\', '2', '9']
  else if c.toNat = 0 then some ['\\', '0', '0']
  else none

/-- A login name as a value in a filter. -/
def escapeFilter (cs : List Char) : List Char := cs.flatMap fun c => (filterEscape? c).getD [c]

/-- A filter between parentheses. -/
def parenthesized (cs : List Char) : List Char := '(' :: cs ++ [')']

/-- The comparison of an attribute with an escaped value. -/
def equalityClause (escaped : List Char) (name : String) : List Char :=
  parenthesized (name.toList ++ '=' :: escaped)

/-- The comparisons of all attributes, as alternatives if there are several. -/
def userClauses (attributes : List String) (escaped : List Char) : List Char :=
  let clauses := attributes.flatMap (equalityClause escaped)
  if 1 < attributes.length then parenthesized ('|' :: clauses) else clauses

/-- The configured filter between parentheses, which may be there already. -/
def baseFilter (filter : String) : List Char :=
  let cs := Text.stripChars filter.toList
  if cs.head? = some '(' then cs else parenthesized cs

/-- The filter that finds a login name. -/
def DirectoryConfig.userFilter (c : DirectoryConfig) (username : String) : String :=
  String.ofList (parenthesized ('&' :: baseFilter c.userSearchFilter
    ++ userClauses c.usernameAttributes (escapeFilter username.toList)))

end TwoFactorLogin
