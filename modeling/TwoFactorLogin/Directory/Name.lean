import TwoFactorLogin.Config.Directory

/-!
# Names derived from a template

A login name becomes part of a distinguished name with every special character behind a backslash,
so that it cannot end the value it stands in.

* `escapeName`: the login name as an attribute value.
* `deriveDn`: the template with the escaped name put in, or the first attribute with it before the
  base.
-/

namespace TwoFactorLogin

/-- The characters that have a meaning in a distinguished name. -/
def nameSpecials : List Char := ['\\', ',', '+', '"', '<', '>', ';', '=', '\x00']

/-- The characters with a backslash before every special one. -/
def escapeSpecials (cs : List Char) : List Char :=
  cs.flatMap fun c => if nameSpecials.contains c then ['\\', c] else [c]

/-- The characters with a backslash before a leading number sign or space. -/
def guardFirst : List Char → List Char
  | [] => []
  | c :: cs => if c = '#' || c = ' ' then '\\' :: c :: cs else c :: cs

/-- The characters with a backslash before a space at the end. -/
def guardLast (cs : List Char) : List Char :=
  if cs.getLast? = some ' ' then cs.dropLast ++ ['\\', ' '] else cs

/-- A login name as the value of an attribute in a distinguished name. -/
def escapeName (cs : List Char) : Except Fault (List Char) :=
  if cs.isEmpty then .error .emptyName else .ok (guardLast (guardFirst (escapeSpecials cs)))

/-- The distinguished name around an escaped login name. -/
def DirectoryConfig.dnAround (c : DirectoryConfig) (escaped : List Char) : String :=
  match c.userDnTemplate.filter fun t => !t.isEmpty with
  | some template => String.ofList (Text.substitute usernameMark escaped template.toList)
  | none =>
    c.usernameAttributes.head c.usernameAttributes_ne ++ "=" ++ String.ofList escaped ++ ","
      ++ c.userBaseDn

/-- The distinguished name that a login name is given. -/
def DirectoryConfig.deriveDn (c : DirectoryConfig) (username : String) : Except Fault String :=
  (escapeName username.toList).map c.dnAround

end TwoFactorLogin
