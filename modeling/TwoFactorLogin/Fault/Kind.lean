import TwoFactorLogin.Text.Quoted

/-!
# Kinds of faults

A fault belongs to a kind, and handlers choose by kind. The library's own kinds form a tree: each
is a special case of its parent, up to `OwnKind.general`. The other kinds are the directory's, the
operating system's, and those of malformed values.

Interruptions stand apart. They say that the run as a whole has to end, not that a step went wrong,
so a handler that takes faults of any other kind lets them through: `FaultKind.isInterruption`.

`FaultKind.wording` is the message of a fault that is raised with a text from outside. Most kinds
take the text as it is; some of the directory's say more.
-/

namespace TwoFactorLogin

/-- The kinds of faults that the library itself defines. -/
inductive OwnKind where
  | general
  | configuration
  | connectivity
  | secretUnavailable
  | secretStore
  | ambiguousSecret
  | codeInvalid
  | state
  | invariant
  deriving DecidableEq, Repr

namespace OwnKind

/-- The name of a kind in messages and logs. -/
def name : OwnKind → String
  | general => "Ldap2faError"
  | configuration => "ConfigurationFault"
  | connectivity => "ConnectivityFailure"
  | secretUnavailable => "SecretUnavailable"
  | secretStore => "SecretStoreError"
  | ambiguousSecret => "AmbiguousSecretError"
  | codeInvalid => "CodeInvalid"
  | state => "StateError"
  | invariant => "InvariantViolation"

/-- Every kind. -/
def all : List OwnKind :=
  [general, configuration, connectivity, secretUnavailable, secretStore, ambiguousSecret,
   codeInvalid, state, invariant]

/-- The kind with a given name. -/
def ofName? (s : String) : Option OwnKind := all.find? fun k => k.name = s

/-- A kind and the kinds it is a special case of, nearest first. -/
def ancestors : OwnKind → List OwnKind
  | general => [general]
  | secretStore => [secretStore, secretUnavailable, general]
  | ambiguousSecret => [ambiguousSecret, secretUnavailable, general]
  | k => [k, general]

/-- The text of a fault that is raised without one. -/
def defaultText : OwnKind → String
  | ambiguousSecret => "Multiple secrets stored for user"
  | _ => ""

end OwnKind

/-- What a fault is, as far as handlers tell faults apart. -/
inductive FaultKind where
  /-- A fault of the directory protocol or its connection. -/
  | directory (name : String)
  /-- A fault of the operating system. -/
  | system (name : String)
  | own (kind : OwnKind)
  /-- A value of the wrong kind. -/
  | type
  /-- A value of the right kind that is out of range or malformed. -/
  | value
  /-- A part that a value does not have. -/
  | missingPart
  | index
  /-- A number too large to be held. -/
  | overflow
  /-- A row that the secret table refuses. -/
  | integrity
  /-- A statement that the database cannot run. -/
  | operational
  /-- A statement with a value that the database cannot hold. -/
  | binding
  /-- A statement whose values are not what its columns ask for. -/
  | statement
  /-- The run is told to end: from the keyboard, by an exit, or because its task is cancelled. -/
  | interruption (name : String)
  | other (name : String)
  deriving DecidableEq, Repr

namespace FaultKind

/-- The name of a kind in logs and answers. -/
def name : FaultKind → String
  | directory name => name
  | system name => name
  | own kind => kind.name
  | type => "TypeError"
  | value => "ValueError"
  | missingPart => "AttributeError"
  | index => "IndexError"
  | overflow => "OverflowError"
  | integrity => "IntegrityError"
  | operational => "OperationalError"
  | binding => "ProgrammingError"
  | statement => "StatementError"
  | interruption name => name
  | other name => name

/-- The names of the operating system's faults. -/
def systemNames : List String :=
  ["OSError", "BlockingIOError", "BrokenPipeError", "ChildProcessError", "ConnectionAbortedError",
   "ConnectionError", "ConnectionRefusedError", "ConnectionResetError", "FileExistsError",
   "FileNotFoundError", "InterruptedError", "IsADirectoryError", "NotADirectoryError",
   "PermissionError", "ProcessLookupError", "TimeoutError"]

/-- The names of interruptions. -/
def interruptionNames : List String :=
  ["BaseException", "BaseExceptionGroup", "CancelledError", "GeneratorExit", "KeyboardInterrupt",
   "SystemExit"]

/-- The kind that a name stands for. -/
def ofName (s : String) : FaultKind :=
  match OwnKind.ofName? s with
  | some kind => own kind
  | none =>
    if systemNames.contains s then system s
    else if "LDAP".toList.isPrefixOf s.toList then directory s
    else if interruptionNames.contains s then interruption s
    else if s = "ValueError" then value
    else other s

/-- Whether a name is that of a directory's answer; those names end in the word `Result`. -/
def isAnswerName (name : String) : Bool := "Result".toList.isSuffixOf name.toList

/-- The message of a directory's answer: its name and the six parts of an answer, of which only the
first, the text, is ever there. -/
def answerWording (name text : String) : String :=
  " - ".intercalate (name :: (if text.isEmpty then "None" else text) :: List.replicate 5 "None")

/-- The names of the faults whose text is a key that is missing. -/
def missingKeyNames : List String := ["KeyError", "LDAPKeyError"]

/-- The message of a fault with a text: a missing key is quoted, and giving up after several
attempts is announced by name. -/
def textWording (name text : String) : String :=
  if missingKeyNames.contains name then Text.quoted text
  else if name = "LDAPMaximumRetriesError" then name ++ ": " ++ text
  else text

/-- The message of a fault of some kind that is raised with a text or without one. -/
def wording (kind : FaultKind) (text : Option String) : String :=
  match kind with
  | own kind => text.getD kind.defaultText
  | directory name =>
    if isAnswerName name then answerWording name (text.getD "")
    else (text.map (textWording name)).getD ""
  | kind => (text.map (textWording kind.name)).getD ""

/-- Whether a fault is an interruption, which only passes through. -/
def isInterruption : FaultKind → Bool
  | interruption _ => true
  | _ => false

/-- Whether a fault is one of the directory's own. -/
def isDirectory : FaultKind → Bool
  | directory _ => true
  | _ => false

/-- Whether a fault means that no usable connection was made. -/
def isConnection : FaultKind → Bool
  | directory _ | system _ | own .connectivity => true
  | _ => false

/-- Whether a fault is the database's own. -/
def isDatabase : FaultKind → Bool
  | integrity | operational | binding | statement => true
  | _ => false

/-- Whether a fault means that a secret could not be had. -/
def isSecretUnavailable : FaultKind → Bool
  | own kind => kind.ancestors.contains .secretUnavailable
  | _ => false

/-- Whether a fault means that a value was of the wrong kind or malformed. -/
def isMalformed : FaultKind → Bool
  | type | value => true
  | _ => false

end FaultKind

end TwoFactorLogin
