import TwoFactorLogin.Fault.Kind
import TwoFactorLogin.Text.Utf8
import TwoFactorLogin.Value.Display

/-!
# Faults

A `Fault` says what went wrong, as a cause with the data that its message needs. Each family of
causes has its own type with a `message`; `Fault.message` and `Fault.kind` put them together. What
the directory, a secret store or a caller's block raises is `Fault.raised`, with the kind and text
it came with.
-/

namespace TwoFactorLogin

/-- A value that does not have the form its use asks for. -/
inductive ValueFault where
  /-- A value that cannot be gone through item by item. -/
  | notIterable (v : Value)
  /-- A value that nothing can be searched for in. -/
  | notSearchable (v : Value)
  /-- A value that nothing can be filed under. -/
  | notKey (v : Value)
  /-- Two values that have no order. -/
  | notOrdered (relation left right : String)
  /-- A value that is neither a text nor a number. -/
  | notNumeric (v : Value)
  /-- A value that is no number and so has no integer part. -/
  | notWhole (v : Value)
  /-- A text that spells no number. -/
  | notDecimal (s : String)
  /-- A value that is no text and so has no blanks to strip. -/
  | notText (v : Value)
  /-- A value that is no record and so cannot be changed field by field. -/
  | notRecord (v : Value)
  /-- A value without the field that is asked for. -/
  | noField (v : Value) (field : String)
  | integerTooLarge
  /-- An integer of more digits than are written. -/
  | integerTooLong
  | infinityToInteger
  | nanToInteger
  /-- A field that has to be a text. -/
  | fieldNotText (field : String) (v : Value)
  /-- A field that has to be a non-empty text. -/
  | fieldTooShort (field : String)
  deriving DecidableEq, Repr

namespace ValueFault

/-- What the message of a malformed value says. -/
def message : ValueFault → String
  | notIterable v => Text.quoted v.kindName ++ " object is not iterable"
  | notSearchable v => "argument of type " ++ Text.quoted v.kindName ++ " is not iterable"
  | notKey v => "unhashable type: " ++ Text.quoted v.kindName
  | notOrdered relation left right =>
    Text.quoted relation ++ " not supported between instances of " ++ Text.quoted left ++ " and "
      ++ Text.quoted right
  | notNumeric v =>
    "float() argument must be a string or a real number, not " ++ Text.quoted v.kindName
  | notWhole v =>
    "int() argument must be a string, a bytes-like object or a real number, not "
      ++ Text.quoted v.kindName
  | notDecimal s => "could not convert string to float: " ++ Text.quoted s
  | notText v => Text.quoted v.kindName ++ " object has no attribute 'strip'"
  | notRecord v => "<class " ++ Text.quoted v.kindName ++ "> is not an attrs-decorated class."
  | noField v field => Text.quoted v.kindName ++ " object has no attribute " ++ Text.quoted field
  | integerTooLarge => "int too large to convert to float"
  | integerTooLong =>
    "Exceeds the limit (4300 digits) for integer string conversion; use"
      ++ " sys.set_int_max_str_digits() to increase the limit"
  | infinityToInteger => "cannot convert float infinity to integer"
  | nanToInteger => "cannot convert float NaN to integer"
  | fieldNotText field v =>
    Text.quoted field ++ " must be <class 'str'> (got " ++ v.literal ++ " that is a <class "
      ++ Text.quoted v.kindName ++ ">)."
  | fieldTooShort field => "Length of " ++ Text.quoted field ++ " must be >= 1: 0"

/-- The kind of a malformed value. -/
def kind : ValueFault → FaultKind
  | notIterable _ | notSearchable _ | notKey _ | notOrdered _ _ _ | notNumeric _ | notWhole _
  | fieldNotText _ _ => .type
  | notDecimal _ | integerTooLong | nanToInteger | fieldTooShort _ | notRecord _ => .value
  | notText _ | noField _ _ => .missingPart
  | integerTooLarge | infinityToInteger => .overflow

end ValueFault

/-- Why a configuration is refused. -/
inductive ConfigurationError where
  | missingBaseDn
  | empty (field : String)
  | notInteger (property : String) (v : Value)
  | outOfBounds (field : String) (low : Nat) (high : Option Nat) (v : Value)
  | unknownEncryption (v : Value)
  | unimplementedEncryption (v : Value)
  | invalidPort (v : Value)
  | templateWithoutUsername
  | timeoutNotPositive
  | malformed (cause : ValueFault)
  | invalidCaBundle
  deriving DecidableEq, Repr

/-- What the message of a refused configuration says. -/
def ConfigurationError.message : ConfigurationError → String
  | missingBaseDn => "Required property ldap-user-base-dn is missing"
  | empty field => field ++ " must not be empty"
  | notInteger property v => property ++ " must be an integer: " ++ v.literal
  | outOfBounds field low high v =>
    let bounds := match high with
      | some high => toString low ++ ".." ++ toString high
      | none => ">= " ++ toString low
    field ++ " must be " ++ bounds ++ ", got " ++ v.literal
  | unknownEncryption v => "Unknown encryption method: " ++ v.literal
  | unimplementedEncryption v => "Unimplemented encryption method: " ++ v.text
  | invalidPort v => "Invalid LDAP port: " ++ v.text
  | templateWithoutUsername => "user_dn_template must contain '\x7busername\x7d'"
  | timeoutNotPositive => "Directory timeouts must be positive"
  | malformed cause => "Invalid authentication configuration: " ++ cause.message
  | invalidCaBundle => "Invalid TLS configuration: invalid CA public key file"

/-- Why a submitted code is refused before it is compared. -/
inductive CodeError where
  | absent
  | notDigits
  | tooLarge (digits : Nat)
  deriving DecidableEq, Repr

/-- What the message of a refused code says. -/
def CodeError.message : CodeError → String
  | absent => "No code submitted"
  | notDigits => "Code must consist of digits"
  | tooLarge digits => "Code exceeds " ++ toString digits ++ " digits"

/-- Why a secret's text gives no key. -/
inductive SecretTextError where
  | empty
  | notAscii
  | badDigit
  | badPadding
  deriving DecidableEq, Repr

/-- What the message of a malformed secret says. -/
def SecretTextError.message : SecretTextError → String
  | empty => "Empty secret"
  | notAscii => "string argument should contain only ASCII characters"
  | badDigit => "Secret is not base32: Non-base32 digit found"
  | badPadding => "Secret is not base32: Incorrect padding"

/-- Why a code cannot be computed or compared. -/
inductive CodeFault where
  /-- A code has more digits than an integer is read from. -/
  | tooManyDigits (count : Nat)
  /-- The quotient of time and step is beyond every double. -/
  | quotientTooLarge
  /-- The counter has no 64-bit form. -/
  | counterOutOfRange
  deriving DecidableEq, Repr

/-- What the message of a code that cannot be computed says. -/
def CodeFault.message : CodeFault → String
  | tooManyDigits count =>
    "Exceeds the limit (4300 digits) for integer string conversion: value has " ++ toString count
      ++ " digits; use sys.set_int_max_str_digits() to increase the limit"
  | quotientTooLarge => "integer division result too large for a float"
  | counterOutOfRange => "Counter must be between 0 and 18446744073709551615."

/-- Why a session does not take a step. -/
inductive SessionFault where
  | eventNotAllowed (event state : String)
  | bindNotAllowed (state : String)
  | transitionRefused (text : String)
  | invariantViolated (invariant : String)
  /-- A session has no connection; what would be used of it. -/
  | noConnection (use : String)
  deriving DecidableEq, Repr

/-- What the message of a refused step says. -/
def SessionFault.message : SessionFault → String
  | eventNotAllowed event state => event ++ " not allowed in state " ++ state
  | bindNotAllowed state => "Cannot bind a session in state " ++ state
  | transitionRefused text => text
  | invariantViolated invariant => "Invariant '" ++ invariant ++ "' violated"
  | noConnection use => "'NoneType' object has no attribute " ++ Text.quoted use

/-- The kind of a refused step. -/
def SessionFault.kind : SessionFault → FaultKind
  | invariantViolated _ => .own .invariant
  | noConnection _ => .missingPart
  | _ => .own .state

/-- Why a secret store gives no answer. -/
inductive StoreFault where
  /-- A store in memory holds several secrets of one owner. -/
  | severalHeld (count : Nat) (username : String)
  /-- The table has several rows of one username. -/
  | severalRows (username : Value)
  | deadlineExpired (username : Value)
  | lookupFailed (username : Value)
  /-- A row without a username. -/
  | missingUsername
  /-- A row whose flag is neither missing nor true or false. -/
  | notFlag
  /-- A row with a value that no column can hold. -/
  | notStorable
  /-- A row with an integer of more than 64 bits. -/
  | integerTooWide
  /-- The table does not exist. -/
  | missingTable
  /-- An operation that a store of this sort does not offer. -/
  | notOffered (store operation : String)
  deriving DecidableEq, Repr

/-- What the message of a store fault says. -/
def StoreFault.message : StoreFault → String
  | severalHeld count username => toString count ++ " secrets stored for " ++ Text.quoted username
  | severalRows username => "Multiple secrets stored for " ++ username.literal
  | deadlineExpired username => "Deadline expired before looking up " ++ username.literal
  | lookupFailed username => "Secret lookup failed for " ++ username.literal
  | missingUsername | missingTable | notFlag | notStorable => ""
  | integerTooWide => "Python int too large to convert to SQLite INTEGER"
  | notOffered store operation =>
    Text.quoted store ++ " object has no attribute " ++ Text.quoted operation

/-- The kind of a store fault. -/
def StoreFault.kind : StoreFault → FaultKind
  | severalHeld _ _ | severalRows _ => .own .ambiguousSecret
  | deadlineExpired _ | lookupFailed _ => .own .secretStore
  | notOffered _ _ => .missingPart
  | missingUsername => .integrity
  | missingTable => .operational
  | notFlag => .statement
  | notStorable => .binding
  | integerTooWide => .overflow

/-- What went wrong. -/
inductive Fault where
  /-- Raised by the directory, a store, an updater or a block, with the text it came with. -/
  | raised (kind : FaultKind) (text : String)
  | value (cause : ValueFault)
  | configuration (cause : ConfigurationError)
  | codeRefused (cause : CodeError)
  | secretText (cause : SecretTextError)
  | code (cause : CodeFault)
  | session (cause : SessionFault)
  | store (cause : StoreFault)
  /-- The server did not agree to upgrade the connection; its own word for the reason. -/
  | upgradeRefused (description : Value)
  /-- A name that is empty cannot be part of a distinguished name. -/
  | emptyName
  deriving DecidableEq, Repr

namespace Fault

/-- The text of a fault. -/
def message : Fault → String
  | raised _ text => text
  | value cause => cause.message
  | configuration cause => cause.message
  | codeRefused cause => cause.message
  | secretText cause => cause.message
  | code cause => cause.message
  | session cause => cause.message
  | store cause => cause.message
  | upgradeRefused description => "StartTLS refused: " ++ description.text
  | emptyName => "string index out of range"

/-- A result that is missing only where an integer is beyond every double. -/
def orTooLarge {α : Type} : Option α → Except Fault α
  | some a => .ok a
  | none => .error (.value .integerTooLarge)

/-- The refusal of a configuration with a message that shows a value; if the value cannot be written,
that is the fault. -/
def refusal (shown : Value) (cause : ConfigurationError) : Fault :=
  if shown.isWritable then configuration cause else value .integerTooLong

/-- What is there is the result. -/
@[simp] theorem orTooLarge_some {α : Type} (a : α) : orTooLarge (some a) = .ok a := rfl

/-- The kind of a fault. -/
def kind : Fault → FaultKind
  | raised kind _ => kind
  | value cause => cause.kind
  | configuration _ => .own .configuration
  | codeRefused _ => .own .codeInvalid
  | secretText _ => .value
  | code .quotientTooLarge => .overflow
  | code _ => .value
  | session cause => cause.kind
  | store cause => cause.kind
  | upgradeRefused _ => .own .connectivity
  | emptyName => .index

end Fault

end TwoFactorLogin
