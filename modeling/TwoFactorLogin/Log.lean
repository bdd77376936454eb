import TwoFactorLogin.Encryption
import TwoFactorLogin.Identity

/-!
# The operator's log

Every event that is logged is a constructor of `LogRecord`, with the data it carries. `level`,
`event` and `fields` give the written form. No record has a place for a password, a code or the
text of a secret.
-/

namespace TwoFactorLogin

/-- How much a record matters. -/
inductive LogLevel where
  | debug
  | info
  | warning
  | error
  deriving DecidableEq, Repr

/-- The written form of a level. -/
def LogLevel.name : LogLevel → String
  | debug => "debug"
  | info => "info"
  | warning => "warning"
  | error => "error"

/-- What a state machine logs. States and events are given by their names. -/
inductive MachineRecord where
  | invalidTransition (state event : String)
  | updateFailed (error state event : String)
  | invariantViolated (invariant source target : String)
  | transition (source target event : String)
  deriving DecidableEq, Repr

/-- What a secret store logs. -/
inductive StoreRecord where
  | deadlineExpired (username : Value)
  | lookupFailed (username : Value)
  | ambiguous (username : Value)
  deriving DecidableEq, Repr

/-- The step of a login that was under way when it was denied. -/
inductive Stage where
  | resolve
  | bind
  | secondFactor
  deriving DecidableEq, Repr

/-- The name of a stage in the log. -/
def Stage.name : Stage → String
  | resolve => "resolve"
  | bind => "bind"
  | secondFactor => "second_factor"

/-- One record of the log. -/
inductive LogRecord where
  | machine (record : MachineRecord)
  | store (record : StoreRecord)
  | transportSelected (mode : EncryptionMode)
  | tlsValidationDisabled (host : String)
  | connectDeadlineExpired (host : String) (port : Nat)
  | connectFailed (host : String) (port : Nat) (mode : EncryptionMode) (error : String)
  | connected (host : String) (port : Nat) (mode : EncryptionMode)
  | anonymousBindRefused (dn : Option String)
  | passwordNotEncoded (dn error : String)
  | bindError (dn error : String)
  | bindFailed (dn : String) (result description : Value)
  | bound (dn : String)
  | disconnectFailed (host error : String)
  | identityDerived (username dn : String)
  | identityResolved (username dn : String)
  | identityNotFound (username : String)
  | identityAmbiguous (username : String) (candidates : List String)
  | searchBindFailed (searchDn : Option String) (reason : DenialReason)
  | userSearchFailed (username baseDn error : String)
  | secretUnavailable (username error errorKind : String)
  | secretStoreError (username error errorKind : String)
  | lookupOverranDeadline (username : String)
  | secondFactorBypassed (username : String)
  | codeMalformed (owner error : String)
  | secretMalformed (owner error : String)
  | authenticateStart (username : Option String)
  | authenticateSuccess (username : Option String) (dn : String)
  | authenticateDenied (username : Option String) (reason : DenialReason) (stage : Option Stage)
      (dn : Option String)
  | rebindFailed (username : Option String) (reason : DenialReason)
  deriving DecidableEq, Repr

namespace MachineRecord

/-- The level of a state machine's record. -/
def level : MachineRecord → LogLevel
  | invalidTransition _ _ => .warning
  | updateFailed _ _ _ => .error
  | invariantViolated _ _ _ => .error
  | transition _ _ _ => .debug

/-- The event name of a state machine's record. -/
def event : MachineRecord → String
  | invalidTransition _ _ => "invalid_transition"
  | updateFailed _ _ _ => "context_update_failed"
  | invariantViolated _ _ _ => "invariant_violated"
  | transition _ _ _ => "state_transition"

/-- The fields of a state machine's record. -/
def fields : MachineRecord → List (String × Value)
  | invalidTransition state event =>
    [("current_state", .string state), ("event_type", .string event)]
  | updateFailed error state event =>
    [("error", .string error), ("current_state", .string state), ("event_type", .string event)]
  | invariantViolated invariant source target =>
    [("invariant", .string invariant), ("from_state", .string source), ("to_state", .string target)]
  | transition source target event =>
    [("from_state", .string source), ("to_state", .string target), ("event_type", .string event)]

end MachineRecord

namespace StoreRecord

/-- The event name of a store's record. -/
def event : StoreRecord → String
  | deadlineExpired _ => "secret_lookup_deadline_expired"
  | lookupFailed _ => "secret_lookup_failed"
  | ambiguous _ => "secret_lookup_ambiguous"

/-- The fields of a store's record. -/
def fields : StoreRecord → List (String × Value)
  | deadlineExpired username | lookupFailed username | ambiguous username =>
    [("username", username)]

end StoreRecord

namespace LogRecord

/-- The level of a record. -/
def level : LogRecord → LogLevel
  | machine record => record.level
  | store _ => .error
  | transportSelected _ => .debug
  | tlsValidationDisabled _ => .warning
  | connectDeadlineExpired _ _ => .error
  | connectFailed _ _ _ _ => .error
  | connected _ _ _ => .debug
  | anonymousBindRefused _ => .debug
  | passwordNotEncoded _ _ => .error
  | bindError _ _ => .error
  | bindFailed _ _ _ => .error
  | bound _ => .debug
  | disconnectFailed _ _ => .warning
  | identityDerived _ _ => .debug
  | identityResolved _ _ => .debug
  | identityNotFound _ => .debug
  | identityAmbiguous _ _ => .warning
  | searchBindFailed _ _ => .error
  | userSearchFailed _ _ _ => .error
  | secretUnavailable _ _ _ => .error
  | secretStoreError _ _ _ => .error
  | lookupOverranDeadline _ => .error
  | secondFactorBypassed _ => .warning
  | codeMalformed _ _ => .debug
  | secretMalformed _ _ => .error
  | authenticateStart _ => .info
  | authenticateSuccess _ _ => .info
  | authenticateDenied _ _ _ _ => .warning
  | rebindFailed _ _ => .warning

/-- The event name of a record. -/
def event : LogRecord → String
  | machine record => record.event
  | store record => record.event
  | transportSelected _ => "ldap_transport_selected"
  | tlsValidationDisabled _ => "ldap_tls_validation_disabled"
  | connectDeadlineExpired _ _ => "ldap_connect_deadline_expired"
  | connectFailed _ _ _ _ => "ldap_connect_failed"
  | connected _ _ _ => "ldap_connected"
  | anonymousBindRefused _ => "ldap_anonymous_bind_refused"
  | passwordNotEncoded _ _ => "ldap_password_encoding_failed"
  | bindError _ _ => "ldap_bind_error"
  | bindFailed _ _ _ => "ldap_bind_failed"
  | bound _ => "ldap_bound"
  | disconnectFailed _ _ => "ldap_disconnect_failed"
  | identityDerived _ _ => "identity_derived"
  | identityResolved _ _ => "identity_resolved"
  | identityNotFound _ => "identity_not_found"
  | identityAmbiguous _ _ => "identity_ambiguous"
  | searchBindFailed _ _ => "search_bind_failed"
  | userSearchFailed _ _ _ => "user_search_failed"
  | secretUnavailable _ _ _ => "secret_unavailable"
  | secretStoreError _ _ _ => "secret_store_error"
  | lookupOverranDeadline _ => "secret_lookup_overran_deadline"
  | secondFactorBypassed _ => "second_factor_bypassed"
  | codeMalformed _ _ => "totp_code_malformed"
  | secretMalformed _ _ => "totp_secret_malformed"
  | authenticateStart _ => "authenticate_start"
  | authenticateSuccess _ _ => "authenticate_success"
  | authenticateDenied _ _ _ _ => "authenticate_denied"
  | rebindFailed _ _ => "rebind_failed"

/-- The fields of a record. -/
def fields : LogRecord → List (String × Value)
  | machine record => record.fields
  | store record => record.fields
  | transportSelected mode => [("mode", .string mode.name), ("encrypted", .bool (mode != .none))]
  | tlsValidationDisabled host => [("host", .string host)]
  | connectDeadlineExpired host port => [("host", .string host), ("port", .int port)]
  | connectFailed host port mode error =>
    [("host", .string host), ("port", .int port), ("mode", .string mode.name),
      ("error", .string error)]
  | connected host port mode =>
    [("host", .string host), ("port", .int port), ("mode", .string mode.name)]
  | anonymousBindRefused dn => [("dn", .ofText? dn)]
  | passwordNotEncoded dn error | bindError dn error =>
    [("dn", .string dn), ("error", .string error)]
  | bindFailed dn result description =>
    [("dn", .string dn), ("result", result), ("description", description)]
  | bound dn => [("dn", .string dn)]
  | disconnectFailed host error => [("host", .string host), ("error", .string error)]
  | identityDerived username dn | identityResolved username dn =>
    [("username", .string username), ("dn", .string dn)]
  | identityNotFound username | lookupOverranDeadline username | secondFactorBypassed username =>
    [("username", .string username)]
  | identityAmbiguous username candidates =>
    [("username", .string username), ("candidates", .array (candidates.map .string))]
  | searchBindFailed searchDn reason =>
    [("search_dn", .ofText? searchDn), ("reason", .string reason.name)]
  | userSearchFailed username baseDn error =>
    [("username", .string username), ("base_dn", .string baseDn), ("error", .string error)]
  | secretUnavailable username error errorKind | secretStoreError username error errorKind =>
    [("username", .string username), ("error", .string error), ("error_type", .string errorKind)]
  | codeMalformed owner error | secretMalformed owner error =>
    [("username", .string owner), ("error", .string error)]
  | authenticateStart username => [("username", .ofText? username)]
  | authenticateSuccess username dn => [("username", .ofText? username), ("dn", .string dn)]
  | authenticateDenied username reason stage dn =>
    [("username", .ofText? username), ("reason", .string reason.name)]
      ++ (stage.map fun s => ("stage", .string s.name)).toList
      ++ (dn.map fun d => ("dn", .string d)).toList
  | rebindFailed username reason =>
    [("username", .ofText? username), ("reason", .string reason.name)]

end LogRecord

end TwoFactorLogin
