import TwoFactorLogin.Login
import TwoFactorLogin.Store.Memory
import TwoFactorLogin.Store.Table

/-!
# Steps of a rehearsal

A rehearsal takes an authenticator through a row of steps: logins, single operations of its parts,
changes of the store, and the passing of time. Deadlines, sessions and users are kept by name for
later steps.
-/

namespace TwoFactorLogin

/-- A store whose content can change between steps. -/
inductive HeldStore where
  | memory (store : MemoryStore)
  | table (table : SecretTable)

namespace HeldStore

/-- The store as a rule for look-ups. -/
def toStore : HeldStore → SecretStore
  | memory store => store.toStore
  | table t => t.toStore

/-- Adds a secret. -/
def add (s : HeldStore) (owner secret enabled : Value) : Except Fault HeldStore :=
  match s with
  | memory store =>
    (SecondFactorSecret.ofValues owner secret enabled).map fun x => memory (store.add x)
  | table t => (t.add owner secret enabled).map table

/-- Adds several secrets. -/
def addAll (s : HeldStore) : List (Value × Value × Value) → Except Fault HeldStore
  | [] => .ok s
  | (owner, secret, enabled) :: rest => do (← s.add owner secret enabled).addAll rest

/-- The name of a sort of store in messages. -/
def sortName : HeldStore → String
  | memory _ => "InMemorySecretStore"
  | table _ => "SqlSecretStore"

/-- Refuses an operation that this sort of store does not offer. -/
def refuse {α : Type} (s : HeldStore) (operation : String) : Except Fault α :=
  .error (.store (.notOffered s.sortName operation))

/-- The owner that a value names among secrets in memory; `none` for a value that no owner is. -/
def ownerNamed : Value → Except Fault (Option String)
  | .string owner => .ok (some owner)
  | .array items => .error (.value (.notKey (.array items)))
  | .object fields => .error (.value (.notKey (.object fields)))
  | _ => .ok none

/-- Drops the secrets of an owner; how many there were. A table is never deleted from. -/
def remove (s : HeldStore) (owner : Value) : Except Fault (Nat × HeldStore) :=
  match s with
  | memory store => do
    match ← ownerNamed owner with
    | some owner =>
      let (count, store) := store.remove owner
      return (count, memory store)
    | none => return (0, memory store)
  | table t => (table t).refuse "remove"

/-- The number of secrets held. A table is never counted. -/
def size : HeldStore → Except Fault Nat
  | memory store => .ok store.size
  | table t => (table t).refuse "size"

/-- Creates the table; secrets in memory have none. -/
def createSchema : HeldStore → Except Fault HeldStore
  | memory store => (memory store).refuse "create_schema"
  | table t => .ok (table t.createSchema)

/-- Looks up the secret of a username, which may be a value of any kind. -/
def fetch (s : HeldStore) (now : Number) (username : Value) (deadline : Option Deadline) :
    Except Fault (Option SecondFactorSecret) × List StoreRecord :=
  match s with
  | memory store =>
    let outcome := do
      match ← ownerNamed username with
      | some owner => store.fetch owner
      | none => return none
    (outcome, [])
  | table t => t.fetch now username deadline

end HeldStore

/-- How a step says by when it must be done. -/
inductive DeadlineChoice where
  | none
  | after (seconds : Number)
  | at (time : Number)
  | named (name : String)

/-- The deadline that is chosen at a moment, among those kept by name. -/
def DeadlineChoice.resolve (now : Number) (kept : List (String × Deadline)) :
    DeadlineChoice → Except Fault (Option Deadline)
  | .none => .ok Option.none
  | .after seconds => (Deadline.after now seconds).map some
  | .at time => .ok (some ⟨time⟩)
  | .named name => .ok (kept.lookup name)

/-- What a block does with the session it is given. -/
inductive Body where
  | nothing
  | raise
  | disconnect
  | rebind
  | advance (seconds : Number)

/-- The user that a step binds again: one who logged in before, or one made up for the step. -/
inductive UserChoice where
  | named (name : String)
  | given (credentials : Credentials) (dn : String)

/-- One step of a rehearsal. -/
inductive Step where
  | advance (seconds : Number)
  | deadline (name : String) (choice : DeadlineChoice)
  | add (owner secret enabled : Value)
  | remove (owner : Value)
  | size
  | createSchema
  | connect (name : String) (deadline : DeadlineChoice)
  | newSession (name host : String) (port : Int) (mode : EncryptionMode)
  | session (name : String)
  | findUserDns (session username : String)
  | bindAs (session : String) (dn : Option String) (password : Option Password)
  | disconnect (session : String) (reason : Option String)
  | openBound (dn : Option String) (password : Option Password) (deadline : DeadlineChoice)
      (body : Body)
  | resolve (username : String) (deadline : DeadlineChoice)
  | fetchSecret (username : String) (deadline : DeadlineChoice)
  | verify (username : String) (submitted : Option String) (time : Option Number)
      (deadline : DeadlineChoice)
  | authenticate (credentials : Credentials) (deadline : DeadlineChoice) (name : Option String)
  | bindAuthenticated (user : UserChoice) (deadline : DeadlineChoice) (body : Body)

/-- The answer to a step. -/
inductive Answer where
  | nothing
  | number (n : Number)
  | count (n : Nat)
  | session (s : Option Session)
  | noSession
  | notAuthenticated
  | names (dns : List String)
  | onSession (outcome : Except Fault (Option Bool)) (session : Session)
  | lease (given : Option (Except DenialReason Session)) (outcome : Except Fault Unit)
      (left : Option Session)
  | userLease (given : Option (Option Session)) (outcome : Except Fault Unit)
      (left : Option Session)
  | resolution (r : Resolution)
  | secret (s : Option SecondFactorSecret)
  | verification (r : Except DenialReason SecondFactorSecret)
  | login (r : LoginResult)

end TwoFactorLogin
