import TwoFactorLogin.Store.Basic
import TwoFactorLogin.Store.Column

/-!
# Secrets in a database table

A `SecretTable` has rows of a username, a secret that may be missing, and a flag. Nothing keeps
usernames apart, so a look-up reads up to two rows and fails if it finds two. A row without a
secret counts as none. Before its table is created the store fails on every look-up.

`add` takes values of any kind; a row keeps what its columns make of them.
-/

namespace TwoFactorLogin

/-- One row of the table. -/
structure SecretRow where
  username : String
  secret : Option String
  enabled : Bool
  deriving DecidableEq, Repr

/-- The rows in the order in which they were inserted; `none` if the table does not exist. -/
structure SecretTable where
  rows : Option (List SecretRow)
  deriving DecidableEq, Repr

namespace SecretTable

/-- A table without rows. -/
def empty : SecretTable := ⟨some []⟩

/-- A database without the table. -/
def missing : SecretTable := ⟨none⟩

/-- Creates the table, unless it exists. -/
def createSchema (t : SecretTable) : SecretTable := ⟨some (t.rows.getD [])⟩

/-- Inserts a row. The flag is looked at first, then the table, then the columns from left to right,
and last whether there is a username. -/
def add (t : SecretTable) (username secret enabled : Value) : Except Fault SecretTable := do
  let enabled ← Column.flag enabled
  match t.rows with
  | none => .error (.store .missingTable)
  | some rows =>
    let username ← Column.text username
    let secret ← Column.text secret
    match username with
    | none => .error (.store .missingUsername)
    | some username => return ⟨some (rows ++ [⟨username, secret, enabled⟩])⟩

/-- At most two of the rows with a username, which is compared as its column would keep it. A
missing username equals none. A table that does not exist is noticed first. -/
def select (t : SecretTable) (username : Value) : Except Fault (List SecretRow) := do
  match t.rows with
  | none => .error (.store .missingTable)
  | some rows =>
    let key ← Column.text username
    return (rows.filter fun r => some r.username = key).take 2

/-- The secret that a row holds for a username, unless it is missing or empty. -/
def secretOf (username : Value) (row : SecretRow) : Except Fault (Option SecondFactorSecret) :=
  match row.secret.filter fun s => !s.isEmpty with
  | none => .ok none
  | some secret =>
    (SecondFactorSecret.ofValues username (.string secret) (.bool row.enabled)).map some

/-- What the rows that were found for a username come to: the secret of the only one. -/
def outcomeOf (username : Value) :
    List SecretRow → Except Fault (Option SecondFactorSecret) × List StoreRecord
  | [] => (.ok none, [])
  | [row] => (secretOf username row, [])
  | _ => (.error (.store (.severalRows username)), [.ambiguous username])

/-- Looks up the secret of a username, unless the deadline has expired. A fault of the database is
logged and reported as a failed look-up. -/
def fetch (t : SecretTable) (now : Number) (username : Value) (deadline : Option Deadline) :
    Except Fault (Option SecondFactorSecret) × List StoreRecord :=
  match deadlineExpired deadline now, t.select username with
  | .error fault, _ => (.error fault, [])
  | .ok true, _ => (.error (.store (.deadlineExpired username)), [.deadlineExpired username])
  | .ok false, .error fault =>
    if fault.kind.isDatabase then
      (.error (.store (.lookupFailed username)), [.lookupFailed username])
    else (.error fault, [])
  | .ok false, .ok rows => outcomeOf username rows

/-- The table as a rule for look-ups, which take no time. -/
def toStore (t : SecretTable) : SecretStore := fun clocks username deadline =>
  let (outcome, log) := t.fetch clocks.steady (.string username) deadline
  ⟨outcome, log, clocks⟩

end SecretTable

end TwoFactorLogin
