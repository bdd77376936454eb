import TwoFactorLogin.Log
import TwoFactorLogin.Value.Printer

/-!
# Life-cycle machines

A machine has a state, a context, a history, and invariants. A `Lifecycle` says how it moves: for
a state and a kind of event, the next state and an update of the context, which may raise a fault.

`Machine.process` takes one event. The state, the context and the history change only if the table
has an entry, the update succeeds, and every invariant holds of the next state and context; then
all three change together. An update that fails is a refusal; only an interruption goes on as a
fault. Invariants are asked in the order in which they were added, and the first that does not hold
is the one reported.
-/

namespace TwoFactorLogin

variable {S E K C : Type}

/-- Where an event leads: the next state, and the next context from the event and the present one.
-/
structure Entry (S E C : Type) where
  target : S
  update : E → C → Except Fault C

/-- How machines of one sort move, and how their states, events and contexts are written down. -/
structure Lifecycle (S E K C : Type) where
  initial : S
  kind : E → K
  entry? : S → K → Option (Entry S E C)
  stateName : S → String
  kindName : K → String
  snapshot : C → Value

/-- One step that a machine took. -/
structure Transition (S : Type) where
  source : S
  event : String
  target : S
  timestamp : String
  snapshot : Value
  deriving DecidableEq, Repr

/-- A condition on states and contexts; asking it may raise a fault. -/
structure Invariant (S C : Type) where
  name : String
  holds : S → C → Except Fault Bool

/-- A machine: where it is, how it came there, and what it must keep. -/
structure Machine (S C : Type) where
  state : S
  context : C
  history : List (Transition S) := []
  invariants : List (Invariant S C) := []

/-- Why an event did not move a machine. -/
inductive Refusal where
  | noTransition (state event : String)
  | updateFailed (error : String)
  deriving DecidableEq, Repr

/-- What the machine's user is told. -/
def Refusal.message : Refusal → String
  | noTransition state event => "No transition for state " ++ state ++ " with event " ++ event
  | updateFailed error => "Context update failed: " ++ error

namespace Machine

/-- A machine at the beginning of its life. -/
def start (L : Lifecycle S E K C) (context : C) : Machine S C := { state := L.initial, context }

/-- Whether an event of some kind would find an entry in the table. -/
def canProcess (L : Lifecycle S E K C) (m : Machine S C) (kind : K) : Bool :=
  (L.entry? m.state kind).isSome

/-- The name of the first invariant that does not hold of a state and a context. -/
def firstViolated (s : S) (c : C) : List (Invariant S C) → Except Fault (Option String)
  | [] => .ok none
  | i :: rest => do
    if ← i.holds s c then firstViolated s c rest else .ok (some i.name)

/-- What came of an event: an outcome, what was logged, and the machine afterwards. -/
structure Processed (S C : Type) where
  outcome : Except Fault (Except Refusal S)
  log : List MachineRecord
  machine : Machine S C

/-- The machine after a step whose conditions are all met. -/
def commit (L : Lifecycle S E K C) (m : Machine S C) (kind : K) (target : S) (context : C)
    (timestamp : String) : Machine S C :=
  { m with
    state := target
    context
    history := m.history ++ [⟨m.state, L.kindName kind, target, timestamp, L.snapshot context⟩] }

/-- Takes one event. -/
def process (L : Lifecycle S E K C) (m : Machine S C) (event : E) (timestamp : String) :
    Processed S C :=
  let kind := L.kind event
  let source := L.stateName m.state
  match L.entry? m.state kind with
  | none =>
    ⟨.ok (.error (.noTransition source (L.kindName kind))),
      [.invalidTransition source (L.kindName kind)], m⟩
  | some entry =>
    match entry.update event m.context with
    | .error fault =>
      if fault.kind.isInterruption then ⟨.error fault, [], m⟩
      else
        ⟨.ok (.error (.updateFailed fault.message)),
          [.updateFailed fault.message source (L.kindName kind)], m⟩
    | .ok context =>
      match firstViolated entry.target context m.invariants with
      | .error fault => ⟨.error fault, [], m⟩
      | .ok (some name) =>
        ⟨.error (.session (.invariantViolated name)),
          [.invariantViolated name source (L.stateName entry.target)], m⟩
      | .ok none =>
        ⟨.ok (.ok entry.target), [.transition source (L.stateName entry.target) (L.kindName kind)],
          m.commit L kind entry.target context timestamp⟩

/-- Adds an invariant behind the others. -/
def addInvariant (m : Machine S C) (i : Invariant S C) : Machine S C :=
  { m with invariants := m.invariants ++ [i] }

/-- Every state the machine has been in, oldest first. -/
def visited (m : Machine S C) : List S := m.history.map Transition.source ++ [m.state]

/-- A step as a value. -/
def transitionValue (L : Lifecycle S E K C) (t : Transition S) : Value :=
  .object [("from_state", .string (L.stateName t.source)), ("event_type", .string t.event),
    ("to_state", .string (L.stateName t.target)), ("timestamp", .string t.timestamp),
    ("context_snapshot", t.snapshot)]

/-- The life of the machine as a value. -/
def traceValue (L : Lifecycle S E K C) (m : Machine S C) : Value :=
  .object [("initial_state", .string (L.stateName L.initial)),
    ("final_state", .string (L.stateName m.state)),
    ("transitions", .array (m.history.map (transitionValue L)))]

/-- The text that a machine exports of its life. -/
def exported (L : Lifecycle S E K C) (m : Machine S C) : Except Fault String :=
  (m.traceValue L).json

end Machine

end TwoFactorLogin
