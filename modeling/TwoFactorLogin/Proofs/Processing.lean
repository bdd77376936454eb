import TwoFactorLogin.Machine.Basic

/-!
# What an event comes to

A machine takes an event in one of six ways. It moves if the table has an entry, the update of the
context succeeds and every invariant holds of the next state and context; otherwise it stays as it
was, and the outcome says what stood in the way.

* `Processing`: the six ways, each with its conditions, outcome, log and machine.
* `Machine.process_processing`: every event is taken in one of them.
* `Machine.process_machine`: whoever does not move is unchanged.
-/

namespace TwoFactorLogin

variable {S E K C : Type}

/-- What an event comes to. -/
inductive Processing (L : Lifecycle S E K C) (m : Machine S C) (event : E) (timestamp : String) :
    Machine.Processed S C → Prop where
  /-- The table has no entry for the event. -/
  | unlisted (hentry : L.entry? m.state (L.kind event) = none) :
      Processing L m event timestamp
        ⟨.ok (.error (.noTransition (L.stateName m.state) (L.kindName (L.kind event)))),
          [.invalidTransition (L.stateName m.state) (L.kindName (L.kind event))], m⟩
  /-- The update of the context failed. -/
  | notUpdated {entry : Entry S E C} {fault : Fault}
      (hentry : L.entry? m.state (L.kind event) = some entry)
      (hupdate : entry.update event m.context = .error fault)
      (hkind : fault.kind.isInterruption = false) :
      Processing L m event timestamp
        ⟨.ok (.error (.updateFailed fault.message)),
          [.updateFailed fault.message (L.stateName m.state) (L.kindName (L.kind event))], m⟩
  /-- The update of the context was interrupted. -/
  | interrupted {entry : Entry S E C} {fault : Fault}
      (hentry : L.entry? m.state (L.kind event) = some entry)
      (hupdate : entry.update event m.context = .error fault)
      (hkind : fault.kind.isInterruption = true) :
      Processing L m event timestamp ⟨.error fault, [], m⟩
  /-- An invariant could not be asked. -/
  | unasked {entry : Entry S E C} {context : C} {fault : Fault}
      (hentry : L.entry? m.state (L.kind event) = some entry)
      (hupdate : entry.update event m.context = .ok context)
      (hasked : Machine.firstViolated entry.target context m.invariants = .error fault) :
      Processing L m event timestamp ⟨.error fault, [], m⟩
  /-- An invariant does not hold. -/
  | violated {entry : Entry S E C} {context : C} {name : String}
      (hentry : L.entry? m.state (L.kind event) = some entry)
      (hupdate : entry.update event m.context = .ok context)
      (hviolated : Machine.firstViolated entry.target context m.invariants = .ok (some name)) :
      Processing L m event timestamp
        ⟨.error (.session (.invariantViolated name)),
          [.invariantViolated name (L.stateName m.state) (L.stateName entry.target)], m⟩
  /-- The machine moves. -/
  | moved {entry : Entry S E C} {context : C}
      (hentry : L.entry? m.state (L.kind event) = some entry)
      (hupdate : entry.update event m.context = .ok context)
      (hholds : ∀ i ∈ m.invariants, i.holds entry.target context = .ok true) :
      Processing L m event timestamp
        ⟨.ok (.ok entry.target),
          [.transition (L.stateName m.state) (L.stateName entry.target)
            (L.kindName (L.kind event))],
          m.commit L (L.kind event) entry.target context timestamp⟩

namespace Machine

/-- No invariant is violated exactly if all of them hold. -/
theorem firstViolated_eq_none_iff {s : S} {c : C} {invariants : List (Invariant S C)} :
    firstViolated s c invariants = .ok none ↔ ∀ i ∈ invariants, i.holds s c = .ok true := by
  induction invariants with
  | nil => simp [firstViolated]
  | cons i rest ih =>
    rw [List.forall_mem_cons, ← ih]
    rcases hi : i.holds s c with fault | _ | _
    · simp [firstViolated, hi, bind, Except.bind]
    · simp [firstViolated, hi, bind, Except.bind]
    · simp [firstViolated, hi, bind, Except.bind]

variable (L : Lifecycle S E K C) (m : Machine S C) (event : E) (timestamp : String)

theorem process_processing : Processing L m event timestamp (m.process L event timestamp) := by
  simp only [process]
  rcases hentry : L.entry? m.state (L.kind event) with _ | entry
  · exact .unlisted hentry
  dsimp only
  rcases hupdate : entry.update event m.context with fault | context
  · dsimp only
    cases hkind : fault.kind.isInterruption with
    | true => exact .interrupted hentry hupdate hkind
    | false => exact .notUpdated hentry hupdate hkind
  dsimp only
  rcases hviolated : firstViolated entry.target context m.invariants with fault | _ | name
  · exact .unasked hentry hupdate hviolated
  · exact .moved hentry hupdate (firstViolated_eq_none_iff.1 hviolated)
  · exact .violated hentry hupdate hviolated

variable {L m event timestamp}

/-- An event that does not move a machine leaves all of it as it was. -/
theorem process_machine (h : ∀ s, (m.process L event timestamp).outcome ≠ .ok (.ok s)) :
    (m.process L event timestamp).machine = m := by
  have hp := m.process_processing L event timestamp
  generalize m.process L event timestamp = p at hp h
  cases hp with
  | moved _ _ _ => exact absurd rfl (h _)
  | _ => rfl

end Machine

end TwoFactorLogin
