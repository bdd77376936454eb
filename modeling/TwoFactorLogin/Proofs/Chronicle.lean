import Mathlib.Data.List.Chain
import TwoFactorLogin.Proofs.Processing

/-!
# What a machine's history records

A machine lives by calls: it is given events, and invariants to keep from then on. However the calls
are mixed, and whatever fails among them, its history stays in step with its state and context.

**The history** (`Path`). Each record is of a step that the table lists, and begins in the state in
which the one before it ended. The first one begins in the initial state, and the last one ends in
the present state.

**Growth.** A call adds at most one record, behind the others; no record is ever changed.

**Invariants.** A step is taken only if all invariants that the machine has been given by then hold
of the state and context that it leads to.

One call is looked at in `Machine.called_path`, all of them in `Machine.run_path`; the main statement
is `Machine.run_chronicled`.
-/

namespace TwoFactorLogin

variable {S E K C : Type}

/-- A call on a machine: to take an event, or to keep one more invariant. -/
inductive Call (S E C : Type) where
  | process (event : E) (timestamp : String)
  | addInvariant (i : Invariant S C)

/-- The invariant that a call adds. -/
def Call.added? : Call S E C → Option (Invariant S C)
  | process _ _ => none
  | addInvariant i => some i

namespace Machine

/-- The machine after a call. -/
def called (L : Lifecycle S E K C) (m : Machine S C) : Call S E C → Machine S C
  | .process event timestamp => (m.process L event timestamp).machine
  | .addInvariant i => m.addInvariant i

/-- The machine after some calls. -/
def run (L : Lifecycle S E K C) (m : Machine S C) (calls : List (Call S E C)) : Machine S C :=
  calls.foldl (called L) m

end Machine

/-! ## Records of steps -/

/-- A record is of a step that the table lists: there is an entry for its state and event, which
leads to its target, and the update of the entry made the context of the snapshot. -/
def Lifecycle.Lists (L : Lifecycle S E K C) (t : Transition S) : Prop :=
  ∃ event entry before after, L.entry? t.source (L.kind event) = some entry ∧
    entry.update event before = .ok after ∧ t.event = L.kindName (L.kind event) ∧
    t.target = entry.target ∧ t.snapshot = L.snapshot after

/-- The records of the steps from one state and context to another, oldest first. -/
inductive Path (L : Lifecycle S E K C) : S → C → List (Transition S) → S → C → Prop where
  | nil (s : S) (c : C) : Path L s c [] s c
  | cons {s s' : S} {c c' context : C} {event : E} {entry : Entry S E C} {timestamp : String}
      {ts : List (Transition S)} (hentry : L.entry? s (L.kind event) = some entry)
      (hupdate : entry.update event c = .ok context) (hrest : Path L entry.target context ts s' c') :
      Path L s c
        (⟨s, L.kindName (L.kind event), entry.target, timestamp, L.snapshot context⟩ :: ts) s' c'

namespace Path

variable {L : Lifecycle S E K C} {s s' s'' : S} {c c' c'' : C} {ts ts' : List (Transition S)}

theorem append (h : Path L s c ts s' c') (h' : Path L s' c' ts' s'' c'') :
    Path L s c (ts ++ ts') s'' c'' := by
  induction h with
  | nil => exact h'
  | cons hentry hupdate _ ih => exact .cons hentry hupdate (ih h')

theorem source_of_head? (h : Path L s c ts s' c') : ∀ t ∈ ts.head?, t.source = s := by
  cases h with
  | nil => simp
  | cons _ _ _ => simp

theorem isChain (h : Path L s c ts s' c') :
    ts.IsChain fun t t' => t.target = t'.source := by
  induction h with
  | nil => exact .nil
  | cons _ _ hrest ih =>
    exact ih.cons fun t ht => (hrest.source_of_head? t ht).symm

theorem target_of_getLast? (h : Path L s c ts s' c') :
    (ts.getLast?.elim s Transition.target) = s' := by
  induction h with
  | nil => rfl
  | @cons _ _ _ _ _ _ _ _ ts _ _ _ ih =>
    rw [List.getLast?_cons]
    cases hlast : ts.getLast? with
    | none => simpa [hlast] using ih
    | some t => simpa [hlast] using ih

theorem lists (h : Path L s c ts s' c') : ∀ t ∈ ts, L.Lists t := by
  induction h with
  | nil => simp
  | cons hentry hupdate _ ih =>
    exact List.forall_mem_cons.2 ⟨⟨_, _, _, _, hentry, hupdate, rfl, rfl, rfl⟩, ih⟩

/-- The states in which the steps begin, and then the last one, are the first one, and then the
states in which they end. -/
theorem map_source_append (h : Path L s c ts s' c') :
    ts.map Transition.source ++ [s'] = s :: ts.map Transition.target := by
  induction h with
  | nil => rfl
  | cons _ _ _ ih => simp [ih]

end Path

/-! ## Calls -/

namespace Machine

variable {L : Lifecycle S E K C} {m : Machine S C} {event : E} {timestamp : String} {target : S}

@[simp] theorem run_nil : m.run L [] = m := rfl

@[simp] theorem run_cons (call : Call S E C) (calls : List (Call S E C)) :
    m.run L (call :: calls) = (m.called L call).run L calls := rfl

/-- What one call does: it adds to the history the records of a path from the machine's state and
context to those that it has afterwards, and there is at most one. -/
theorem called_path (L : Lifecycle S E K C) (m : Machine S C) (call : Call S E C) :
    ∃ new, (m.called L call).history = m.history ++ new ∧ new.length ≤ 1 ∧
      Path L m.state m.context new (m.called L call).state (m.called L call).context := by
  have hstays {m' : Machine S C} (h : m' = m) :
      ∃ new, m'.history = m.history ++ new ∧ new.length ≤ 1 ∧
        Path L m.state m.context new m'.state m'.context := by
    subst h
    exact ⟨[], by simp, by simp, .nil _ _⟩
  cases call with
  | addInvariant i => exact ⟨[], by simp [called, addInvariant], by simp, .nil _ _⟩
  | process event timestamp =>
    have h := m.process_processing L event timestamp
    rw [called]
    generalize m.process L event timestamp = p at h
    cases h with
    | unlisted _ => exact hstays rfl
    | notUpdated _ _ _ => exact hstays rfl
    | interrupted _ _ _ => exact hstays rfl
    | unasked _ _ _ => exact hstays rfl
    | violated _ _ _ => exact hstays rfl
    | moved hentry hupdate _ => exact ⟨[_], rfl, by simp, .cons hentry hupdate (.nil _ _)⟩

/-- Some calls add to the history the records of a path from the machine's state and context to
those that it has afterwards. -/
theorem run_path (L : Lifecycle S E K C) (m : Machine S C) (calls : List (Call S E C)) :
    ∃ new, (m.run L calls).history = m.history ++ new ∧
      Path L m.state m.context new (m.run L calls).state (m.run L calls).context := by
  induction calls generalizing m with
  | nil => exact ⟨[], by simp, .nil _ _⟩
  | cons call calls ih =>
    obtain ⟨new, hnew, -, hpath⟩ := m.called_path L call
    obtain ⟨new', hnew', hpath'⟩ := ih (m.called L call)
    refine ⟨new ++ new', ?_, hpath.append hpath'⟩
    rw [run_cons, hnew', hnew, List.append_assoc]

theorem called_invariants (L : Lifecycle S E K C) (m : Machine S C) (call : Call S E C) :
    (m.called L call).invariants = m.invariants ++ call.added?.toList := by
  cases call with
  | addInvariant i => rfl
  | process event timestamp =>
    have h := m.process_processing L event timestamp
    rw [called]
    generalize m.process L event timestamp = p at h
    cases h <;> simp [Call.added?, commit]

/-- A machine has been given the invariants that it began with and those that were added. -/
theorem run_invariants (L : Lifecycle S E K C) (m : Machine S C) (calls : List (Call S E C)) :
    (m.run L calls).invariants = m.invariants ++ calls.filterMap Call.added? := by
  induction calls generalizing m with
  | nil => simp
  | cons call calls ih =>
    rw [run_cons, ih, called_invariants]
    cases h : call.added? <;> simp [h]

/-- An event that moves a machine leads to the state it answers, and every invariant holds there. It
adds the record of the step. -/
theorem process_moved (h : (m.process L event timestamp).outcome = .ok (.ok target)) :
    (m.process L event timestamp).machine.state = target ∧
      (m.process L event timestamp).machine.history = m.history ++
        [⟨m.state, L.kindName (L.kind event), target, timestamp,
          L.snapshot (m.process L event timestamp).machine.context⟩] ∧
      ∀ i ∈ m.invariants,
        i.holds target (m.process L event timestamp).machine.context = .ok true := by
  have hp := m.process_processing L event timestamp
  generalize m.process L event timestamp = p at hp h
  cases hp with
  | moved _ _ hholds =>
    cases h
    exact ⟨rfl, rfl, hholds⟩
  | _ => cases h

end Machine

/-! ## A whole life -/

/-- What holds of a machine after some calls, if it was given some invariants to begin with. -/
structure Chronicled (L : Lifecycle S E K C) (invariants : List (Invariant S C))
    (calls : List (Call S E C)) (m : Machine S C) : Prop where
  /-- The history begins in the initial state. -/
  source_head : ∀ t ∈ m.history.head?, t.source = L.initial
  /-- Each record begins where the one before it ended. -/
  chain : m.history.IsChain fun t t' => t.target = t'.source
  /-- The history ends in the present state; without records that is the initial state. -/
  target_last : (m.history.getLast?.elim L.initial Transition.target) = m.state
  lists : ∀ t ∈ m.history, L.Lists t
  visited_eq : m.visited = L.initial :: m.history.map Transition.target
  length_visited : m.visited.length = m.history.length + 1
  /-- The next call adds at most one record, behind the others. -/
  grows : ∀ call, ∃ new, (m.called L call).history = m.history ++ new ∧ new.length ≤ 1
  /-- No record is ever changed. -/
  keeps : ∀ more, m.history <+: (m.run L more).history
  /-- An event that does not move the machine changes nothing. -/
  rests : ∀ event timestamp, (∀ s, (m.process L event timestamp).outcome ≠ .ok (.ok s)) →
    (m.process L event timestamp).machine = m
  /-- An event that moves the machine adds its record, and leads to where all invariants hold that
  the machine has been given. -/
  moves : ∀ event timestamp target, (m.process L event timestamp).outcome = .ok (.ok target) →
    (m.process L event timestamp).machine.state = target ∧
      (m.process L event timestamp).machine.history = m.history ++
        [⟨m.state, L.kindName (L.kind event), target, timestamp,
          L.snapshot (m.process L event timestamp).machine.context⟩] ∧
      ∀ i ∈ invariants ++ calls.filterMap Call.added?,
        i.holds target (m.process L event timestamp).machine.context = .ok true

/-- Whatever a machine is asked from its beginning on, its history records how it came to its state,
and it has moved only to where its invariants hold. -/
theorem Machine.run_chronicled (L : Lifecycle S E K C) (context : C)
    (invariants : List (Invariant S C)) (calls : List (Call S E C)) :
    Chronicled L invariants calls
      (({ start L context with invariants } : Machine S C).run L calls) := by
  obtain ⟨ts, hts, hpath⟩ := run_path L { start L context with invariants } calls
  have hinv := run_invariants L { start L context with invariants } calls
  generalize ({ start L context with invariants } : Machine S C).run L calls = m at hts hpath hinv ⊢
  obtain rfl : m.history = ts := by simpa [start] using hts
  exact {
    source_head := hpath.source_of_head?
    chain := hpath.isChain
    target_last := hpath.target_of_getLast?
    lists := hpath.lists
    visited_eq := hpath.map_source_append
    length_visited := by simp [visited]
    grows := fun call => by
      obtain ⟨new, hnew, hlen, -⟩ := m.called_path L call
      exact ⟨new, hnew, hlen⟩
    keeps := fun more => by
      obtain ⟨new, hnew, -⟩ := m.run_path L more
      exact ⟨new, hnew.symm⟩
    rests := fun _ _ h => process_machine h
    moves := fun event timestamp target h => by
      obtain ⟨hstate, hrecord, hholds⟩ := process_moved h
      exact ⟨hstate, hrecord, by rwa [hinv] at hholds⟩ }

end TwoFactorLogin
