import TwoFactorLogin.Machine.Record
import TwoFactorLogin.Proofs.Chronicle

/-!
# What a trace does not tell

A context may hold what nobody is to read later: fields that are not shown, fields whose names begin
with an underscore, and runs of bytes, of which only the lengths count. Two contexts that agree in
everything else have one snapshot, and no more than the snapshot gets into a trace.

So two runs that agree cannot be told apart. Each run is of the same table and takes the same calls;
the updates may do different things, as long as what they make agrees again, and the invariants may
read anything that is not concealed. Then every event has the same outcome and is logged alike, the
histories are the same, and so is the text of the trace.

* `FieldValue.Alike`, `ContextField.Agree`, `RecordContext.Agree`: what two runs have in common.
* `RecordContext.Agree.snapshot_eq`: it is all that a snapshot shows.
* `Machine.Agree`: the invariant of the two runs; `Machine.Agree.process` is one event of it.
* `Machine.run_conceals`: whole runs.
-/

namespace TwoFactorLogin

/-! ## Contexts -/

mutual

/-- Two values of a field differ at most in what is concealed: the contents of bytes, not how many
there are, and concealed fields of records. -/
inductive FieldValue.Alike : FieldValue → FieldValue → Prop where
  | same (v : FieldValue) : FieldValue.Alike v v
  | bytes {content content' : List UInt8} (h : content.length = content'.length) :
      FieldValue.Alike (.bytes content) (.bytes content')
  | list {items items' : List FieldValue} (h : FieldValue.AllAlike items items') :
      FieldValue.Alike (.list items) (.list items')
  | tuple {items items' : List FieldValue} (h : FieldValue.AllAlike items items') :
      FieldValue.Alike (.tuple items) (.tuple items')
  | mapping {entries entries' : List (String × FieldValue)}
      (h : FieldValue.EntriesAlike entries entries') :
      FieldValue.Alike (.mapping entries) (.mapping entries')
  | record {className : String} {fields fields' : List (ContextField FieldValue)}
      (h : ContextField.AllAgree fields fields') :
      FieldValue.Alike (.record className fields) (.record className fields')

/-- The items of two lists are alike, one by one. -/
inductive FieldValue.AllAlike : List FieldValue → List FieldValue → Prop where
  | nil : FieldValue.AllAlike [] []
  | cons {v v' : FieldValue} {items items' : List FieldValue} (h : FieldValue.Alike v v')
      (hs : FieldValue.AllAlike items items') : FieldValue.AllAlike (v :: items) (v' :: items')

/-- The entries of two mappings have the same names and are alike, one by one. -/
inductive FieldValue.EntriesAlike :
    List (String × FieldValue) → List (String × FieldValue) → Prop where
  | nil : FieldValue.EntriesAlike [] []
  | cons {name : String} {v v' : FieldValue} {entries entries' : List (String × FieldValue)}
      (h : FieldValue.Alike v v') (hs : FieldValue.EntriesAlike entries entries') :
      FieldValue.EntriesAlike ((name, v) :: entries) ((name, v') :: entries')

/-- Two fields agree: one name, shown or not shown alike; and if the field is shown and its name
does not begin with an underscore, the values are alike. -/
inductive ContextField.Agree : ContextField FieldValue → ContextField FieldValue → Prop where
  | mk {name : String} {shown : Bool} {v v' : FieldValue}
      (value : shown = true → name.toList.head? ≠ some '_' → FieldValue.Alike v v') :
      ContextField.Agree ⟨name, v, shown⟩ ⟨name, v', shown⟩

/-- The fields of two records agree, one by one. -/
inductive ContextField.AllAgree :
    List (ContextField FieldValue) → List (ContextField FieldValue) → Prop where
  | nil : ContextField.AllAgree [] []
  | cons {f f' : ContextField FieldValue} {fields fields' : List (ContextField FieldValue)}
      (h : ContextField.Agree f f') (hs : ContextField.AllAgree fields fields') :
      ContextField.AllAgree (f :: fields) (f' :: fields')

end

/-- Two contexts agree, field by field. -/
inductive RecordContext.Agree : RecordContext → RecordContext → Prop where
  | mapping : RecordContext.Agree .mapping .mapping
  | record {fields fields' : List (ContextField FieldValue)}
      (h : ContextField.AllAgree fields fields') :
      RecordContext.Agree (.record fields) (.record fields')

/-- Two updates agree: they make contexts that agree, or fail with one message, or raise the same. -/
inductive RecordContext.ResultsAgree :
    Except Fault RecordContext → Except Fault RecordContext → Prop where
  | ok {c c' : RecordContext} (h : c.Agree c') : RecordContext.ResultsAgree (.ok c) (.ok c')
  | failed {fault fault' : Fault} (hk : fault.kind.isInterruption = false)
      (hk' : fault'.kind.isInterruption = false) (h : fault.message = fault'.message) :
      RecordContext.ResultsAgree (.error fault) (.error fault')
  | raised (fault : Fault) : RecordContext.ResultsAgree (.error fault) (.error fault)

mutual

theorem FieldValue.Alike.snapshot_eq : ∀ {v v' : FieldValue}, v.Alike v' → v.snapshot = v'.snapshot
  | _, _, .same _ => rfl
  | _, _, .bytes h => by rw [FieldValue.snapshot, FieldValue.snapshot, h]
  | _, _, .list h => by rw [FieldValue.snapshot, FieldValue.snapshot, h.snapshots_eq]
  | _, _, .tuple h => by rw [FieldValue.snapshot, FieldValue.snapshot, h.snapshots_eq]
  | _, _, .mapping h => by rw [FieldValue.snapshot, FieldValue.snapshot, h.snapshots_eq]
  | _, _, .record h => by rw [FieldValue.snapshot, FieldValue.snapshot, h.snapshots_eq]

theorem FieldValue.AllAlike.snapshots_eq :
    ∀ {items items' : List FieldValue}, FieldValue.AllAlike items items' →
      FieldValue.snapshots items = FieldValue.snapshots items'
  | _, _, .nil => rfl
  | _, _, .cons h hs => by
    rw [FieldValue.snapshots, FieldValue.snapshots, h.snapshot_eq, hs.snapshots_eq]

theorem FieldValue.EntriesAlike.snapshots_eq :
    ∀ {entries entries' : List (String × FieldValue)}, FieldValue.EntriesAlike entries entries' →
      FieldValue.entrySnapshots entries = FieldValue.entrySnapshots entries'
  | _, _, .nil => rfl
  | _, _, .cons h hs => by
    rw [FieldValue.entrySnapshots, FieldValue.entrySnapshots, h.snapshot_eq, hs.snapshots_eq]

theorem ContextField.AllAgree.snapshots_eq :
    ∀ {fields fields' : List (ContextField FieldValue)}, ContextField.AllAgree fields fields' →
      FieldValue.fieldSnapshots fields = FieldValue.fieldSnapshots fields'
  | _, _, .nil => rfl
  | _, _, .cons (@ContextField.Agree.mk name shown v v' value) hs => by
    rw [FieldValue.fieldSnapshots, FieldValue.fieldSnapshots, hs.snapshots_eq]
    by_cases hin : shown = true ∧ name.toList.head? ≠ some '_'
    · rw [(value hin.1 hin.2).snapshot_eq]
      rfl
    · have hout (v : FieldValue) : ContextField.inSnapshot ⟨name, v, shown⟩ = false := by
        simpa [ContextField.inSnapshot] using hin
      rw [hout v, hout v']
      rfl

end

theorem ContextField.AllAgree.map {g g' : ContextField FieldValue → ContextField FieldValue}
    (hg : ∀ f f', f.Agree f' → (g f).Agree (g' f')) :
    ∀ {fields fields' : List (ContextField FieldValue)}, ContextField.AllAgree fields fields' →
      ContextField.AllAgree (fields.map g) (fields'.map g')
  | _, _, .nil => .nil
  | _, _, .cons h hs => .cons (hg _ _ h) (hs.map hg)

theorem ContextField.Agree.refl (f : ContextField FieldValue) : f.Agree f := .mk fun _ _ => .same _

namespace RecordContext

variable {c c' : RecordContext}

theorem Agree.snapshot_eq (h : c.Agree c') : c.snapshot = c'.snapshot := by
  cases h with
  | mapping => rfl
  | record h => rw [snapshot, snapshot, h.snapshots_eq]

theorem Agree.setField (h : c.Agree c') (name : String) (value : FieldValue) :
    ResultsAgree (c.setField name value) (c'.setField name value) := by
  cases h with
  | mapping => exact .raised _
  | @record fields fields' h =>
    refine .ok (.record (h.map fun f f' hf => ?_))
    obtain ⟨hvalue⟩ := hf
    dsimp only
    split
    · exact .refl _
    · exact .mk hvalue

end RecordContext

theorem ContextUpdate.resultsAgree (u : ContextUpdate) {c c' : RecordContext} (h : c.Agree c') :
    RecordContext.ResultsAgree (u.apply c) (u.apply c') := by
  cases u with
  | keep => exact .ok h
  | set field value => exact h.setField field value
  | raise fault => exact .raised fault

/-! ## Machines -/

variable {S E K : Type}

/-- Two descriptions of one machine, which may update contexts differently. -/
structure Lifecycle.Twin (L L' : Lifecycle S E K RecordContext) : Prop where
  initial_eq : L.initial = L'.initial
  kind_eq : L.kind = L'.kind
  target_eq : ∀ s k, (L.entry? s k).map Entry.target = (L'.entry? s k).map Entry.target
  stateName_eq : L.stateName = L'.stateName
  kindName_eq : L.kindName = L'.kindName
  snapshot_eq : L.snapshot = RecordContext.snapshot
  snapshot_eq' : L'.snapshot = RecordContext.snapshot

/-- An invariant reads nothing that is concealed. -/
def Invariant.Blind (i : Invariant S RecordContext) : Prop :=
  ∀ s c c', c.Agree c' → i.holds s c = i.holds s c'

/-- Two machines that differ at most in what their contexts conceal. -/
structure Machine.Agree (m m' : Machine S RecordContext) : Prop where
  state_eq : m.state = m'.state
  context : m.context.Agree m'.context
  history_eq : m.history = m'.history
  invariants_eq : m.invariants = m'.invariants
  blind : ∀ i ∈ m.invariants, i.Blind

namespace Machine

/-- What two machines make of the context on an event agrees, if both have an entry for it. -/
def UpdatesAgree (L L' : Lifecycle S E K RecordContext) (m m' : Machine S RecordContext)
    (event : E) : Prop :=
  ∀ entry entry', L.entry? m.state (L.kind event) = some entry →
    L'.entry? m'.state (L'.kind event) = some entry' →
      RecordContext.ResultsAgree (entry.update event m.context) (entry'.update event m'.context)

/-- Two runs of one row of calls agree in what their updates make. -/
def Concordant (L L' : Lifecycle S E K RecordContext) :
    Machine S RecordContext → Machine S RecordContext → List (Call S E RecordContext) → Prop
  | _, _, [] => True
  | m, m', call :: calls =>
    (∀ event timestamp, call = .process event timestamp → UpdatesAgree L L' m m' event) ∧
      Concordant L L' (m.called L call) (m'.called L' call) calls

/-- The outcomes of the events among some calls, each with what was logged. -/
def reports {C : Type} (L : Lifecycle S E K C) (m : Machine S C) :
    List (Call S E C) → List (Except Fault (Except Refusal S) × List MachineRecord)
  | [] => []
  | .process event timestamp :: calls =>
    ((m.process L event timestamp).outcome, (m.process L event timestamp).log) ::
      (m.called L (.process event timestamp)).reports L calls
  | .addInvariant i :: calls => (m.addInvariant i).reports L calls

variable {L L' : Lifecycle S E K RecordContext} {m m' : Machine S RecordContext} {event : E}
  {timestamp : String} {calls : List (Call S E RecordContext)}

/-- Invariants that read nothing concealed say the same of contexts that agree. -/
theorem firstViolated_eq_of_agree {s : S} {c c' : RecordContext} (h : c.Agree c')
    {invariants : List (Invariant S RecordContext)} (hb : ∀ i ∈ invariants, i.Blind) :
    firstViolated s c invariants = firstViolated s c' invariants := by
  induction invariants with
  | nil => rfl
  | cons i rest ih =>
    obtain ⟨hi, hrest⟩ := List.forall_mem_cons.1 hb
    rw [firstViolated, firstViolated, hi s c c' h, ih hrest]

theorem Agree.commit (h : m.Agree m') (ht : L.Twin L') {context context' : RecordContext}
    (hc : context.Agree context') (kind : K) (target : S) (timestamp : String) :
    (m.commit L kind target context timestamp).Agree
      (m'.commit L' kind target context' timestamp) where
  state_eq := rfl
  context := hc
  history_eq := by
    simp only [Machine.commit, h.history_eq, h.state_eq, ht.kindName_eq, ht.snapshot_eq,
      ht.snapshot_eq', hc.snapshot_eq]
  invariants_eq := h.invariants_eq
  blind := h.blind

/-- Two machines that agree take an event alike, and agree afterwards. -/
theorem Agree.process (h : m.Agree m') (ht : L.Twin L') (hu : UpdatesAgree L L' m m' event)
    (timestamp : String) :
    (m.process L event timestamp).outcome = (m'.process L' event timestamp).outcome ∧
      (m.process L event timestamp).log = (m'.process L' event timestamp).log ∧
        (m.process L event timestamp).machine.Agree (m'.process L' event timestamp).machine := by
  have htarget := ht.target_eq m.state (L.kind event)
  unfold UpdatesAgree at hu
  simp only [Machine.process, ← h.state_eq, ← ht.kind_eq, ← ht.stateName_eq, ← ht.kindName_eq]
    at hu ⊢
  rcases hentry : L.entry? m.state (L.kind event) with _ | entry
  · rcases hentry' : L'.entry? m.state (L.kind event) with _ | entry'
    · exact ⟨rfl, rfl, h⟩
    · simp [hentry, hentry'] at htarget
  rcases hentry' : L'.entry? m.state (L.kind event) with _ | entry'
  · simp [hentry, hentry'] at htarget
  have htargets : entry.target = entry'.target := by simpa [hentry, hentry'] using htarget
  have hresults := hu entry entry' hentry hentry'
  dsimp only
  generalize entry.update event m.context = result at hresults ⊢
  generalize entry'.update event m'.context = result' at hresults ⊢
  cases hresults with
  | failed hk hk' hmessage =>
    simp only [hk, hk', Bool.false_eq_true, if_false, hmessage, true_and]
    exact h
  | raised fault =>
    dsimp only
    split <;> exact ⟨rfl, rfl, h⟩
  | @ok c c' hc =>
    dsimp only
    rw [← htargets, ← h.invariants_eq, ← firstViolated_eq_of_agree hc h.blind]
    rcases firstViolated entry.target c m.invariants with fault | _ | name
    · exact ⟨rfl, rfl, h⟩
    · exact ⟨rfl, rfl, h.commit ht hc _ _ _⟩
    · exact ⟨rfl, rfl, h⟩

/-- A call leaves two machines in agreement that are given invariants that are blind. -/
theorem Agree.called (h : m.Agree m') (ht : L.Twin L') {call : Call S E RecordContext}
    (hb : ∀ i, call.added? = some i → i.Blind)
    (hu : ∀ event timestamp, call = .process event timestamp → UpdatesAgree L L' m m' event) :
    (m.called L call).Agree (m'.called L' call) := by
  cases call with
  | process event timestamp => exact (h.process ht (hu event timestamp rfl) timestamp).2.2
  | addInvariant i =>
    refine ⟨h.state_eq, h.context, h.history_eq, ?_, ?_⟩
    · exact congrArg (· ++ [i]) h.invariants_eq
    · exact List.forall_mem_append.2 ⟨h.blind, by simpa using hb i rfl⟩

theorem blind_of_cons {call : Call S E RecordContext}
    (h : ∀ i ∈ (call :: calls).filterMap Call.added?, i.Blind) :
    (∀ i, call.added? = some i → i.Blind) ∧ ∀ i ∈ calls.filterMap Call.added?, i.Blind := by
  constructor
  · intro i hi
    exact h i (by simp [hi])
  · intro i hi
    refine h i ?_
    rw [List.filterMap_cons]
    split
    · exact hi
    · exact List.mem_cons_of_mem _ hi

/-- Two machines that agree report the same of their calls, and agree afterwards. -/
theorem Agree.run (h : m.Agree m') (ht : L.Twin L')
    (hb : ∀ i ∈ calls.filterMap Call.added?, i.Blind) (hu : Concordant L L' m m' calls) :
    m.reports L calls = m'.reports L' calls ∧ (m.run L calls).Agree (m'.run L' calls) := by
  induction calls generalizing m m' with
  | nil => exact ⟨rfl, h⟩
  | cons call calls ih =>
    obtain ⟨hcall, hcalls⟩ := hu
    obtain ⟨hadded, hrest⟩ := blind_of_cons hb
    obtain ⟨hreports, hrun⟩ := ih (h.called ht hadded hcall) hrest hcalls
    refine ⟨?_, hrun⟩
    cases call with
    | process event timestamp =>
      obtain ⟨houtcome, hlog, -⟩ := h.process ht (hcall event timestamp rfl) timestamp
      rw [reports, reports, houtcome, hlog, hreports]
    | addInvariant i => exact hreports

theorem Agree.traceValue_eq (h : m.Agree m') (ht : L.Twin L') :
    m.traceValue L = m'.traceValue L' := by
  have hstep : transitionValue L = transitionValue L' := by
    funext t
    rw [transitionValue, transitionValue, ht.stateName_eq]
  rw [traceValue, traceValue, hstep, ht.stateName_eq, ht.initial_eq, h.state_eq, h.history_eq]

/-- What can be seen of two runs is the same: the outcome and the log of every event, the records of
the steps, and the text of the trace. -/
structure LookAlike (L L' : Lifecycle S E K RecordContext) (m m' : Machine S RecordContext)
    (calls : List (Call S E RecordContext)) : Prop where
  reports_eq : m.reports L calls = m'.reports L' calls
  history_eq : (m.run L calls).history = (m'.run L' calls).history
  trace_eq : (m.run L calls).exported L = (m'.run L' calls).exported L'
  /-- The contexts agree still; what they conceal may differ. -/
  context : (m.run L calls).context.Agree (m'.run L' calls).context

/-- Two runs of one machine that differ at most in what contexts conceal look alike. -/
theorem run_conceals {L L' : Lifecycle S E K RecordContext} (ht : L.Twin L')
    {c c' : RecordContext} (hc : c.Agree c') {invariants : List (Invariant S RecordContext)}
    {calls : List (Call S E RecordContext)}
    (hb : ∀ i ∈ invariants ++ calls.filterMap Call.added?, i.Blind)
    (hu : Concordant L L' { start L c with invariants } { start L' c' with invariants } calls) :
    LookAlike L L' { start L c with invariants } { start L' c' with invariants } calls := by
  obtain ⟨hbegin, hadded⟩ := List.forall_mem_append.1 hb
  have hstart : ({ start L c with invariants } : Machine S RecordContext).Agree
      { start L' c' with invariants } := ⟨ht.initial_eq, hc, rfl, rfl, hbegin⟩
  obtain ⟨hreports, hrun⟩ := hstart.run ht hadded hu
  exact ⟨hreports, hrun.history_eq, congrArg Value.json (hrun.traceValue_eq ht), hrun.context⟩

end Machine

/-! ## Tables -/

theorem tableLifecycle_twin (initial : String) (rows : List TableRow) :
    (tableLifecycle initial rows).Twin (tableLifecycle initial rows) :=
  ⟨rfl, rfl, fun _ _ => rfl, rfl, rfl, rfl, rfl⟩

theorem tableLifecycle_updatesAgree (initial : String) (rows : List TableRow)
    {m m' : Machine String RecordContext} (h : m.Agree m') (event : String) :
    Machine.UpdatesAgree (tableLifecycle initial rows) (tableLifecycle initial rows) m m' event := by
  intro entry entry' hentry hentry'
  rw [← h.state_eq, hentry] at hentry'
  obtain rfl := Option.some.inj hentry'
  obtain ⟨row, -, rfl⟩ := Option.map_eq_some_iff.1 hentry
  exact row.update.resultsAgree h.context

theorem tableLifecycle_concordant (initial : String) (rows : List TableRow)
    {m m' : Machine String RecordContext} (h : m.Agree m')
    {calls : List (Call String String RecordContext)}
    (hb : ∀ i ∈ calls.filterMap Call.added?, i.Blind) :
    Machine.Concordant (tableLifecycle initial rows) (tableLifecycle initial rows) m m' calls := by
  induction calls generalizing m m' with
  | nil => trivial
  | cons call calls ih =>
    have hupdates (event timestamp : String) (_ : call = .process event timestamp) :=
      tableLifecycle_updatesAgree initial rows h event
    obtain ⟨hadded, hrest⟩ := Machine.blind_of_cons hb
    exact ⟨hupdates, ih (h.called (tableLifecycle_twin initial rows) hadded hupdates) hrest⟩

theorem neverIn_blind (name state : String) : (neverIn name state).Blind := fun _ _ _ _ => rfl

/-! ## Two runs that differ -/

namespace Sample

/-- A context with a field for everything that is concealed, at the top and inside a record. -/
def concealing (content : List UInt8) (tag : UInt8) (hidden : String) (secret : Int) :
    RecordContext :=
  .record [⟨"name", .text "", true⟩, ⟨"blob", .bytes content, true⟩,
    ⟨"tags", .list [.text "plain", .bytes [tag]], true⟩,
    ⟨"part", .record "Part" [⟨"keys", .mapping [("first", .bytes [tag])], true⟩,
      ⟨"_inner", .integer secret, true⟩], true⟩,
    ⟨"hidden", .text hidden, false⟩, ⟨"_private", .integer secret, true⟩]

/-- A switch that is on or off, and sets a field when it is turned on. -/
def switch : Lifecycle String String String RecordContext :=
  tableLifecycle "off"
    [⟨"off", "turn", "on", .set "name" (.text "lamp")⟩, ⟨"on", "turn", "off", .keep⟩]

/-- The switch is turned on, then kept on. -/
def turns : List (Call String String RecordContext) :=
  [.process "turn" "2024-01-01T00:00:00+00:00", .addInvariant (neverIn "stays_on" "off"),
    .process "turn" "2024-01-01T00:00:01+00:00", .process "press" "2024-01-01T00:00:02+00:00"]

theorem concealing_agree (tag tag' : UInt8) (hidden hidden' : String) (secret secret' : Int)
    {content content' : List UInt8} (h : content.length = content'.length) :
    (concealing content tag hidden secret).Agree (concealing content' tag' hidden' secret') := by
  have htags : (FieldValue.list [.text "plain", .bytes [tag]]).Alike
      (.list [.text "plain", .bytes [tag']]) := .list (.cons (.same _) (.cons (.bytes rfl) .nil))
  have hkeys : (FieldValue.mapping [("first", .bytes [tag])]).Alike
      (.mapping [("first", .bytes [tag'])]) := .mapping (.cons (.bytes rfl) .nil)
  have hinner : (⟨"_inner", .integer secret, true⟩ : ContextField FieldValue).Agree
      ⟨"_inner", .integer secret', true⟩ := .mk (by simp)
  exact .record (.cons (.refl _) (.cons (.mk fun _ _ => .bytes h) (.cons (.mk fun _ _ => htags)
    (.cons (.mk fun _ _ => .record (.cons (.mk fun _ _ => hkeys) (.cons hinner .nil)))
      (.cons (.mk (by simp)) (.cons (.mk (by simp)) .nil))))))

end Sample

/-- Two runs of the switch that differ in everything that is concealed look alike. -/
theorem Machine.lookAlike_of_switch :
    Sample.concealing [1, 2] 3 "one" 4 ≠ Sample.concealing [5, 6] 7 "two" 8 ∧
      LookAlike Sample.switch Sample.switch
        { start Sample.switch (Sample.concealing [1, 2] 3 "one" 4) with invariants := [] }
        { start Sample.switch (Sample.concealing [5, 6] 7 "two" 8) with invariants := [] }
        Sample.turns := by
  have hlength : [(1 : UInt8), 2].length = [(5 : UInt8), 6].length := rfl
  have hagree := Sample.concealing_agree 3 7 "one" "two" 4 8 hlength
  have hblind : ∀ i ∈ Sample.turns.filterMap Call.added?, i.Blind := by
    simpa [Sample.turns, Call.added?] using neverIn_blind "stays_on" "off"
  have hstart : Agree
      { start Sample.switch (Sample.concealing [1, 2] 3 "one" 4) with invariants := [] }
      { start Sample.switch (Sample.concealing [5, 6] 7 "two" 8) with invariants := [] } :=
    ⟨rfl, hagree, rfl, rfl, by simp⟩
  refine ⟨by simp [Sample.concealing], ?_⟩
  exact run_conceals (tableLifecycle_twin _ _) hagree (by simpa using hblind)
    (tableLifecycle_concordant _ _ hstart hblind)

end TwoFactorLogin
