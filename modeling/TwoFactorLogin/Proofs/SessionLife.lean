import TwoFactorLogin.Proofs.Processing
import TwoFactorLogin.Proofs.SessionSteps

/-!
# The lives of a session

A session takes events in any order, and what its state does not allow is refused. There are six
ways in which its life can go: it may stay unconnected, be connected, and be bound after that; and
from each of the three it may be closed, which is the end.

* `SessionState.rows`: the table of a session, and `Session.canProcess_iff`: what it allows.
* `Applying`: what an event comes to. It is refused, or it would bind the session without a name, or
  it moves the session.
* `Course`: the six lives, each with the events that were taken, the states that were visited and
  the context at its end.
* `Session.live_course`: every session lives one of them, whatever events it is given.
* `Session.live_lives`: what follows for the states, the name and the reason of a session, and for
  the next event.
-/

namespace TwoFactorLogin

namespace Session

/-- The session after some events, each with its date; those that are refused are passed over. -/
def live (s : Session) (events : List (SessionEvent × String)) : Session :=
  events.foldl (fun s e => (s.apply e.1 e.2).session) s

/-- The events among some that are taken. -/
def accepted (s : Session) : List (SessionEvent × String) → List SessionEvent
  | [] => []
  | e :: es =>
    let a := s.apply e.1 e.2
    match a.outcome with
    | .ok _ => e.1 :: a.session.accepted es
    | .error _ => a.session.accepted es

end Session

/-- A bind that gives the session no name. -/
def SessionEvent.IsNamelessBind (event : SessionEvent) : Prop :=
  ∃ dn, event = .bindSucceeded dn ∧ dn.getD "" = ""

/-! ## The table -/

/-- The rows of the table: a state, a kind of event, and the state that it leads to. -/
def SessionState.rows : List (SessionState × SessionEventKind × SessionState) :=
  [(.unconnected, .transportOpened, .connected), (.connected, .bindSucceeded, .bound),
   (.unconnected, .sessionClosed, .closed), (.connected, .sessionClosed, .closed),
   (.bound, .sessionClosed, .closed)]

theorem SessionState.next?_eq_some_iff {state target : SessionState} {kind : SessionEventKind} :
    state.next? kind = some target ↔ (state, kind, target) ∈ rows := by
  cases state <;> cases kind <;> simp [next?, rows, eq_comm]

/-! ## One event -/

/-- What an event comes to. -/
inductive Applying (s : Session) (event : SessionEvent) (date : String) : Session.Applied → Prop where
  /-- The state does not allow the event. -/
  | refused (hnext : s.state.next? event.kind = none) :
      Applying s event date
        ⟨.error (.session (.eventNotAllowed event.kind.name s.state.name)), [], s⟩
  /-- The session would be bound without a name. -/
  | nameless (hstate : s.state = .connected) (hevent : event.IsNamelessBind) :
      Applying s event date
        ⟨.error (.session (.invariantViolated boundRequiresDn.name)),
          [.invariantViolated boundRequiresDn.name s.state.name SessionState.bound.name], s⟩
  /-- The session moves; if it is bound now, it is bound with a name. -/
  | moved {target : SessionState} (hnext : s.state.next? event.kind = some target)
      (hnamed : target = .bound → ¬ event.IsNamelessBind) :
      Applying s event date
        ⟨.ok (), [.transition s.state.name target.name event.kind.name], s.moved event target date⟩

namespace Session

variable {s : Session} {event : SessionEvent} {date : String}

/-- A session allows what one of the five rows lists for its state. -/
theorem canProcess_iff (s : Session) (event : SessionEvent) :
    s.machine.canProcess sessionLifecycle event.kind = true ↔
      ∃ target, (s.state, event.kind, target) ∈ SessionState.rows := by
  simp only [← SessionState.next?_eq_some_iff]
  show ((s.state.next? event.kind).map _).isSome = true ↔ _
  rw [Option.isSome_map, Option.isSome_iff_exists]

theorem canProcess_eq_false_iff (s : Session) (event : SessionEvent) :
    s.machine.canProcess sessionLifecycle event.kind = false ↔
      s.state.next? event.kind = none := by
  rw [← Bool.not_eq_true, canProcess_iff, Option.eq_none_iff_forall_ne_some, not_exists]
  simp only [← SessionState.next?_eq_some_iff, ne_eq]

/-- Only a bind leads to the bound state, and only a connected session is bound. -/
theorem of_next_bound (h : s.state.next? event.kind = some .bound) :
    s.state = .connected ∧ ∃ dn, event = .bindSucceeded dn := by
  obtain ⟨hstate, hkind⟩ : s.state = .connected ∧ event.kind = .bindSucceeded := by
    simpa [SessionState.rows] using SessionState.next?_eq_some_iff.1 h
  refine ⟨hstate, ?_⟩
  cases event with
  | bindSucceeded dn => exact ⟨dn, rfl⟩
  | _ => cases hkind

theorem any_nonempty_iff {dn : Option String} :
    (dn.any fun dn => !dn.isEmpty) = true ↔ dn.getD "" ≠ "" := by
  cases dn <;> simp

/-- A session that keeps its invariant refuses to be bound without a name. -/
theorem apply_of_nameless (hg : s.Guarded) (hstate : s.state = .connected) {dn : Option String}
    (hdn : dn.getD "" = "") :
    s.apply (.bindSucceeded dn) date =
      ⟨.error (.session (.invariantViolated boundRequiresDn.name)),
        [.invariantViolated boundRequiresDn.name s.state.name SessionState.bound.name], s⟩ := by
  have hentry : sessionLifecycle.entry? s.machine.state (SessionEvent.bindSucceeded dn).kind =
      some ⟨.bound, fun e c => .ok (c.after e)⟩ := by
    show (s.state.next? _).map _ = _
    rw [hstate]
    rfl
  have hviolated : Machine.firstViolated .bound
      (s.machine.context.after (.bindSucceeded dn)) s.machine.invariants =
        .ok (some boundRequiresDn.name) := by
    have hholds : boundRequiresDn.holds .bound (s.machine.context.after (.bindSucceeded dn)) =
        .ok false := by
      have hany : (dn.any fun dn => !dn.isEmpty) = false :=
        Bool.eq_false_iff.2 fun h => any_nonempty_iff.1 h hdn
      simp [boundRequiresDn, SessionContext.after, hany]
    rw [show s.machine.invariants = [boundRequiresDn] from hg]
    simp only [Machine.firstViolated, hholds]
    rfl
  have hkind : sessionLifecycle.kind (.bindSucceeded dn) = (SessionEvent.bindSucceeded dn).kind := rfl
  simp only [apply, Machine.canProcess, hentry, Option.isSome_some, if_true, Machine.process, hkind,
    hviolated]
  rfl

theorem apply_applying (hg : s.Guarded) (event : SessionEvent) (date : String) :
    Applying s event date (s.apply event date) := by
  cases hnext : s.state.next? event.kind with
  | none =>
    rw [apply, (s.canProcess_eq_false_iff event).2 hnext]
    exact .refused hnext
  | some target =>
    by_cases hnameless : target = .bound ∧ event.IsNamelessBind
    · obtain ⟨rfl, hevent⟩ := hnameless
      have hstate := (of_next_bound hnext).1
      obtain ⟨dn, rfl, hdn⟩ := hevent
      rw [apply_of_nameless hg hstate hdn]
      exact .nameless hstate ⟨dn, rfl, hdn⟩
    · rw [not_and] at hnameless
      rw [apply_of_next hg hnext]
      · exact .moved hnext hnameless
      · rintro rfl
        obtain ⟨-, dn, rfl⟩ := of_next_bound hnext
        exact any_nonempty_iff.2 fun hdn => hnameless rfl ⟨dn, rfl, hdn⟩

end Session

/-! ## Six lives -/

/-- The ways in which the life of a session can go that began with the context `c`: the events that
were taken, the states that were visited, and the context at the end. -/
inductive Course (c : SessionContext) :
    List SessionEvent → List SessionState → SessionContext → Prop where
  | fresh : Course c [] [.unconnected] c
  | connected (host : String) (port : Int) :
      Course c [.transportOpened host port] [.unconnected, .connected] { c with host, port }
  | bound (host : String) (port : Int) {dn : String} (hdn : dn ≠ "") :
      Course c [.transportOpened host port, .bindSucceeded (some dn)]
        [.unconnected, .connected, .bound] { c with host, port, boundDn := some dn }
  | closed (reason : Option String) :
      Course c [.sessionClosed reason] [.unconnected, .closed] { c with closeReason := reason }
  | connectedClosed (host : String) (port : Int) (reason : Option String) :
      Course c [.transportOpened host port, .sessionClosed reason]
        [.unconnected, .connected, .closed] { c with host, port, closeReason := reason }
  | boundClosed (host : String) (port : Int) {dn : String} (hdn : dn ≠ "")
      (reason : Option String) :
      Course c [.transportOpened host port, .bindSucceeded (some dn), .sessionClosed reason]
        [.unconnected, .connected, .bound, .closed]
        { c with host, port, boundDn := some dn, closeReason := reason }

namespace Course

variable {c c' : SessionContext} {taken : List SessionEvent} {visited : List SessionState}

theorem visits (h : Course c taken visited c') :
    visited ∈ [[.unconnected], [.unconnected, .connected], [.unconnected, .closed],
      [.unconnected, .connected, .closed], [.unconnected, .connected, .bound],
      [.unconnected, .connected, .bound, .closed]] := by
  cases h <;> simp

theorem length_taken (h : Course c taken visited c') : taken.length ≤ 3 := by
  cases h <;> simp

theorem boundDn_of_not_bound (h : Course c taken visited c') (hbound : .bound ∉ visited) :
    c'.boundDn = c.boundDn := by
  cases h with
  | bound _ _ _ => simp at hbound
  | boundClosed _ _ _ _ => simp at hbound
  | _ => rfl

theorem boundDn_of_bound (h : Course c taken visited c') (hbound : .bound ∈ visited) :
    ∃ dn, dn ≠ "" ∧ c'.boundDn = some dn ∧
      taken.filter (fun e => e.kind = .bindSucceeded) = [.bindSucceeded (some dn)] := by
  cases h with
  | bound _ _ hdn => exact ⟨_, hdn, rfl, rfl⟩
  | boundClosed _ _ hdn _ => exact ⟨_, hdn, rfl, rfl⟩
  | _ => simp at hbound

theorem closeReason_of_closed (h : Course c taken visited c') (hclosed : .closed ∈ visited) :
    taken.filter (fun e => e.kind = .sessionClosed) = [.sessionClosed c'.closeReason] := by
  cases h with
  | closed _ => rfl
  | connectedClosed _ _ _ => rfl
  | boundClosed _ _ _ _ => rfl
  | _ => simp at hclosed

/-- A life goes on with an event that the last state allows, if it does not bind without a name. -/
theorem next {last target : SessionState} {event : SessionEvent}
    (h : Course c taken visited c') (hlast : visited.getLast? = some last)
    (hnext : last.next? event.kind = some target)
    (hnamed : target = .bound → ¬ event.IsNamelessBind) :
    Course c (taken ++ [event]) (visited ++ [target]) (c'.after event) := by
  cases h with
  | fresh =>
    obtain rfl : SessionState.unconnected = last := by simpa using hlast
    cases event with
    | transportOpened host port =>
      cases hnext
      exact .connected host port
    | sessionClosed reason =>
      cases hnext
      exact .closed reason
    | _ => cases hnext
  | connected host port =>
    obtain rfl : SessionState.connected = last := by simpa using hlast
    cases event with
    | bindSucceeded dn =>
      cases hnext
      cases dn with
      | none => exact absurd ⟨none, rfl, rfl⟩ (hnamed rfl)
      | some dn => exact .bound host port fun hdn => hnamed rfl ⟨some dn, rfl, hdn⟩
    | sessionClosed reason =>
      cases hnext
      exact .connectedClosed host port reason
    | _ => cases hnext
  | bound host port hdn =>
    obtain rfl : SessionState.bound = last := by simpa using hlast
    cases event with
    | sessionClosed reason =>
      cases hnext
      exact .boundClosed host port hdn reason
    | _ => cases hnext
  | closed _ =>
    obtain rfl : SessionState.closed = last := by simpa using hlast
    cases event <;> cases hnext
  | connectedClosed _ _ _ =>
    obtain rfl : SessionState.closed = last := by simpa using hlast
    cases event <;> cases hnext
  | boundClosed _ _ _ _ =>
    obtain rfl : SessionState.closed = last := by simpa using hlast
    cases event <;> cases hnext

end Course

namespace Session

variable {s : Session} {event : SessionEvent} {date : String} {events : List (SessionEvent × String)}
  {c : SessionContext} {past : List SessionEvent}

/-- The last state of the history is the present one. -/
theorem getLast?_history (s : Session) : s.history.getLast? = some s.state := by
  simp [history, Machine.visited, state]

@[simp] theorem history_moved (s : Session) (event : SessionEvent) (target : SessionState)
    (date : String) : (s.moved event target date).history = s.history ++ [target] := by
  simp [history, moved, Machine.visited, Machine.commit]

@[simp] theorem live_cons (s : Session) (e : SessionEvent × String)
    (events : List (SessionEvent × String)) :
    s.live (e :: events) = (s.apply e.1 e.2).session.live events := rfl

/-- A session whose life has gone some way goes on in one of the six ways. -/
theorem live_course_of (hg : s.Guarded) (h : Course c past s.history s.machine.context)
    (events : List (SessionEvent × String)) :
    (s.live events).Guarded ∧ Course c (past ++ s.accepted events) (s.live events).history
      (s.live events).machine.context := by
  induction events generalizing s past with
  | nil => exact ⟨hg, by simpa [accepted, live] using h⟩
  | cons e events ih =>
    have ha := apply_applying hg e.1 e.2
    simp only [live_cons, accepted]
    generalize s.apply e.1 e.2 = a at ha
    cases ha with
    | refused _ => exact ih hg h
    | nameless _ _ => exact ih hg h
    | @moved target hnext hnamed =>
      have hgone : Course c (past ++ [e.1]) (s.moved e.1 target e.2).history
          (s.moved e.1 target e.2).machine.context := by
        rw [history_moved]
        exact h.next s.getLast?_history hnext hnamed
      simpa using ih (s := s.moved e.1 target e.2) hg hgone

/-- Every session lives one of six lives, whatever events it is given. -/
theorem live_course (host : String) (port : Int) (mode : EncryptionMode)
    (events : List (SessionEvent × String)) :
    ((fresh host port mode).live events).Guarded ∧
      Course { host, port, mode } ((fresh host port mode).accepted events)
        ((fresh host port mode).live events).history
        ((fresh host port mode).live events).machine.context :=
  live_course_of (guarded_fresh host port mode) .fresh events

/-- The machine of a session never refuses an event that its state allows: no update fails. -/
theorem process_ne_refusal
    (h : s.machine.canProcess sessionLifecycle event.kind = true) (refusal : Refusal) :
    (s.machine.process sessionLifecycle event date).outcome ≠ .ok (.error refusal) := by
  have hp := s.machine.process_processing sessionLifecycle event date
  generalize s.machine.process sessionLifecycle event date = p at hp
  cases hp with
  | unlisted hentry =>
    have hkind : sessionLifecycle.kind event = event.kind := rfl
    rw [hkind] at hentry
    simp [Machine.canProcess, hentry] at h
  | notUpdated hentry hupdate _ =>
    obtain ⟨target, -, rfl⟩ := Option.map_eq_some_iff.1 hentry
    cases hupdate
  | _ => rintro ⟨⟩

/-- A closed session allows nothing. -/
theorem live_of_closed (hg : s.Guarded) (h : s.state = .closed)
    (more : List (SessionEvent × String)) : s.live more = s := by
  induction more with
  | nil => rfl
  | cons e more ih =>
    have hstays : (s.apply e.1 e.2).session = s := by
      have ha := apply_applying hg e.1 e.2
      generalize s.apply e.1 e.2 = a at ha
      cases ha with
      | moved hnext _ =>
        rw [h, SessionState.next?_eq_some_iff] at hnext
        simp [SessionState.rows] at hnext
      | _ => rfl
    rw [live_cons, hstays, ih]

/-- To bind a connected session is allowed, with a name or without. -/
theorem next_of_nameless (hstate : s.state = .connected) (h : event.IsNamelessBind) :
    s.state.next? event.kind = some .bound := by
  obtain ⟨dn, rfl, -⟩ := h
  rw [hstate]
  rfl

/-! ## What follows -/

/-- What the next event of a session comes to. -/
structure Takes (s : Session) (event : SessionEvent) (date : String) (a : Applied) : Prop where
  /-- An event is refused exactly if the state does not allow it. -/
  refuses_iff : (∃ fault, a.outcome = .error fault ∧ fault.kind = .own .state) ↔
    s.machine.canProcess sessionLifecycle event.kind = false
  /-- The invariant is violated exactly by binding a connected session without a name. -/
  violates_iff : (∃ fault, a.outcome = .error fault ∧ fault.kind = .own .invariant) ↔
    s.state = .connected ∧ event.IsNamelessBind
  /-- Every other event is taken. -/
  takes_iff : a.outcome = .ok () ↔
    s.machine.canProcess sessionLifecycle event.kind = true ∧
      ¬ (s.state = .connected ∧ event.IsNamelessBind)
  /-- What the state allows, the machine does not refuse afterwards. -/
  not_refused : s.machine.canProcess sessionLifecycle event.kind = true → ∀ refusal,
    (s.machine.process sessionLifecycle event date).outcome ≠ .ok (.error refusal)
  /-- A fault leaves the session as it was. -/
  unchanged : ∀ fault, a.outcome = .error fault → a.session = s

theorem apply_takes (hg : s.Guarded) (event : SessionEvent) (date : String) :
    s.Takes event date (s.apply event date) := by
  have ha := apply_applying hg event date
  generalize s.apply event date = a at ha
  cases ha with
  | refused hnext =>
    have hcan := (s.canProcess_eq_false_iff event).2 hnext
    have hnot : ¬ (s.state = .connected ∧ event.IsNamelessBind) := fun h => by
      simp [next_of_nameless h.1 h.2] at hnext
    exact {
      refuses_iff := by simp [hcan, Fault.kind, SessionFault.kind]
      violates_iff := by simp [hnot, Fault.kind, SessionFault.kind]
      takes_iff := by simp [hcan]
      not_refused := process_ne_refusal
      unchanged := fun _ _ => rfl }
  | nameless hstate hevent =>
    have hcan : s.machine.canProcess sessionLifecycle event.kind = true :=
      (s.canProcess_iff event).2
        ⟨.bound, SessionState.next?_eq_some_iff.1 (next_of_nameless hstate hevent)⟩
    exact {
      refuses_iff := by simp [hcan, Fault.kind, SessionFault.kind]
      violates_iff := by simp [hstate, hevent, Fault.kind, SessionFault.kind]
      takes_iff := by simp [hstate, hevent]
      not_refused := process_ne_refusal
      unchanged := fun _ _ => rfl }
  | moved hnext hnamed =>
    have hcan : s.machine.canProcess sessionLifecycle event.kind = true :=
      (s.canProcess_iff event).2 ⟨_, SessionState.next?_eq_some_iff.1 hnext⟩
    have hnot : ¬ (s.state = .connected ∧ event.IsNamelessBind) := fun h =>
      hnamed (Option.some.inj (hnext.symm.trans (next_of_nameless h.1 h.2))) h.2
    exact {
      refuses_iff := by simp [hcan]
      violates_iff := by simp [hnot]
      takes_iff := by simp [hcan, hnot]
      not_refused := process_ne_refusal
      unchanged := by simp }

/-- What holds of a session `s` that began unconnected and of whose events `taken` were taken. -/
structure Lives (taken : List SessionEvent) (s : Session) : Prop where
  visits : s.history ∈ [[.unconnected], [.unconnected, .connected], [.unconnected, .closed],
    [.unconnected, .connected, .closed], [.unconnected, .connected, .bound],
    [.unconnected, .connected, .bound, .closed]]
  length_taken : taken.length ≤ 3
  /-- A session that was never bound has no name. -/
  boundDn_none : .bound ∉ s.history → s.boundDn = none
  /-- A session that was bound keeps the name of the one bind that was taken, closed or not. -/
  boundDn_some : .bound ∈ s.history → ∃ dn, dn ≠ "" ∧ s.boundDn = some dn ∧
    taken.filter (fun e => e.kind = .bindSucceeded) = [.bindSucceeded (some dn)]
  /-- A closed session keeps the reason of the one closing that was taken. -/
  closeReason_eq : s.state = .closed → taken.filter (fun e => e.kind = .sessionClosed) =
    [.sessionClosed s.machine.context.closeReason]
  /-- Nothing happens to a closed session. -/
  live_of_closed : s.state = .closed → ∀ more, s.live more = s
  takes : ∀ event date, s.Takes event date (s.apply event date)

/-- Every session lives one of six lives, keeps its name and the reason why it was closed, and takes
exactly the events that its state allows, except a bind without a name. -/
theorem live_lives (host : String) (port : Int) (mode : EncryptionMode)
    (events : List (SessionEvent × String)) :
    Lives ((fresh host port mode).accepted events) ((fresh host port mode).live events) := by
  obtain ⟨hg, h⟩ := live_course host port mode events
  generalize (fresh host port mode).live events = s at hg h ⊢
  exact {
    visits := h.visits
    length_taken := h.length_taken
    boundDn_none := h.boundDn_of_not_bound
    boundDn_some := h.boundDn_of_bound
    closeReason_eq := fun hclosed =>
      h.closeReason_of_closed (hclosed ▸ List.mem_of_getLast? s.getLast?_history)
    live_of_closed := s.live_of_closed hg
    takes := s.apply_takes hg }

/-- The longest life, with an event after each step that the session does not take. -/
example : ((fresh "ldap.example.org" 389 .none).live
    [(.bindSucceeded (some "uid=ann"), "1"), (.transportOpened "ldap.example.org" 389, "2"),
     (.bindSucceeded (some ""), "3"), (.bindSucceeded (some "uid=ann"), "4"),
     (.transportOpened "ldap.example.org" 389, "5"), (.sessionClosed none, "6"),
     (.bindSucceeded (some "uid=bob"), "7")]).history =
      [.unconnected, .connected, .bound, .closed] := by rfl

end Session

end TwoFactorLogin
