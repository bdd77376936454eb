import Mathlib.Algebra.BigOperators.Group.Finset.Piecewise
import Mathlib.Data.List.DropRight
import TwoFactorLogin.Store.Memory

/-!
# The store in memory as a multimap

Whatever was done with a store in memory, it answers as a multimap would: an owner has the secrets
that were added since the owner's secrets were last removed (`live`). A look-up finds the only one,
or none, or fails because there are several; the size is the number of all of them.

**The view** (`MemoryStore.ownedBy`). An operation answers by the secrets of owners alone, not by
how they are grouped (`SameHeld.perform_eq`). What it does to the secrets of an owner is
`Operation.effect`, on the store (`ownedBy_perform`) and on the secrets that are live (`live_snoc`);
so the two are the same after any row of operations (`ownedBy_after`).

**Apart** (`effect_of_other`). An operation has no effect on the secrets of anybody but its owner,
so operations on different owners can be done in either order.

Main statement: `after_isMultimap`.
-/

namespace TwoFactorLogin

namespace MemoryStore

/-! ## Operations -/

/-- What can be asked of a store in memory. -/
inductive Operation where
  | add (x : SecondFactorSecret)
  | remove (owner : String)
  | fetch (owner : String)
  | size
  deriving DecidableEq

/-- What an operation answers. -/
inductive Response where
  | added
  | removed (count : Nat)
  | found (outcome : Except Fault (Option SecondFactorSecret))
  | counted (count : Nat)

/-- The owner whose secrets an operation is about. -/
def Operation.owner? : Operation → Option String
  | add x => some x.owner
  | remove owner | fetch owner => some owner
  | size => none

/-- One operation: its answer, and the store afterwards. -/
def perform (s : MemoryStore) : Operation → Response × MemoryStore
  | .add x => (.added, s.add x)
  | .remove owner => (.removed (s.remove owner).1, (s.remove owner).2)
  | .fetch owner => (.found (s.fetch owner), s)
  | .size => (.counted s.size, s)

/-- What some operations answer, one after another. -/
def responses : MemoryStore → List Operation → List Response
  | _, [] => []
  | s, op :: ops => (s.perform op).1 :: (s.perform op).2.responses ops

/-- The store after some operations on an empty one. -/
def after (ops : List Operation) : MemoryStore := ops.foldl (fun s op => (s.perform op).2) {}

theorem after_snoc (ops : List Operation) (op : Operation) :
    after (ops ++ [op]) = ((after ops).perform op).2 := by
  simp [after]

/-! ## What is live -/

/-- The secret that an operation adds for an owner. -/
def Operation.adds? (owner : String) : Operation → Option SecondFactorSecret
  | add x => if x.owner = owner then some x else none
  | _ => none

/-- The secrets of an owner that were added since the owner's secrets were last removed. -/
def live (ops : List Operation) (owner : String) : List SecondFactorSecret :=
  (ops.rtakeWhile fun op => op ≠ .remove owner).filterMap (Operation.adds? owner)

/-- What an operation does to the secrets of an owner. -/
def Operation.effect (owner : String) (held : List SecondFactorSecret) :
    Operation → List SecondFactorSecret
  | add x => held ++ if owner = x.owner then [x] else []
  | remove removed => if owner = removed then [] else held
  | fetch _ | size => held

theorem effect_of_other {op : Operation} {owner : String} (h : op.owner? ≠ some owner)
    (held : List SecondFactorSecret) : op.effect owner held = held := by
  cases op with
  | add x =>
    have hne : owner ≠ x.owner := fun e => h (congrArg some e.symm)
    simp [Operation.effect, hne]
  | remove removed =>
    have hne : owner ≠ removed := fun e => h (congrArg some e.symm)
    simp [Operation.effect, hne]
  | fetch | size => rfl

theorem ownedBy_perform (s : MemoryStore) (op : Operation) (owner : String) :
    (s.perform op).2.ownedBy owner = op.effect owner (s.ownedBy owner) := by
  cases op with
  | add x => exact s.ownedBy_add x owner
  | remove removed => exact s.ownedBy_remove removed owner
  | fetch | size => rfl

theorem live_snoc (ops : List Operation) (op : Operation) (owner : String) :
    live (ops ++ [op]) owner = op.effect owner (live ops owner) := by
  by_cases h : op = .remove owner
  · subst h
    rw [live, List.rtakeWhile_concat_neg _ _ _ (by simp)]
    simp [Operation.effect]
  · rw [live, List.rtakeWhile_concat_pos _ _ _ (by simpa using h), List.filterMap_append, ← live]
    cases op with
    | add x =>
      by_cases hx : owner = x.owner
      · simp [Operation.effect, Operation.adds?, hx]
      · simp [Operation.effect, Operation.adds?, hx, Ne.symm hx]
    | remove removed =>
      have hne : owner ≠ removed := fun e => h (by rw [e])
      simp [Operation.effect, Operation.adds?, hne]
    | fetch | size => simp [Operation.effect, Operation.adds?]

/-- The store holds what is live. -/
theorem ownedBy_after (ops : List Operation) (owner : String) :
    (after ops).ownedBy owner = live ops owner := by
  induction ops using List.reverseRecOn with
  | nil => rfl
  | append_singleton ops op ih => rw [after_snoc, ownedBy_perform, ih, live_snoc]

/-- What is live of an owner depends on no operation about anybody else. -/
theorem live_filter (ops : List Operation) (owner : String) :
    live (ops.filter fun op => op.owner? = some owner) owner = live ops owner := by
  induction ops using List.reverseRecOn with
  | nil => rfl
  | append_singleton ops op ih =>
    rw [List.filter_append, live_snoc, ← ih]
    by_cases h : op.owner? = some owner
    · rw [List.filter_cons_of_pos (by simpa using h), List.filter_nil, live_snoc]
    · rw [List.filter_cons_of_neg (by simpa using h), List.filter_nil, List.append_nil,
        effect_of_other h]

/-! ## Answers -/

theorem fetch_eq (s : MemoryStore) (owner : String) :
    s.fetch owner = match s.ownedBy owner with
      | [] => .ok none
      | [x] => .ok (some x)
      | xs => .error (.store (.severalHeld xs.length owner)) := rfl

theorem lookup_eq_none {groups : List (String × List SecondFactorSecret)} {owner : String}
    (h : owner ∉ groups.map Prod.fst) : groups.lookup owner = none := by
  rw [List.lookup_eq_none_iff]
  intro group hgroup
  rw [bne_iff_ne]
  exact fun e => h (List.mem_map.2 ⟨group, hgroup, e.symm⟩)

/-- The size is the number of the secrets of all owners. -/
theorem size_eq_sum (s : MemoryStore) {owners : Finset String}
    (h : ∀ owner, s.ownedBy owner ≠ [] → owner ∈ owners) :
    s.size = ∑ owner ∈ owners, (s.ownedBy owner).length := by
  obtain ⟨groups, hdistinct⟩ := s
  simp only [size, ownedBy] at h ⊢
  induction groups with
  | nil => simp
  | cons group rest ih =>
    obtain ⟨other, held⟩ := group
    obtain ⟨hnew, hrest⟩ := List.nodup_cons.1 hdistinct
    -- The owner of the first group has no other group, so the groups can be counted apart.
    have hnone : rest.lookup other = none := lookup_eq_none hnew
    have hsplit (owner : String) :
        ((((other, held) :: rest).lookup owner).getD []).length =
          (if owner = other then held.length else 0) + ((rest.lookup owner).getD []).length := by
      by_cases ho : owner = other
      · simp [ho, hnone]
      · simp [ho, List.lookup_cons, beq_false_of_ne ho]
    have hothers : ∀ owner, (rest.lookup owner).getD [] ≠ [] → owner ∈ owners := by
      intro owner hne
      apply h
      intro hnil
      have hlength := hsplit owner
      rw [hnil, List.length_nil] at hlength
      exact hne (List.length_eq_zero_iff.1 (by omega))
    have hfirst : held.length = if other ∈ owners then held.length else 0 := by
      by_cases hin : other ∈ owners
      · simp [hin]
      · have hnil : held = [] := by
          by_contra hne
          exact hin (h other (by simpa using hne))
        simp [hnil]
    rw [List.flatMap_cons, List.length_append, ih hrest hothers]
    simp only [hsplit, Finset.sum_add_distrib, Finset.sum_ite_eq', ← hfirst]

/-- Two stores that hold the same secrets of every owner, however they group them. -/
def SameHeld (s s' : MemoryStore) : Prop := ∀ owner, s.ownedBy owner = s'.ownedBy owner

theorem SameHeld.size_eq {s s' : MemoryStore} (h : SameHeld s s') : s.size = s'.size := by
  have hcover : ∀ owner, s.ownedBy owner ≠ [] → owner ∈ (s.groups.map Prod.fst).toFinset := by
    intro owner hne
    rw [List.mem_toFinset]
    by_contra hout
    apply hne
    rw [ownedBy, lookup_eq_none hout]
    rfl
  rw [s.size_eq_sum hcover, s'.size_eq_sum fun owner hne => hcover owner (by rwa [h owner])]
  exact Finset.sum_congr rfl fun owner _ => by rw [h owner]

/-- An operation about an owner answers by the secrets of that owner. -/
theorem response_of_owner {s s' : MemoryStore} {op : Operation} {owner : String}
    (hop : op.owner? = some owner) (h : s.ownedBy owner = s'.ownedBy owner) :
    (s.perform op).1 = (s'.perform op).1 := by
  cases op with
  | add x => rfl
  | remove removed =>
    cases hop
    simp only [perform, remove, h]
  | fetch fetched =>
    cases hop
    simp only [perform, fetch, h]
  | size => cases hop

theorem SameHeld.perform_eq {s s' : MemoryStore} (h : SameHeld s s') (op : Operation) :
    (s.perform op).1 = (s'.perform op).1 := by
  cases hop : op.owner? with
  | some owner => exact response_of_owner hop (h owner)
  | none =>
    cases op with
    | size => simp only [perform, h.size_eq]
    | _ => cases hop

theorem SameHeld.perform {s s' : MemoryStore} (h : SameHeld s s') (op : Operation) :
    SameHeld (s.perform op).2 (s'.perform op).2 := fun owner => by
  rw [ownedBy_perform, ownedBy_perform, h owner]

/-- Stores that hold the same answer the same from then on. -/
theorem SameHeld.responses_eq {s s' : MemoryStore} (h : SameHeld s s') (ops : List Operation) :
    s.responses ops = s'.responses ops := by
  induction ops generalizing s s' with
  | nil => rfl
  | cons op ops ih => rw [responses, responses, h.perform_eq, ih (h.perform op)]

/-- Operations about different owners. -/
def Operation.Apart (op op' : Operation) : Prop :=
  ∃ owner owner', op.owner? = some owner ∧ op'.owner? = some owner' ∧ owner ≠ owner'

theorem Operation.Apart.symm {op op' : Operation} (h : op.Apart op') : op'.Apart op := by
  obtain ⟨owner, owner', ho, ho', hne⟩ := h
  exact ⟨owner', owner, ho', ho, hne.symm⟩

/-- An operation about one owner answers the same after one about another. -/
theorem response_of_apart (s : MemoryStore) {op op' : Operation} (h : op.Apart op') :
    ((s.perform op).2.perform op').1 = (s.perform op').1 := by
  obtain ⟨owner, owner', ho, ho', hne⟩ := h
  apply response_of_owner ho'
  rw [ownedBy_perform]
  apply effect_of_other
  rw [ho]
  exact fun e => hne (Option.some.inj e)

/-- After two operations about different owners, a store holds the same in whichever order they were
done. -/
theorem sameHeld_of_apart (s : MemoryStore) {op op' : Operation} (h : op.Apart op') :
    SameHeld ((s.perform op).2.perform op').2 ((s.perform op').2.perform op).2 := by
  intro owner
  simp only [ownedBy_perform]
  obtain ⟨first, second, ho, ho', hne⟩ := h
  by_cases hfirst : owner = first
  · have hother : op'.owner? ≠ some owner := by
      rw [ho', hfirst]
      exact fun e => hne (Option.some.inj e).symm
    rw [effect_of_other hother, effect_of_other hother]
  · have hother : op.owner? ≠ some owner := by
      rw [ho]
      exact fun e => hfirst (Option.some.inj e).symm
    rw [effect_of_other hother, effect_of_other hother]

/-! ## The multimap -/

/-- After some operations the store is a multimap of the secrets that are live then. -/
structure IsMultimap (ops : List Operation) : Prop where
  fetch_none {owner : String} (h : live ops owner = []) : (after ops).fetch owner = .ok none
  fetch_only {owner : String} {x : SecondFactorSecret} (h : live ops owner = [x]) :
    (after ops).fetch owner = .ok (some x)
  fetch_several {owner : String} (h : 2 ≤ (live ops owner).length) :
    ∃ fault, (after ops).fetch owner = .error fault ∧ fault.kind = .own .ambiguousSecret
  remove_count (owner : String) : ((after ops).remove owner).1 = (live ops owner).length
  fetch_removed (owner : String) : ((after ops).remove owner).2.fetch owner = .ok none
  /-- The owners are any that include all who have a live secret. -/
  size_eq {owners : Finset String} (h : ∀ owner, live ops owner ≠ [] → owner ∈ owners) :
    (after ops).size = ∑ owner ∈ owners, (live ops owner).length
  /-- Neither a look-up, whether it fails or not, nor counting changes the store. -/
  reads_keep {op : Operation} (h : (∃ owner, op = .fetch owner) ∨ op = .size) :
    after (ops ++ [op]) = after ops
  /-- The answer about an owner is what it would be if nothing had been done with the others. -/
  about_owner {op : Operation} {owner : String} (h : op.owner? = some owner) :
    ((after ops).perform op).1 =
      ((after (ops.filter fun past => past.owner? = some owner)).perform op).1
  /-- Operations about different owners answer the same in either order, and so does everything that
  is done after them. -/
  commute {op op' : Operation} (h : op.Apart op') (rest : List Operation) :
    ∃ r r' later, (after ops).responses (op :: op' :: rest) = r :: r' :: later ∧
      (after ops).responses (op' :: op :: rest) = r' :: r :: later

/-- The store is a multimap after any row of operations. -/
theorem after_isMultimap (ops : List Operation) : IsMultimap ops where
  fetch_none h := by rw [fetch_eq, ownedBy_after, h]
  fetch_only h := by rw [fetch_eq, ownedBy_after, h]
  fetch_several {owner} h := by
    rw [fetch_eq, ownedBy_after]
    match live ops owner, h with
    | _ :: _ :: _, _ => exact ⟨_, rfl, rfl⟩
  remove_count owner := by rw [remove, ownedBy_after]
  fetch_removed owner := by rw [fetch_eq, ownedBy_remove, if_pos rfl]
  size_eq h := by
    simp only [← ownedBy_after] at h ⊢
    exact size_eq_sum _ h
  reads_keep h := by
    rw [after_snoc]
    obtain ⟨owner, rfl⟩ | rfl := h
    · rfl
    · rfl
  about_owner h := by
    apply response_of_owner h
    rw [ownedBy_after, ownedBy_after, live_filter]
  commute {op op'} h rest := by
    refine ⟨_, _, _, rfl, ?_⟩
    simp only [responses, response_of_apart _ h, response_of_apart _ h.symm,
      (sameHeld_of_apart _ h).responses_eq rest]

end MemoryStore

end TwoFactorLogin
