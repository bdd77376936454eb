import TwoFactorLogin.Store.Basic

/-!
# Secrets in memory

A `MemoryStore` keeps secrets in groups, one for each owner. In a group they stand in the order in
which they were added, several of one owner included. A look-up fails if there are several.
-/

namespace TwoFactorLogin

/-- Secrets in groups by their owners, no two groups of one owner. -/
structure MemoryStore where
  groups : List (String × List SecondFactorSecret) := []
  distinct : (groups.map Prod.fst).Nodup := by simp
  deriving DecidableEq, Repr

namespace MemoryStore

/-- The groups with one more secret: it stands behind the others of its owner, or in a group of its
own behind the other groups. -/
def file (x : SecondFactorSecret) :
    List (String × List SecondFactorSecret) → List (String × List SecondFactorSecret)
  | [] => [(x.owner, [x])]
  | (owner, held) :: rest =>
    if owner = x.owner then (owner, held ++ [x]) :: rest else (owner, held) :: file x rest

theorem owners_file (x : SecondFactorSecret) (groups : List (String × List SecondFactorSecret)) :
    (file x groups).map Prod.fst =
      if x.owner ∈ groups.map Prod.fst then groups.map Prod.fst
      else groups.map Prod.fst ++ [x.owner] := by
  induction groups with
  | nil => simp [file]
  | cons group rest ih =>
    obtain ⟨owner, held⟩ := group
    by_cases h : owner = x.owner
    · simp [file, h]
    · have h' : ¬ x.owner = owner := fun e => h e.symm
      simp only [file, if_neg h, List.map_cons, List.mem_cons, h', false_or, ih]
      split <;> simp

/-- Filing a secret adds it to the secrets of its owner, and changes those of nobody else. -/
theorem lookup_file (x : SecondFactorSecret) (groups : List (String × List SecondFactorSecret))
    (owner : String) :
    ((file x groups).lookup owner).getD [] =
      (groups.lookup owner).getD [] ++ if owner = x.owner then [x] else [] := by
  induction groups with
  | nil =>
    by_cases h : owner = x.owner
    · simp [file, h]
    · simp [file, h, List.lookup_cons, beq_false_of_ne h]
  | cons group rest ih =>
    obtain ⟨other, held⟩ := group
    by_cases h : owner = other
    · subst h
      by_cases hx : owner = x.owner <;> simp [file, hx]
    · by_cases hx : other = x.owner
      · subst hx
        simp [file, h, List.lookup_cons, beq_false_of_ne h]
      · simpa [file, hx, List.lookup_cons, beq_false_of_ne h] using ih

/-- The secrets of an owner. -/
def ownedBy (s : MemoryStore) (owner : String) : List SecondFactorSecret :=
  (s.groups.lookup owner).getD []

/-- Adds a secret behind the others of its owner. -/
def add (s : MemoryStore) (x : SecondFactorSecret) : MemoryStore where
  groups := file x s.groups
  distinct := by
    rw [owners_file]
    split
    · exact s.distinct
    · rename_i hnew
      refine List.pairwise_append.2 ⟨s.distinct, by simp, fun a ha b hb => ?_⟩
      rw [List.mem_singleton.1 hb]
      exact fun h => hnew (h ▸ ha)

/-- Drops the secrets of an owner; how many there were, and the store without them. -/
def remove (s : MemoryStore) (owner : String) : Nat × MemoryStore :=
  ((s.ownedBy owner).length,
    { groups := s.groups.filter fun g => g.1 ≠ owner
      distinct := s.distinct.sublist (List.filter_sublist.map _) })

theorem ownedBy_add (s : MemoryStore) (x : SecondFactorSecret) (owner : String) :
    (s.add x).ownedBy owner = s.ownedBy owner ++ if owner = x.owner then [x] else [] :=
  lookup_file x s.groups owner

/-- Removing the secrets of an owner leaves those of everybody else. -/
theorem ownedBy_remove (s : MemoryStore) (removed owner : String) :
    (s.remove removed).2.ownedBy owner = if owner = removed then [] else s.ownedBy owner := by
  simp only [ownedBy, remove]
  generalize s.groups = groups
  induction groups with
  | nil => simp
  | cons group rest ih =>
    obtain ⟨other, held⟩ := group
    by_cases h : other = removed
    · subst h
      by_cases ho : owner = other
      · simpa [ho] using ih
      · simpa [ho, List.lookup_cons, beq_false_of_ne ho] using ih
    · by_cases ho : owner = other
      · simp [h, ho]
      · simpa [h, List.lookup_cons, beq_false_of_ne ho] using ih

/-- The only secret of an owner. -/
def fetch (s : MemoryStore) (owner : String) : Except Fault (Option SecondFactorSecret) :=
  match s.ownedBy owner with
  | [] => .ok none
  | [x] => .ok (some x)
  | xs => .error (.store (.severalHeld xs.length owner))

/-- The number of secrets. -/
def size (s : MemoryStore) : Nat := (s.groups.flatMap Prod.snd).length

/-- The store as a rule for look-ups, which take no time and log nothing. -/
def toStore (s : MemoryStore) : SecretStore := fun clocks username _ =>
  ⟨s.fetch username, [], clocks⟩

end MemoryStore

end TwoFactorLogin
