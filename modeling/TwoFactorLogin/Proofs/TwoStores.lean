import TwoFactorLogin.Proofs.CheckingAlike
import TwoFactorLogin.Rehearsal.Step

/-!
# Secrets in memory and in a table

The store in memory groups secrets by their owners; the table has its rows in one row and looks at
no more than two of them. After the same secrets were added to both, they answer alike: none, the
same secret, or a fault because there are several. So does a check of the second factor that asks
one or the other.

**The relation** (`Simulates`). For each owner the rows of the table are the owner's secrets in
memory, in the same order. Adding a secret keeps it (`Simulates.add`), so it holds after any number
of them (`addAll_simulates`).

**The limit** (`SecretTable.MayFind`). Which two of several rows a database picks is left to it; a
look-up comes to the same whichever it picks (`Simulates.sameFind`).

**Time** (`SecretStore.taking`). Of the two stores only the table looks at the deadline. If it finds
the deadline expired, the check of the second factor finds so too as soon as it has its answer.

Main statement: `enrolled_answerAlike`.
-/

namespace TwoFactorLogin

/-! ## What a check finds -/

/-- A store that is reached after some time, and whose answer takes some time to come back. -/
def SecretStore.taking (store : SecretStore) (there back : Clocks → Clocks) : SecretStore :=
  fun clocks username deadline =>
    let reply := store (there clocks) username deadline
    { reply with clocks := back reply.clocks }

namespace SecondFactorValidator

/-- A check of the second factor comes to the same with two stores that answer at the same time,
without an interruption, and, if they are asked and answer before the deadline, find the same. -/
theorem verify_of_found {store store' : SecretStore} (config : SecondFactorConfig)
    {username : String} (submitted : Option String) (time : Option Number)
    {deadline : Option Deadline} {w : World}
    (hclocks : (store w.clocks username deadline).clocks =
      (store' w.clocks username deadline).clocks)
    {found found' : Option SecondFactorSecret}
    (hf : (store w.clocks username deadline).found = .ok found)
    (hf' : (store' w.clocks username deadline).found = .ok found')
    (hfound : deadlineExpired deadline w.clocks.steady = .ok false →
      deadlineExpired deadline (store w.clocks username deadline).clocks.steady = .ok false →
      found = found') :
    (verify ⟨store, config⟩ username submitted time deadline w).1 =
        (verify ⟨store', config⟩ username submitted time deadline w).1 ∧
      (verify ⟨store, config⟩ username submitted time deadline w).2.clocks =
        (verify ⟨store', config⟩ username submitted time deadline w).2.clocks := by
  rw [verify_paths, verify_paths]
  simp only [World.clocks_consulted, ← hclocks, hf, hf']
  rcases hopen : deadlineExpired deadline w.clocks.steady with fault | _ | _
  · exact ⟨rfl, rfl⟩
  · rcases hlate : deadlineExpired deadline (store w.clocks username deadline).clocks.steady with
      fault | _ | _
    · exact ⟨rfl, hclocks⟩
    · -- Only from here on it matters what was found.
      obtain rfl := hfound hopen hlate
      cases found with
      | none => exact ⟨rfl, hclocks⟩
      | some secret =>
        have halike : Run.Alike (SameVerdict Eq) (w.consulted store username deadline)
            (w.consulted store' username deadline) _ _ :=
          checkSecret_alike_rfl store store' config username secret submitted time hclocks
        exact ⟨(halike.outcome.mono fun _ _ h => h.eq).eq, halike.clocks⟩
    · exact ⟨rfl, hclocks⟩
  · exact ⟨rfl, rfl⟩

end SecondFactorValidator

/-! ## The same secrets in both -/

/-- A secret that is to be stored. -/
structure Enrolment where
  owner : String
  secret : String
  enabled : Bool
  owner_ne : owner ≠ ""
  secret_ne : secret ≠ ""

/-- What is given to a store in order to add the secret. -/
def Enrolment.values (e : Enrolment) : Value × Value × Value :=
  (.string e.owner, .string e.secret, .bool e.enabled)

/-- The secret as it is kept in memory. -/
def Enrolment.held (e : Enrolment) : SecondFactorSecret := ⟨e.owner, e.secret, .bool e.enabled⟩

/-- The secret as it is kept in a table. -/
def Enrolment.row (e : Enrolment) : SecretRow := ⟨e.owner, some e.secret, e.enabled⟩

/-- Some rows of a table are those of the secrets in memory: for each owner they are the owner's
secrets, in the same order. -/
def Simulates (m : MemoryStore) (rows : List SecretRow) : Prop :=
  ∃ es : List Enrolment, rows = es.map Enrolment.row ∧
    ∀ owner, m.ownedBy owner = (es.filter fun e => e.owner = owner).map Enrolment.held

theorem simulates_empty : Simulates {} [] := ⟨[], rfl, fun _ => rfl⟩

theorem Simulates.add {m : MemoryStore} {rows : List SecretRow} (h : Simulates m rows)
    (e : Enrolment) : Simulates (m.add e.held) (rows ++ [e.row]) := by
  obtain ⟨es, rfl, howned⟩ := h
  refine ⟨es ++ [e], by simp, fun owner => ?_⟩
  rw [m.ownedBy_add, howned, List.filter_append, List.map_append]
  by_cases h : owner = e.owner
  · simp [h, Enrolment.held]
  · simp [h, Enrolment.held, Ne.symm h]

namespace HeldStore

theorem add_memory (m : MemoryStore) (e : Enrolment) :
    (memory m).add e.values.1 e.values.2.1 e.values.2.2 = .ok (memory (m.add e.held)) := by
  simp [add, Enrolment.values, SecondFactorSecret.ofValues, SecondFactorSecret.ofText, e.owner_ne,
    Except.map, Enrolment.held]

theorem add_table (rows : List SecretRow) (e : Enrolment) :
    (table ⟨some rows⟩).add e.values.1 e.values.2.1 e.values.2.2 =
      .ok (table ⟨some (rows ++ [e.row])⟩) := by
  simp [add, SecretTable.add, Enrolment.values, Except.map, Enrolment.row, bind, Except.bind, pure,
    Except.pure]

/-- Both stores take every secret that is added, and hold the same afterwards. -/
theorem addAll_simulates {m : MemoryStore} {rows : List SecretRow} (h : Simulates m rows)
    (es : List Enrolment) :
    ∃ m' rows', (memory m).addAll (es.map Enrolment.values) = .ok (memory m') ∧
      (table ⟨some rows⟩).addAll (es.map Enrolment.values) = .ok (table ⟨some rows'⟩) ∧
      Simulates m' rows' := by
  induction es generalizing m rows with
  | nil => exact ⟨m, rows, rfl, rfl, h⟩
  | cons e es ih =>
    obtain ⟨m', rows', hm, ht, h'⟩ := ih (h.add e)
    refine ⟨m', rows', ?_, ?_, h'⟩
    · simp only [List.map_cons, addAll, add_memory]
      exact hm
    · simp only [List.map_cons, addAll, add_table]
      exact ht

end HeldStore

/-! ## The same answers from both -/

/-- The rows that a database may find for a username: some of those with that username, two if there
are as many. -/
structure SecretTable.MayFind (rows : List SecretRow) (username : String) (found : List SecretRow) :
    Prop where
  subset : ∀ r ∈ found, r ∈ rows ∧ r.username = username
  length_eq : found.length = min 2 (rows.filter fun r => r.username = username).length

/-- Two look-ups that come to the same: to no secret, to the same one, or to a fault because there
are several. -/
inductive SameFind : Except Fault (Option SecondFactorSecret) →
    Except Fault (Option SecondFactorSecret) → Prop where
  | none : SameFind (.ok none) (.ok none)
  | secret (s : SecondFactorSecret) : SameFind (.ok (some s)) (.ok (some s))
  | several {fault fault' : Fault} (h : fault.kind = .own .ambiguousSecret)
      (h' : fault'.kind = .own .ambiguousSecret) : SameFind (.error fault) (.error fault')

theorem SecretTable.outcomeOf_row (e : Enrolment) :
    (outcomeOf (.string e.owner) [e.row]).1 = .ok (some e.held) := by
  have hfull : (some e.secret).filter (fun s => !s.isEmpty) = some e.secret := by
    simp [e.secret_ne]
  simp [outcomeOf, secretOf, Enrolment.row, hfull, SecondFactorSecret.ofValues,
    SecondFactorSecret.ofText, e.owner_ne, Except.map, Enrolment.held]

/-- A look-up in memory comes to the same as one in the table, whichever rows the database picks. -/
theorem Simulates.sameFind {m : MemoryStore} {rows found : List SecretRow} (h : Simulates m rows)
    {owner : String} (hfound : SecretTable.MayFind rows owner found) :
    SameFind (m.fetch owner) (SecretTable.outcomeOf (.string owner) found).1 := by
  obtain ⟨es, rfl, howned⟩ := h
  have hrows : (es.map Enrolment.row).filter (fun r => r.username = owner) =
      (es.filter fun e => e.owner = owner).map Enrolment.row := by
    rw [List.filter_map]
    rfl
  have hmem : ∀ r ∈ found, r ∈ (es.filter fun e => e.owner = owner).map Enrolment.row := by
    intro r hr
    rw [← hrows, List.mem_filter]
    exact ⟨(hfound.subset r hr).1, by simpa using (hfound.subset r hr).2⟩
  have hlen := hfound.length_eq
  rw [hrows, List.length_map] at hlen
  rw [MemoryStore.fetch, howned]
  have howner : ∀ e ∈ es.filter (fun e => e.owner = owner), e.owner = owner := fun e he => by
    simpa using (List.mem_filter.1 he).2
  generalize es.filter (fun e => e.owner = owner) = mine at hmem hlen howner ⊢
  match mine, found, hlen with
  | [], [], _ => exact .none
  | [e], [r], _ =>
    obtain rfl : r = e.row := by simpa using hmem
    obtain rfl := howner e (by simp)
    rw [SecretTable.outcomeOf_row]
    exact .secret e.held
  | _ :: _ :: _, [_, _], _ => exact .several rfl rfl

/-- A rule for look-ups that a database with some rows may follow: a look-up is not interrupted, and
within its deadline it goes by rows that the database may find. -/
structure SecretTable.Serves (rows : List SecretRow) (store : SecretStore) : Prop where
  clocks_eq (clocks : Clocks) (username : String) (deadline : Option Deadline) :
    (store clocks username deadline).clocks = clocks
  uninterrupted {clocks : Clocks} {username : String} {deadline : Option Deadline} {fault : Fault}
    (h : (store clocks username deadline).outcome = .error fault) :
    fault.kind.isInterruption = false
  finds {clocks : Clocks} {deadline : Option Deadline}
    (h : deadlineExpired deadline clocks.steady = .ok false) (username : String) :
    ∃ found, MayFind rows username found ∧
      (store clocks username deadline).outcome = (outcomeOf (.string username) found).1

theorem isInterruption_of_unreckoned {deadline : Option Deadline} {now : Number} {fault : Fault}
    (h : deadlineExpired deadline now = .error fault) : fault.kind.isInterruption = false := by
  cases deadline with
  | none => cases h
  | some d =>
    simp only [deadlineExpired, Deadline.expired, Deadline.remaining] at h
    cases hs : d.expiresAt.sub? now with
    | none =>
      obtain rfl : Fault.value .integerTooLarge = fault := by
        simpa [hs, Fault.orTooLarge, Except.map] using h
      rfl
    | some left => simp [hs, Except.map] at h

theorem SecretTable.outcomeOf_uninterrupted {username : String} {rows : List SecretRow}
    {fault : Fault} (h : (outcomeOf (.string username) rows).1 = .error fault) :
    fault.kind.isInterruption = false := by
  match rows with
  | [] => cases h
  | [row] =>
    simp only [outcomeOf, secretOf] at h
    split at h
    · cases h
    · simp only [SecondFactorSecret.ofValues, SecondFactorSecret.ofText] at h
      split at h
      · cases h
        rfl
      · cases h
  | _ :: _ :: _ =>
    cases h
    rfl

/-- The table itself follows such a rule: it goes by the first two rows. -/
theorem SecretTable.serves (rows : List SecretRow) : Serves rows (toStore ⟨some rows⟩) where
  clocks_eq _ _ _ := rfl
  uninterrupted {clocks username deadline fault} h := by
    simp only [toStore, fetch, select, Column.text_string, bind, Except.bind, pure, Except.pure] at h
    rcases hd : deadlineExpired deadline clocks.steady with fault' | _ | _
    · rw [hd] at h
      cases h
      exact isInterruption_of_unreckoned hd
    · rw [hd] at h
      exact outcomeOf_uninterrupted h
    · rw [hd] at h
      cases h
      rfl
  finds {clocks deadline} h username := by
    refine ⟨(rows.filter fun r => r.username = username).take 2, ⟨fun r hr => ?_, ?_⟩, ?_⟩
    · simpa using List.mem_filter.1 (List.mem_of_mem_take hr)
    · exact List.length_take
    · simp [toStore, fetch, h, select, bind, Except.bind, pure, Except.pure]

theorem SameFind.found_eq {r r' : StoreReply} (h : SameFind r.outcome r'.outcome) :
    r.found = r'.found := by
  unfold StoreReply.found
  generalize r.outcome = found, r'.outcome = found' at h
  cases h with
  | none | secret => rfl
  | several hk hk' => simp [hk, hk', FaultKind.isInterruption]

theorem MemoryStore.fetch_uninterrupted (m : MemoryStore) {owner : String} {fault : Fault}
    (h : m.fetch owner = .error fault) : fault.kind.isInterruption = false := by
  unfold fetch at h
  split at h
  · cases h
  · cases h
  · cases h
    rfl

/-- A store in memory and rows of a table that answer alike, whichever rows the database picks: a
look-up within its deadline comes to the same, and so does a check of the second factor. -/
structure AnswerAlike (m : MemoryStore) (rows : List SecretRow) : Prop where
  fetches {store : SecretStore} (hstore : SecretTable.Serves rows store) {clocks : Clocks}
    {deadline : Option Deadline} (h : deadlineExpired deadline clocks.steady = .ok false)
    (username : String) :
    SameFind (m.toStore clocks username deadline).outcome (store clocks username deadline).outcome
  /-- The look-up may take any time: it reaches the store before the deadline if it begins and ends
  before it. -/
  verifies {store : SecretStore} (hstore : SecretTable.Serves rows store)
    (config : SecondFactorConfig) (username : String) (submitted : Option String)
    (time : Option Number) (deadline : Option Deadline) (there back : Clocks → Clocks) (w : World)
    (h : deadlineExpired deadline w.clocks.steady = .ok false →
      deadlineExpired deadline (back (there w.clocks)).steady = .ok false →
      deadlineExpired deadline (there w.clocks).steady = .ok false) :
    let inMemory := SecondFactorValidator.verify ⟨m.toStore.taking there back, config⟩ username
      submitted time deadline w
    let inTable := SecondFactorValidator.verify ⟨store.taking there back, config⟩ username
      submitted time deadline w
    inMemory.1 = inTable.1 ∧ inMemory.2.clocks = inTable.2.clocks

theorem Simulates.answerAlike {m : MemoryStore} {rows : List SecretRow} (h : Simulates m rows) :
    AnswerAlike m rows := by
  have hfetch : ∀ {store : SecretStore}, SecretTable.Serves rows store → ∀ {clocks deadline},
      deadlineExpired deadline clocks.steady = .ok false → ∀ username,
      SameFind (m.toStore clocks username deadline).outcome
        (store clocks username deadline).outcome := by
    intro store hstore clocks deadline hopen username
    obtain ⟨found, hfound, houtcome⟩ := hstore.finds hopen username
    rw [houtcome]
    exact h.sameFind hfound
  refine ⟨hfetch, ?_⟩
  intro store hstore config username submitted time deadline there back w hback
  have hclocks := hstore.clocks_eq (there w.clocks) username deadline
  obtain ⟨found, hf⟩ := StoreReply.exists_found
    (r := m.toStore.taking there back w.clocks username deadline) m.fetch_uninterrupted
  obtain ⟨found', hf'⟩ := StoreReply.exists_found
    (r := store.taking there back w.clocks username deadline) hstore.uninterrupted
  refine SecondFactorValidator.verify_of_found config submitted time ?_ hf hf' fun hopen hlate => ?_
  · simp only [SecretStore.taking, hclocks]
    rfl
  · have hsame : SameFind (m.toStore.taking there back w.clocks username deadline).outcome
        (store.taking there back w.clocks username deadline).outcome :=
      hfetch hstore (hback hopen hlate) username
    exact Except.ok.inj (hf.symm.trans (hsame.found_eq.trans hf'))

/-- Whichever secrets are added to an empty store in memory and to a table that was just created,
both take them all and then answer alike. -/
theorem enrolled_answerAlike (es : List Enrolment) :
    ∃ m rows, (HeldStore.memory {}).addAll (es.map Enrolment.values) = .ok (.memory m) ∧
      (HeldStore.table SecretTable.missing.createSchema).addAll (es.map Enrolment.values) =
        .ok (.table ⟨some rows⟩) ∧
      SecretTable.Serves rows (SecretTable.toStore ⟨some rows⟩) ∧ AnswerAlike m rows := by
  obtain ⟨m, rows, hm, ht, h⟩ := HeldStore.addAll_simulates simulates_empty es
  exact ⟨m, rows, hm, ht, SecretTable.serves rows, h.answerAlike⟩

end TwoFactorLogin
