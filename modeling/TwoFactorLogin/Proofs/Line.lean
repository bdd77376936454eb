import TwoFactorLogin.Proofs.Connecting

/-!
# One connection at a time

A connector that keeps to the line has at most one connection. It opens a connection only when it
has none, sends whatever it sends on the connection it has, and gives the connection up by unbinding
it. `Line.Step` says this of one exchange, and `Line.Row` of a row of them.

* `openConnections`: the connections that are open after some exchanges.
* `Row.openConnections_eq`: along a row, that is the connection the line holds.
* `Row.silent`: nothing is sent on a connection after it was unbound.
* `Row.balance`: every opening is matched by an unbinding, or the connection is still held.

New connections have numbers that were not used before, so a connection that was given up cannot
come back. `Line.Sound` is the invariant behind that: the connection that is held was opened before.

An unbinding that is interrupted gives the connection up as well, but its session does not know, and
may have it unbound once more. `Course` is a row with that afterthought.
-/

namespace TwoFactorLogin

/-! ## Open connections -/

namespace Exchange

/-- Whether the exchange opened a connection. -/
def opens (e : Exchange) : Bool := e.request.isConnect && e.reply.outcome.isOk

/-- Whether the exchange unbound a connection. -/
def unbinds (e : Exchange) : Bool := e.request = .unbind

/-- The connections that are open after an exchange, given those that were open before it. -/
def settle (held : List Nat) (e : Exchange) : List Nat :=
  if e.opens then held ++ [e.connection]
  else if e.unbinds then held.filter (· ≠ e.connection)
  else held

end Exchange

/-- The connections that are open after some exchanges: each counts from the exchange that opened it
until it is unbound. -/
def openConnections (es : List Exchange) : List Nat := es.foldl Exchange.settle []

/-- How often a connection was opened. -/
def openings (n : Nat) (es : List Exchange) : Nat :=
  es.countP fun e => e.opens && e.connection == n

/-- How often a connection was unbound. -/
def unbindings (n : Nat) (es : List Exchange) : Nat :=
  es.countP fun e => e.unbinds && e.connection == n

/-- The number of the connection that is opened next, and the connection that is held. -/
structure Line where
  next : Nat
  held : Option Nat

namespace Line

variable {c : Connector} {deadline : Option Deadline} {l l' l'' : Line} {e : Exchange}
  {es es' : List Exchange} {n : Nat}

/-- The connection that is held was opened before. -/
def Sound (l : Line) : Prop := ∀ n, l.held = some n → n < l.next

/-- What one exchange may do to the line. -/
inductive Step (c : Connector) (deadline : Option Deadline) : Line → Exchange → Line → Prop
  | opened {n : Nat} {e : Exchange} {p : Endpoint} {b : Bool} :
      e.connection = n → e.request = .connect p → c.Asks deadline e.sentAt.steady p →
      e.reply.outcome = .ok b → Step c deadline ⟨n, none⟩ e ⟨n + 1, some n⟩
  | unopened {n : Nat} {e : Exchange} {p : Endpoint} {fault : Fault} :
      e.connection = n → e.request = .connect p → c.Asks deadline e.sentAt.steady p →
      e.reply.outcome = .error fault → Step c deadline ⟨n, none⟩ e ⟨n + 1, none⟩
  | used {n m : Nat} {e : Exchange} :
      e.connection = m → e.request.isConnect = false → e.request ≠ .unbind →
      Step c deadline ⟨n, some m⟩ e ⟨n, some m⟩
  | unbound {n m : Nat} {e : Exchange} :
      e.connection = m → e.request = .unbind → Step c deadline ⟨n, some m⟩ e ⟨n, none⟩

/-- What a row of exchanges may do to the line. -/
inductive Row (c : Connector) (deadline : Option Deadline) : Line → List Exchange → Line → Prop
  | nil (l : Line) : Row c deadline l [] l
  | cons {l l' l'' : Line} {e : Exchange} {es : List Exchange} :
      Step c deadline l e l' → Row c deadline l' es l'' → Row c deadline l (e :: es) l''

/-- What may be sent from a moment at which no connection is held: a row of exchanges, after which
a connection may be unbound again whose unbinding, the last of the row, was interrupted. -/
inductive Course (c : Connector) (deadline : Option Deadline) (n : Nat) :
    List Exchange → Line → Prop
  | kept {es : List Exchange} {l : Line} : Row c deadline ⟨n, none⟩ es l → Course c deadline n es l
  | repeated {es : List Exchange} {q q' : Exchange} {m : Nat} {fault : Fault} :
      Row c deadline ⟨n, none⟩ (es ++ [q]) ⟨m, none⟩ → q.Interrupts fault →
      q'.connection = q.connection → q'.request = .unbind →
      Course c deadline n (es ++ [q] ++ [q']) ⟨m, none⟩

/-! ## One exchange -/

theorem Step.sound (h : Step c deadline l e l') (hl : l.Sound) : l'.Sound := by
  intro m hm
  cases h with
  | opened _ _ _ _ =>
    cases hm
    exact Nat.lt_succ_self _
  | unopened _ _ _ _ => cases hm
  | used _ _ _ => exact hl m hm
  | unbound _ _ => cases hm

theorem Step.next_le (h : Step c deadline l e l') : l.next ≤ l'.next := by
  cases h with
  | opened _ _ _ _ => exact Nat.le_succ _
  | unopened _ _ _ _ => exact Nat.le_succ _
  | used _ _ _ => exact Nat.le_refl _
  | unbound _ _ => exact Nat.le_refl _

/-- A step opens a connection exactly if the line holds one after it that it did not hold before. -/
theorem Step.opens_eq (h : Step c deadline l e l') :
    e.opens = (l.held.isNone && l'.held.isSome) := by
  cases h with
  | opened _ hr _ ho => simp [Exchange.opens, hr, ho, Request.isConnect, Except.isOk, Except.toBool]
  | unopened _ hr _ ho => simp [Exchange.opens, ho, Except.isOk, Except.toBool]
  | used _ hr _ => simp [Exchange.opens, hr]
  | unbound _ hr => simp [Exchange.opens, hr, Request.isConnect]

theorem Step.unbinds_eq (h : Step c deadline l e l') :
    e.unbinds = (l.held.isSome && l'.held.isNone) := by
  cases h with
  | opened _ hr _ _ => simp [Exchange.unbinds, hr]
  | unopened _ hr _ _ => simp [Exchange.unbinds, hr]
  | used _ _ hr => simp [Exchange.unbinds, hr]
  | unbound _ hr => simp [Exchange.unbinds, hr]

theorem Step.connection (h : Step c deadline l e l') :
    l.held = some e.connection ∨ l.held = none ∧ e.connection = l.next ∧ l'.next = l.next + 1 := by
  cases h with
  | opened hn _ _ _ => exact .inr ⟨rfl, hn, rfl⟩
  | unopened hn _ _ _ => exact .inr ⟨rfl, hn, rfl⟩
  | used hn _ _ => exact .inl (by rw [hn])
  | unbound hn _ => exact .inl (by rw [hn])

theorem Step.held_eq (h : Step c deadline l e l') (hn : l'.held = some n) :
    l.held = some n ∨ n = l.next := by
  cases h with
  | opened _ _ _ _ => exact .inr (Option.some.inj hn).symm
  | unopened _ _ _ _ => cases hn
  | used _ _ _ => exact .inl hn
  | unbound _ _ => cases hn

theorem Step.held_of_opens (h : Step c deadline l e l') (ho : e.opens = true) :
    l'.held = some e.connection := by
  have hopens := h.opens_eq
  cases h with
  | opened hn _ _ _ => rw [hn]
  | unopened _ _ _ _ => simp [ho] at hopens
  | used _ _ _ => simp [ho] at hopens
  | unbound _ _ => simp [ho] at hopens

theorem Step.settle_eq (h : Step c deadline l e l') :
    e.settle l.held.toList = l'.held.toList := by
  have ho := h.opens_eq
  have hu := h.unbinds_eq
  cases h with
  | opened hn _ _ _ => simp_all [Exchange.settle]
  | unopened _ _ _ _ => simp_all [Exchange.settle]
  | used _ _ _ => simp_all [Exchange.settle]
  | unbound hn _ => simp_all [Exchange.settle]

/-! ## Rows -/

theorem Row.append (h : Row c deadline l es l') (h' : Row c deadline l' es' l'') :
    Row c deadline l (es ++ es') l'' := by
  induction h with
  | nil => exact h'
  | cons hs _ ih => exact .cons hs (ih h')

theorem Row.snoc (h : Row c deadline l es l') (hs : Step c deadline l' e l'') :
    Row c deadline l (es ++ [e]) l'' := h.append (.cons hs (.nil _))

theorem Row.split (h : Row c deadline l (es ++ es') l'') :
    ∃ l', Row c deadline l es l' ∧ Row c deadline l' es' l'' := by
  induction es generalizing l with
  | nil => exact ⟨l, .nil l, h⟩
  | cons e es ih =>
    cases h with
    | cons hs hr =>
      obtain ⟨l', hes, hes'⟩ := ih hr
      exact ⟨l', .cons hs hes, hes'⟩

theorem Row.sound (h : Row c deadline l es l') (hl : l.Sound) : l'.Sound := by
  induction h with
  | nil => exact hl
  | cons hs _ ih => exact ih (hs.sound hl)

theorem Row.openConnections_eq (h : Row c deadline l es l') :
    es.foldl Exchange.settle l.held.toList = l'.held.toList := by
  induction h with
  | nil => rfl
  | cons hs _ ih => rw [List.foldl_cons, hs.settle_eq, ih]

/-- Every exchange of a row is on the connection that was held at its beginning, or on one that was
opened in it. -/
theorem Row.connection (h : Row c deadline l es l') (he : e ∈ es) :
    l.held = some e.connection ∨ l.next ≤ e.connection := by
  induction h with
  | nil => cases he
  | cons hs _ ih =>
    have hle := hs.next_le
    rcases List.mem_cons.1 he with rfl | he
    · rcases hs.connection with hx | ⟨-, hx, -⟩
      · exact .inl hx
      · exact .inr (Nat.le_of_eq hx.symm)
    · rcases ih he with hheld | hlater
      · rcases hs.held_eq hheld with hx | hx
        · exact .inl hx
        · exact .inr (Nat.le_of_eq hx.symm)
      · exact .inr (Nat.le_trans hle hlater)

theorem Row.silent (h : Row c deadline l (es ++ e :: es') l'') (hl : l.Sound)
    (hu : e.request = .unbind) : ∀ x ∈ es', x.connection ≠ e.connection := by
  intro x hx heq
  obtain ⟨m, hes, hrest⟩ := h.split
  have hm := hes.sound hl
  cases hrest with
  | cons hs hes' =>
    cases hs with
    | opened _ hr _ _ => simp [hr] at hu
    | unopened _ hr _ _ => simp [hr] at hu
    | used _ _ hr => exact hr hu
    | @unbound n k _ hk _ =>
      have hlt : k < n := hm k rfl
      rcases hes'.connection hx with hheld | hlater
      · cases hheld
      · have hn : n ≤ x.connection := hlater
        omega

/-- A connection that was opened before a row begins is not opened in it, and no connection is
opened twice. -/
theorem Row.openings_le (h : Row c deadline l es l') (n : Nat) :
    (n < l.next → openings n es = 0) ∧ openings n es ≤ 1 := by
  induction h with
  | nil => exact ⟨fun _ => rfl, Nat.zero_le 1⟩
  | @cons l l' _ x xs hs _ ih =>
    have hle := hs.next_le
    by_cases hx : (x.opens && x.connection == n) = true
    · have hcount : openings n (x :: xs) = openings n xs + 1 := List.countP_cons_of_pos hx
      have hon : x.connection = n := by simpa using (Bool.and_eq_true_iff.1 hx).2
      have hopens := hs.opens_eq
      rw [(Bool.and_eq_true_iff.1 hx).1] at hopens
      rcases hs.connection with hheld | ⟨-, hnew, hnext⟩
      · rw [hheld] at hopens
        cases hopens
      · have hzero := ih.1 (by omega)
        exact ⟨fun hlt => by omega, by omega⟩
    · have hcount : openings n (x :: xs) = openings n xs := List.countP_cons_of_neg hx
      rw [hcount]
      exact ⟨fun hlt => ih.1 (by omega), ih.2⟩

theorem Row.balance (h : Row c deadline l es l') (n : Nat) :
    unbindings n es + (if l'.held = some n then 1 else 0) =
      (if l.held = some n then 1 else 0) + openings n es := by
  induction h with
  | nil => simp [unbindings, openings]
  | @cons l l' _ x xs hs _ ih =>
    have hunbound : unbindings n (x :: xs) =
        unbindings n xs + if x.unbinds && x.connection == n then 1 else 0 := List.countP_cons
    have hopened : openings n (x :: xs) =
        openings n xs + if x.opens && x.connection == n then 1 else 0 := List.countP_cons
    have ho := hs.opens_eq
    have hu := hs.unbinds_eq
    rw [hunbound, hopened, ho, hu]
    cases hs with
    | opened hn _ _ _ => simp_all; omega
    | unopened _ _ _ _ => simp_all
    | used _ _ _ => simp_all
    | unbound hn _ => simp_all; omega

/-- Connections are opened with what the deadline leaves at that moment. -/
theorem Row.asks (h : Row c deadline l es l') (he : e ∈ es) {p : Endpoint}
    (hp : e.request = .connect p) : c.Asks deadline e.sentAt.steady p := by
  induction h with
  | nil => cases he
  | cons hs _ ih =>
    rcases List.mem_cons.1 he with rfl | he
    · cases hs with
      | opened _ hr ha _ =>
        rw [hr] at hp
        cases hp
        exact ha
      | unopened _ hr ha _ =>
        rw [hr] at hp
        cases hp
        exact ha
      | used _ hr _ =>
        rw [hp] at hr
        cases hr
      | unbound _ hr =>
        rw [hr] at hp
        cases hp
    · exact ih he

/-! ## Courses -/

theorem Course.row (h : Course c deadline n es l) :
    ∃ es' again, es = es' ++ again ∧ Row c deadline ⟨n, none⟩ es' l ∧
      ∀ q ∈ again, q.request = .unbind := by
  cases h with
  | kept hr => exact ⟨es, [], by simp, hr, by simp⟩
  | @repeated _ q q' _ _ hr _ _ hq' => exact ⟨_, [q'], rfl, hr, by simpa using hq'⟩

theorem Course.asks (h : Course c deadline n es l) (he : e ∈ es) {p : Endpoint}
    (hp : e.request = .connect p) : c.Asks deadline e.sentAt.steady p := by
  obtain ⟨es', again, rfl, hr, hagain⟩ := h.row
  rcases List.mem_append.1 he with he | he
  · exact hr.asks he hp
  · rw [hagain e he] at hp
    cases hp

theorem Course.openConnections_eq (h : Course c deadline n es l) :
    openConnections es = l.held.toList := by
  cases h with
  | kept hr => exact hr.openConnections_eq
  | @repeated es q q' _ _ hr _ _ hq' =>
    have hopen : openConnections (es ++ [q]) = [] := hr.openConnections_eq
    have hsettle : q'.settle [] = [] := by
      simp [Exchange.settle, Exchange.opens, Exchange.unbinds, hq', Request.isConnect]
    rw [openConnections, List.foldl_append, ← openConnections, hopen]
    exact hsettle

end Line

end TwoFactorLogin
