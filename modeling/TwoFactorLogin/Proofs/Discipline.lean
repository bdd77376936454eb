import TwoFactorLogin.Proofs.Releasing

/-!
# The discipline of connections

A login never has two connections, unbinds none twice, and sends nothing on one that it unbound.
`OneAtATime` says this of the exchanges of a run. It holds of every login that is not interrupted as
it unbinds, because a login keeps to the line (`Line.Row`) until it ends, whatever fails on the way.
An interrupted unbinding is not noted in the session, and the connection may be unbound a second
time before the interruption reaches the caller; `Disciplined` allows for that.

That nothing is left open is another matter: one kind of fault gets past the handler that would
unbind the connection, and only that one.

* `authenticate_oneAtATime`: the discipline of a login and of the visits that it is made of.
* `authenticate_unbinds_iff`: a login unbinds all it opened exactly if no upgrade escapes.
-/

namespace TwoFactorLogin

/-- No unbinding of the connection was interrupted. -/
def UnbindsFreely (n : Nat) (es : List Exchange) : Prop :=
  ∀ q ∈ es, q.connection = n → ∀ fault, ¬ q.Interrupts fault

/-- The exchanges keep to one connection at a time: no two are open at any moment, none is unbound
twice, and nothing is sent on one after it was unbound. -/
structure OneAtATime (es : List Exchange) : Prop where
  at_most_one : ∀ pre post, es = pre ++ post → (openConnections pre).length ≤ 1
  unbound_once : ∀ n, unbindings n es ≤ 1
  silent_after : ∀ pre q post, es = pre ++ q :: post → q.request = .unbind →
    ∀ e ∈ post, e.connection ≠ q.connection

/-- The exchanges keep to one connection at a time, as far as they are not interrupted. -/
structure Disciplined (es : List Exchange) : Prop where
  at_most_one : ∀ pre post, es = pre ++ post → (openConnections pre).length ≤ 1
  oneAtATime : (∀ n, UnbindsFreely n es) → OneAtATime es
  /-- What else may happen is that an unbinding is interrupted and made again, as the last
  exchange. -/
  unbound_again : ¬ OneAtATime es → ∃ before q q' fault, es = before ++ [q] ++ [q'] ∧
    OneAtATime (before ++ [q]) ∧ q.Interrupts fault ∧ q'.connection = q.connection ∧
      q'.request = .unbind

/-- Every connection that is opened in the exchanges is unbound later in them. -/
def UnbindsAll (es : List Exchange) : Prop :=
  ∀ pre o post, es = pre ++ o :: post → o.opens = true →
    ∃ q ∈ post, q.connection = o.connection ∧ q.request = .unbind

section Rows

variable {c : Connector} {deadline : Option Deadline} {es : List Exchange} {n : Nat} {l : Line}

theorem openings_pos_iff : 0 < openings n es ↔ ∃ o ∈ es, o.opens = true ∧ o.connection = n := by
  simp [openings, List.countP_pos_iff]

theorem unbindings_pos_iff :
    0 < unbindings n es ↔ ∃ q ∈ es, q.connection = n ∧ q.request = .unbind := by
  simp [unbindings, List.countP_pos_iff, Exchange.unbinds, and_comm]

theorem Line.Row.openings_eq (h : Line.Row c deadline ⟨n, none⟩ es l) (m : Nat) :
    openings m es = unbindings m es + if l.held = some m then 1 else 0 := by
  simpa using (h.balance m).symm

theorem last_or_before_last {α : Type} {pre post es : List α} {e q : α}
    (h : pre ++ e :: post = es ++ [q]) :
    (post = [] ∧ pre = es ∧ e = q) ∨ ∃ post', post = post' ++ [q] ∧ es = pre ++ e :: post' := by
  rcases List.eq_nil_or_concat post with rfl | ⟨post', q', rfl⟩
  · obtain ⟨hpre, heq⟩ := List.append_inj' h rfl
    exact .inl ⟨rfl, hpre, (List.cons.inj heq).1⟩
  · have hlast : (pre ++ e :: post') ++ [q'] = es ++ [q] := by simpa using h
    obtain ⟨hes, hq⟩ := List.append_inj' hlast rfl
    refine .inr ⟨post', ?_, hes.symm⟩
    rw [List.concat_eq_append, hq]

theorem unbindings_append (n : Nat) (es es' : List Exchange) :
    unbindings n (es ++ es') = unbindings n es + unbindings n es' := List.countP_append

theorem Line.Course.length_openConnections_le (h : Line.Course c deadline n es l) :
    (openConnections es).length ≤ 1 := by
  rw [h.openConnections_eq]
  cases l.held <;> simp

theorem Line.Row.oneAtATime (h : Line.Row c deadline ⟨n, none⟩ es l) : OneAtATime es where
  at_most_one pre post hes := by
    obtain ⟨l', hpre, -⟩ := (hes ▸ h).split
    exact (Line.Course.kept hpre).length_openConnections_le
  unbound_once m := by
    have hopened := h.openings_eq m
    have hle := (h.openings_le m).2
    omega
  silent_after pre q post hes hq := by
    have hsound : Line.Sound ⟨n, none⟩ := fun m hm => by cases hm
    exact (hes ▸ h).silent hsound hq

theorem OneAtATime.disciplined (h : OneAtATime es) : Disciplined es where
  at_most_one := h.at_most_one
  oneAtATime _ := h
  unbound_again hnot := (hnot h).elim

theorem Line.Course.disciplined (h : Line.Course c deadline n es l) : Disciplined es := by
  have hlast := h.length_openConnections_le
  cases h with
  | kept hr => exact hr.oneAtATime.disciplined
  | @repeated es q q' m fault hr hq hn hq' =>
    refine ⟨fun pre post hes => ?_, fun hfree => ?_, fun _ => ?_⟩
    · cases post with
      | nil => rwa [hes, List.append_nil] at hlast
      | cons x post =>
        rcases last_or_before_last hes.symm with ⟨rfl, rfl, rfl⟩ | ⟨post', rfl, hrow⟩
        · exact hr.oneAtATime.at_most_one _ [] (List.append_nil _).symm
        · exact hr.oneAtATime.at_most_one pre _ hrow
    · exact (hfree q.connection q (by simp) rfl fault hq).elim
    · exact ⟨es, q, q', fault, rfl, hr.oneAtATime, hq, hn, hq'⟩

theorem Line.Row.unbindsAll_iff (h : Line.Row c deadline ⟨n, none⟩ es l) :
    UnbindsAll es ↔ l.held = none := by
  constructor
  · intro hall
    cases hl : l.held with
    | none => rfl
    | some m =>
      have hopened := h.openings_eq m
      have hle := (h.openings_le m).2
      rw [if_pos hl] at hopened
      obtain ⟨o, ho, hopens, hon⟩ := openings_pos_iff.1 (show 0 < openings m es by omega)
      obtain ⟨pre, post, hsplit⟩ := List.append_of_mem ho
      obtain ⟨q, hq, hqo, hunbind⟩ := hall pre o post hsplit hopens
      have hqes : q ∈ es := by simp [hsplit, hq]
      have hpos := unbindings_pos_iff.2 ⟨q, hqes, hqo.trans hon, hunbind⟩
      omega
  · intro hl pre o post hes hopens
    obtain ⟨l', -, hrest⟩ := (hes ▸ h).split
    cases hrest with
    | cons hs hpost =>
      have hbalance := hpost.balance o.connection
      rw [if_pos (hs.held_of_opens hopens), if_neg (by simp [hl])] at hbalance
      exact unbindings_pos_iff.1 (by omega)

/-- An unbinding at the end opens nothing and may well be superfluous. -/
theorem Line.Course.unbindsAll_iff (h : Line.Course c deadline n es l) :
    UnbindsAll es ↔ l.held = none := by
  cases h with
  | kept hr => exact hr.unbindsAll_iff
  | @repeated es q q' m fault hr _ _ hq' =>
    refine iff_of_true (fun pre o post hes hopens => ?_) rfl
    rcases last_or_before_last hes.symm with ⟨rfl, -, rfl⟩ | ⟨post', rfl, hrow⟩
    · simp [Exchange.opens, hq', Request.isConnect] at hopens
    · obtain ⟨x, hx, hxo⟩ := hr.unbindsAll_iff.2 rfl pre o post' hrow hopens
      exact ⟨x, by simp [hx], hxo⟩

end Rows

/-! ## What a step leaves -/

section Leaves

variable {c : Connector} {deadline : Option Deadline} {w : World} {α : Type}
  {out : Except Fault α × World}

/-- Whatever a step comes to, it keeps to the line, but for an afterthought; a connection is held at
its end exactly if an upgrade escaped. -/
theorem Leaves.course (h : Leaves c deadline w out) :
    ∃ l, Line.Course c deadline w.nextConnection (w.sent out.2) l ∧
      ((l.held = none ∧ ∀ u ∈ w.sent out.2, ∀ fault, ¬ u.EscapesUpgrade fault) ∨
        ∃ u fault, u ∈ w.sent out.2 ∧ u.EscapesUpgrade fault ∧ out.1 = .error fault ∧
          l.held = some u.connection ∧
            ∀ x ∈ w.sent out.2, ∀ fault', x.EscapesUpgrade fault' → x = u) := by
  cases h with
  | tidy hk =>
    obtain ⟨es, hes, hrow, hquiet⟩ := hk
    rw [World.sent_eq hes]
    exact ⟨_, .kept hrow, .inl ⟨rfl, hquiet⟩⟩
  | @stranded v w' n u fault hk hn hu hw =>
    obtain ⟨es, hes, hrow, hquiet⟩ := hk
    have hsent : w.sent w' = es ++ [u] := World.sent_eq (by rw [hw, hes, List.append_assoc])
    have hused : Line.Step c deadline ⟨v.nextConnection, some n⟩ u ⟨v.nextConnection, some n⟩ :=
      .used hn (by rw [hu.1]; rfl) (by simp [hu.1])
    rw [hsent]
    refine ⟨_, .kept (hrow.snoc hused), .inr ⟨u, fault, by simp, hu, rfl, by rw [hn], ?_⟩⟩
    intro x hx fault' hescapes
    rcases List.mem_append.1 hx with hx | hx
    · exact (hquiet x hx fault' hescapes).elim
    · exact List.mem_singleton.1 hx
  | @repeated v w' n q' fault hb hn hq' hw =>
    obtain ⟨es, q, fault', hv, hrow, hqn, hq, hquiet⟩ := hb.row
    have hsent : w.sent w' = es ++ [q] ++ [q'] := World.sent_eq (by rw [hw, hv]; simp)
    rw [hsent]
    refine ⟨_, .repeated hrow hq (by rw [hn, hqn]) hq', .inl ⟨rfl, ?_⟩⟩
    refine List.forall_mem_append.2 ⟨hquiet, fun e he => ?_⟩
    obtain rfl := List.mem_singleton.1 he
    exact Exchange.not_escapesUpgrade_of_request (by simp [hq'])

end Leaves

/-! ## Visits -/

section Releases

open World Connector

variable {c : Connector} {deadline : Option Deadline} {w v w' : World} {n : Nat}

theorem World.Keeps.unbindings_eq (h : Keeps c deadline w none v (some n))
    (h' : Keeps c deadline v (some n) w' none) : unbindings n (w.sent w') = 1 := by
  -- The connection is held in between and not at the end, so it was unbound at least once; it was
  -- opened at most once, so it was unbound at most once.
  have hafter := h'.balance n
  have hwhole := (h.trans h').balance n
  have hle := (h.trans h').openings_le n
  have hsum : unbindings n (w.sent w') = unbindings n (w.sent v) + unbindings n (v.sent w') := by
    rw [h.sent_trans h', unbindings_append]
  simp only [reduceCtorEq, if_true, if_false] at hafter hwhole
  omega

end Releases

namespace Sample

/-- The authenticator of the sample configuration with another directory. -/
def authenticatorFor (directory : Directory) : Authenticator :=
  let c : Connector := { authenticator.connector with directory }
  ⟨c, .search config.directory c, ⟨store, config.secondFactor⟩⟩

end Sample

namespace Authenticator

variable {bundleExists : String → Bool} {directory : Directory} {store : SecretStore}
  {config : AuthConfig} {transport : Option Transport} {w₀ : World} {a : Authenticator}

/-- A login unbinds every connection that it opened, exactly if no upgrade ends with a fault that
does not count as a failed connection. Such a fault goes through to the caller, and the connection
that was to be upgraded is left open. -/
theorem authenticate_unbinds_iff
    (hbuilt : (build bundleExists directory store config transport w₀).1 = .ok a)
    (credentials : Credentials) (deadline : Option Deadline) (w : World) :
    (UnbindsAll (w.sent (a.authenticate credentials deadline w).2) ↔
      ∀ u ∈ w.sent (a.authenticate credentials deadline w).2, ∀ fault,
        ¬ u.EscapesUpgrade fault) ∧
      ∀ u ∈ w.sent (a.authenticate credentials deadline w).2, ∀ fault, u.EscapesUpgrade fault →
        (a.authenticate credentials deadline w).1 = .error fault ∧
          openConnections (w.sent (a.authenticate credentials deadline w).2) = [u.connection] := by
  obtain ⟨l, hcourse, hend⟩ :=
    (authenticate_tidy (build_built hbuilt) credentials deadline w).course
  generalize a.authenticate credentials deadline w = out at hcourse hend ⊢
  rw [hcourse.unbindsAll_iff, hcourse.openConnections_eq]
  rcases hend with ⟨hheld, hquiet⟩ | ⟨u, fault, hu, hescapes, hresult, hheld, honly⟩
  · refine ⟨⟨fun _ => hquiet, fun _ => hheld⟩, ?_⟩
    intro u hu fault hescapes
    exact (hquiet u hu fault hescapes).elim
  · constructor
    · constructor
      · intro hnone
        rw [hheld] at hnone
        cases hnone
      · intro hquiet
        exact (hquiet u hu fault hescapes).elim
    · intro x hx fault' hescapes'
      obtain rfl := honly x hx fault' hescapes'
      -- One exchange has one reply, so the fault is the same.
      obtain rfl : fault = fault' := by
        have hreply := hescapes.2.1
        rw [hescapes'.2.1] at hreply
        exact (Except.error.inj hreply).symm
      exact ⟨hresult, by rw [hheld]; rfl⟩

end Authenticator

/-! ## A connection that is left open -/

namespace Sample

/-- A directory whose upgrades end with a fault of the program itself. -/
def brokenUpgrade : Directory := fun past clocks n request =>
  match request with
  | .startTls => ⟨.error (.raised (.other "RuntimeError") "no socket"), none, [], clocks⟩
  | _ => directory past clocks n request

end Sample

/-- The first upgrade of such a login escapes, so its connection stays open. -/
theorem Authenticator.open_of_brokenUpgrade :
    ((Sample.authenticatorFor Sample.brokenUpgrade).authenticate Sample.credentials none
        (World.start Sample.clocks)).1 =
      .error (.raised (.other "RuntimeError") "no socket") ∧
    openConnections ((World.start Sample.clocks).sent
      ((Sample.authenticatorFor Sample.brokenUpgrade).authenticate Sample.credentials none
        (World.start Sample.clocks)).2) = [0] := by
  have hbuilt : (build (fun _ => true) Sample.brokenUpgrade Sample.store Sample.config none
      (World.start Sample.clocks)).1 = .ok (Sample.authenticatorFor Sample.brokenUpgrade) := rfl
  obtain ⟨-, hleft⟩ := authenticate_unbinds_iff hbuilt Sample.credentials none
    (World.start Sample.clocks)
  have hupgrade : (⟨0, .startTls, Sample.clocks,
      Sample.brokenUpgrade [] Sample.clocks 0 .startTls⟩ : Exchange) ∈
        (World.start Sample.clocks).sent
          ((Sample.authenticatorFor Sample.brokenUpgrade).authenticate Sample.credentials none
            (World.start Sample.clocks)).2 := List.mem_of_getElem? (i := 1) rfl
  exact hleft _ hupgrade _ ⟨rfl, rfl, rfl⟩

end TwoFactorLogin
