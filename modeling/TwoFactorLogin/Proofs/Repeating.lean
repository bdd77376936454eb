import TwoFactorLogin.Proofs.Refusing

/-!
# Answers that come again

What was possible once is possible again if the directory answers as it did. `Repeats` compares the
exchanges of two runs in their order: whatever is asked again is answered again. Connections have
other numbers then, and are opened with other timeouts, so these are not compared; nor is how long
anything takes, or what comes of unbinding.

* `Connector.Refuses.not_again`, `Connector.Aborts.not_again`: a visit that was bound once is bound
  again.
* `Resolver.Yields.eq_of_repeats`, `Resolver.Declines.not_again`, `Resolver.Aborts.not_again`: a
  name that was yielded once is yielded again.

Each of these finds the exchange with which the later run goes astray, and beside it in the earlier
run the same request, which was answered well. That they stand side by side follows from the
transport, since every opening has as many exchanges as the transport asks for.
-/

namespace TwoFactorLogin

/-- Whether two requests ask the same, apart from the timeouts of a connection. -/
def Request.asksSame : Request → Request → Bool
  | connect _, connect _ => true
  | startTls, startTls => true
  | bind user password, bind user' password' => user = user' && password = password'
  | search base filter attributes, search base' filter' attributes' =>
    base = base' && filter = filter' && attributes = attributes'
  | _, _ => false

/-- An exchange that asks the same as an earlier one gets the same answer. -/
def Exchange.Echoes (e e' : Exchange) : Prop :=
  e.request.asksSame e'.request = true →
    e'.reply.outcome = e.reply.outcome ∧ e'.reply.response = e.reply.response

/-- Whatever is asked again, in its place in the order, is answered again. -/
def Repeats (es es' : List Exchange) : Prop := ∀ p ∈ es.zip es', p.1.Echoes p.2

section Repeats

variable {e e' : Exchange} {es es' rest rest' : List Exchange}

@[simp] theorem repeats_cons : Repeats (e :: es) (e' :: es') ↔ e.Echoes e' ∧ Repeats es es' := by
  simp [Repeats]

theorem repeats_append (h : es.length = es'.length) :
    Repeats (es ++ rest) (es' ++ rest') ↔ Repeats es es' ∧ Repeats rest rest' := by
  simp only [Repeats, List.zip_append h, List.forall_mem_append]

/-- A request that was answered well is not answered with a fault when it comes again. -/
theorem Exchange.Echoes.outcome_ne (h : e.Echoes e') (hr : e.request.asksSame e'.request = true)
    {b : Bool} (hb : e.reply.outcome = .ok b) (fault : Fault) : e'.reply.outcome ≠ .error fault := by
  rw [(h hr).1, hb]
  simp

end Repeats

namespace Connector

variable {c : Connector} {dn : Option String} {password : Option Password} {w : World} {m : Nat}
  {es op rest rest' : List Exchange} {user : String} {bytes : List UInt8} {b b' : Exchange}
  {reason : DenialReason} {fault : Fault}

theorem Opens.eq_cons (h : c.Opens m op) : ∃ o rest p x, op = o :: rest ∧
    o.request = .connect p ∧ o.reply.outcome = .ok x := by
  cases h with
  | plain _ _ ho _ hx => exact ⟨_, _, _, _, rfl, ho, hx⟩
  | upgraded _ _ ho _ hx _ _ _ => exact ⟨_, _, _, _, rfl, ho, hx⟩

theorem Opens.eq_pair (h : c.Opens m op) (hr : c.transport.requiresUpgrade = true) :
    ∃ o u, op = [o, u] ∧ u.request = .startTls ∧ u.reply.outcome = .ok true := by
  cases h with
  | plain hr' => simp [hr] at hr'
  | upgraded _ _ _ _ _ _ hu hux => exact ⟨_, _, rfl, hu, hux⟩

/-- The exchanges up to the bind of a visit that was bound once stand side by side with those of a
later visit that opens its connection. -/
theorem Opens.repeats_bind {n : Nat} {op' : List Exchange} (ho : c.Opens m op)
    (ho' : c.Opens n op') (h : Repeats (op ++ b :: rest) (op' ++ b' :: rest')) :
    b.Echoes b' ∧ Repeats rest rest' := by
  rw [repeats_append (ho.length_eq.trans ho'.length_eq.symm), repeats_cons] at h
  exact h.2

theorem Opens.opened_again (ho : c.Opens m op) {o' : Exchange} {p : Endpoint}
    (hr : o'.request = .connect p) (h : Repeats (op ++ rest) (o' :: rest')) :
    o'.reply.outcome ≠ .error fault := by
  obtain ⟨o, _, p', x, rfl, hreq, hx⟩ := ho.eq_cons
  rw [List.cons_append, repeats_cons] at h
  exact h.1.outcome_ne (by rw [hreq, hr]; rfl) hx fault

theorem Opens.upgraded_again (ho : c.Opens m op) (hup : c.transport.requiresUpgrade = true)
    {o' u' : Exchange} (hr : u'.request = .startTls)
    (h : Repeats (op ++ rest) (o' :: u' :: rest')) : u'.reply.outcome = .ok true := by
  obtain ⟨o, u, rfl, hreq, hx⟩ := ho.eq_pair hup
  simp only [List.cons_append, repeats_cons] at h
  rw [(h.2.1 (by rw [hreq, hr]; rfl)).1, hx]

theorem Opens.bound_again {n : Nat} {op' : List Exchange} (ho : c.Opens m op)
    (hb : b.request = .bind user bytes) (hok : b.reply.outcome = .ok true)
    (ho' : c.Opens n op') (hb' : b'.request = .bind user bytes)
    (h : Repeats (op ++ b :: rest) (op' ++ b' :: rest')) : b'.reply.outcome = .ok true := by
  rw [((ho.repeats_bind ho' h).1 (by rw [hb, hb']; simp [Request.asksSame])).1, hok]

theorem Submits.unique {user' : String} {bytes' : List UInt8} (h : Submits dn password user bytes)
    (h' : Submits dn password user' bytes') : user' = user ∧ bytes' = bytes := by
  obtain ⟨p, hp, -, hbytes⟩ := h.password_eq
  obtain ⟨p', hp', -, hbytes'⟩ := h'.password_eq
  obtain rfl : p = p' := Option.some.inj (hp.symm.trans hp')
  exact ⟨Option.some.inj (h'.dn_eq.symm.trans h.dn_eq),
    Except.ok.inj (hbytes'.symm.trans hbytes)⟩

/-- A visit that was bound once is not refused when everything comes again. -/
theorem Refuses.not_again (ho : c.Opens m op) (hs : Submits dn password user bytes)
    (hb : b.request = .bind user bytes) (hok : b.reply.outcome = .ok true)
    (h : Repeats (op ++ b :: rest) (es ++ rest')) : ¬ c.Refuses dn password none w reason es := by
  intro hr
  cases hr with
  | late hd => simp [deadlineExpired] at hd
  | unopened ho' hf => exact ho.opened_again (by rw [ho']; rfl) h hf
  | @notUpgraded p o u q fault hup ho' hu hf hq =>
    have hok' : u.reply.outcome = .ok true := ho.upgraded_again hup (by rw [hu]; rfl) h
    rw [Exchange.upgradeOutcome_eq_ok.2 hok'] at hf
    cases hf
  | unsubmitted _ hnot _ => exact hnot user bytes hs
  | @unaccepted op' user' bytes' b' q ho' hs' hb' hne hq =>
    obtain ⟨rfl, rfl⟩ := hs.unique hs'
    rw [List.append_assoc] at h
    exact hne (ho.bound_again hb hok ho'.opens (by rw [hb']; rfl) h)

theorem Aborts.not_again (ho : c.Opens m op) (hs : Submits dn password user bytes)
    (hb : b.request = .bind user bytes) (hok : b.reply.outcome = .ok true)
    (h : Repeats (op ++ b :: rest) (es ++ rest')) : ¬ c.Aborts dn password none w fault es := by
  intro ha
  cases ha with
  | unreckoned hd => simp [deadlineExpired] at hd
  | opening ho' hf _ => exact ho.opened_again (by rw [ho']; rfl) h hf
  | @upgrade p o u fault hup ho' hu hf _ =>
    rw [ho.upgraded_again hup (by rw [hu]; rfl) h] at hf
    cases hf
  | @notUpgraded p o u q cause fault hup ho' hu hf hq _ =>
    exact (Refuses.notUpgraded hup ho' hu hf hq).not_again ho hs hb hok h
  | @notBound op' es' record reason q q' cause fault ho' hu hq _ _ _ =>
    have hrest : Repeats (op ++ b :: rest) (op' ++ es' ++ [q] ++ (q' :: rest')) := by simpa using h
    exact (ho'.refuses hu hq).not_again ho hs hb hok hrest
  | @bind op' user' bytes' b' q cause fault ho' hs' hb' hf _ _ _ =>
    obtain ⟨rfl, rfl⟩ := hs.unique hs'
    rw [List.append_assoc] at h
    rw [ho.bound_again hb hok ho'.opens (by rw [hb']; rfl) h] at hf
    cases hf

end Connector

namespace Resolver

variable {r : Resolver} {config : DirectoryConfig} {c : Connector} {username dn dn' : String}
  {w : World} {m n : Nat} {es es' rest rest' : List Exchange} {f : Exchange}
  {reason : DenialReason} {fault : Fault}

theorem Searches.found_again (hy : (search config c).Yields username m dn es)
    (hs : Searches config c username none w f es') (h : Repeats (es ++ rest) (es' ++ rest')) :
    f.reply.outcome = .ok true ∧ entryNames f.reply.response = [dn] := by
  cases hy with
  | searched ho hsub _ hb hok _ hf hfok hdn _ _ =>
    cases hs with
    | bound hbound hf' _ =>
      rw [List.append_assoc, List.append_assoc] at h
      obtain ⟨-, h⟩ := ho.repeats_bind hbound.opens.opens h
      have hecho := (repeats_cons.1 h).1 (by rw [hf, hf']; simp [Request.asksSame])
      rw [hecho.1, hecho.2]
      exact ⟨hfok, hdn⟩

/-- A resolver that yielded a name yields it when everything comes again, by as many exchanges. -/
theorem Yields.eq_of_repeats (hy : r.Yields username m dn es) (hy' : r.Yields username n dn' es')
    (h : Repeats (es ++ rest) (es' ++ rest')) : dn' = dn ∧ es.length = es'.length := by
  cases hy with
  | derived hdn =>
    cases hy' with
    | derived hdn' => exact ⟨Except.ok.inj (hdn'.symm.trans hdn), rfl⟩
  | searched ho _ _ _ _ _ hf hfok hnames _ _ =>
    cases hy' with
    | searched ho' _ _ _ _ _ hf' hfok' hnames' _ _ =>
      have hlen := ho.length_eq.trans ho'.length_eq.symm
      rw [List.append_assoc, List.append_assoc] at h
      obtain ⟨-, h⟩ := ho.repeats_bind ho' h
      have hecho := (repeats_cons.1 h).1 (by rw [hf, hf']; simp [Request.asksSame])
      rw [hecho.2, hnames] at hnames'
      exact ⟨(List.cons.inj hnames').1.symm, by simp [hlen]⟩

theorem Declines.not_again (hy : r.Yields username m dn es)
    (h : Repeats (es ++ rest) (es' ++ rest')) : ¬ Declines username none w r reason es' := by
  intro hd
  cases hd with
  | unbound hr =>
    cases hy with
    | searched ho hsub _ hb hok _ _ _ _ _ _ =>
      rw [List.append_assoc] at h
      exact hr.not_again ho hsub hb hok h
  | notFound hs hnone =>
    obtain ⟨hfound, hnames⟩ := hs.found_again hy h
    rw [hnone hfound] at hnames
    cases hnames
  | ambiguous hs _ hlen =>
    rw [(hs.found_again hy h).2] at hlen
    simp at hlen

/-- Nor does it end with a fault, unless the unbinding is interrupted. -/
theorem Aborts.not_again (hy : r.Yields username m dn es)
    (h : Repeats (es ++ rest) (es' ++ rest')) (hfree : ∀ q ∈ es', ∀ fault, ¬ q.Interrupts fault) :
    ¬ Aborts username none w r fault es' := by
  intro ha
  cases ha with
  | unbound ha =>
    cases hy with
    | searched ho hsub _ hb hok _ _ _ _ _ _ =>
      rw [List.append_assoc] at h
      exact ha.not_again ho hsub hb hok h
  | searching hs hf _ =>
    rw [(hs.found_again hy h).1] at hf
    cases hf
  | @interrupted _ _ _ q _ _ hs hlast hi =>
    obtain ⟨v, k, hq⟩ := hs.unbinds_last hlast
    exact hfree q (List.mem_of_getLast? hlast) _ ⟨by rw [hq]; rfl, hi⟩

end Resolver

end TwoFactorLogin
