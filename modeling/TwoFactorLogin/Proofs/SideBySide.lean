import TwoFactorLogin.Directory.Connector
import TwoFactorLogin.Proofs.World

/-!
# Two runs side by side

To see what a run gives away of a password, it is put beside a run with another password. The two
are compared as by someone who sees everything but passwords: `World.veil` takes the passwords out
of the trace. It also puts a mask over the one text in the log that is made from a password, the
complaint about a password that cannot be encoded; under the mask `id` the log is compared as it
is.

* `Concur`: requests of two runs that look the same under the veil are answered the same.
* `Run.Agree`: from states that look the same under the veil, two runs come to the same outcome and
  to states that look the same, provided the directory concurs.

Steps that agree can be put in a row (`Run.Agree.bind`), and everything a run is made of agrees
with itself. That the directory concurs is asked of all that was exchanged by the end of the two
runs; it holds of what was exchanged earlier, because runs only add exchanges (`Run.Grows`).
-/

namespace TwoFactorLogin

/-! ## The veil -/

/-- A request without the password in it. -/
def Request.veil : Request → Request
  | bind user _ => bind user []
  | r => r

/-- An exchange without the password in its request. -/
def Exchange.veil (e : Exchange) : Exchange := { e with request := e.request.veil }

/-- An event without a password in it. -/
def Event.veil : Event → Event
  | exchange e => exchange e.veil
  | lookup l => lookup l

/-- A record with a mask over the complaint about a password. -/
def LogRecord.masked (mask : String → String) : LogRecord → LogRecord
  | passwordNotEncoded dn error => passwordNotEncoded dn (mask error)
  | r => r

/-- A world without passwords in its trace, and with a mask over the complaints in its log. -/
def World.veil (mask : String → String) (w : World) : World where
  clocks := w.clocks
  trace := w.trace.map Event.veil
  log := w.log.map (LogRecord.masked mask)

/-- States that hold what was exchanged with the directory, and how they look under the veil. -/
class Veiled (σ : Type) where
  exchanges : σ → List Exchange
  veil : (String → String) → σ → σ

instance : Veiled World := ⟨World.exchanges, World.veil⟩

instance : Veiled (Session × World) :=
  ⟨fun s => s.2.exchanges, fun mask s => (s.1, s.2.veil mask)⟩

open Veiled

@[simp] theorem exchanges_world (w : World) : exchanges w = w.exchanges := rfl

@[simp] theorem veil_world (mask : String → String) (w : World) : veil mask w = w.veil mask := rfl

@[simp] theorem exchanges_pair (s : Session) (w : World) : exchanges (s, w) = w.exchanges := rfl

@[simp] theorem veil_pair (mask : String → String) (s : Session) (w : World) :
    veil mask (s, w) = (s, w.veil mask) := rfl

section Veil

variable {mask : String → String} {w w' : World}

theorem Request.isConnect_veil (r : Request) : r.veil.isConnect = r.isConnect := by
  cases r <;> rfl

theorem World.exchanges_veil (mask : String → String) (w : World) :
    (w.veil mask).exchanges = w.exchanges.map Exchange.veil := by
  have hevent : Event.exchange? ∘ Event.veil = Option.map Exchange.veil ∘ Event.exchange? := by
    funext e
    cases e <;> rfl
  simp only [exchanges, World.veil, List.filterMap_map, hevent, List.map_filterMap]
  rfl

theorem World.nextConnection_veil (mask : String → String) (w : World) :
    (w.veil mask).nextConnection = w.nextConnection := by
  have hveil : (fun e : Exchange => e.request.isConnect) ∘ Exchange.veil =
      fun e => e.request.isConnect := funext fun e => e.request.isConnect_veil
  rw [nextConnection, exchanges_veil, connectionCount, List.filter_map, List.length_map, hveil]
  rfl

theorem World.clocks_eq_of_veil (h : w.veil mask = w'.veil mask) : w.clocks = w'.clocks :=
  (congrArg World.clocks h :)

theorem World.log_eq_of_veil (h : w.veil mask = w'.veil mask) :
    w.log.map (LogRecord.masked mask) = w'.log.map (LogRecord.masked mask) :=
  (congrArg World.log h :)

theorem World.nextConnection_eq_of_veil (h : w.veil mask = w'.veil mask) :
    w.nextConnection = w'.nextConnection := by
  rw [← w.nextConnection_veil mask, h, nextConnection_veil]

theorem World.length_exchanges_eq_of_veil (h : w.veil mask = w'.veil mask) :
    w.exchanges.length = w'.exchanges.length := by
  simpa [exchanges_veil] using congrArg (fun v => v.exchanges.length) h

theorem World.veil_note (l : List LogRecord) :
    (w.note l).veil mask = (w.veil mask).note (l.map (LogRecord.masked mask)) := by
  simp [World.veil, note]

theorem World.veil_push (e : Exchange) : (w.push e).veil mask = (w.veil mask).push e.veil := by
  simp [World.veil, push, Event.veil, Exchange.veil]

theorem World.veil_looked (l : Lookup) : (w.looked l).veil mask = (w.veil mask).looked l := by
  simp [World.veil, looked, Event.veil, LogRecord.masked]

/-- No mask reaches what a machine logs. -/
@[simp] theorem map_masked_machine (log : List MachineRecord) :
    (log.map LogRecord.machine).map (LogRecord.masked mask) = log.map .machine := by
  simp [LogRecord.masked]

end Veil

/-! ## Directories that concur -/

/-- Two exchanges that look the same when they are sent. -/
def Exchange.Corresponds (e e' : Exchange) : Prop :=
  e.connection = e'.connection ∧ e.request.veil = e'.request.veil ∧ e.sentAt = e'.sentAt

/-- Corresponding requests, each in its place in the order, are answered the same. -/
def Concur (es es' : List Exchange) : Prop :=
  ∀ (i : Nat) (e e' : Exchange), es[i]? = some e → es'[i]? = some e' → e.Corresponds e' →
    e.reply = e'.reply

/-- What holds of two rows of exchanges holds of the beginnings of the two. -/
theorem Concur.mono {es es' fs fs' : List Exchange} (h : Concur fs fs') (he : es <+: fs)
    (he' : es' <+: fs') : Concur es es' := by
  intro i e e' hi hi'
  obtain ⟨hlt, rfl⟩ := List.getElem?_eq_some_iff.1 hi
  obtain ⟨hlt', rfl⟩ := List.getElem?_eq_some_iff.1 hi'
  exact h i _ _ (List.prefix_iff_getElem?.1 he i hlt) (List.prefix_iff_getElem?.1 he' i hlt')

/-- Exchanges that look the same under the veil are answered the same. -/
theorem concur_of_veil {es es' : List Exchange}
    (h : es.map Exchange.veil = es'.map Exchange.veil) : Concur es es' := by
  intro i e e' hi hi' _
  have hveil : some e.veil = some e'.veil := by
    simpa [hi, hi'] using congrArg (fun l => l[i]?) h
  exact (congrArg Exchange.reply (Option.some.inj hveil) :)

/-! ## Runs that agree -/

namespace Run

variable {σ α β γ δ : Type} {mask : String → String}

/-- Outcomes that are the same fault, or answers that belong together. -/
inductive Matches (R : α → β → Prop) : Except Fault α → Except Fault β → Prop
  | fault (fault : Fault) : Matches R (.error fault) (.error fault)
  | answer {a : α} {b : β} : R a b → Matches R (.ok a) (.ok b)

theorem matches_rfl (r : Except Fault α) : Matches Eq r r := by
  cases r with
  | error fault => exact .fault fault
  | ok a => exact .answer rfl

theorem Matches.eq {r r' : Except Fault α} (h : Matches Eq r r') : r = r' := by
  cases h with
  | fault _ => rfl
  | answer h => rw [h]

theorem Matches.mono {R S : α → β → Prop} {r : Except Fault α} {r' : Except Fault β}
    (h : Matches R r r') (hRS : ∀ a b, R a b → S a b) : Matches S r r' := by
  cases h with
  | fault fault => exact .fault fault
  | answer h => exact .answer (hRS _ _ h)

variable [Veiled σ]

/-- A run that keeps what was exchanged before it, and may add to it. -/
def Grows (x : Run σ α) : Prop := ∀ s, exchanges s <+: exchanges (x s).2

/-- Two runs that cannot be told apart under the veil, if the directory concurs. Their answers are
related by `R`. -/
structure Agree (mask : String → String) (R : α → β → Prop) (x : Run σ α) (x' : Run σ β) :
    Prop where
  grows : x.Grows
  grows' : x'.Grows
  agrees {s s' : σ} : veil mask s = veil mask s' →
    Concur (exchanges (x s).2) (exchanges (x' s').2) →
      Matches R (x s).1 (x' s').1 ∧ veil mask (x s).2 = veil mask (x' s').2

/-! ### Steps in a row -/

theorem Grows.of_silent {x : Run σ α} (h : ∀ s, (x s).2 = s) : x.Grows := fun s => by
  simp [h]

/-- What was exchanged in the first of two steps was exchanged in both. -/
theorem exchanges_first {x : Run σ α} {f : α → Run σ β} (hf : ∀ a, (f a).Grows) (s : σ) :
    exchanges (x s).2 <+: exchanges ((x >>= f) s).2 := by
  rw [bind_apply]
  rcases x s with ⟨_ | a, t⟩
  · exact List.prefix_rfl
  · exact hf a t

theorem Grows.bind {x : Run σ α} {f : α → Run σ β} (hx : x.Grows) (hf : ∀ a, (f a).Grows) :
    (x >>= f).Grows := fun s => (hx s).trans (exchanges_first hf s)

/-- Two steps that leave the state alone agree if they answer the same wherever two states look the
same. -/
theorem Agree.of_silent {R : α → β → Prop} {x : Run σ α} {x' : Run σ β} (hx : ∀ s, (x s).2 = s)
    (hx' : ∀ s, (x' s).2 = s)
    (h : ∀ {s s' : σ}, veil mask s = veil mask s' → Matches R (x s).1 (x' s').1) :
    Agree mask R x x' where
  grows := .of_silent hx
  grows' := .of_silent hx'
  agrees hs _ := ⟨h hs, by rw [hx, hx', hs]⟩

theorem Agree.pure {R : α → β → Prop} {a : α} {b : β} (h : R a b) :
    Agree mask R (pure a : Run σ α) (pure b) :=
  .of_silent (fun _ => rfl) (fun _ => rfl) fun _ => .answer h

theorem agree_raise (R : α → β → Prop) (fault : Fault) :
    Agree mask R (raise fault : Run σ α) (raise fault) :=
  .of_silent (fun _ => rfl) (fun _ => rfl) fun _ => .fault fault

theorem agree_ofExcept (r : Except Fault α) : Agree mask Eq (ofExcept r : Run σ α) (ofExcept r) :=
  .of_silent (fun _ => rfl) (fun _ => rfl) fun _ => matches_rfl r

theorem Agree.read {f : σ → α} (h : ∀ {s s' : σ}, veil mask s = veil mask s' → f s = f s') :
    Agree mask Eq (read f) (read f) :=
  .of_silent (fun _ => rfl) (fun _ => rfl) fun hs => .answer (h hs)

/-- Steps that agree, and go on with steps that agree, agree in the whole. -/
theorem Agree.bind {R : γ → δ → Prop} {x x' : Run σ α} {f : α → Run σ γ} {f' : α → Run σ δ}
    (hx : Agree mask Eq x x') (hf : ∀ a, Agree mask R (f a) (f' a)) :
    Agree mask R (x >>= f) (x' >>= f') where
  grows := hx.grows.bind fun a => (hf a).grows
  grows' := hx.grows'.bind fun a => (hf a).grows'
  agrees {s s'} hs hc := by
    -- The directory concurs in the first steps, for these exchanges come first in the whole.
    obtain ⟨hm, hv⟩ := hx.agrees hs (hc.mono (exchanges_first (fun a => (hf a).grows) s)
      (exchanges_first (fun a => (hf a).grows') s'))
    simp only [bind_apply] at hc ⊢
    generalize x s = out, x' s' = out' at hm hv hc ⊢
    obtain ⟨r, t⟩ := out
    obtain ⟨r', t'⟩ := out'
    cases hm with
    | fault fault => exact ⟨.fault fault, hv⟩
    | answer h =>
      subst h
      exact (hf _).agrees hv hc

/-- A step whose fault is part of the answer agrees if the step does. -/
theorem Agree.attempt {x x' : Run σ α} (h : Agree mask Eq x x') :
    Agree mask Eq x.attempt x'.attempt where
  grows := h.grows
  grows' := h.grows'
  agrees hs hc := ⟨.answer (h.agrees hs hc).1.eq, (h.agrees hs hc).2⟩

theorem Agree.ite {R : α → β → Prop} {x y : Run σ α} {x' y' : Run σ β} {p : Prop} [Decidable p]
    (hx : p → Agree mask R x x') (hy : ¬ p → Agree mask R y y') :
    Agree mask R (if p then x else y) (if p then x' else y') := by
  split
  · exact hx ‹p›
  · exact hy ‹¬ p›

end Run

/-! ## Steps on the world -/

namespace World

open Run

variable {mask : String → String}

theorem agree_expired (deadline : Option Deadline) :
    Agree mask Eq (expired deadline) (expired deadline) :=
  .of_silent (fun _ => rfl) (fun _ => rfl) fun hs => by
    simp only [expired_apply, clocks_eq_of_veil hs]
    exact matches_rfl _

theorem agree_clamp (deadline : Option Deadline) (timeout : Number) :
    Agree mask Eq (clamp deadline timeout) (clamp deadline timeout) :=
  .of_silent (fun _ => rfl) (fun _ => rfl) fun hs => by
    simp only [clamp_apply, clocks_eq_of_veil hs]
    exact matches_rfl _

/-- Records that are the same under the mask are logged alike. -/
theorem agree_record {r r' : LogRecord} (h : r.masked mask = r'.masked mask) :
    Agree mask Eq (record r) (record r') where
  grows s := by simp
  grows' s := by simp
  agrees {s s'} hs _ := by
    rw [veil_world, veil_world] at hs
    refine ⟨.answer rfl, ?_⟩
    simp only [record_apply, veil_world, veil_note, hs, List.map_cons, List.map_nil, h]

theorem agree_lookUp (store : SecretStore) (username : String) (deadline : Option Deadline) :
    Agree mask Eq (lookUp store username deadline) (lookUp store username deadline) where
  grows s := by simp
  grows' s := by simp
  agrees {s s'} hs _ := by
    rw [veil_world, veil_world] at hs
    have hl : s.lookupOf store username deadline = s'.lookupOf store username deadline := by
      simp only [lookupOf, clocks_eq_of_veil hs]
    simp only [lookUp_apply, hl, veil_world, veil_looked, hs]
    exact ⟨matches_rfl _, trivial⟩

theorem grows_send (directory : Directory) (n : Nat) (r : Request) :
    (send directory n r).Grows := fun s => by
  simp [exchanges_push]

/-- Requests that look the same under the veil are answered the same by directories that concur. -/
theorem agree_send {directory directory' : Directory} {r r' : Request} (h : r.veil = r'.veil)
    (n : Nat) : Agree mask Eq (send directory n r) (send directory' n r') where
  grows := grows_send directory n r
  grows' := grows_send directory' n r'
  agrees {s s'} hs hc := by
    rw [veil_world, veil_world] at hs
    simp only [send_apply, exchanges_world, exchanges_push] at hc
    -- Under the veil the two runs have exchanged equally much, so these two stand side by side.
    have hreply : (s.exchange directory n r).reply = (s'.exchange directory' n r').reply := by
      refine hc s.exchanges.length _ _ List.getElem?_concat_length ?_
        ⟨rfl, h, clocks_eq_of_veil hs⟩
      rw [length_exchanges_eq_of_veil hs]
      exact List.getElem?_concat_length
    have hveil : (s.exchange directory n r).veil = (s'.exchange directory' n r').veil := by
      simp only [exchange, Exchange.veil] at hreply ⊢
      rw [h, hreply, clocks_eq_of_veil hs]
    simp only [send_apply, veil_world, veil_push, hs, hveil, hreply]
    exact ⟨.answer rfl, trivial⟩

end World

/-! ## Steps on a session -/

section Session

open Run

variable {mask : String → String} {α : Type}

theorem Run.Agree.onSecond {x x' : Run World α} (h : Agree mask Eq x x') :
    Agree mask Eq (Run.onSecond x : Run (Session × World) α) (Run.onSecond x') where
  grows s := h.grows s.2
  grows' s := h.grows' s.2
  agrees hs hc := by
    obtain ⟨hfirst, hsecond⟩ := Prod.mk.inj hs
    obtain ⟨hm, hv⟩ := h.agrees hsecond hc
    exact ⟨hm, Prod.ext hfirst hv⟩

theorem Session.agree_session :
    Agree mask Eq (Run.read Prod.fst : Run (Session × World) Session) (Run.read Prod.fst) :=
  .read fun hs => (Prod.mk.inj hs).1

theorem Session.agree_transition (event : SessionEvent) :
    Agree mask Eq (transition event) (transition event) where
  grows _ := List.prefix_rfl
  grows' _ := List.prefix_rfl
  agrees := by
    rintro ⟨session, w⟩ ⟨session', w'⟩ hs -
    obtain ⟨rfl, hw⟩ : session = session' ∧ w.veil mask = w'.veil mask := by simpa using hs
    have htransition (v : World) : transition event (session, v) =
        ((session.apply event v.clocks.date).outcome, (session.apply event v.clocks.date).session,
          v.note ((session.apply event v.clocks.date).log.map .machine)) := rfl
    simp only [htransition, World.clocks_eq_of_veil hw, veil_pair, World.veil_note, hw,
      map_masked_machine]
    exact ⟨matches_rfl _, trivial⟩

/-- A block with its end, as a step that cannot fail. -/
def Lease.run {β : Type} (x : World → Lease β α × World) : Run World (Lease β α) := fun w =>
  let (lease, w) := x w
  (.ok lease, w)

/-- A step on a session, as a step on the world: the session that it leaves comes with the outcome.
-/
def Run.within (s : Session) (x : Run (Session × World) α) :
    Run World (Except Fault α × Session) := fun w =>
  let (r, s, w) := x (s, w)
  (.ok (r, s), w)

theorem Run.Agree.within {x x' : Run (Session × World) α} (h : Agree mask Eq x x') (s : Session) :
    Agree mask Eq (Run.within s x) (Run.within s x') where
  grows w := h.grows (s, w)
  grows' w := h.grows' (s, w)
  agrees {w w'} hs hc := by
    have hstart : veil mask (s, w) = veil mask (s, w') := Prod.ext rfl hs
    obtain ⟨hm, hv⟩ := h.agrees hstart hc
    obtain ⟨hfirst, hsecond⟩ := Prod.mk.inj hv
    exact ⟨.answer (Prod.ext hm.eq hfirst), hsecond⟩

theorem Session.agree_abandon (s : Session) (event : SessionEvent) :
    Agree mask Eq (s.abandon event) (s.abandon event) :=
  show Agree mask Eq (Run.within s (transition event) >>= fun p => ofExcept p.1) _ from
    ((agree_transition event).within s).bind fun p => agree_ofExcept p.1

theorem Session.advance_eq (s : Session) (event : SessionEvent) :
    s.advance event = Run.within s (transition event) >>= fun p =>
      ofExcept (p.1.map fun _ => p.2) := by
  funext w
  simp only [advance, Run.within, bind_apply]
  rcases transition event (s, w) with ⟨_ | _, s', w'⟩ <;> rfl

theorem Session.agree_advance (s : Session) (event : SessionEvent) :
    Agree mask Eq (s.advance event) (s.advance event) := by
  rw [advance_eq]
  exact ((agree_transition event).within s).bind fun p => agree_ofExcept _

end Session

end TwoFactorLogin
