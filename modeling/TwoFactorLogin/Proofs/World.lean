import TwoFactorLogin.World

/-!
# What a step adds to the world

Every step outside the library adds one event to the trace, and every record one entry to the log.
This file names the worlds that arise so, so that the paths of a run can be written down.

* `World.exchange`: the exchange that a request leads to.
* `World.push`, `World.pushAll`, `World.looked`, `World.note`: the world after an exchange, after
  several, after a look-up, and with more records in its log.
* `World.Answers`: the exchanges that a directory's answers make, one after another.
* `World.since`: the events that a run added.
* `World.Logged`: what a run wrote to the log.
* `Background`: records of the steps of a login, none of which a login writes itself.
* `Throughout`: a condition on every entry of a row, seen with those before and after it.
-/

namespace TwoFactorLogin

namespace World

/-- The exchange that a request leads to. -/
def exchange (w : World) (directory : Directory) (connection : Nat) (request : Request) :
    Exchange :=
  ⟨connection, request, w.clocks, directory w.exchanges w.clocks connection request⟩

/-- The world after an exchange. -/
def push (w : World) (e : Exchange) : World :=
  { w with clocks := e.reply.clocks, trace := w.trace ++ [.exchange e] }

/-- The world after several exchanges. -/
def pushAll (w : World) (es : List Exchange) : World := es.foldl push w

/-- The look-up that a question to the store leads to. -/
def lookupOf (w : World) (store : SecretStore) (username : String) (deadline : Option Deadline) :
    Lookup :=
  ⟨username, deadline, w.clocks, store w.clocks username deadline⟩

/-- The world after a look-up. -/
def looked (w : World) (l : Lookup) : World where
  clocks := l.reply.clocks
  trace := w.trace ++ [.lookup l]
  log := w.log ++ l.reply.log.map .store

/-- The world with more records in its log. -/
def note (w : World) (records : List LogRecord) : World := { w with log := w.log ++ records }

/-- Each of the exchanges is what a directory answers, one after another, from a world on. -/
def Answers (directory : Directory) : World → List Exchange → Prop
  | _, [] => True
  | w, e :: es =>
    e = w.exchange directory e.connection e.request ∧ Answers directory (w.push e) es

/-- The events that a run from `w` to `w'` added. -/
def since (w w' : World) : List Event := w'.trace.drop w.trace.length

/-- A run from `w` to `w'` wrote a record to the log. -/
def Logged (w w' : World) (record : LogRecord) : Prop :=
  ∃ log, w'.log = w.log ++ log ∧ record ∈ log

variable {w w' : World}

/-! ## The parts of these worlds -/

@[simp] theorem exchange_connection (d : Directory) (n : Nat) (r : Request) :
    (w.exchange d n r).connection = n := rfl

@[simp] theorem exchange_request (d : Directory) (n : Nat) (r : Request) :
    (w.exchange d n r).request = r := rfl

@[simp] theorem exchange_note (d : Directory) (n : Nat) (r : Request) (l : List LogRecord) :
    (w.note l).exchange d n r = w.exchange d n r := rfl

@[simp] theorem clocks_start (clocks : Clocks) : (start clocks).clocks = clocks := rfl

@[simp] theorem clocks_push (e : Exchange) : (w.push e).clocks = e.reply.clocks := rfl

@[simp] theorem trace_push (e : Exchange) : (w.push e).trace = w.trace ++ [.exchange e] := rfl

@[simp] theorem clocks_looked (l : Lookup) : (w.looked l).clocks = l.reply.clocks := rfl

@[simp] theorem trace_looked (l : Lookup) : (w.looked l).trace = w.trace ++ [.lookup l] := rfl

@[simp] theorem clocks_note (l : List LogRecord) : (w.note l).clocks = w.clocks := rfl

@[simp] theorem trace_note (l : List LogRecord) : (w.note l).trace = w.trace := rfl

@[simp] theorem note_nil : w.note [] = w := by
  simp [note]

@[simp] theorem note_note (l l' : List LogRecord) : (w.note l).note l' = w.note (l ++ l') := by
  simp [note]

@[simp] theorem push_note (e : Exchange) (l : List LogRecord) :
    (w.note l).push e = (w.push e).note l := rfl

@[simp] theorem pushAll_nil : w.pushAll [] = w := rfl

@[simp] theorem pushAll_cons (e : Exchange) (es : List Exchange) :
    w.pushAll (e :: es) = (w.push e).pushAll es := rfl

@[simp] theorem pushAll_append (es es' : List Exchange) :
    w.pushAll (es ++ es') = (w.pushAll es).pushAll es' := List.foldl_append

/-- Records can be moved behind exchanges, so a run is written as its exchanges with its records
behind. -/
@[simp] theorem pushAll_note (es : List Exchange) (l : List LogRecord) :
    (w.note l).pushAll es = (w.pushAll es).note l := by
  induction es generalizing w with
  | nil => rfl
  | cons e es ih => rw [pushAll_cons, push_note, ih, pushAll_cons]

/-- A run of exchanges and records after another one. -/
theorem pushAll_note_pushAll (es es' : List Exchange) (l l' : List LogRecord) :
    ((((w.pushAll es).note l).pushAll es').note l') = (w.pushAll (es ++ es')).note (l ++ l') := by
  simp

@[simp] theorem trace_pushAll (es : List Exchange) :
    (w.pushAll es).trace = w.trace ++ es.map .exchange := by
  induction es generalizing w with
  | nil => simp
  | cons e es ih => simp [ih]

@[simp] theorem log_push (e : Exchange) : (w.push e).log = w.log := rfl

@[simp] theorem log_pushAll (es : List Exchange) : (w.pushAll es).log = w.log := by
  induction es generalizing w with
  | nil => rfl
  | cons e es ih => rw [pushAll_cons, ih, log_push]

@[simp] theorem log_note (l : List LogRecord) : (w.note l).log = w.log ++ l := rfl

@[simp] theorem log_looked (l : Lookup) :
    (w.looked l).log = w.log ++ l.reply.log.map .store := rfl

theorem since_eq {t : List Event} (h : w'.trace = w.trace ++ t) : w.since w' = t := by
  rw [since, h, List.drop_left]

/-- The trace of a run that does nothing but send requests and log. -/
theorem trace_of_row {es : List Exchange} {log : List LogRecord}
    (h : w' = (w.pushAll es).note log) : w'.trace = w.trace ++ es.map .exchange := by
  rw [h, trace_note, trace_pushAll]

theorem since_of_row {es : List Exchange} {log : List LogRecord}
    (h : w' = (w.pushAll es).note log) : w.since w' = es.map .exchange :=
  since_eq (trace_of_row h)

/-- Such a run asks no store. -/
theorem lookup_notMem_of_row {es : List Exchange} {log : List LogRecord}
    (h : w' = (w.pushAll es).note log) (l : Lookup) : .lookup l ∉ w.since w' := by
  simp [since_of_row h]

@[simp] theorem since_start (clocks : Clocks) : (start clocks).since w = w.trace := rfl

/-! ## The exchanges of these worlds -/

/-- The exchanges among the events of a row of exchanges are that row. -/
@[simp] theorem filterMap_exchange (es : List Exchange) :
    (es.map Event.exchange).filterMap Event.exchange? = es := by
  induction es with
  | nil => rfl
  | cons e es ih => simp [Event.exchange?, ih]

@[simp] theorem exchanges_note (l : List LogRecord) : (w.note l).exchanges = w.exchanges := rfl

@[simp] theorem exchanges_looked (l : Lookup) : (w.looked l).exchanges = w.exchanges := by
  simp [exchanges, Event.exchange?]

@[simp] theorem exchanges_pushAll (es : List Exchange) :
    (w.pushAll es).exchanges = w.exchanges ++ es := by
  rw [exchanges, trace_pushAll, List.filterMap_append, filterMap_exchange]
  rfl

theorem exchanges_push (e : Exchange) : (w.push e).exchanges = w.exchanges ++ [e] :=
  exchanges_pushAll [e]

@[simp] theorem nextConnection_note (l : List LogRecord) :
    (w.note l).nextConnection = w.nextConnection := rfl

@[simp] theorem nextConnection_looked (l : Lookup) :
    (w.looked l).nextConnection = w.nextConnection := by
  simp [nextConnection]

/-- Connections are numbered in the order in which they are opened. -/
theorem nextConnection_pushAll (es : List Exchange) :
    (w.pushAll es).nextConnection = w.nextConnection + connectionCount es := by
  simp [nextConnection, connectionCount]

/-- The directory's answer depends on nothing but the exchanges so far and the clocks. -/
theorem exchange_congr (h : w'.exchanges = w.exchanges) (hc : w'.clocks = w.clocks)
    (d : Directory) (n : Nat) (r : Request) : w'.exchange d n r = w.exchange d n r := by
  simp only [exchange, h, hc]

/-- What a directory answers to a second row depends on the first one by the world after it. -/
theorem answers_append {d : Directory} {es es' : List Exchange} :
    w.Answers d (es ++ es') ↔ w.Answers d es ∧ (w.pushAll es).Answers d es' := by
  induction es generalizing w with
  | nil => simp [Answers]
  | cons e es ih => simp [Answers, ih, and_assoc]

/-- What a directory keeps of the clocks, whatever it is asked, holds after its answers. -/
theorem Answers.clocks_of {d : Directory} {es : List Exchange} {P : Clocks → Prop}
    (hP : ∀ {past c n r}, P c → P (d past c n r).clocks) (h : w.Answers d es) (hw : P w.clocks) :
    P (w.pushAll es).clocks := by
  induction es generalizing w with
  | nil => exact hw
  | cons e es ih =>
    refine ih h.2 ?_
    rw [clocks_push, h.1]
    exact hP hw

@[simp] theorem answers_note {d : Directory} {es : List Exchange} (l : List LogRecord) :
    (w.note l).Answers d es ↔ w.Answers d es := by
  induction es generalizing w with
  | nil => rfl
  | cons e es ih => simp [Answers, ih]

/-! ## The steps themselves -/

@[simp] theorem record_apply (r : LogRecord) : record r w = (.ok (), w.note [r]) := rfl

@[simp] theorem expired_apply (deadline : Option Deadline) :
    expired deadline w = (deadlineExpired deadline w.clocks.steady, w) := rfl

@[simp] theorem clamp_apply (deadline : Option Deadline) (timeout : Number) :
    clamp deadline timeout w = (clampTo deadline w.clocks.steady timeout, w) := rfl

@[simp] theorem send_apply (d : Directory) (n : Nat) (r : Request) :
    send d n r w = (.ok (w.exchange d n r).reply, w.push (w.exchange d n r)) := rfl

/-- The store's own records stand in the log before any other about the look-up. -/
@[simp] theorem lookUp_apply (store : SecretStore) (username : String)
    (deadline : Option Deadline) :
    lookUp store username deadline w =
      ((w.lookupOf store username deadline).reply.outcome,
        w.looked (w.lookupOf store username deadline)) := rfl

end World

/-! ## Records in the background -/

/-- Whether a record is one that a login writes itself. -/
def LogRecord.isOfLogin : LogRecord → Bool
  | authenticateStart _ | authenticateSuccess _ _ | authenticateDenied _ _ _ _ => true
  | _ => false

/-- No record is one that a login writes itself. -/
def Background (log : List LogRecord) : Prop := log.filter LogRecord.isOfLogin = []

section Background

variable {log log' : List LogRecord}

@[simp] theorem background_nil : Background [] := rfl

@[simp] theorem background_cons {r : LogRecord} :
    Background (r :: log) ↔ r.isOfLogin = false ∧ Background log := by
  simp [Background]

@[simp] theorem background_append : Background (log ++ log') ↔ Background log ∧ Background log' := by
  simp [Background]

/-- A store writes no record of the login itself. -/
@[simp] theorem background_store (records : List StoreRecord) :
    Background (records.map .store) := by
  simp [Background, LogRecord.isOfLogin]

end Background

/-! ## Conditions on every entry of a row -/

/-- The condition `P` holds of every entry of a row, together with the entries before it and those
after it. -/
def Throughout {α : Type} (P : List α → α → List α → Prop) (t : List α) : Prop :=
  ∀ pre e post, t = pre ++ e :: post → P pre e post

section Throughout

variable {α : Type} {P : List α → α → List α → Prop} {t t' : List α} {e : α}

@[simp] theorem throughout_nil : Throughout P [] := fun pre e post h => by simp at h

/-- A row in two parts: an entry of the first has the second part behind it, one of the second has
the first part in front. -/
theorem throughout_append :
    Throughout P (t ++ t') ↔
      Throughout (fun pre e post => P pre e (post ++ t')) t ∧
        Throughout (fun pre e post => P (t ++ pre) e post) t' := by
  constructor
  · intro h
    refine ⟨fun pre e post ht => h pre e (post ++ t') (by simp [ht]), fun pre e post ht => ?_⟩
    exact h (t ++ pre) e post (by simp [ht])
  · rintro ⟨h, h'⟩ pre e post ht
    rcases List.append_eq_append_iff.1 ht with ⟨pre', rfl, ht'⟩ | ⟨rest, rfl, hrest⟩
    · exact h' pre' e post ht'
    · cases rest with
      | nil => simpa using h' [] e post (by simpa using hrest.symm)
      | cons x rest =>
        obtain ⟨rfl, rfl⟩ : e = x ∧ post = rest ++ t' := by simpa using hrest
        exact h pre e rest rfl

@[simp] theorem throughout_singleton : Throughout P [e] ↔ P [] e [] := by
  constructor
  · exact fun h => h [] e [] rfl
  · rintro h pre e' post he
    obtain ⟨rfl, rfl, rfl⟩ : pre = [] ∧ e' = e ∧ post = [] := by
      cases pre with
      | nil => simpa [eq_comm] using he
      | cons x pre => simp at he
    exact h

theorem Throughout.mono {Q : List α → α → List α → Prop} (h : Throughout P t)
    (hpq : ∀ pre e post, e ∈ t → P pre e post → Q pre e post) : Throughout Q t :=
  fun pre e post ht => hpq pre e post (by simp [ht]) (h pre e post ht)

end Throughout

end TwoFactorLogin
