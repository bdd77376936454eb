import TwoFactorLogin.Proofs.Containment
import TwoFactorLogin.Proofs.Refusing

/-!
# A search never guesses

A resolver that searches names an identity only if its search account was bound, the directory
reported success, and the response holds one candidate: an entry with a name. Two entries are two
candidates, even if their names are equal, and then the resolver says so and warns once. What is not
an entry, and what has no name, is no candidate.

`NeverGuesses` says of one run which result it has in terms of what was sent and answered. That the
search account could not be bound is reported as connecting and binding report it, and then nothing
is searched. The connection of the search is unbound in any case.

* `Candidates`: the candidates of a response.
* `Finding`: everything a search comes to, if the directory fails with its own faults only.
* `resolve_neverGuesses`: the result, for every login name that is not empty.
-/

namespace TwoFactorLogin

/-! ## Requests, records and responses -/

/-- Whether a request is a search. -/
def Request.isSearch : Request → Bool
  | search _ _ _ => true
  | _ => false

theorem Directory.FailsAlone.failsPlainly {d : Directory} (hd : d.FailsAlone) :
    d.FailsPlainly := by
  intro past clocks n r fault hr h
  refine Connector.isConnection_of_isDirectory (hd.own ?_ h)
  rcases hr with ⟨p, rfl⟩ | rfl <;> simp

/-- Whether a record says that a login name was ambiguous. -/
def LogRecord.isAmbiguity (r : LogRecord) : Bool := r.event = "identity_ambiguous"

/-- The records of the log that say so. -/
def World.ambiguities (w : World) : List LogRecord := w.log.filter LogRecord.isAmbiguity

@[simp] theorem World.ambiguities_push (w : World) (e : Exchange) :
    (w.push e).ambiguities = w.ambiguities := rfl

@[simp] theorem World.ambiguities_pushAll (w : World) (es : List Exchange) :
    (w.pushAll es).ambiguities = w.ambiguities := by
  rw [ambiguities, log_pushAll, ambiguities]

@[simp] theorem World.ambiguities_note (w : World) (log : List LogRecord) :
    (w.note log).ambiguities = w.ambiguities ++ log.filter LogRecord.isAmbiguity := by
  rw [ambiguities, log_note, List.filter_append, ambiguities]

/-- The names of the entries in a response, in their order and as often as they occur. An item that
is not an entry or has no name is passed over. -/
inductive Candidates : List SearchItem → List String → Prop
  | nil : Candidates [] []
  | entry {item : SearchItem} {items : List SearchItem} {dn : String} {dns : List String} :
      item.kind = some "searchResEntry" → item.dn = some dn → dn ≠ "" → Candidates items dns →
      Candidates (item :: items) (dn :: dns)
  | other {item : SearchItem} {items : List SearchItem} {dns : List String} :
      item.kind ≠ some "searchResEntry" ∨ item.dn = none ∨ item.dn = some "" →
      Candidates items dns → Candidates (item :: items) dns

namespace Connector

variable {c : Connector} {dn : Option String} {password : Option Password}
  {deadline : Option Deadline} {w : World} {s : Session} {n : Nat} {es : List Exchange}
  {reason : DenialReason} {fault : Fault}

/-! ## Visits do not speak of ambiguity -/

theorem filter_closingLog (s : Session) (reason : String) (q : Exchange) :
    (c.closingLog s reason q).filter LogRecord.isAmbiguity = [] := by
  refine List.filter_eq_nil_iff.2 fun r hr => ?_
  rcases mem_closingLog hr with ⟨fault, rfl⟩ | rfl <;> simp [LogRecord.isAmbiguity, LogRecord.event,
    Session.stepLog, MachineRecord.event]

theorem filter_unbound {record : LogRecord} {s : String}
    (h : c.Unbound dn password n w es record s) : record.isAmbiguity = false := by
  cases h <;> simp [LogRecord.isAmbiguity, LogRecord.event]

theorem connect_ambiguities (c : Connector) (deadline : Option Deadline) (w : World) :
    (c.connect deadline w).2.ambiguities = w.ambiguities := by
  have h := c.connect_connecting deadline w
  generalize c.connect deadline w = out at h ⊢
  cases h <;> simp [filter_closingLog, connectFailedLog, abandonLog, connectedLog, Session.stepLog,
    LogRecord.isAmbiguity, LogRecord.event, MachineRecord.event]

theorem bindAs_ambiguities (hs : s.OpenOn n) (hstate : s.state = .connected) (dn : Option String)
    (password : Option Password) (w : World) :
    (c.bindAs dn password (s, w)).2.2.ambiguities = w.ambiguities := by
  have h := c.bindAs_binding dn password hs.guarded hstate hs.connection_eq w
  generalize c.bindAs dn password (s, w) = out at h ⊢
  cases h with
  | refused hu _ _ => simp [filter_unbound hu, filter_closingLog]
  | interrupted hu _ _ => simp [filter_unbound hu]
  | escaped _ _ _ _ => simp
  | accepted _ _ _ =>
    simp [Session.stepLog, LogRecord.isAmbiguity, LogRecord.event, MachineRecord.event]

theorem release_ambiguities {α β : Type} (hs : s.OpenOn n ∨ s.isClosed = true) (given : Option β)
    (outcome : Except Fault α) (w : World) :
    (c.release given outcome s w).2.ambiguities = w.ambiguities := by
  rcases hs with hs | hs
  · simp [release_of_open hs rfl, filter_closingLog]
  · rw [release_of_closed hs]

/-- A visit says nothing of ambiguity if neither of its blocks does. -/
theorem openBound_ambiguities {α : Type} {refused : DenialReason → Run World α}
    {granted : Run (Session × World) α}
    (hr : ∀ reason w, (refused reason w).2.ambiguities = w.ambiguities)
    (hg : ∀ s w n, s.OpenOn n → (granted (s, w)).2.1 = s ∧
      (granted (s, w)).2.2.ambiguities = w.ambiguities)
    (dn : Option String) (password : Option Password) (deadline : Option Deadline) (w : World) :
    (c.openBound dn password deadline refused granted w).2.ambiguities = w.ambiguities := by
  have hlinked := c.connect_linked deadline w
  have hquiet := c.connect_ambiguities deadline w
  unfold openBound
  generalize c.connect deadline w = out at hlinked hquiet ⊢
  cases hlinked with
  | refused _ => simpa [hr] using hquiet
  | escaped _ => exact hquiet
  | @made s n v hs hstate _ =>
    have hbinds := c.bindAs_binds hs hstate dn password deadline v
    have hbound := c.bindAs_ambiguities hs hstate dn password v
    dsimp only at hquiet ⊢
    generalize c.bindAs dn password (s, v) = out at hbinds hbound ⊢
    cases hbinds with
    | @bound s' v' hs' _ =>
      obtain ⟨hsame, hgranted⟩ := hg s' v' n hs'
      simp only [hsame]
      exact (release_ambiguities (.inl hs') _ _ _).trans (hgranted.trans (hbound.trans hquiet))
    | refused hclosed _ _ =>
      exact (release_ambiguities (n := n) (.inr hclosed) _ _ _).trans
        ((hr _ _).trans (hbound.trans hquiet))
    | escaped hh =>
      exact (release_ambiguities (hh α).left _ _ _).trans (hbound.trans hquiet)

/-! ## Visits without a search -/

theorem Opens.isSearch_eq (h : c.Opens n es) {e : Exchange} (he : e ∈ es) :
    e.request.isSearch = false := by
  rcases h.request_eq he with ⟨p, hp⟩ | hp <;> rw [hp] <;> rfl

/-- Nothing is searched in a visit that is refused. -/
theorem Refuses.isSearch_eq (h : c.Refuses dn password deadline w reason es) {e : Exchange}
    (he : e ∈ es) : e.request.isSearch = false := by
  cases h with
  | late _ => simp at he
  | unopened ho _ =>
    obtain rfl := List.mem_singleton.1 he
    rw [ho]
    rfl
  | @notUpgraded _ o u q _ _ ho hu _ hq =>
    subst ho hu hq
    obtain rfl | rfl | rfl : e = _ ∨ e = _ ∨ e = _ := by simpa using he
    all_goals rfl
  | @unsubmitted op q ho _ hq =>
    subst hq
    obtain he | rfl : e ∈ op ∨ e = _ := by simpa using he
    · exact ho.opens.isSearch_eq he
    · rfl
  | @unaccepted op _ _ b q ho _ hb _ hq =>
    subst hb hq
    obtain he | rfl | rfl : e ∈ op ∨ e = _ ∨ e = _ := by simpa using he
    · exact ho.opens.isSearch_eq he
    all_goals rfl

end Connector

namespace Resolver

variable {config : DirectoryConfig} {c : Connector} {username : String}
  {deadline : Option Deadline} {w w' : World} {es : List Exchange} {f : Exchange}
  {dns : List String} {reason : DenialReason}

/-! ## Candidates -/

/-- The candidates of a response are what the resolver takes from it. -/
theorem candidates_iff {items : List SearchItem} : Candidates items dns ↔ entryNames items = dns := by
  constructor
  · intro h
    induction h with
    | nil => rfl
    | entry hkind hdn hne _ ih => simp [entryNames, hkind, hdn, Option.filter, hne, ← ih]
    | @other item _ _ hno _ ih =>
      rw [← ih, entryNames, List.filterMap_cons_none]
      · rfl
      · rcases hno with hkind | hdn | hdn <;> simp [*, Option.filter]
  · rintro rfl
    induction items with
    | nil => exact .nil
    | cons item items ih =>
      by_cases hkind : item.kind = some "searchResEntry"
      · cases hdn : item.dn with
        | none =>
          have hskip : entryNames (item :: items) = entryNames items := by
            simp [entryNames, hdn]
          exact hskip ▸ .other (.inr (.inl hdn)) ih
        | some dn =>
          by_cases hne : dn = ""
          · have hskip : entryNames (item :: items) = entryNames items := by
              simp [entryNames, hdn, hne, Option.filter]
            exact hskip ▸ .other (.inr (.inr (hne ▸ hdn))) ih
          · have htake : entryNames (item :: items) = dn :: entryNames items := by
              simp [entryNames, hdn, hne, hkind, Option.filter]
            exact htake ▸ .entry hkind hdn hne ih
      · have hskip : entryNames (item :: items) = entryNames items := by
          simp [entryNames, hkind]
        exact hskip ▸ .other (.inl hkind) ih

/-- What a search reports: the names of its entries if it succeeded, and otherwise none. -/
def reported (f : Exchange) : List String :=
  match f.reply.outcome with
  | .ok true => entryNames f.reply.response
  | _ => []

theorem empty_notMem_reported : "" ∉ reported f := by
  unfold reported
  split
  · exact empty_notMem_entryNames _
  · simp

theorem reported_of_ok (h : f.reply.outcome = .ok true) : reported f = entryNames f.reply.response := by
  rw [reported, h]

theorem reported_of_ne_ok (h : f.reply.outcome ≠ .ok true) : reported f = [] := by
  unfold reported
  split
  · contradiction
  · rfl

/-! ## What is chosen -/

theorem Chosen.found_iff {r : Resolution} (h : Chosen dns r) (identity : DirectoryIdentity) :
    r = .ok identity ↔ dns = [identity.dn] := by
  cases h with
  | none => simp
  | @one other =>
    cases other
    cases identity
    simp
  | several hlen =>
    constructor
    · rintro ⟨⟩
    · rintro rfl
      simp at hlen

theorem Chosen.ambiguous_iff {r : Resolution} (h : Chosen dns r) :
    r = .error .identityAmbiguous ↔ 2 ≤ dns.length := by
  cases h with
  | none => simp
  | one => simp
  | several hlen => simpa using hlen

theorem Chosen.unresolved_iff {r : Resolution} (h : Chosen dns r) :
    r = .error .identityUnresolved ↔ dns = [] := by
  cases h with
  | none => simp
  | one => simp
  | several hlen =>
    constructor
    · rintro ⟨⟩
    · rintro rfl
      simp at hlen

theorem Chosen.reason_eq (h : Chosen dns (.error reason)) :
    reason = .identityUnresolved ∨ reason = .identityAmbiguous := by
  cases h with
  | none => exact .inl rfl
  | several _ => exact .inr rfl

/-- What choosing logs of ambiguity: one record if there are several candidates. -/
def ambiguityLog (username : String) (dns : List String) : List LogRecord :=
  if 2 ≤ dns.length then [.identityAmbiguous username dns] else []

theorem choose_ambiguities (username : String) (dns : List String) (w : World) :
    (choose username dns w).2.ambiguities = w.ambiguities ++ ambiguityLog username dns := by
  match dns with
  | [] => simp [choose, Run.bind_apply, ambiguityLog, LogRecord.isAmbiguity, LogRecord.event]
  | [dn] =>
    simp only [choose, Run.bind_apply, World.record_apply, Run.ofExcept_apply]
    rcases DirectoryIdentity.ofText dn with fault | identity <;>
      simp [ambiguityLog, LogRecord.isAmbiguity, LogRecord.event]
  | dn :: dn' :: dns =>
    simp [choose, Run.bind_apply, ambiguityLog, LogRecord.isAmbiguity, LogRecord.event]

/-! ## Everything a search comes to -/

theorem searchBound_ambiguities (config : DirectoryConfig) (username : String) {s : Session} {n : Nat}
    (hs : s.OpenOn n) (w : World) :
    (searchBound config c.directory username (s, w)).2.1 = s ∧
      (searchBound config c.directory username (s, w)).2.2.ambiguities = w.ambiguities := by
  simp only [searchBound, findUserDns, Run.bind_apply, Run.attempt_apply, Run.read_apply,
    hs.connection_eq, Run.onSecond_apply, World.send_apply]
  generalize w.exchange c.directory n _ = f
  rcases hr : f.reply.outcome with fault | _ | _
  · cases hk : fault.kind.isDirectory with
    | true => simp [hk, Run.bind_apply, LogRecord.isAmbiguity, LogRecord.event]
    | false => simp [hk]
  · exact ⟨rfl, rfl⟩
  · exact ⟨rfl, rfl⟩

theorem inquire_ambiguities (config : DirectoryConfig) (c : Connector) (username : String)
    (deadline : Option Deadline) (w : World) :
    (inquire config c username deadline w).2.ambiguities = w.ambiguities := by
  refine c.openBound_ambiguities (fun reason v => ?_)
    (fun s v n hs => searchBound_ambiguities config username hs v) _ _ deadline w
  simp [giveUpSearch, Run.bind_apply, LogRecord.isAmbiguity, LogRecord.event]

/-- Why the search account is not bound: as connecting reports it, or as binding does. -/
def AccountRefused (config : DirectoryConfig) (c : Connector) (deadline : Option Deadline)
    (w : World) : DenialReason → Prop
  | .connectionFailed => (c.connect deadline w).1 = .ok none
  | .bindRejected => ∃ s v, c.connect deadline w = (.ok (some s), v) ∧
      (c.bindAs config.searchBindDn config.searchBindPassword (s, v)).1 = .ok false
  | _ => False

theorem accountRefused_iff (hd : c.directory.FailsAlone) (config : DirectoryConfig)
    (username : String) (deadline : Option Deadline) (w : World) (reason : DenialReason) :
    AccountRefused config c deadline w reason ↔
      (inquire config c username deadline w).1.given = some (.error reason) := by
  have hoffers : c.Offers deadline config.searchBindDn config.searchBindPassword w
      (inquire config c username deadline w).1.given := c.openBound_offers hd.failsPlainly _ _ _ _ w
  cases reason with
  | connectionFailed => exact hoffers.unconnected_iff.symm
  | bindRejected => exact hoffers.unbound_iff.symm
  | _ =>
    constructor
    · intro h
      exact h.elim
    · intro h
      rcases hoffers.reason_eq _ h with h | h <;> cases h

/-- Everything a search can come to, if the directory fails with its own faults only: the deadline
cannot be compared with the clock, the search account is refused, or the search is sent and one of
the candidates that it reports is chosen. -/
inductive Finding (config : DirectoryConfig) (c : Connector) (username : String)
    (deadline : Option Deadline) (w : World) : Except Fault Resolution × World → Prop
  | unreckoned {fault : Fault} {w' : World} :
      deadlineExpired deadline w.clocks.steady = .error fault → w.sent w' = [] →
      (∀ reason, ¬ AccountRefused config c deadline w reason) →
      w'.ambiguities = w.ambiguities → Finding config c username deadline w (.error fault, w')
  | refused {es : List Exchange} {reason : DenialReason} {w' : World} :
      c.Refuses config.searchBindDn config.searchBindPassword deadline w reason es →
      w.sent w' = es → (∀ other, AccountRefused config c deadline w other ↔ reason = other) →
      w'.ambiguities = w.ambiguities → Finding config c username deadline w (.ok (.error reason), w')
  | searched {es : List Exchange} {f : Exchange} {r : Resolution} {w' : World} :
      Searches config c username deadline w f es → w.sent w' = es →
      (∀ reason, ¬ AccountRefused config c deadline w reason) → Chosen (reported f) r →
      w'.ambiguities = w.ambiguities ++ ambiguityLog username (reported f) →
      Finding config c username deadline w (.ok r, w')

theorem Searches.exchange_eq (h : Searches config c username deadline w f es) :
    ∃ v, f = World.exchange v c.directory w.nextConnection
      (.search config.userBaseDn (config.userFilter username) config.usernameAttributes) := by
  cases h with
  | bound _ hf _ => exact ⟨_, hf⟩

theorem searchFor_finding (hd : c.directory.FailsAlone) (config : DirectoryConfig)
    (username : String) (deadline : Option Deadline) (w : World) :
    Finding config c username deadline w (searchFor config c username deadline w) := by
  have hinquiry := inquire_inquiry config c username deadline w
  have hquiet := inquire_ambiguities config c username deadline w
  have hrefused := accountRefused_iff hd config username deadline w
  rw [searchFor_apply]
  generalize inquire config c username deadline w = out at hinquiry hquiet hrefused ⊢
  cases hinquiry with
  | aborted ha _ hw =>
    obtain ⟨rfl, hdeadline⟩ := ha.unreckoned_of_failsAlone hd
    refine .unreckoned hdeadline (by rw [hw, World.sent_note, World.sent_pushAll])
      (fun reason h => ?_) hquiet
    cases (hrefused reason).1 h
  | unbound hr _ hw =>
    refine .refused hr (by rw [hw, World.sent_note, World.sent_pushAll]) (fun other => ?_) hquiet
    rw [hrefused other]
    simp
  | interrupted hs hlast hi _ _ =>
    obtain ⟨v, n, hq⟩ := hs.unbinds_last hlast
    cases hi.symm.trans (hd.unbindOutcome_eq hq)
  | @searched es log f s session w' hsearches _ hw =>
    have hsent : w.sent w' = es := by rw [hw, World.sent_note, World.sent_pushAll]
    have hnot (reason : DenialReason) : ¬ AccountRefused config c deadline w reason := by
      intro h
      cases (hrefused reason).1 h
    cases hout : f.reply.outcome with
    | error fault =>
      obtain ⟨v, hf⟩ := hsearches.exchange_eq
      have hown := hd.isDirectory_eq hf (by simp) hout
      have hnone : reported f = [] := reported_of_ne_ok (by simp [hout])
      simp only [searchOutcome, hout, hown, if_true]
      refine .searched hsearches hsent hnot (hnone ▸ .none) ?_
      rw [hnone]
      simpa [ambiguityLog] using hquiet
    | ok found =>
      have hfound : searchOutcome f = .ok (.ok (reported f)) := by
        cases found <;> simp only [searchOutcome, reported, hout]
      obtain ⟨r, log', -, hchoose, hchosen⟩ := choose_apply username (empty_notMem_reported (f := f)) w'
      have hlogged := choose_ambiguities username (reported f) w'
      rw [hquiet] at hlogged
      simp only [hfound]
      rw [hchoose] at hlogged ⊢
      exact .searched hsearches hsent hnot hchosen hlogged

/-! ## What the exchanges of a search show -/

/-- The directory accepted a bind with the name and the password of the search account. -/
def AccountBound (config : DirectoryConfig) (es : List Exchange) : Prop :=
  ∃ b ∈ es, b.reply.outcome = .ok true ∧ ∃ account bytes, b.request = .bind account bytes ∧
    Connector.Submits config.searchBindDn config.searchBindPassword account bytes

/-- The search for a login name. -/
def searchRequest (config : DirectoryConfig) (username : String) : Request :=
  .search config.userBaseDn (config.userFilter username) config.usernameAttributes

/-- The search for a login name was sent and answered as `P` says. -/
def Searched (config : DirectoryConfig) (username : String) (es : List Exchange)
    (P : Reply → Prop) : Prop :=
  ∃ f ∈ es, f.request = searchRequest config username ∧ P f.reply

/-- A search comes after the accepted bind of the search account, is for the login name, and is the
only one. -/
def OnlySearch (config : DirectoryConfig) (username : String) (pre : List Exchange) (f : Exchange)
    (post : List Exchange) : Prop :=
  f.request.isSearch = true → f.request = searchRequest config username ∧
    AccountBound config pre ∧ ∀ e ∈ pre ++ post, e.request.isSearch = false

/-- The search for a login name succeeded, with these candidates in its response. -/
def Finds (config : DirectoryConfig) (username : String) (es : List Exchange)
    (dns : List String) : Prop :=
  Searched config username es fun reply => reply.outcome = .ok true ∧ Candidates reply.response dns

/-- A search account that is refused was not bound. -/
theorem not_accountBound_of_refuses
    (h : c.Refuses config.searchBindDn config.searchBindPassword deadline w reason es) :
    ¬ AccountBound config es := by
  rintro ⟨b, hb, hok, account, bytes, hreq, -⟩
  exact h.not_isAcceptedBind b hb ⟨by rw [hreq]; rfl, hok⟩

/-- Before a search there are the opening of the connection and the accepted bind, and after it the
unbinding. -/
theorem Searches.split (h : Searches config c username deadline w f es) :
    ∃ pre q, es = pre ++ [f, q] ∧ AccountBound config pre ∧ q.request = .unbind ∧
      ∀ e ∈ pre, e.request.isSearch = false := by
  cases h with
  | @bound op b q hb hf hq =>
    obtain ⟨account, bytes, hsubmits, hbind⟩ := hb.submits
    have hreq : b.request = .bind account bytes := by rw [hbind]; rfl
    refine ⟨op ++ [b], q, by simp, ⟨b, by simp, hb.accepted, account, bytes, hreq, hsubmits⟩,
      by rw [hq]; rfl, ?_⟩
    intro e he
    obtain he | rfl : e ∈ op ∨ e = b := by simpa using he
    · exact hb.opens.opens.isSearch_eq he
    · rw [hreq]
      rfl

theorem Searches.request_eq (h : Searches config c username deadline w f es) :
    f.request = searchRequest config username := by
  obtain ⟨v, hf⟩ := h.exchange_eq
  rw [hf]
  rfl

/-- A search sends no other search. -/
theorem Searches.eq_of_isSearch (h : Searches config c username deadline w f es) {e : Exchange}
    (he : e ∈ es) (hs : e.request.isSearch = true) : e = f := by
  obtain ⟨pre, q, rfl, -, hq, hpre⟩ := h.split
  obtain he | rfl | rfl : e ∈ pre ∨ e = f ∨ e = q := by simpa using he
  · rw [hpre e he] at hs
    cases hs
  · rfl
  · rw [hq] at hs
    cases hs

theorem Searches.accountBound (h : Searches config c username deadline w f es) :
    AccountBound config es := by
  obtain ⟨pre, q, rfl, ⟨b, hb, haccepted⟩, -⟩ := h.split
  exact ⟨b, by simp [hb], haccepted⟩

theorem Searches.searched_iff (h : Searches config c username deadline w f es) {P : Reply → Prop} :
    Searched config username es P ↔ P f.reply := by
  constructor
  · rintro ⟨e, he, hreq, hp⟩
    obtain rfl := h.eq_of_isSearch he (by rw [hreq]; rfl)
    exact hp
  · intro hp
    obtain ⟨pre, q, rfl, -⟩ := h.split
    exact ⟨f, by simp, h.request_eq, hp⟩

/-- If a search finds anything, that is what is reported. -/
theorem Searches.finds_iff (h : Searches config c username deadline w f es) (hne : dns ≠ []) :
    Finds config username es dns ↔ reported f = dns := by
  rw [Finds, h.searched_iff, candidates_iff]
  by_cases hok : f.reply.outcome = .ok true
  · simp [hok, reported_of_ok hok]
  · simp [hok, reported_of_ne_ok hok, hne.symm]

theorem Searches.finds_nothing_iff (h : Searches config c username deadline w f es) :
    (Searched config username es fun reply =>
      reply.outcome = .ok true → Candidates reply.response []) ↔ reported f = [] := by
  rw [h.searched_iff, candidates_iff]
  by_cases hok : f.reply.outcome = .ok true
  · simp [hok, reported_of_ok hok]
  · simp [hok, reported_of_ne_ok hok]

/-! ## A search never guesses -/

/-- The result of resolving a login name by a search, in terms of what was sent and answered. -/
structure NeverGuesses (config : DirectoryConfig) (c : Connector) (username : String)
    (deadline : Option Deadline) (w : World) (out : Except Fault Resolution × World) : Prop where
  /-- An identity is named exactly if the response holds one candidate, and it is that one. -/
  found_iff : ∀ identity, out.1 = .ok (.ok identity) ↔
    AccountBound config (w.sent out.2) ∧ Finds config username (w.sent out.2) [identity.dn]
  ambiguous_iff : out.1 = .ok (.error .identityAmbiguous) ↔
    AccountBound config (w.sent out.2) ∧
      ∃ dns, 2 ≤ dns.length ∧ Finds config username (w.sent out.2) dns
  /-- The search failed, or reported no success, or gave no candidate. -/
  unresolved_iff : out.1 = .ok (.error .identityUnresolved) ↔
    AccountBound config (w.sent out.2) ∧ Searched config username (w.sent out.2) fun reply =>
      reply.outcome = .ok true → Candidates reply.response []
  /-- Every other reason is the one for which the search account is not bound. -/
  refused_iff : ∀ reason, reason ≠ .identityUnresolved → reason ≠ .identityAmbiguous →
    (out.1 = .ok (.error reason) ↔ AccountRefused config c deadline w reason)
  unsearched : ∀ reason, AccountRefused config c deadline w reason →
    ∀ e ∈ w.sent out.2, e.request.isSearch = false
  /-- There is no result only if the deadline cannot be compared with the clock. -/
  fails_iff : ∀ fault, out.1 = .error fault ↔
    deadlineExpired deadline w.clocks.steady = .error fault
  /-- Several candidates are logged, all of them and in their order, once and as a warning. -/
  warned : ∀ dns, 2 ≤ dns.length → Finds config username (w.sent out.2) dns →
    out.2.ambiguities = w.ambiguities ++ [.identityAmbiguous username dns] ∧
      (LogRecord.identityAmbiguous username dns).level = .warning
  unwarned : out.1 ≠ .ok (.error .identityAmbiguous) → out.2.ambiguities = w.ambiguities
  /-- There is one search at most: the one for the login name, after the accepted bind. -/
  searches_once : Throughout (OnlySearch config username) (w.sent out.2)
  /-- The connection of the search is unbound, once, and nothing is sent on it afterwards. -/
  released : UnbindsAll (w.sent out.2) ∧ OneAtATime (w.sent out.2)

/-- A deadline that cannot be compared with the clock ends a search before it begins. -/
theorem searchFor_of_unreckoned (config : DirectoryConfig) (c : Connector) (username : String)
    (fault : Fault) (h : deadlineExpired deadline w.clocks.steady = .error fault) :
    searchFor config c username deadline w = (.error fault, w) := by
  have hconnect : c.connect deadline w = (.error fault, w) := by
    simp [Connector.connect, Run.bind_apply, h]
  simp [searchFor_apply, inquire, Connector.openBound, hconnect]

theorem Finding.answers {out : Except Fault Resolution × World}
    (h : Finding config c username deadline w out) : w.Answers c.directory (w.sent out.2) := by
  cases h with
  | unreckoned _ hsent _ _ =>
    rw [hsent]
    trivial
  | refused hr hsent _ _ =>
    rw [hsent]
    exact hr.errand.answered
  | searched hs hsent _ _ _ =>
    rw [hsent]
    exact hs.errand.answered

/-- Whatever a search comes to, its connection is released: what would leave it open is a fault of
another kind than the directory's own. -/
theorem Finding.released {out : Except Fault Resolution × World}
    (h : Finding config c username deadline w out) (hd : c.directory.FailsAlone)
    (htidy : Leaves c deadline w out) : UnbindsAll (w.sent out.2) ∧ OneAtATime (w.sent out.2) := by
  have hfree := hd.not_interrupts h.answers
  obtain ⟨l, hcourse, ⟨hheld, -⟩ | ⟨u, fault, hu, -, hfault, -⟩⟩ := htidy.course
  · exact ⟨hcourse.unbindsAll_iff.2 hheld,
      hcourse.disciplined.oneAtATime fun _ q hq _ => hfree q hq⟩
  · cases h with
    | unreckoned _ hsent _ _ =>
      rw [hsent] at hu
      cases hu
    | refused _ _ _ _ => cases hfault
    | searched _ _ _ _ _ => cases hfault

theorem Searches.onlySearch (h : Searches config c username deadline w f es) :
    Throughout (OnlySearch config username) es := by
  have hreq := h.request_eq
  obtain ⟨pre, q, rfl, hbound, hq, hpre⟩ := h.split
  refine throughout_append.2 ⟨?_, ?_⟩
  · intro before e after hsplit hsearch
    rw [hpre e (by simp [hsplit])] at hsearch
    cases hsearch
  · show Throughout _ ([f] ++ [q])
    refine throughout_append.2 ⟨throughout_singleton.2 ?_, throughout_singleton.2 ?_⟩
    · intro _
      refine ⟨hreq, by simpa using hbound, fun e he => ?_⟩
      obtain he | rfl : e ∈ pre ∨ e = q := by simpa using he
      · exact hpre e he
      · rw [hq]
        rfl
    · intro hsearch
      rw [hq] at hsearch
      cases hsearch

/-- Without a search there is no identity and no ambiguity, and nothing is said of one. -/
theorem neverGuesses_of_unsearched {r : Except Fault Resolution}
    (hr : ∀ identity, r ≠ .ok (.ok identity))
    (hunbound : ¬ AccountBound config (w.sent w'))
    (hunsearched : ∀ e ∈ w.sent w', e.request.isSearch = false)
    (hrefused : ∀ reason, r = .ok (.error reason) ↔ AccountRefused config c deadline w reason)
    (hfails : ∀ fault, r = .error fault ↔ deadlineExpired deadline w.clocks.steady = .error fault)
    (hquiet : w'.ambiguities = w.ambiguities)
    (hreleased : UnbindsAll (w.sent w') ∧ OneAtATime (w.sent w')) :
    NeverGuesses config c username deadline w (r, w') where
  found_iff identity := by
    constructor
    · exact fun h => (hr identity h).elim
    · exact fun h => (hunbound h.1).elim
  ambiguous_iff := by
    constructor
    · exact fun h => ((hrefused .identityAmbiguous).1 h).elim
    · exact fun h => (hunbound h.1).elim
  unresolved_iff := by
    constructor
    · exact fun h => ((hrefused .identityUnresolved).1 h).elim
    · exact fun h => (hunbound h.1).elim
  refused_iff reason _ _ := hrefused reason
  unsearched _ _ := hunsearched
  fails_iff := hfails
  warned dns _ hfinds := by
    obtain ⟨f, hf, hreq, -⟩ := hfinds
    have hsearch := hunsearched f hf
    rw [hreq] at hsearch
    cases hsearch
  unwarned _ := hquiet
  searches_once pre f post hsplit hsearch := by
    rw [hunsearched f (by simp [hsplit])] at hsearch
    cases hsearch
  released := hreleased

/-- With a search, what it reports decides. -/
theorem Searches.neverGuesses {r : Resolution} (h : Searches config c username deadline w f es)
    (hsent : w.sent w' = es) (hnot : ∀ reason, ¬ AccountRefused config c deadline w reason)
    (hreckoned : ∀ fault, deadlineExpired deadline w.clocks.steady ≠ .error fault)
    (hchosen : Chosen (reported f) r)
    (hlogged : w'.ambiguities = w.ambiguities ++ ambiguityLog username (reported f))
    (hreleased : UnbindsAll (w.sent w') ∧ OneAtATime (w.sent w')) :
    NeverGuesses config c username deadline w (.ok r, w') where
  found_iff identity := by
    show Except.ok r = _ ↔ AccountBound config (w.sent w') ∧ _
    rw [Except.ok.injEq, hchosen.found_iff, hsent, h.finds_iff (by simp)]
    exact (and_iff_right h.accountBound).symm
  ambiguous_iff := by
    show Except.ok r = _ ↔ AccountBound config (w.sent w') ∧ _
    rw [Except.ok.injEq, hchosen.ambiguous_iff, hsent, and_iff_right h.accountBound]
    constructor
    · intro hlen
      refine ⟨reported f, hlen, (h.finds_iff ?_).2 rfl⟩
      exact List.ne_nil_of_length_pos (by omega)
    · rintro ⟨dns, hlen, hfinds⟩
      rw [(h.finds_iff (List.ne_nil_of_length_pos (by omega))).1 hfinds]
      exact hlen
  unresolved_iff := by
    show Except.ok r = _ ↔ AccountBound config (w.sent w') ∧ _
    rw [Except.ok.injEq, hchosen.unresolved_iff, hsent, and_iff_right h.accountBound]
    exact h.finds_nothing_iff.symm
  refused_iff reason hunresolved hambiguous := by
    constructor
    · intro hr
      obtain rfl : r = .error reason := Except.ok.inj hr
      rcases hchosen.reason_eq with h | h
      · exact (hunresolved h).elim
      · exact (hambiguous h).elim
    · exact fun hr => (hnot reason hr).elim
  unsearched reason hr := (hnot reason hr).elim
  fails_iff fault := by
    constructor
    · rintro ⟨⟩
    · exact fun hdeadline => (hreckoned fault hdeadline).elim
  warned dns hlen hfinds := by
    rw [hsent] at hfinds
    have hreported := (h.finds_iff (List.ne_nil_of_length_pos (by omega))).1 hfinds
    refine ⟨hlogged.trans ?_, rfl⟩
    rw [hreported, ambiguityLog, if_pos hlen]
  unwarned hr := by
    have hlen : ¬ 2 ≤ (reported f).length := by
      intro hlen
      exact hr (congrArg Except.ok (hchosen.ambiguous_iff.2 hlen))
    refine hlogged.trans ?_
    rw [ambiguityLog, if_neg hlen, List.append_nil]
  searches_once := by
    rw [hsent]
    exact h.onlySearch
  released := hreleased

/-- Whatever a directory answers that fails with its own faults only, and whatever login name that
is not empty is searched for, the search never guesses. -/
theorem resolve_neverGuesses (config : DirectoryConfig) (c : Connector)
    (hd : c.directory.FailsAlone) {username : String} (hname : username ≠ "")
    (deadline : Option Deadline) (w : World) :
    NeverGuesses config c username deadline w
      ((search config c).resolve username deadline w) := by
  have hresolve : (search config c).resolve username deadline = searchFor config c username deadline := by
    simp [resolve, hname]
  have hfinding := searchFor_finding hd config username deadline w
  have hreleased := hfinding.released hd (searchFor_tidy config c username deadline w)
  have hunreckoned (fault : Fault) (h : deadlineExpired deadline w.clocks.steady = .error fault) :=
    searchFor_of_unreckoned config c username fault h
  rw [hresolve]
  generalize searchFor config c username deadline w = out at hfinding hreleased hunreckoned ⊢
  cases hfinding with
  | @unreckoned fault w' hdeadline hsent hnot hquiet =>
    refine neverGuesses_of_unsearched (fun identity => by simp) ?_ ?_ ?_ ?_ hquiet hreleased
    · rw [hsent]
      rintro ⟨b, hb, -⟩
      cases hb
    · rw [hsent]
      intro e he
      cases he
    · intro reason
      exact ⟨(by cases ·), fun h => (hnot reason h).elim⟩
    · intro other
      rw [hdeadline]
      simp
  | @refused es reason w' hr hsent hiff hquiet =>
    refine neverGuesses_of_unsearched (fun identity => by simp) ?_ ?_ ?_ ?_ hquiet hreleased
    · rw [hsent]
      exact not_accountBound_of_refuses hr
    · rw [hsent]
      exact fun e he => hr.isSearch_eq he
    · intro other
      rw [hiff other]
      simp
    · intro fault
      exact ⟨(by cases ·), fun h => by cases hunreckoned _ h⟩
  | searched hs hsent hnot hchosen hlogged =>
    exact hs.neverGuesses hsent hnot (fun fault h => by cases hunreckoned _ h) hchosen hlogged hreleased

end Resolver

/-! ## Two entries with one name -/

namespace Sample

/-- A directory that finds two entries with the same name, and a reference between them. -/
def twinDirectory : Directory := fun _ clocks _ _ =>
  ⟨.ok true, none, [⟨some "searchResEntry", some "uid=ann,o=org"⟩, ⟨some "searchResRef", none⟩,
    ⟨some "searchResEntry", some "uid=ann,o=org"⟩], clocks⟩

theorem twinDirectory_failsAlone : twinDirectory.FailsAlone := by
  constructor <;> intros <;> contradiction

/-- The connector of the sample configuration with that directory. -/
def twinConnector : Connector := { authenticator.connector with directory := twinDirectory }

/-- The run of a search with that directory. -/
def twinSearch : Except Fault Resolution × World :=
  (Resolver.search config.directory twinConnector).resolve "ann" none (World.start clocks)

end Sample

/-- Two entries with the same name are ambiguous, and both names are logged. -/
theorem Resolver.ambiguous_of_twins :
    Sample.twinSearch.1 = .ok (.error .identityAmbiguous) ∧
      Sample.twinSearch.2.ambiguities =
        [.identityAmbiguous "ann" ["uid=ann,o=org", "uid=ann,o=org"]] := by
  have h : Resolver.NeverGuesses _ _ _ _ _ Sample.twinSearch :=
    Resolver.resolve_neverGuesses Sample.config.directory Sample.twinConnector
      Sample.twinDirectory_failsAlone (show "ann" ≠ "" by simp) none (World.start Sample.clocks)
  have hbound : AccountBound Sample.config.directory
      ((World.start Sample.clocks).sent Sample.twinSearch.2) :=
    ⟨_, List.mem_of_getElem? (i := 2) rfl, rfl, "cn=search", [112, 119], rfl, rfl, by decide,
      [112, 119], rfl, by decide, rfl⟩
  have hfinds : Finds Sample.config.directory "ann"
      ((World.start Sample.clocks).sent Sample.twinSearch.2) ["uid=ann,o=org", "uid=ann,o=org"] := by
    refine ⟨_, List.mem_of_getElem? (i := 3) rfl, rfl, rfl, ?_⟩
    exact .entry rfl rfl (by decide) (.other (.inl (by decide)) (.entry rfl rfl (by decide) .nil))
  exact ⟨h.ambiguous_iff.2 ⟨hbound, _, by simp, hfinds⟩, (h.warned _ (by simp) hfinds).1⟩

end TwoFactorLogin
