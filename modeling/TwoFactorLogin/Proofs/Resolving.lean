import TwoFactorLogin.Directory.Resolver
import TwoFactorLogin.Proofs.Visiting

/-!
# What resolving a login name comes to

`Yields` says by which exchanges a resolver arrives at one name: a derived name takes none; a
searched one takes an errand of the search account, whose search finds that entry and no other.

* `deriveDn_ne_empty`: a login name that is not empty always derives a name that is not empty.
* `resolve_resolving`: resolving yields one name, or none for a reason, or lets a fault through.
-/

namespace TwoFactorLogin

/-! ## Derived names -/

theorem escapeSpecials_ne_nil {cs : List Char} (h : cs ≠ []) : escapeSpecials cs ≠ [] := by
  cases cs with
  | nil => exact absurd rfl h
  | cons c cs =>
    rw [escapeSpecials, List.flatMap_cons]
    split <;> simp

theorem guardFirst_ne_nil {cs : List Char} (h : cs ≠ []) : guardFirst cs ≠ [] := by
  cases cs with
  | nil => exact absurd rfl h
  | cons c cs =>
    rw [guardFirst]
    split <;> simp

theorem guardLast_ne_nil {cs : List Char} (h : cs ≠ []) : guardLast cs ≠ [] := by
  rw [guardLast]
  split
  · simp
  · exact h

theorem substitute_ne_nil {word replacement text : List Char} (ht : text ≠ [])
    (hr : replacement ≠ []) : Text.substitute word replacement text ≠ [] := by
  cases text with
  | nil => exact absurd rfl ht
  | cons c cs =>
    rw [Text.substitute, Text.substituteFrom]
    split
    · exact List.append_ne_nil_of_left_ne_nil hr _
    · simp

/-- A login name that is not empty derives a name, and never an empty one. -/
theorem DirectoryConfig.deriveDn_ne_empty (config : DirectoryConfig) {username : String}
    (h : username ≠ "") : ∃ dn, config.deriveDn username = .ok dn ∧ dn ≠ "" := by
  have hcs : username.toList ≠ [] := fun h' => h (String.toList_eq_nil_iff.1 h')
  have he := guardLast_ne_nil (guardFirst_ne_nil (escapeSpecials_ne_nil hcs))
  refine ⟨_, by rw [deriveDn, escapeName, if_neg (by simpa using hcs)]; rfl, ?_⟩
  unfold dnAround
  split
  · rename_i template ht
    have htl : template.toList ≠ [] := by
      have := (Option.filter_eq_some_iff.1 ht).2
      simpa using this
    simpa using substitute_ne_nil htl he
  · simp

namespace Resolver

/-- The exchanges by which a resolver arrives at one name, on connection `n` if it needs any. -/
inductive Yields (username : String) (n : Nat) (dn : String) : Resolver → List Exchange → Prop
  | derived {config : DirectoryConfig} : config.deriveDn username = .ok dn →
      Yields username n dn (.template config) []
  | searched {config : DirectoryConfig} {c : Connector} {es : List Exchange} {account : String}
      {bytes : List UInt8} {b f q : Exchange} :
      c.Opens n es → Connector.Submits config.searchBindDn config.searchBindPassword account bytes →
      b.connection = n → b.request = .bind account bytes → b.reply.outcome = .ok true →
      f.connection = n →
      f.request =
        .search config.userBaseDn (config.userFilter username) config.usernameAttributes →
      f.reply.outcome = .ok true → entryNames f.reply.response = [dn] →
      q.connection = n → q.request = .unbind →
      Yields username n dn (.search config c) (es ++ [b, f, q])

/-- What resolving may send: a search is an errand of the search account. -/
def Errand : Resolver → World → List Exchange → Prop
  | template _, _, es => es = []
  | search config c, w, es => c.Errand config.searchBindDn config.searchBindPassword w es

theorem Errand.nil {r : Resolver} {w : World} : r.Errand w [] := by
  cases r with
  | template config => rfl
  | search config c => exact Connector.Errand.nil

@[simp] theorem errand_note {r : Resolver} {w : World} {es : List Exchange} (log : List LogRecord) :
    r.Errand (w.note log) es ↔ r.Errand w es := by
  cases r with
  | template config => rfl
  | search config c => exact Connector.errand_note log

/-- Resolving uses no connection that is opened after it. -/
theorem Errand.connection_lt {r : Resolver} {w : World} {es : List Exchange} (h : r.Errand w es)
    {e : Exchange} (he : e ∈ es) : e.connection < (w.pushAll es).nextConnection := by
  cases r with
  | template config =>
    obtain rfl : es = [] := h
    simp at he
  | search config c => exact (Connector.Errand.connection_lt h he).2

/-- Where a fault of resolving can come from. -/
def Strays : Resolver → Option Deadline → World → Fault → Prop
  | template _, _, _, _ => False
  | search _ c, deadline, w, fault => c.Strays deadline w fault

/-- What resolving comes to. -/
inductive Resolving (r : Resolver) (username : String) (deadline : Option Deadline) (w : World) :
    Except Fault Resolution × World → Prop
  | found {es : List Exchange} {log : List LogRecord} {identity : DirectoryIdentity} {w' : World} :
      r.Errand w es → r.Yields username w.nextConnection identity.dn es →
      w' = (w.pushAll es).note log → Resolving r username deadline w (.ok (.ok identity), w')
  | unresolved {es : List Exchange} {log : List LogRecord} {reason : DenialReason} {w' : World} :
      r.Errand w es → w' = (w.pushAll es).note log →
      Resolving r username deadline w (.ok (.error reason), w')
  | escaped {es : List Exchange} {log : List LogRecord} {fault : Fault} {w' : World} :
      r.Errand w es → r.Strays deadline w fault → w' = (w.pushAll es).note log →
      Resolving r username deadline w (.error fault, w')

variable {w : World} {n : Nat} {s : Session}

theorem resolving_template (config : DirectoryConfig) {username : String} (h : username ≠ "")
    (deadline : Option Deadline) (w : World) :
    Resolving (.template config) username deadline w
      (derive config username w) := by
  obtain ⟨dn, hdn, hne⟩ := config.deriveDn_ne_empty h
  have hid : DirectoryIdentity.ofText dn = .ok ⟨dn, hne⟩ := by
    rw [DirectoryIdentity.ofText, dif_neg hne]
  simp only [derive, Run.bind_apply, Run.ofExcept_apply, hdn, World.record_apply, hid]
  exact .found rfl (.derived hdn) rfl

/-! ## Searched names -/

/-- What the exchange of a search comes to. -/
def searchOutcome (f : Exchange) : Except Fault (Except DenialReason (List String)) :=
  match f.reply.outcome with
  | .error fault =>
    if fault.kind.isDirectory then .ok (.error .identityUnresolved) else .error fault
  | .ok false => .ok (.ok [])
  | .ok true => .ok (.ok (entryNames f.reply.response))

theorem searchBound_apply (config : DirectoryConfig) (username : String) {directory : Directory}
    {f : Exchange} (hs : s.connection = some n)
    (hf : f = w.exchange directory n
      (.search config.userBaseDn (config.userFilter username) config.usernameAttributes)) :
    ∃ log, Background log ∧ searchBound config directory username (s, w) =
      (searchOutcome f, s, (w.push f).note log) := by
  have hplain : (w.push f).note [] = w.push f := World.note_nil
  simp only [searchBound, findUserDns, Run.bind_apply, Run.attempt_apply, Run.read_apply, hs,
    Run.onSecond_apply, World.send_apply, ← hf, searchOutcome]
  cases hr : f.reply.outcome with
  | error fault =>
    cases hk : fault.kind.isDirectory with
    | true =>
      refine ⟨[.userSearchFailed username config.userBaseDn fault.message], rfl, ?_⟩
      simp [hk, Run.bind_apply]
    | false => exact ⟨[], rfl, by simp [hk]⟩
  | ok found => cases found <;> exact ⟨[], rfl, by rw [hplain]; rfl⟩

/-- What is chosen among the names found: there is an identity exactly if there is one name. -/
inductive Chosen : List String → Resolution → Prop
  | none : Chosen [] (.error .identityUnresolved)
  | one {identity : DirectoryIdentity} : Chosen [identity.dn] (.ok identity)
  | several {dns : List String} : 2 ≤ dns.length → Chosen dns (.error .identityAmbiguous)

theorem choose_apply (username : String) {dns : List String} (h : "" ∉ dns) (w : World) :
    ∃ r log, Background log ∧ choose username dns w = (.ok r, w.note log) ∧ Chosen dns r := by
  match dns with
  | [] => exact ⟨_, _, by rfl, rfl, .none⟩
  | [dn] =>
    have hne : dn ≠ "" := fun hdn => h (by simp [hdn])
    have hid : DirectoryIdentity.ofText dn = .ok ⟨dn, hne⟩ := by
      rw [DirectoryIdentity.ofText, dif_neg hne]
    refine ⟨.ok ⟨dn, hne⟩, [.identityResolved username dn], rfl, ?_, @Chosen.one ⟨dn, hne⟩⟩
    simp only [choose, Run.bind_apply, World.record_apply, Run.ofExcept_apply, hid]
    rfl
  | dn :: dn' :: dns => exact ⟨_, _, by rfl, rfl, .several (by simp)⟩

theorem empty_notMem_entryNames (items : List SearchItem) : "" ∉ entryNames items := by
  intro h
  obtain ⟨item, -, hi⟩ := List.mem_filterMap.1 h
  split at hi
  · have := (Option.filter_eq_some_iff.1 hi).2
    simp at this
  · cases hi

theorem outcome_of_searchOutcome {f : Exchange} {fault : Fault}
    (h : searchOutcome f = .error fault) :
    f.reply.outcome = .error fault ∧ fault.kind.isDirectory = false := by
  unfold searchOutcome at h
  rcases hr : f.reply.outcome with fault' | _ | _
  · by_cases hk : fault'.kind.isDirectory = true
    · simp [hr, hk] at h
    · obtain rfl : fault' = fault := by simpa [hr, hk] using h
      exact ⟨rfl, by simpa using hk⟩
  · simp [hr] at h
  · simp [hr] at h

theorem empty_notMem_searchOutcome {f : Exchange} {dns : List String}
    (h : searchOutcome f = .ok (.ok dns)) : "" ∉ dns := by
  unfold searchOutcome at h
  rcases hr : f.reply.outcome with fault | _ | _
  · by_cases hk : fault.kind.isDirectory = true <;> simp [hr, hk] at h
  · obtain rfl : [] = dns := by simpa [hr] using h
    simp
  · obtain rfl : entryNames f.reply.response = dns := by simpa [hr] using h
    exact empty_notMem_entryNames _

theorem entryNames_of_searchOutcome {f : Exchange} {dns : List String} {dn : String}
    (h : searchOutcome f = .ok (.ok dns)) (hdns : dns = [dn]) :
    f.reply.outcome = .ok true ∧ entryNames f.reply.response = [dn] := by
  unfold searchOutcome at h
  rcases hr : f.reply.outcome with fault | _ | _
  · by_cases hk : fault.kind.isDirectory = true <;> simp [hr, hk] at h
  · simp [hr, hdns] at h
  · exact ⟨rfl, by simpa [hr, hdns] using h⟩

theorem resolving_search (config : DirectoryConfig) (c : Connector) (username : String)
    (deadline : Option Deadline) (w : World) :
    Resolving (.search config c) username deadline w
      (searchFor config c username deadline w) := by
  simp only [searchFor, Run.bind_apply, Lease.toRun]
  generalize hrefused : (fun reason => do
    World.record (.searchBindFailed config.searchBindDn reason)
    return .error reason : DenialReason → Run World (Except DenialReason (List String))) = refused
  have hv := c.openBound_visit config.searchBindDn config.searchBindPassword deadline refused w
  generalize hrun : (fun granted => c.openBound config.searchBindDn config.searchBindPassword
    deadline refused granted w) = run at hv
  rw [congrFun hrun (searchBound config c.directory username)]
  cases hv with
  | escaped he _ hs hw => exact .escaped he hs hw
  | @refused es log _ w' reason he _ hw =>
    subst hrefused hw
    exact .unresolved he (World.note_note _ _)
  | @granted es account bytes b s log w' ho hs hb hok hopen hw =>
    generalize hf : w'.exchange c.directory w.nextConnection (.search config.userBaseDn
      (config.userFilter username) config.usernameAttributes) = f
    obtain ⟨log', -, hsearch⟩ := searchBound_apply config username hopen.connection_eq hf.symm
    generalize hq : ((w'.push f).note log').exchange c.directory w.nextConnection .unbind = q
    simp only [hsearch, Connector.release_of_open hopen hq.symm]
    subst hw
    have hrow (log'' : List LogRecord) :
        (((((w.pushAll (es ++ [b])).note log).push f).note log').push q).note log'' =
          (w.pushAll (es ++ [b, f, q])).note (log ++ log' ++ log'') := by
      simp
    have he : c.Errand config.searchBindDn config.searchBindPassword w (es ++ [b, f, q]) := by
      have hbf := (ho.errand_bind hs hb).onward (by simp) hf.symm rfl
      have hbfq := hbf.onward (by simp) (by simpa using hq.symm) rfl
      simpa using hbfq
    rw [hrow]
    cases hu : q.unbindOutcome with
    | error fault =>
      rw [q.ending_of_error hu]
      exact .escaped he (Connector.Strays.of_interruption hq.symm hu) rfl
    | ok _ =>
      rw [q.ending_of_ok hu]
      cases hfo : searchOutcome f with
      | error fault =>
        obtain ⟨hfault, hk⟩ := outcome_of_searchOutcome hfo
        exact .escaped he (.of_reply hf.symm hfault hk) rfl
      | ok found =>
        cases found with
        | error reason => exact .unresolved he rfl
        | ok dns =>
          obtain ⟨r, log'', -, hchoose, hchosen⟩ :=
            choose_apply username (empty_notMem_searchOutcome hfo)
              ((w.pushAll (es ++ [b, f, q])).note (log ++ log' ++ c.closingLog s "disconnect" q))
          simp only [hchoose]
          cases hchosen with
          | none => exact .unresolved he (World.note_note _ _)
          | several _ => exact .unresolved he (World.note_note _ _)
          | one =>
            obtain ⟨hfound, hnames⟩ := entryNames_of_searchOutcome hfo rfl
            refine .found he ?_ (World.note_note _ _)
            exact .searched ho.opens hs (by rw [hb]; rfl) (by rw [hb]; rfl) hok (by rw [← hf]; rfl)
              (by rw [← hf]; rfl) hfound hnames (by rw [← hq]; rfl) (by rw [← hq]; rfl)

/-- What a resolver does is one of the three things listed. -/
theorem resolve_resolving (r : Resolver) (username : String) (deadline : Option Deadline)
    (w : World) : Resolving r username deadline w (r.resolve username deadline w) := by
  by_cases h : username = ""
  · subst h
    cases r with
    | template config => exact .unresolved rfl World.note_nil.symm
    | search config c => exact .unresolved .nil World.note_nil.symm
  · have hu : username.isEmpty = false := by simpa using h
    simp only [resolve, hu]
    cases r with
    | template config => exact resolving_template config h deadline w
    | search config c => exact resolving_search config c username deadline w

end Resolver

end TwoFactorLogin
