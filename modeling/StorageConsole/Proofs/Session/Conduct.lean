import StorageConsole.Client.Command
import StorageConsole.Proofs.Script.Interleaving

namespace StorageConsole

def isExpiry : Http.Reply → Bool
  | .ok _ => false
  | .error failure => failure.isUnauthorized

namespace Interceptor

def logout? : Interceptor → Option Http.Request
  | session timeout => some (Session.logoutRequest timeout)
  | _ => none

def logouts (stack : List Interceptor) : List Http.Request := stack.filterMap logout?

lemma mem_logouts {stack : List Interceptor} {r : Http.Request} :
    r ∈ logouts stack ↔ ∃ timeout, session timeout ∈ stack ∧ r = Session.logoutRequest timeout := by
  constructor
  · intro h
    obtain ⟨i, hi, hr⟩ := List.mem_filterMap.mp h
    cases i with
    | session timeout => exact ⟨timeout, hi, by simpa [logout?] using hr.symm⟩
    | tracing => simp [logout?] at hr
    | observer name => simp [logout?] at hr
  · rintro ⟨timeout, hi, rfl⟩
    exact List.mem_filterMap.mpr ⟨_, hi, rfl⟩

end Interceptor

inductive Phase where
  -- Nothing is sent yet.
  | asking
  -- The call's own request is sent.
  | awaiting
  -- The call's own request is answered, and not by an expiry.
  | answered
  -- The call's own request is refused as unauthorized. While a redirect is `due` the call cannot
  -- end; it may log out where the page that it read last is `off` the authentication flow.
  | expired (due off : Bool)
  | loggingOut
  -- The logout is answered.
  | leaving
  -- A user, who may go to any page.
  | user
  deriving DecidableEq, Repr

namespace Phase

def Final : Phase → Prop
  | asking | answered | user => True
  | expired due _ => due = false
  | awaiting | loggingOut | leaving => False

end Phase

open Phase Script Interceptor

inductive Conduct (stack : List Interceptor) : Protocol Phase
  | silent (φ : Phase) {deed : Deed} : deed.IsSilent → Conduct stack φ deed φ
  | asks (own : Http.Request) : Conduct stack asking (.sends own) awaiting
  | answers {reply : Http.Reply} : isExpiry reply = false →
      Conduct stack awaiting (.hears reply) answered
  | expires {reply : Http.Reply} : isExpiry reply = true →
      Conduct stack awaiting (.hears reply) (expired true false)
  | looks (page : String) : Conduct stack answered (.reads page) answered
  | spares (due off : Bool) {page : String} : isAuthFlow page = true →
      Conduct stack (expired due off) (.reads page) (expired false false)
  | alarms (due off : Bool) {page : String} : isAuthFlow page = false →
      Conduct stack (expired due off) (.reads page) (expired due true)
  | logsOut (due : Bool) {r : Http.Request} : r ∈ logouts stack →
      Conduct stack (expired due true) (.sends r) loggingOut
  | leaves (reply : Http.Reply) : Conduct stack loggingOut (.hears reply) leaving
  | redirects : Conduct stack leaving (.navigates loginPage) (expired false false)
  | goes (path : String) : Conduct stack user (.visits path) user

namespace Interceptor

variable {stack : List Interceptor} {r : Rejection}

lemma react_answered (i : Interceptor) (h : r.failure.isUnauthorized = false) :
    (i.react r).Leads (Conduct stack) (fun _ φ => φ = answered) answered := by
  cases i with
  | tracing => exact ⟨answered, .silent _ trivial, rfl⟩
  | session timeout => simp [react, h, pure_eq, Leads]
  | observer name => exact fun page => ⟨answered, .looks page, answered, .silent _ trivial, rfl⟩

lemma logout_leads {timeout : Nat} (h : session timeout ∈ stack) (due : Bool) :
    (Session.logout timeout).Leads (Conduct stack) (fun _ φ => φ = expired false false)
      (expired due true) := by
  have hlogout : Session.logoutRequest timeout ∈ logouts stack := mem_logouts.mpr ⟨timeout, h, rfl⟩
  simp only [Session.logout, bind_eq, leads_bind, leads_sends]
  refine ⟨loggingOut, .logsOut due hlogout, fun reply => ⟨leaving, .leaves reply, ?_⟩⟩
  cases reply with
  | ok response => exact ⟨expired false false, .redirects, rfl⟩
  | error failure => exact ⟨leaving, .silent _ trivial, expired false false, .redirects, rfl⟩

lemma react_expired {i : Interceptor} (hi : i ∈ stack) (h : r.failure.isUnauthorized = true)
    (due off : Bool) :
    (i.react r).Leads (Conduct stack)
      (fun _ φ => ∃ due' off', φ = expired due' off' ∧
        (due' = true → due = true ∧ i.logout? = none)) (expired due off) := by
  cases i with
  | tracing => exact ⟨_, .silent _ trivial, due, off, rfl, fun hdue => ⟨hdue, rfl⟩⟩
  | observer name =>
    -- The protocol does not tell whose look it is, so a look of an observer counts as well.
    intro page
    cases hpage : isAuthFlow page with
    | true => exact ⟨_, .spares due off hpage, _, .silent _ trivial, false, false, rfl, by simp⟩
    | false =>
      exact ⟨_, .alarms due off hpage, _, .silent _ trivial, due, true, rfl,
        fun hdue => ⟨hdue, rfl⟩⟩
  | session timeout =>
    simp only [react, h, if_true, expire, bind_eq, leads_bind, leads_pageShown]
    intro page
    cases hpage : isAuthFlow page with
    | true => exact ⟨_, .spares due off hpage, _, .silent _ trivial, false, false, rfl, by simp⟩
    | false =>
      refine ⟨_, .alarms due off hpage, _, .silent _ trivial, ?_⟩
      exact (logout_leads hi due).mono fun _ φ hφ => ⟨false, false, hφ, by simp⟩

lemma sequence_answered (h : r.failure.isUnauthorized = false) (l : List Interceptor) :
    (Script.sequence (l.map (·.react r))).Leads (Conduct stack) (fun _ φ => φ = answered)
      answered := by
  induction l with
  | nil => rfl
  | cons i l ih =>
    rw [List.map_cons, Script.sequence, leads_bind]
    refine (react_answered i h).mono ?_
    rintro _ _ rfl
    exact ih

lemma sequence_expired (h : r.failure.isUnauthorized = true) (l : List Interceptor)
    (hl : ∀ i ∈ l, i ∈ stack) (due off : Bool) :
    (Script.sequence (l.map (·.react r))).Leads (Conduct stack)
      (fun _ φ => ∃ due' off', φ = expired due' off' ∧
        (due' = true → due = true ∧ logouts l = [])) (expired due off) := by
  induction l generalizing due off with
  | nil => exact ⟨due, off, rfl, fun hdue => ⟨hdue, rfl⟩⟩
  | cons i l ih =>
    rw [List.map_cons, Script.sequence, leads_bind]
    refine (react_expired (hl i List.mem_cons_self) h due off).mono ?_
    rintro _ _ ⟨due₁, off₁, rfl, h₁⟩
    refine (ih (fun j hj => hl j (List.mem_cons_of_mem i hj)) due₁ off₁).mono ?_
    rintro _ _ ⟨due₂, off₂, rfl, h₂⟩
    refine ⟨due₂, off₂, rfl, fun hdue => ?_⟩
    obtain ⟨hdue₁, hl₁⟩ := h₂ hdue
    obtain ⟨hdue₀, hi⟩ := h₁ hdue₁
    exact ⟨hdue₀, by simpa [logouts, hi] using hl₁⟩

end Interceptor

namespace Client

variable (c : Client)

lemma handOff_answered {stack : List Interceptor} (op : Operation) (response : Http.Response) :
    (handOff op response).Leads (Conduct stack) (fun _ φ => φ = answered) answered := by
  simp only [handOff, bind_eq, pure_eq]
  split
  · rfl
  · rw [leads_bind, leads_saves]
    intro result
    refine ⟨answered, .silent _ trivial, ?_⟩
    cases result with
    | ok u => rfl
    | error fault => exact ⟨answered, .silent _ trivial, rfl⟩

lemma receiveFile_answered {stack : List Interceptor} (op : Operation) (elapsed : Nat)
    (response : Http.Response) :
    (receiveFile op elapsed response).Leads (Conduct stack) (fun _ φ => φ = answered)
      answered := by
  simp only [receiveFile, bind_eq, leads_bind]
  refine (handOff_answered op response).mono ?_
  rintro envelope _ rfl
  cases envelope.success <;> exact ⟨answered, .silent _ trivial, rfl⟩

def Dispatched : Http.Reply → Phase → Prop
  | .ok _, φ => φ = answered
  | .error _, φ => φ.Final

lemma dispatch_leads (hc : logouts c.interceptors ≠ []) (r : Http.Request) :
    (c.dispatch r).Leads (Conduct c.interceptors) Dispatched asking := by
  simp only [dispatch, bind_eq, leads_bind, leads_sends]
  refine ⟨awaiting, .asks r, fun reply => ?_⟩
  cases reply with
  | ok response => exact ⟨answered, .answers rfl, rfl⟩
  | error failure =>
    simp only [leads_bind, reactAll]
    cases hexpiry : failure.isUnauthorized with
    | false =>
      refine ⟨answered, .answers hexpiry, (sequence_answered hexpiry _).mono ?_⟩
      rintro _ _ rfl
      exact trivial
    | true =>
      refine ⟨expired true false, .expires hexpiry,
        (sequence_expired hexpiry _ (by simp) true false).mono ?_⟩
      rintro _ _ ⟨due, off, rfl, hdue⟩
      -- Nothing is due any more, as there is an interceptor for sessions.
      cases due with
      | false => exact rfl
      | true => exact absurd (by simpa [logouts] using (hdue rfl).2) hc

lemma execute_leads (hc : logouts c.interceptors ≠ []) (op : Operation) (r : Http.Request) :
    (c.execute op r).Leads (Conduct c.interceptors) (fun _ φ => φ.Final) asking := by
  simp only [execute, bind_eq, leads_bind, leads_logs]
  refine ⟨asking, .silent _ trivial,
    ((c.dispatch_leads hc r).timed fun φ _ => .silent φ trivial).mono ?_⟩
  rintro ⟨reply, elapsed⟩ φ hφ
  cases reply with
  | error failure => exact ⟨φ, .silent _ trivial, hφ⟩
  | ok response =>
    obtain rfl : φ = answered := hφ
    dsimp only
    split
    · refine (receiveFile_answered op elapsed response).mono ?_
      rintro _ _ rfl
      exact trivial
    · exact ⟨answered, .silent _ trivial, trivial⟩

lemma call_leads (hc : logouts c.interceptors ≠ []) (op : Operation) :
    (c.call op).Leads (Conduct c.interceptors) (fun _ φ => φ.Final) asking := by
  unfold call
  split
  · exact c.execute_leads hc op _
  · exact ⟨asking, .silent _ trivial, trivial⟩

lemma login_leads (hc : logouts c.interceptors ≠ []) (username password : String) :
    (Session.login c username password).Leads (Conduct c.interceptors) (fun _ φ => φ.Final)
      asking := by
  simp only [Session.login, bind_eq, leads_bind]
  refine (c.call_leads hc _).mono fun envelope φ hφ => ?_
  cases envelope.success with
  | false => exact hφ
  | true => exact ⟨φ, .silent _ trivial, hφ⟩

end Client

namespace Command

def IsCall : Command → Prop
  | call _ | login _ _ => True
  | _ => False

def IsVisit : Command → Prop
  | visit _ => True
  | _ => False

def phase : Command → Phase
  | visit _ => user
  | _ => asking

end Command

lemma Client.perform_leads (c : Client) (hc : logouts c.interceptors ≠ []) {command : Command}
    (h : command.IsCall ∨ command.IsVisit) :
    (c.perform command).Leads (Conduct c.interceptors) (fun _ φ => φ.Final) command.phase := by
  cases command with
  | call op =>
    simp only [perform, bind_eq, leads_bind]
    exact c.call_leads hc op
  | login username password =>
    simp only [perform, bind_eq, leads_bind]
    exact c.login_leads hc username password
  | visit path => exact ⟨user, .goes path, trivial⟩
  | logout | authStatus | guard | refused => rcases h with h | h <;> exact h.elim

lemma Client.start_each (c : Client) (hc : logouts c.interceptors ≠ []) {commands : List Command}
    (hcommands : ∀ command ∈ commands, command.IsCall ∨ command.IsVisit) (w : World)
    (fact : Phase → Prop) (hfact : ∀ command ∈ commands, fact command.phase) :
    (InFlight.start (commands.map c.perform) w).Each (Conduct c.interceptors)
      (fun _ φ => φ.Final) fun _ => fact := by
  intro i stage hi
  simp only [InFlight.start, List.map_map, List.getElem?_map, Option.map_eq_some_iff] at hi
  obtain ⟨command, hcommand, rfl⟩ := hi
  have hmem := List.mem_of_getElem? hcommand
  exact ⟨command.phase, c.perform_leads hc (hcommands command hmem), hfact command hmem⟩

def Client.plain : Client where
  baseUrl := ⟨"http".toList, none, .rooted [], none, none⟩
  interceptors := builtIn 2000

def World.showing (page : String) (replies : List Http.Reply := []) : World where
  replies := replies
  pages := { location := { current := page } }
  sink := .memory []

end StorageConsole
