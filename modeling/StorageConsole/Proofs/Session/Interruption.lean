import StorageConsole.Proofs.Session.Expiry

/-! A call looks at the page before it logs out and redirects after, wherever the user is by then.
-/

namespace StorageConsole

open Phase Interceptor Expiry

namespace InFlight

variable {α : Type}

def miss (place : Nat) (missed : List Deed) : Nat × Deed → List Deed
  | (i, .reads _) => if i = place then [] else missed
  | (_, .visits path) => missed ++ [.visits path]
  | (_, .navigates path) => missed ++ [.navigates path]
  | _ => missed

/-- The changes of page, its own among them, since the script at a place last read which page is
shown. -/
def missed (s : InFlight α) (place : Nat) : List Deed := s.trace.foldl (miss place) []

lemma did_missed (s : InFlight α) (place i : Nat) (deed : Deed) (stage : Stage α) :
    (s.did place deed stage).missed i = miss i (s.missed i) (place, deed) := by
  simp [missed, did]

end InFlight

namespace Interruption

def pageAfter (page : String) (missed : List Deed) : String :=
  (missed.getLast?.bind Deed.destination?).getD page

def IsMove (deed : Deed) : Prop := (∃ path, deed = .visits path) ∨ deed = .navigates loginPage

/-- A call that is about to redirect has seen a page outside the authentication flow, and the page
shown is what it has become by the changes that the call has missed. -/
def Knows (page : String) (missed : List Deed) : Phase → Prop
  | expired _ true | loggingOut | leaving =>
    ∃ seen, isAuthFlow seen = false ∧ page = pageAfter seen missed
  | _ => True

variable {stack : List Interceptor} {page : String} {missed : List Deed} {φ φ' : Phase}
  {deed : Deed}

lemma pageAfter_miss {i place : Nat} (seen : String) (h : place = i → ∀ p, deed ≠ .reads p) :
    pageAfter seen (InFlight.miss i missed (place, deed)) =
      deed.destination?.getD (pageAfter seen missed) := by
  cases deed with
  | reads p =>
    have hne : place ≠ i := fun hi => h hi p rfl
    simp [InFlight.miss, hne, Deed.destination?]
  | visits path => simp [InFlight.miss, pageAfter, Deed.destination?]
  | navigates path => simp [InFlight.miss, pageAfter, Deed.destination?]
  | sends | hears | times | logs | notes | saves => rfl

lemma Knows.frame {i place : Nat} (h : Knows page missed φ) (hi : i ≠ place) :
    Knows (deed.destination?.getD page) (InFlight.miss i missed (place, deed)) φ := by
  have hpage (hknows : ∃ seen, isAuthFlow seen = false ∧ page = pageAfter seen missed) :
      ∃ seen, isAuthFlow seen = false ∧ deed.destination?.getD page =
        pageAfter seen (InFlight.miss i missed (place, deed)) := by
    obtain ⟨seen, hoff, rfl⟩ := hknows
    exact ⟨seen, hoff, (pageAfter_miss seen fun hplace => absurd hplace.symm hi).symm⟩
  cases φ with
  | expired due off =>
    cases off with
    | true => exact hpage h
    | false => trivial
  | loggingOut | leaving => exact hpage h
  | asking | awaiting | answered | user => trivial

lemma Knows.step {place : Nat} (h : Knows page missed φ) (hrule : Conduct stack φ deed φ')
    (hreads : ∀ p, deed = .reads p → p = page) :
    Knows (deed.destination?.getD page) (InFlight.miss place missed (place, deed)) φ' := by
  cases hrule with
  | silent _ hsilent =>
    cases deed with
    | times _ | logs _ | notes _ | saves => exact h
    | sends _ | hears _ | reads _ | visits _ | navigates _ => cases hsilent
  | alarms due off hp =>
    -- The page is known as soon as it is read, and nothing has been missed yet.
    obtain rfl := hreads _ rfl
    exact ⟨_, hp, by simp [InFlight.miss, pageAfter, Deed.destination?]⟩
  | logsOut due hr => exact h
  | leaves reply => exact h
  | expires hreply | asks | answers | looks | spares | redirects | goes => trivial

structure Watched (stack : List Interceptor) {α : Type} (s : InFlight α) : Prop where
  single : s.world.pages.navigator = none
  moves : ∀ i, ∀ deed ∈ s.missed i, IsMove deed
  scripts : s.Each (Conduct stack) (fun _ φ => φ.Final)
    fun i => Knows s.world.pages.current (s.missed i)

variable {α : Type} {s : InFlight α}

lemma isMove_of_rule (hrule : Conduct stack φ deed φ') (hdeed : deed.destination? ≠ none) :
    IsMove deed := by
  cases hrule with
  | goes path => exact .inl ⟨path, rfl⟩
  | redirects => exact .inr rfl
  | silent _ hsilent => cases deed <;> first | exact absurd rfl hdeed | cases hsilent
  | _ => exact absurd rfl hdeed

lemma mem_miss {i place : Nat} {d : Deed} (h : d ∈ InFlight.miss i missed (place, deed)) :
    d ∈ missed ∨ (d = deed ∧ deed.destination? ≠ none) := by
  cases deed with
  | reads p =>
    by_cases hi : place = i <;> simp [InFlight.miss, hi] at h
    exact .inl h
  | visits path | navigates path =>
    simp only [InFlight.miss, List.mem_append, List.mem_singleton] at h
    exact h.imp id fun hd => ⟨hd, by simp [Deed.destination?]⟩
  | sends | hears | times | logs | notes | saves => exact .inl h

lemma Watched.turn (h : Watched stack s) (t : Turn) : Watched stack (s.turn t) := by
  rcases s.turn_cases t with hs | ⟨stage, deed, stage', hstage, hstep, hs⟩
  · rwa [hs]
  rw [hs]
  obtain ⟨φ, hleads, -⟩ := h.scripts t.place stage hstage
  obtain ⟨φ', hrule, -⟩ := Stage.leads_step hleads hstep
  have hcurrent := s.world.after_current h.single deed
  refine ⟨s.world.after_single h.single deed, ?_, ?_⟩
  · intro i d hd
    rw [InFlight.did_missed] at hd
    rcases mem_miss hd with hold | ⟨rfl, hdest⟩
    · exact h.moves i d hold
    · exact isMove_of_rule hrule hdest
  · refine h.scripts.did hstage hstep ?_ ?_
    · intro φ φ' hknows hrule
      rw [InFlight.did_missed]
      show Knows (s.world.after deed).pages.current _ _
      rw [hcurrent]
      exact hknows.step hrule fun p hp => Stage.step_reads (hp ▸ hstep)
    · intro i φ hi hknows
      rw [InFlight.did_missed]
      show Knows (s.world.after deed).pages.current _ _
      rw [hcurrent]
      exact hknows.frame hi

lemma Watched.initial (c : Client) (hc : logouts c.interceptors ≠ []) {commands : List Command}
    (hcommands : ∀ command ∈ commands, command.IsCall ∨ command.IsVisit) {w : World}
    (hsingle : w.pages.navigator = none) :
    Watched c.interceptors (.start (commands.map c.perform) w) := by
  refine ⟨hsingle, ?_, c.start_each hc hcommands w (Knows w.pages.current []) ?_⟩
  · intro i deed hdeed
    simp [InFlight.start, InFlight.missed] at hdeed
  · intro command _
    cases command <;> trivial

lemma turn_records {place : Nat} {path : String} {next : Script α} (reply : Http.Reply)
    (hsingle : s.world.pages.navigator = none)
    (hstage : s.stages[place]? = some (.acting (.navigate path next))) :
    (s.turn ⟨place, reply⟩).world.pages.navigations ≠ s.world.pages.navigations ↔
      s.world.pages.current ≠ path := by
  have hturn : s.turn ⟨place, reply⟩ = s.did place (.navigates path) (.acting next) := by
    simp [InFlight.turn, hstage, Stage.step]
  rw [hturn]
  show (s.world.pages.navigate path).navigations ≠ _ ↔ _
  by_cases hpath : s.world.pages.location.current = path <;>
    simp [Pages.navigate, Pages.navigations, Pages.current, History.navigate, hsingle, hpath]

lemma Watched.redirect (h : Watched stack s) {place : Nat} {path : String} {next : Script α}
    (hstage : s.stages[place]? = some (.acting (.navigate path next))) :
    path = loginPage ∧ ∃ seen, isAuthFlow seen = false ∧
      s.world.pages.current = pageAfter seen (s.missed place) := by
  obtain ⟨φ, ⟨φ', hrule, -⟩, hknows⟩ := h.scripts place _ hstage
  cases hrule with
  | redirects => exact ⟨rfl, hknows⟩
  | silent _ hsilent => cases hsilent

/-- A redirect pulls a user off a page of the authentication flow exactly where the user went to
that page, and it is not the login page itself, after the call had looked which page is shown, and
the page has not changed since. -/
theorem redirect_interrupts_iff (c : Client) (commands : List Command) (start : History)
    (w : World) (turns : List Turn)
    (hsession : ∃ timeout, Interceptor.session timeout ∈ c.interceptors)
    (hcommands : ∀ command ∈ commands, command.IsCall ∨ command.IsVisit)
    (hpages : w.pages = { location := start }) (place : Nat) (path : String)
    (next : Script Result) (reply : Http.Reply) :
    let s := (InFlight.start (commands.map c.perform) w).play turns
    s.stages[place]? = some (.acting (.navigate path next)) →
    path = loginPage ∧
    ((s.turn ⟨place, reply⟩).world.pages.navigations ≠ s.world.pages.navigations ∧
        isAuthFlow s.world.pages.current = true ↔
      ∃ page, (s.missed place).getLast? = some (.visits page) ∧ isAuthFlow page = true ∧
        page ≠ loginPage) := by
  intro s hstage
  obtain ⟨timeout, hmem⟩ := hsession
  have hc : logouts c.interceptors ≠ [] :=
    List.ne_nil_of_mem (mem_logouts.mpr ⟨timeout, hmem, rfl⟩)
  have h : Watched c.interceptors s :=
    InFlight.play_keeps (fun _ t h => h.turn t) turns _
      (.initial c hc hcommands (by rw [hpages]))
  obtain ⟨rfl, seen, hoff, hcurrent⟩ := h.redirect hstage
  refine ⟨rfl, ?_⟩
  rw [turn_records reply h.single hstage]
  constructor
  · rintro ⟨hne, hauth⟩
    cases hlast : (s.missed place).getLast? with
    | none =>
      -- The page is still the one that the call has seen.
      rw [hcurrent, pageAfter, hlast] at hauth
      exact absurd hauth (by simp [hoff])
    | some deed =>
      rcases h.moves place deed (List.mem_of_getLast? hlast) with ⟨page, rfl⟩ | rfl
      · have hpage : s.world.pages.current = page := by rw [hcurrent, pageAfter, hlast]; rfl
        exact ⟨page, rfl, hpage ▸ hauth, hpage ▸ hne⟩
      · -- After a redirect the login page is shown, and another is not recorded.
        exact absurd (by rw [hcurrent, pageAfter, hlast]; rfl) hne
  · rintro ⟨page, hlast, hauth, hne⟩
    have hpage : s.world.pages.current = page := by rw [hcurrent, pageAfter, hlast]; rfl
    exact ⟨hpage ▸ hne, hpage ▸ hauth⟩

def callAndVisit (page : String) : List Command := [.call Resources.stats, .visit page]

def visitBeforeRedirect : List Turn := refusals [0, 0, 0, 0, 0, 0, 0, 1, 0, 0]

def interrupted (page : String) : InFlight Result :=
  (InFlight.start ((callAndVisit page).map Client.plain.perform) (.showing "/objects")).play
    visitBeforeRedirect

theorem redirect_from_buckets :
    (Interceptor.session 2000 ∈ Client.plain.interceptors ∧
      ∃ next, (interrupted "/buckets").stages[0]? = some (.acting (.navigate loginPage next))) ∧
    ¬((((interrupted "/buckets").turn ⟨0, .error .timeout⟩).world.pages.navigations ≠
        (interrupted "/buckets").world.pages.navigations) ∧
      isAuthFlow (interrupted "/buckets").world.pages.current = true) := by
  have hcommands : ∀ command ∈ callAndVisit "/buckets", command.IsCall ∨ command.IsVisit := by
    simp [callAndVisit, Command.IsCall, Command.IsVisit]
  have hlast : ((interrupted "/buckets").missed 0).getLast? = some (.visits "/buckets") := rfl
  refine ⟨⟨by decide, _, rfl⟩, fun hrecorded => ?_⟩
  have h := redirect_interrupts_iff Client.plain (callAndVisit "/buckets") { current := "/objects" }
    (.showing "/objects") visitBeforeRedirect ⟨2000, by decide⟩ hcommands rfl 0 loginPage _
    (.error .timeout) rfl
  obtain ⟨page, hpage, hauth, -⟩ := h.2.mp hrecorded
  obtain rfl : page = "/buckets" := by simpa using hpage.symm.trans hlast
  exact absurd hauth (by decide)

theorem redirect_from_register :
    isAuthFlow (interrupted "/register").world.pages.current = true ∧
    (∃ next, (interrupted "/register").stages[0]? = some (.acting (.navigate loginPage next))) ∧
    (interrupted "/register").world.pages.navigations = [] ∧
    ((interrupted "/register").turn ⟨0, .error .timeout⟩).world.pages.navigations = [loginPage] :=
  ⟨by decide, ⟨_, rfl⟩, by decide, by decide⟩

end Interruption
end StorageConsole
