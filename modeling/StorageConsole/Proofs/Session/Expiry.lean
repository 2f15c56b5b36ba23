import StorageConsole.Call.Resources
import StorageConsole.Proofs.Script.Rounds
import StorageConsole.Proofs.Session.Conduct

/-! An expired session redirects once, though several calls may log out before the first redirect.
-/

namespace StorageConsole

open Phase Interceptor

namespace InFlight

variable {α : Type} (s : InFlight α)

def expired (place : Nat) : Bool := (s.heard place).head?.any isExpiry

def logouts : List Http.Request :=
  (List.range s.stages.length).flatMap fun place => (s.asked place).tail

end InFlight

namespace Expiry

def SentOwn (asked : List Http.Request) : Prop := ∃ own, asked = [own]

def SentBoth (stack : List Interceptor) (asked : List Http.Request) : Prop :=
  ∃ own, ∃ r ∈ logouts stack, asked = [own, r]

def Expired (heard : List Http.Reply) : Prop := heard.head?.any isExpiry = true

/-- What holds of a call in a phase: of the page shown, of what it asked and of what it heard. -/
def Stands (stack : List Interceptor) (page : String) (asked : List Http.Request)
    (heard : List Http.Reply) : Phase → Prop
  | asking => asked = [] ∧ heard = []
  | awaiting => SentOwn asked ∧ heard = []
  | answered => SentOwn asked ∧ ∃ reply, heard = [reply] ∧ isExpiry reply = false
  | expired true _ => SentOwn asked ∧ Expired heard
  | expired false off => off = false ∧ page = loginPage ∧ (SentOwn asked ∨ SentBoth stack asked) ∧
      Expired heard
  | loggingOut | leaving => SentBoth stack asked ∧ Expired heard
  | user => False

variable {stack : List Interceptor} {page page' : String} {asked : List Http.Request}
  {heard : List Http.Reply} {φ φ' : Phase} {deed : Deed}

lemma Expired.append (h : Expired heard) (more : List Http.Reply) : Expired (heard ++ more) := by
  cases heard with
  | nil => cases h
  | cons reply heard => exact h

lemma Stands.frame (h : Stands stack page asked heard φ)
    (hpage : page = loginPage → page' = loginPage) : Stands stack page' asked heard φ := by
  cases φ with
  | expired due off =>
    cases due with
    | true => exact h
    | false => exact ⟨h.1, hpage h.2.1, h.2.2⟩
  | asking | awaiting | answered | loggingOut | leaving | user => exact h

lemma Stands.step (h : Stands stack page asked heard φ) (hrule : Conduct stack φ deed φ')
    (hreads : ∀ p, deed = .reads p → p = page)
    (hauth : isAuthFlow page = true → page = loginPage) :
    Stands stack (deed.destination?.getD page) (asked ++ deed.request?.toList)
      (heard ++ deed.reply?.toList) φ' := by
  cases hrule with
  | silent _ hsilent =>
    cases deed with
    | times _ | logs _ | notes _ | saves =>
      simpa [Deed.destination?, Deed.request?, Deed.reply?] using h
    | sends _ | hears _ | reads _ | visits _ | navigates _ => cases hsilent
  | asks own =>
    obtain ⟨rfl, rfl⟩ := h
    exact ⟨⟨own, rfl⟩, rfl⟩
  | answers hreply =>
    obtain ⟨⟨own, rfl⟩, rfl⟩ := h
    exact ⟨⟨own, rfl⟩, _, rfl, hreply⟩
  | expires hreply =>
    obtain ⟨⟨own, rfl⟩, rfl⟩ := h
    exact ⟨⟨own, rfl⟩, hreply⟩
  | looks p => simpa [Deed.destination?, Deed.request?, Deed.reply?] using h
  | spares due off hp =>
    -- A page of the authentication flow can only be the one that a redirect has led to.
    obtain rfl := hreads _ rfl
    have hlogin := hauth hp
    cases due with
    | true => exact ⟨rfl, hlogin, .inl (by simpa [Deed.request?] using h.1), h.2.append _⟩
    | false => exact ⟨rfl, hlogin, by simpa [Deed.request?] using h.2.2.1, h.2.2.2.append _⟩
  | alarms due off hp =>
    obtain rfl := hreads _ rfl
    cases due with
    | true => exact ⟨by simpa [Deed.request?] using h.1, h.2.append _⟩
    | false =>
      rw [h.2.1] at hp
      cases hp
  | logsOut due hr =>
    cases due with
    | true =>
      obtain ⟨⟨own, rfl⟩, hexpired⟩ := h
      exact ⟨⟨own, _, hr, rfl⟩, hexpired.append _⟩
    | false => cases h.1
  | leaves reply => exact ⟨by simpa [Deed.request?] using h.1, h.2.append _⟩
  | redirects => exact ⟨rfl, rfl, .inr (by simpa [Deed.request?] using h.1), h.2.append _⟩
  | goes path => exact h.elim

lemma Stands.tail (h : Stands stack page asked heard φ) :
    asked.tail = [] ∨ (Expired heard ∧ ∃ r ∈ logouts stack, asked.tail = [r]) := by
  have hown (h : SentOwn asked) : asked.tail = [] := by
    obtain ⟨own, rfl⟩ := h
    rfl
  have hboth (h : SentBoth stack asked) : ∃ r ∈ logouts stack, asked.tail = [r] := by
    obtain ⟨own, r, hr, rfl⟩ := h
    exact ⟨r, hr, rfl⟩
  cases φ with
  | asking => exact .inl (by rw [h.1]; rfl)
  | awaiting | answered => exact .inl (hown h.1)
  | expired due off =>
    cases due with
    | true => exact .inl (hown h.1)
    | false => exact h.2.2.1.imp hown fun hsent => ⟨h.2.2.2, hboth hsent⟩
  | loggingOut | leaving => exact .inr ⟨h.2, hboth h.1⟩
  | user => exact h.elim

structure Orderly (stack : List Interceptor) (start : History) {α : Type} (s : InFlight α) :
    Prop where
  pages : s.world.pages = { location := start } ∨
    s.world.pages = { location := ⟨loginPage, start.navigations ++ [loginPage]⟩ }
  calls : s.Each (Conduct stack) (fun _ φ => φ.Final)
    fun i => Stands stack s.world.pages.current (s.asked i) (s.heard i)
  logout : s.world.pages = { location := start } ∨
    ∃ i < s.stages.length, (s.asked i).tail ≠ []

variable {α : Type} {start : History} {s : InFlight α}

lemma Orderly.single (h : Orderly stack start s) : s.world.pages.navigator = none := by
  rcases h.pages with hp | hp <;> rw [hp]

lemma Orderly.auth (hoff : isAuthFlow start.current = false) (h : Orderly stack start s)
    (hauth : isAuthFlow s.world.pages.current = true) : s.world.pages.current = loginPage := by
  rcases h.pages with hp | hp
  · rw [hp] at hauth
    exact absurd hauth (by simp [Pages.current, hoff])
  · rw [hp]
    rfl

lemma ne_loginPage {page : String} (hoff : isAuthFlow page = false) : page ≠ loginPage := by
  rintro rfl
  cases hoff

lemma Stands.moves {w : World} (h : Stands stack w.pages.current asked heard φ)
    (hrule : Conduct stack φ deed φ') :
    (deed.destination? = none ∧ (w.after deed).pages = w.pages) ∨
      (deed = .navigates loginPage ∧ asked.tail ≠ []) := by
  cases hdeed : deed.destination? with
  | none => exact .inl ⟨rfl, w.after_pages hdeed⟩
  | some path =>
    cases hrule with
    | redirects =>
      obtain ⟨⟨own, r, -, rfl⟩, -⟩ := h
      exact .inr ⟨rfl, List.cons_ne_nil _ _⟩
    | goes path => exact h.elim
    | silent _ hsilent => cases deed <;> cases hsilent <;> cases hdeed
    | _ => cases hdeed

lemma Orderly.did {place : Nat} {reply : Http.Reply} {stage stage' : Stage α}
    (hoff : isAuthFlow start.current = false) (h : Orderly stack start s)
    (hstage : s.stages[place]? = some stage)
    (hstep : stage.step reply s.world = some (deed, stage')) :
    Orderly stack start (s.did place deed stage') := by
  obtain ⟨φ, hleads, hstands⟩ := h.calls place stage hstage
  obtain ⟨φ', hrule, -⟩ := Stage.leads_step hleads hstep
  have hmoves := hstands.moves hrule
  have hcurrent := s.world.after_current h.single deed
  have hlt : place < s.stages.length := (List.getElem?_eq_some_iff.mp hstage).1
  refine ⟨?_, ?_, ?_⟩
  · show (s.world.after deed).pages = _ ∨ (s.world.after deed).pages = _
    rcases hmoves with ⟨-, hsame⟩ | ⟨rfl, -⟩
    · rw [hsame]
      exact h.pages
    · right
      -- A second redirect finds the login page shown.
      rcases h.pages with hp | hp
      · simp [World.after, Pages.navigate, hp, History.navigate, ne_loginPage hoff]
      · simp [World.after, Pages.navigate, hp, History.navigate]
  · refine h.calls.did hstage hstep ?_ ?_
    · intro φ φ' hstands hrule
      rw [InFlight.did_asked_self, InFlight.did_heard_self]
      show Stands stack (s.world.after deed).pages.current _ _ _
      rw [hcurrent]
      exact hstands.step hrule (fun p hp => Stage.step_reads (hp ▸ hstep)) (h.auth hoff)
    · intro i φ hi hstands
      rw [InFlight.did_asked_ne _ _ _ _ hi, InFlight.did_heard_ne _ _ _ _ hi]
      refine hstands.frame fun hlogin => ?_
      show (s.world.after deed).pages.current = loginPage
      rcases hmoves with ⟨-, hsame⟩ | ⟨rfl, -⟩
      · rw [hsame, hlogin]
      · exact hcurrent
  · rw [InFlight.did_length]
    rcases hmoves with ⟨-, hsame⟩ | ⟨rfl, hsent⟩
    · rcases h.logout with hp | hlogout
      · exact .inl (hsame.trans hp)
      obtain ⟨i, hi, hsent⟩ := hlogout
      refine .inr ⟨i, hi, ?_⟩
      by_cases hplace : i = place
      · subst hplace
        have hne : s.asked i ≠ [] := fun hnil => hsent (by simp [hnil])
        rw [InFlight.did_asked_self, List.tail_append_of_ne_nil hne]
        simp [hsent]
      · rwa [InFlight.did_asked_ne _ _ _ _ hplace]
    · refine .inr ⟨place, hlt, ?_⟩
      rw [InFlight.did_asked_self]
      simpa [Deed.request?] using hsent

lemma Orderly.turn (hoff : isAuthFlow start.current = false) (h : Orderly stack start s)
    (t : Turn) : Orderly stack start (s.turn t) := by
  rcases s.turn_cases t with hs | ⟨stage, deed, stage', hstage, hstep, hs⟩
  · rwa [hs]
  · rw [hs]
    exact h.did hoff hstage hstep

lemma Orderly.initial (c : Client) (hc : logouts c.interceptors ≠ []) {commands : List Command}
    (hcalls : ∀ command ∈ commands, command.IsCall) {w : World}
    (hpages : w.pages = { location := start }) :
    Orderly c.interceptors start (.start (commands.map c.perform) w) := by
  refine ⟨.inl hpages, c.start_each hc (fun _ h => .inl (hcalls _ h)) w
    (Stands c.interceptors w.pages.current [] []) ?_, .inl hpages⟩
  intro command hcommand
  have hcall := hcalls command hcommand
  cases command with
  | visit path => exact hcall.elim
  | _ => exact ⟨rfl, rfl⟩

lemma Orderly.mem_logouts (h : Orderly stack start s) {r : Http.Request} (hr : r ∈ s.logouts) :
    r ∈ Interceptor.logouts stack := by
  obtain ⟨i, hi, hmem⟩ := List.mem_flatMap.mp hr
  obtain ⟨φ, -, hstands⟩ := h.calls i _ (List.getElem?_eq_getElem (List.mem_range.mp hi))
  rcases hstands.tail with hnil | ⟨-, r', hr', htail⟩
  · simp [hnil] at hmem
  · rw [htail, List.mem_singleton] at hmem
    exact hmem ▸ hr'

lemma Orderly.play (c : Client) (hsession : ∃ timeout, Interceptor.session timeout ∈ c.interceptors)
    {commands : List Command} (hcalls : ∀ command ∈ commands, command.IsCall) {w : World}
    (hpages : w.pages = { location := start }) (hoff : isAuthFlow start.current = false)
    (turns : List Turn) :
    Orderly c.interceptors start ((InFlight.start (commands.map c.perform) w).play turns) := by
  obtain ⟨timeout, hmem⟩ := hsession
  have hc : logouts c.interceptors ≠ [] :=
    List.ne_nil_of_mem (Interceptor.mem_logouts.mpr ⟨timeout, hmem, rfl⟩)
  exact InFlight.play_keeps (fun _ t h => h.turn hoff t) turns _ (.initial c hc hcalls hpages)

theorem together_redirect_once (c : Client)
    (hsession : ∃ timeout, Interceptor.session timeout ∈ c.interceptors) {commands : List Command}
    (hcalls : ∀ command ∈ commands, command.IsCall) {w : World}
    (hpages : w.pages = { location := start }) (hoff : isAuthFlow start.current = false) :
    (c.performTogether commands w).2.pages = { location := start } ∨
      (c.performTogether commands w).2.pages =
        { location := ⟨loginPage, start.navigations ++ [loginPage]⟩ } := by
  obtain ⟨turns, -, hw⟩ := c.performTogether_arrives commands w
  have h := Orderly.play c hsession hcalls hpages hoff turns
  rw [← hw.pages]
  exact h.pages

def refusals (places : List Nat) : List Turn :=
  places.map fun place => ⟨place, .error (.status 401 [] [])⟩

end Expiry
end StorageConsole
