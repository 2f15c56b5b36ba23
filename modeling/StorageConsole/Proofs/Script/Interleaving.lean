import StorageConsole.Proofs.Script.Protocol
import StorageConsole.Proofs.Script.Running

/-! Scripts in flight together. Sending a request and hearing the reply are two turns. -/

namespace StorageConsole

def World.after (w : World) : Deed → World
  | .sends request => { w with sent := w.sent ++ [request] }
  | .visits path => { w with pages := w.pages.visit path }
  | .navigates path => { w with pages := w.pages.navigate path }
  | .logs event => w.log event
  | .notes sighting => { w with sightings := w.sightings ++ [sighting] }
  | .saves name blob _ => (w.save name blob).2
  | .times _ => w.tick
  | .hears _ | .reads _ => w

namespace World

lemma save_pages (w : World) (name : String) (blob : Download.Blob) :
    (w.save name blob).2.pages = w.pages :=
  congrArg Traffic.pages (w.save_traffic name blob)

lemma after_pages (w : World) {deed : Deed} (h : deed.destination? = none) :
    (w.after deed).pages = w.pages := by
  cases deed with
  | visits path | navigates path => cases h
  | saves name blob result => exact w.save_pages name blob
  | sends request | hears reply | reads page | times reading | logs event | notes sighting => rfl

lemma after_single (w : World) (h : w.pages.navigator = none) (deed : Deed) :
    (w.after deed).pages.navigator = none := by
  cases hdeed : deed.destination? with
  | none => rwa [w.after_pages hdeed]
  | some path =>
    cases deed with
    | visits p => exact h
    | navigates p => simp [after, Pages.navigate, h]
    | _ => cases hdeed

lemma after_current (w : World) (h : w.pages.navigator = none) (deed : Deed) :
    (w.after deed).pages.current = deed.destination?.getD w.pages.current := by
  cases hdeed : deed.destination? with
  | none => rw [w.after_pages hdeed, Option.getD_none]
  | some path =>
    cases deed with
    | visits p =>
      cases hdeed
      rfl
    | navigates p =>
      cases hdeed
      simp only [after, Pages.navigate, h, Pages.current, History.navigate, Option.getD_some]
      -- Nothing happens where the page is shown already.
      split
      · assumption
      · rfl
    | _ => cases hdeed

end World

inductive Stage (α : Type) where
  | acting (script : Script α)
  | waiting (next : Http.Reply → Script α)

namespace Stage

variable {α Phase : Type}

def step (reply : Http.Reply) (w : World) : Stage α → Option (Deed × Stage α)
  | acting (.done _) => none
  | acting (.send request next) => some (.sends request, waiting next)
  | acting (.readPage next) => some (.reads w.pages.current, acting (next w.pages.current))
  | acting (.readClock next) => some (.times w.time, acting (next w.time))
  | acting (.visit path next) => some (.visits path, acting next)
  | acting (.navigate path next) => some (.navigates path, acting next)
  | acting (.log event next) => some (.logs event, acting next)
  | acting (.note sighting next) => some (.notes sighting, acting next)
  | acting (.save name blob next) =>
    some (.saves name blob (w.save name blob).1, acting (next (w.save name blob).1))
  | waiting next => some (.hears reply, acting (next reply))

def Leads (p : Protocol Phase) (post : α → Phase → Prop) : Stage α → Phase → Prop
  | acting script, φ => script.Leads p post φ
  | waiting next, φ => ∀ reply, ∃ φ', p φ (.hears reply) φ' ∧ (next reply).Leads p post φ'

lemma leads_step {p : Protocol Phase} {post : α → Phase → Prop} {stage stage' : Stage α}
    {φ : Phase} {reply : Http.Reply} {w : World} {deed : Deed} (h : stage.Leads p post φ)
    (hs : stage.step reply w = some (deed, stage')) :
    ∃ φ', p φ deed φ' ∧ stage'.Leads p post φ' := by
  match stage, h, hs with
  | waiting next, h, hs =>
    cases hs
    exact h reply
  | acting (.done a), h, hs => cases hs
  | acting (.send request next), h, hs =>
    cases hs
    exact h
  | acting (.readPage next), h, hs =>
    cases hs
    exact h w.pages.current
  | acting (.readClock next), h, hs =>
    cases hs
    exact h w.time
  | acting (.visit path next), h, hs =>
    cases hs
    exact h
  | acting (.navigate path next), h, hs =>
    cases hs
    exact h
  | acting (.log event next), h, hs =>
    cases hs
    exact h
  | acting (.note sighting next), h, hs =>
    cases hs
    exact h
  | acting (.save name blob next), h, hs =>
    cases hs
    exact h (w.save name blob).1

lemma step_reads {stage stage' : Stage α} {reply : Http.Reply} {w : World} {page : String}
    (hs : stage.step reply w = some (.reads page, stage')) : page = w.pages.current := by
  unfold step at hs
  split at hs <;> cases hs
  rfl

end Stage

/-- Scripts in flight, by their places, in a world that they share; and all that was done so far,
each deed with the place of its script, oldest first. -/
structure InFlight (α : Type) where
  stages : List (Stage α)
  world : World
  trace : List (Nat × Deed)

structure Turn where
  place : Nat
  reply : Http.Reply

namespace InFlight

variable {α Phase : Type}

def start (scripts : List (Script α)) (w : World) : InFlight α :=
  ⟨scripts.map .acting, w, []⟩

def did (s : InFlight α) (place : Nat) (deed : Deed) (stage : Stage α) : InFlight α where
  stages := s.stages.set place stage
  world := s.world.after deed
  trace := s.trace ++ [(place, deed)]

def turn (s : InFlight α) (t : Turn) : InFlight α :=
  match s.stages[t.place]?.bind (·.step t.reply s.world) with
  | none => s
  | some (deed, stage) => s.did t.place deed stage

def play (s : InFlight α) (turns : List Turn) : InFlight α := turns.foldl turn s

def deeds (s : InFlight α) (place : Nat) : List Deed :=
  (s.trace.filter (·.1 == place)).map (·.2)

def asked (s : InFlight α) (place : Nat) : List Http.Request :=
  (s.deeds place).filterMap Deed.request?

def heard (s : InFlight α) (place : Nat) : List Http.Reply :=
  (s.deeds place).filterMap Deed.reply?

variable (s : InFlight α) (place : Nat) (deed : Deed) (stage : Stage α)

lemma did_deeds_self : (s.did place deed stage).deeds place = s.deeds place ++ [deed] := by
  simp [deeds, did]

lemma did_deeds_ne {i : Nat} (h : i ≠ place) :
    (s.did place deed stage).deeds i = s.deeds i := by
  simp [deeds, did, h.symm]

lemma did_asked_self :
    (s.did place deed stage).asked place = s.asked place ++ deed.request?.toList := by
  rw [asked, asked, did_deeds_self, List.filterMap_append]
  cases deed <;> rfl

lemma did_asked_ne {i : Nat} (h : i ≠ place) :
    (s.did place deed stage).asked i = s.asked i := by
  rw [asked, asked, did_deeds_ne s place deed stage h]

lemma did_heard_self :
    (s.did place deed stage).heard place = s.heard place ++ deed.reply?.toList := by
  rw [heard, heard, did_deeds_self, List.filterMap_append]
  cases deed <;> rfl

lemma did_heard_ne {i : Nat} (h : i ≠ place) :
    (s.did place deed stage).heard i = s.heard i := by
  rw [heard, heard, did_deeds_ne s place deed stage h]

@[simp] lemma did_length : (s.did place deed stage).stages.length = s.stages.length := by
  simp [did]

variable {s place deed stage}

lemma turn_cases (s : InFlight α) (t : Turn) :
    s.turn t = s ∨ ∃ stage deed stage', s.stages[t.place]? = some stage ∧
      stage.step t.reply s.world = some (deed, stage') ∧
      s.turn t = s.did t.place deed stage' := by
  cases hstage : s.stages[t.place]? with
  | none => exact .inl (by simp [turn, hstage])
  | some stage =>
    cases hstep : stage.step t.reply s.world with
    | none => exact .inl (by simp [turn, hstage, hstep])
    | some r => exact .inr ⟨stage, r.1, r.2, rfl, hstep, by simp [turn, hstage, hstep]⟩

def Each (p : Protocol Phase) (post : α → Phase → Prop) (fact : Nat → Phase → Prop)
    (s : InFlight α) : Prop :=
  ∀ i stage, s.stages[i]? = some stage → ∃ φ, stage.Leads p post φ ∧ fact i φ

variable {p : Protocol Phase} {post : α → Phase → Prop} {fact fact' : Nat → Phase → Prop}

lemma Each.did {reply : Http.Reply} {stage' : Stage α} (h : s.Each p post fact)
    (hstage : s.stages[place]? = some stage)
    (hstep : stage.step reply s.world = some (deed, stage'))
    (hself : ∀ φ φ', fact place φ → p φ deed φ' → fact' place φ')
    (hother : ∀ i φ, i ≠ place → fact i φ → fact' i φ) :
    (s.did place deed stage').Each p post fact' := by
  intro i stage₁ hi
  by_cases hplace : i = place
  · subst hplace
    obtain ⟨φ, hleads, hfact⟩ := h i stage hstage
    obtain ⟨φ', hφ', hleads'⟩ := Stage.leads_step hleads hstep
    obtain rfl : stage' = stage₁ := by
      have hlt : i < s.stages.length := (List.getElem?_eq_some_iff.mp hstage).1
      simpa [InFlight.did, List.getElem?_set_self hlt] using hi
    exact ⟨φ', hleads', hself φ φ' hfact hφ'⟩
  · have hi' : s.stages[i]? = some stage₁ := by
      simpa [InFlight.did, List.getElem?_set_ne (Ne.symm hplace)] using hi
    obtain ⟨φ, hleads, hfact⟩ := h i stage₁ hi'
    exact ⟨φ, hleads, hother i φ hplace hfact⟩

lemma play_keeps {P : InFlight α → Prop} (hstep : ∀ s t, P s → P (s.turn t))
    (turns : List Turn) (s : InFlight α) (h : P s) : P (s.play turns) := by
  induction turns generalizing s with
  | nil => exact h
  | cons t turns ih => exact ih (s.turn t) (hstep s t h)

end InFlight
end StorageConsole
