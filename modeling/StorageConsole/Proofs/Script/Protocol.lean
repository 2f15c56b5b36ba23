import Mathlib.Tactic.Lemma
import StorageConsole.Script.Run

/-! Protocols of scripts: which deeds are allowed in which phase, and where they lead. -/

namespace StorageConsole

inductive Deed where
  | sends (request : Http.Request)
  | hears (reply : Http.Reply)
  | reads (page : String)
  | times (reading : Nat)
  | visits (path : String)
  | navigates (path : String)
  | logs (event : Event)
  | notes (sighting : Sighting)
  | saves (name : String) (blob : Download.Blob) (result : Except Files.Fault Unit)

namespace Deed

def request? : Deed → Option Http.Request
  | sends request => some request
  | _ => none

def reply? : Deed → Option Http.Reply
  | hears reply => some reply
  | _ => none

def destination? : Deed → Option String
  | visits path => some path
  | navigates path => some path
  | _ => none

def IsSilent : Deed → Prop
  | times _ | logs _ | notes _ | saves .. => True
  | _ => False

end Deed

/-- The rules by which deeds lead from phase to phase. What no rule speaks of is not allowed. -/
abbrev Protocol (Phase : Type) := Phase → Deed → Phase → Prop

namespace Script

variable {α β Phase : Type} (p : Protocol Phase)

/-- From a phase on, a script does what the protocol allows whatever it is answered, and ends with
a result and in a phase that satisfy `post`. -/
def Leads (post : α → Phase → Prop) : Script α → Phase → Prop
  | done a, φ => post a φ
  | send r next, φ => ∃ φ', p φ (.sends r) φ' ∧ ∀ reply, ∃ φ'', p φ' (.hears reply) φ'' ∧
      (next reply).Leads post φ''
  | readPage next, φ => ∀ page, ∃ φ', p φ (.reads page) φ' ∧ (next page).Leads post φ'
  | readClock next, φ => ∀ reading, ∃ φ', p φ (.times reading) φ' ∧ (next reading).Leads post φ'
  | visit path next, φ => ∃ φ', p φ (.visits path) φ' ∧ next.Leads post φ'
  | navigate path next, φ => ∃ φ', p φ (.navigates path) φ' ∧ next.Leads post φ'
  | log e next, φ => ∃ φ', p φ (.logs e) φ' ∧ next.Leads post φ'
  | note s next, φ => ∃ φ', p φ (.notes s) φ' ∧ next.Leads post φ'
  | save name blob next, φ => ∀ result, ∃ φ', p φ (.saves name blob result) φ' ∧
      (next result).Leads post φ'

variable {p}

lemma bind_eq (s : Script α) (f : α → Script β) : s >>= f = s.bind f := rfl

lemma pure_eq (a : α) : (pure a : Script α) = done a := rfl

lemma leads_bind {post : β → Phase → Prop} (s : Script α) (f : α → Script β) (φ : Phase) :
    (s.bind f).Leads p post φ ↔ s.Leads p (fun a => (f a).Leads p post) φ := by
  induction s generalizing φ with
  | done a => rfl
  | send r next ih => simp only [bind, Leads, ih]
  | readPage next ih => simp only [bind, Leads, ih]
  | readClock next ih => simp only [bind, Leads, ih]
  | visit path next ih => simp only [bind, Leads, ih]
  | navigate path next ih => simp only [bind, Leads, ih]
  | log e next ih => simp only [bind, Leads, ih]
  | note s next ih => simp only [bind, Leads, ih]
  | save name blob next ih => simp only [bind, Leads, ih]

variable {post : Unit → Phase → Prop} {φ : Phase}

lemma leads_logs (event : Event) :
    (logs event).Leads p post φ ↔ ∃ φ', p φ (.logs event) φ' ∧ post () φ' := Iff.rfl

lemma leads_pageShown {post : String → Phase → Prop} :
    pageShown.Leads p post φ ↔ ∀ page, ∃ φ', p φ (.reads page) φ' ∧ post page φ' := Iff.rfl

lemma leads_sends {post : Http.Reply → Phase → Prop} (request : Http.Request) :
    (sends request).Leads p post φ ↔ ∃ φ', p φ (.sends request) φ' ∧ ∀ reply,
      ∃ φ'', p φ' (.hears reply) φ'' ∧ post reply φ'' := Iff.rfl

lemma leads_saves {post : Except Files.Fault Unit → Phase → Prop} (name : String)
    (blob : Download.Blob) :
    (saves name blob).Leads p post φ ↔
      ∀ result, ∃ φ', p φ (.saves name blob result) φ' ∧ post result φ' := Iff.rfl

lemma Leads.mono {post post' : α → Phase → Prop} {s : Script α} {φ : Phase}
    (h : s.Leads p post φ) (hpost : ∀ a φ, post a φ → post' a φ) : s.Leads p post' φ := by
  induction s generalizing φ with
  | done a => exact hpost a φ h
  | send r next ih =>
    obtain ⟨φ', hφ', hnext⟩ := h
    refine ⟨φ', hφ', fun reply => ?_⟩
    obtain ⟨φ'', hφ'', hrest⟩ := hnext reply
    exact ⟨φ'', hφ'', ih reply hrest⟩
  | readPage next ih =>
    intro page
    obtain ⟨φ', hφ', hrest⟩ := h page
    exact ⟨φ', hφ', ih page hrest⟩
  | readClock next ih =>
    intro reading
    obtain ⟨φ', hφ', hrest⟩ := h reading
    exact ⟨φ', hφ', ih reading hrest⟩
  | visit path next ih | navigate path next ih | log e next ih | note s next ih =>
    obtain ⟨φ', hφ', hrest⟩ := h
    exact ⟨φ', hφ', ih hrest⟩
  | save name blob next ih =>
    intro result
    obtain ⟨φ', hφ', hrest⟩ := h result
    exact ⟨φ', hφ', ih result hrest⟩

lemma Leads.timed {post : α → Phase → Prop} {s : Script α} {φ : Phase} (h : s.Leads p post φ)
    (hclock : ∀ φ reading, p φ (.times reading) φ) :
    s.timed.Leads p (fun answer φ => post answer.1 φ) φ := by
  intro start
  refine ⟨φ, hclock φ start, (leads_bind s _ φ).mpr (h.mono fun a φ' ha now => ?_)⟩
  exact ⟨φ', hclock φ' now, ha⟩

end Script
end StorageConsole
