import Mathlib.Data.List.Basic
import StorageConsole.Config.Basic
import StorageConsole.Proofs.Http.Headers

/-! What settings leave of a configuration, field by field. -/

namespace StorageConsole.Config

inductive Field where
  | origin
  | basePath
  | timeout
  | connectTimeout
  | logoutTimeout
  | credentials
  | downloadDir
  | header (name : Http.HeaderName)
  deriving DecidableEq

abbrev Field.Value : Field → Type
  | origin | basePath | downloadDir => String
  | timeout | connectTimeout | logoutTimeout => Nat
  | credentials => Credentials
  | header _ => Http.HeaderValue

def values (c : Config) : (f : Field) → List f.Value
  | .origin => [c.origin]
  | .basePath => [c.basePath]
  | .timeout => c.timeout.toList
  | .connectTimeout => [c.connectTimeout]
  | .logoutTimeout => [c.logoutTimeout]
  | .credentials => [c.credentials]
  | .downloadDir => c.downloadDir.toList
  | .header name => c.defaultHeaders.values name

namespace Setting

def fault? : Setting → Option Fault
  | .defaultHeader name value =>
    if Http.HeaderName.ofString? name = none then some (.invalidHeaderName name)
    else if Http.HeaderValue.ofString? value = none then some (.invalidHeaderValue value)
    else none
  | _ => none

def value? : (f : Field) → Setting → Option f.Value
  | .origin, .origin text => some text
  | .basePath, .basePath text => some text
  | .timeout, .timeout ms => some ms
  | .connectTimeout, .connectTimeout ms => some ms
  | .logoutTimeout, .logoutTimeout ms => some ms
  | .credentials, .credentials policy => some policy
  | .downloadDir, .downloadDir path => some path
  | .header name, .defaultHeader spelling value =>
    if Http.HeaderName.ofString? spelling = some name then Http.HeaderValue.ofString? value
    else none
  | _, _ => none

def field? : Setting → Option Field
  | .origin _ => some .origin
  | .basePath _ => some .basePath
  | .timeout _ => some .timeout
  | .connectTimeout _ => some .connectTimeout
  | .logoutTimeout _ => some .logoutTimeout
  | .credentials _ => some .credentials
  | .downloadDir _ => some .downloadDir
  | .defaultHeader spelling _ => (Http.HeaderName.ofString? spelling).map .header

lemma field?_of_value? {f : Field} {s : Setting} {v : f.Value} (h : value? f s = some v) :
    s.field? = some f := by
  unfold value? at h
  split at h
  case h_8 name spelling value =>
    split at h
    · rename_i hname
      rw [field?, hname, Option.map_some]
    · cases h
  case h_9 => cases h
  all_goals rfl

end Setting

open Setting

def last (f : Field) (settings : List Setting) : Option f.Value :=
  (settings.filterMap (value? f)).getLast?

section

variable {f : Field} {settings more : List Setting}

lemma last_append : last f (settings ++ more) = (last f more).or (last f settings) := by
  rw [last, List.filterMap_append, List.getLast?_append]
  rfl

lemma last_single (s : Setting) : last f [s] = value? f s := by
  cases h : value? f s <;> simp [last, h]

end

def firstFault (settings : List Setting) : Option Fault := settings.findSome? fault?

def Results (settings : List Setting) (c c' : Config) : Prop :=
  ∀ f, c'.values f = (last f settings).elim (c.values f) ([·])

namespace Results

variable {settings more : List Setting} {c c' c'' : Config}

lemma append (h : Results settings c c') (h' : Results more c' c'') :
    Results (settings ++ more) c c'' := by
  intro f
  rw [last_append, h' f, h f]
  cases last f more <;> rfl

variable {f : Field}

lemma or (h : Results settings c c') {a b : Option f.Value} (ha : c'.values f = a.toList)
    (hb : c.values f = b.toList) : a = (last f settings).or b := by
  have hvalues := h f
  rw [ha, hb] at hvalues
  have hfirst := congrArg List.head? hvalues
  cases hlast : last f settings with
  | none => simpa [hlast] using hfirst
  | some v => simpa [hlast] using hfirst

lemma getD (h : Results settings c c') {a b : f.Value} (ha : c'.values f = [a])
    (hb : c.values f = [b]) : a = (last f settings).getD b := by
  have hsome : some a = (last f settings).or (some b) := h.or ha hb
  rw [Option.or_some] at hsome
  exact Option.some.inj hsome

end Results

lemma set_header (c : Config) (spelling value : String) {name : Http.HeaderName}
    {v : Http.HeaderValue} (hname : Http.HeaderName.ofString? spelling = some name)
    (hvalue : Http.HeaderValue.ofString? value = some v) :
    Results [.defaultHeader spelling value] c
      { c with defaultHeaders := c.defaultHeaders.insert name v } := by
  intro f
  rw [last_single]
  cases f with
  | header other =>
    by_cases hother : name = other
    · subst hother
      simp [value?, values, hname, hvalue, Http.Headers.values_insert_same]
    · simp [value?, values, hname, hother, Http.Headers.values_insert_other hother]
  | _ => rfl

lemma set_cases (c : Config) (s : Setting) :
    (∃ fault, s.fault? = some fault ∧ c.set s = .error fault) ∨
      (s.fault? = none ∧ ∃ c', c.set s = .ok c' ∧ Results [s] c c') := by
  cases s with
  | defaultHeader spelling value =>
    cases hname : Http.HeaderName.ofString? spelling with
    | none =>
      left
      simp [fault?, set, Http.Headers.field, hname, Except.map]
    | some name =>
      cases hvalue : Http.HeaderValue.ofString? value with
      | none =>
        left
        simp [fault?, set, Http.Headers.field, hname, hvalue, Except.map]
      | some v =>
        right
        refine ⟨by simp [fault?, hname, hvalue], _, ?_, c.set_header spelling value hname hvalue⟩
        simp [set, Http.Headers.field, hname, hvalue, Except.map]
  | origin | basePath | timeout | connectTimeout | logoutTimeout | credentials | downloadDir =>
    right
    refine ⟨rfl, _, rfl, fun f => ?_⟩
    rw [last_single]
    cases f <;> rfl

lemma setAll_cons (c : Config) (s : Setting) (settings : List Setting) :
    c.setAll (s :: settings) = (c.set s).bind fun c' => c'.setAll settings := rfl

lemma setAll_cases (c : Config) (settings : List Setting) :
    (∃ fault, firstFault settings = some fault ∧ c.setAll settings = .error fault) ∨
      (firstFault settings = none ∧ ∃ c', c.setAll settings = .ok c' ∧ Results settings c c') := by
  induction settings generalizing c with
  | nil => exact .inr ⟨rfl, c, rfl, fun _ => rfl⟩
  | cons s settings ih =>
    rw [firstFault, List.findSome?_cons, setAll_cons]
    obtain ⟨fault, hfault, hset⟩ | ⟨hnone, c', hset, hresult⟩ := c.set_cases s
    · left
      rw [hfault, hset]
      exact ⟨fault, rfl, rfl⟩
    · rw [hnone, hset]
      obtain ⟨fault, hfault, hall⟩ | ⟨hnone, c'', hall, hresults⟩ := ih c'
      · exact .inl ⟨fault, hfault, hall⟩
      · exact .inr ⟨hnone, c'', hall, hresult.append hresults⟩

def SameGiven (settings settings' : List Setting) : Prop := ∀ f, last f settings = last f settings'

lemma sameGiven_swap {before after : List Setting} {s s' : Setting} (h : s.field? ≠ s'.field?) :
    SameGiven (before ++ s :: s' :: after) (before ++ s' :: s :: after) := by
  intro f
  have hsplit (s s' : Setting) : before ++ s :: s' :: after = before ++ ([s] ++ ([s'] ++ after)) :=
    rfl
  rw [hsplit s s', hsplit s' s]
  simp only [last_append, last_single]
  cases hs : value? f s with
  | none => simp
  | some v =>
    cases hs' : value? f s' with
    | none => simp
    | some v' => exact absurd ((field?_of_value? hs).trans (field?_of_value? hs').symm) h

lemma firstFault_eq_none_iff (settings : List Setting) :
    firstFault settings = none ↔ ∀ s ∈ settings, s.fault? = none :=
  List.findSome?_eq_none_iff

end StorageConsole.Config
