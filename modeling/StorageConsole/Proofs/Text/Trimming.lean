import Mathlib.Data.List.DropRight
import Mathlib.Data.List.TakeWhile
import Mathlib.Tactic.Lemma
import StorageConsole.Text.Blank

namespace StorageConsole.Text

structure IsTrimmed (cs : List Char) : Prop where
  head : ∀ c, cs.head? = some c → isBlank c = false
  last : ∀ c, cs.getLast? = some c → isBlank c = false

variable {cs : List Char}

lemma trimChars_eq (cs : List Char) :
    trimChars cs = (cs.dropWhile isBlank).rdropWhile isBlank := rfl

lemma mem_of_mem_trimChars {c : Char} (h : c ∈ trimChars cs) : c ∈ cs :=
  (List.dropWhile_sublist isBlank).subset ((List.rdropWhile_prefix isBlank _).subset h)

lemma trimChars_eq_nil (h : trimChars cs = []) : ∀ c ∈ cs, isBlank c = true := by
  have hdropped : ∀ c ∈ cs.dropWhile isBlank, isBlank c = true :=
    List.rdropWhile_eq_nil_iff.mp h
  intro c hc
  rw [← List.takeWhile_append_dropWhile (p := isBlank) (l := cs)] at hc
  rcases List.mem_append.mp hc with hc | hc
  · exact List.mem_takeWhile_imp hc
  · exact hdropped c hc

lemma isTrimmed_trimChars (cs : List Char) : IsTrimmed (trimChars cs) where
  head c hc := by
    obtain ⟨rest, hrest⟩ := List.rdropWhile_prefix (l := cs.dropWhile isBlank) isBlank
    have hdropped : (cs.dropWhile isBlank).head? = some c := by
      rw [← hrest, List.head?_append, ← trimChars_eq, hc]
      rfl
    have hstop := List.head?_dropWhile_not isBlank cs
    rw [hdropped] at hstop
    simpa using hstop
  last c hc := by
    obtain ⟨hne, rfl⟩ := List.mem_getLast?_eq_getLast hc
    exact Bool.eq_false_iff.mpr (List.rdropWhile_last_not isBlank (cs.dropWhile isBlank) hne)

lemma IsTrimmed.trimChars (h : IsTrimmed cs) : trimChars cs = cs := by
  have hhead : cs.dropWhile isBlank = cs := by
    cases cs with
    | nil => rfl
    | cons c cs => simp [h.head c rfl]
  rw [trimChars_eq, hhead, List.rdropWhile_eq_self_iff]
  intro hne
  simp [h.last _ (List.getLast?_eq_some_getLast hne)]

lemma IsTrimmed.map (h : IsTrimmed cs) {f : Char → Char}
    (hf : ∀ c, isBlank c = false → isBlank (f c) = false) : IsTrimmed (cs.map f) where
  head c hc := by
    rw [List.head?_map] at hc
    obtain ⟨c', hc', rfl⟩ := Option.map_eq_some_iff.mp hc
    exact hf c' (h.head c' hc')
  last c hc := by
    rw [List.getLast?_map] at hc
    obtain ⟨c', hc', rfl⟩ := Option.map_eq_some_iff.mp hc
    exact hf c' (h.last c' hc')

end StorageConsole.Text
