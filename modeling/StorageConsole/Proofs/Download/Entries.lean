import StorageConsole.Proofs.Download.Naming
import StorageConsole.Proofs.Download.Resolved

namespace StorageConsole.Download

lemma finalComponent_of_isEntryName {name : String}
    (hplain : ∀ c ∈ name.toList, isSeparator c = false) (htrimmed : Text.IsTrimmed name.toList)
    (hentry : IsEntryName name) : finalComponent name = name := by
  have hafter : afterSeparators name.toList = name.toList := by
    have hall : ∀ c ∈ name.toList.reverse, (!isSeparator c) = true := by simpa using hplain
    rw [afterSeparators, List.takeWhile_eq_self_iff.mpr hall, List.reverse_reverse]
  have hlast : lastPart name = name := by
    rw [lastPart, hafter, htrimmed.trimChars, String.ofList_toList]
  obtain ⟨hnone, -⟩ | ⟨-, hsame⟩ := finalComponent_cases name
  · rw [hlast] at hnone
    exact absurd hentry hnone
  · rw [hsame, hlast]

lemma finalComponent_isTrimmed (name : String) : Text.IsTrimmed (finalComponent name).toList := by
  obtain ⟨-, hdefault⟩ | ⟨-, hlast⟩ := finalComponent_cases name
  · rw [hdefault]
    exact default_isTrimmed
  · rw [hlast, lastPart, String.toList_ofList]
    exact Text.isTrimmed_trimChars _

lemma finalComponent_idem (name : String) :
    finalComponent (finalComponent name) = finalComponent name :=
  finalComponent_of_isEntryName (fun _ => mem_finalComponent) (finalComponent_isTrimmed name)
    (finalComponent_isEntryName name)

structure IsTail (name tail : String) : Prop where
  no_slash : '/' ∉ tail.toList
  no_backslash : '\\' ∉ tail.toList
  place : name = tail ∨ ∃ front, name = front ++ "/" ++ tail ∨ name = front ++ "\\" ++ tail

lemma afterSeparators_append (front cs : List Char) {c : Char} (hc : isSeparator c = true) :
    afterSeparators (front ++ c :: cs) = afterSeparators cs := by
  have hstop : ∀ more : List Char, (more ++ c :: front.reverse).takeWhile (!isSeparator ·) =
      more.takeWhile (!isSeparator ·) := by
    intro more
    induction more with
    | nil => simp [hc]
    | cons d more ih => simp only [List.cons_append, List.takeWhile_cons, ih]
  simp [afterSeparators, hstop]

lemma isTail_afterSeparators (name : String) :
    IsTail name (String.ofList (afterSeparators name.toList)) where
  no_slash h := by
    have hno := mem_afterSeparators (String.toList_ofList ▸ h)
    cases hno
  no_backslash h := by
    have hno := mem_afterSeparators (String.toList_ofList ▸ h)
    cases hno
  place := by
    -- the reversed name is the reversed tail and what follows it from the separator on
    have hsplit :=
      List.takeWhile_append_dropWhile (p := (!isSeparator ·)) (l := name.toList.reverse)
    have hname : name.toList = (name.toList.reverse.dropWhile (!isSeparator ·)).reverse ++
        afterSeparators name.toList := by
      rw [afterSeparators, ← List.reverse_append, hsplit, List.reverse_reverse]
    cases hbefore : name.toList.reverse.dropWhile (!isSeparator ·) with
    | nil =>
      left
      rw [hbefore] at hname
      rw [← String.toList_inj, String.toList_ofList]
      exact hname
    | cons c front =>
      right
      have hstop := List.head?_dropWhile_not (!isSeparator ·) name.toList.reverse
      rw [hbefore] at hname hstop
      have hc : c = '/' ∨ c = '\\' := by simpa [isSeparator, imp_iff_not_or] using hstop
      refine ⟨String.ofList front.reverse, hc.imp ?_ ?_⟩ <;>
        (rintro rfl; rw [← String.toList_inj]; simpa using hname)

lemma finalComponent_append (front name : String) :
    finalComponent (front ++ "/" ++ name) = finalComponent name ∧
      finalComponent (front ++ "\\" ++ name) = finalComponent name := by
  have hslash := afterSeparators_append front.toList name.toList (c := '/') rfl
  have hbackslash := afterSeparators_append front.toList name.toList (c := '\\') rfl
  constructor
  · simp [finalComponent, hslash]
  · simp [finalComponent, hbackslash]

def IsEntryOf (tail entry : String) : Prop :=
  entry = Text.trim tail ∧ Text.blank tail = false ∧ Text.trim tail ≠ "." ∧ Text.trim tail ≠ ".." ∨
    entry = "download.zip" ∧
      (Text.blank tail = true ∨ Text.trim tail = "." ∨ Text.trim tail = "..")

lemma blank_iff (s : String) : Text.blank s = true ↔ Text.trim s = "" := by
  rw [← String.toList_inj, Text.trim, String.toList_ofList, String.toList_empty]
  constructor
  · intro h
    have hall : ∀ c ∈ s.toList, Text.isBlank c = true := by simpa [Text.blank] using h
    rw [Text.trimChars_eq, List.dropWhile_eq_nil_iff.mpr hall]
    rfl
  · intro h
    simpa [Text.blank] using Text.trimChars_eq_nil h

lemma finalComponent_isEntryOf (name : String) :
    IsEntryOf (String.ofList (afterSeparators name.toList)) (finalComponent name) := by
  have hlast : Text.trim (String.ofList (afterSeparators name.toList)) = lastPart name := by
    rw [Text.trim, String.toList_ofList, lastPart]
  rw [IsEntryOf, ← Bool.not_eq_true, blank_iff, hlast]
  obtain ⟨hnone, hdefault⟩ | ⟨hentry, hsame⟩ := finalComponent_cases name
  · refine .inr ⟨hdefault, ?_⟩
    simpa [IsEntryName, imp_iff_not_or, or_assoc] using hnone
  · exact .inl ⟨hsame, hentry⟩

/-- Whatever name a file is to be stored under, its path is that of the directory and one entry in
it: the text after the last separator, or the default, so that what stands before a separator makes
no difference. -/
theorem stored_as_entry (dir name : String) : ∃ entry tail,
    pathFor dir name = Files.joinText dir entry ∧
    Files.Path.spelled (pathFor dir name) = Files.Path.spelled dir ++ [entry] ∧
    entry ≠ "" ∧ entry ≠ "." ∧ entry ≠ ".." ∧ '/' ∉ entry.toList ∧ '\\' ∉ entry.toList ∧
    Text.IsTrimmed entry.toList ∧
    IsTail name tail ∧ IsEntryOf tail entry ∧
    pathFor dir entry = pathFor dir name ∧
    ∀ front, pathFor dir (front ++ "/" ++ name) = pathFor dir name ∧
      pathFor dir (front ++ "\\" ++ name) = pathFor dir name := by
  obtain ⟨hempty, hdot, hdots⟩ := finalComponent_isEntryName name
  have hplain {c : Char} (hc : isSeparator c = true) : c ∉ (finalComponent name).toList :=
    fun h => Bool.eq_false_iff.mp (mem_finalComponent h) hc
  refine ⟨finalComponent name, String.ofList (afterSeparators name.toList), rfl,
    Files.Path.spelled_joinText (hplain rfl) hempty, hempty, hdot, hdots, hplain rfl, hplain rfl,
    finalComponent_isTrimmed name, isTail_afterSeparators name, finalComponent_isEntryOf name,
    ?again, fun front => ?front⟩
  case again => rw [pathFor, finalComponent_idem, pathFor]
  case front =>
    obtain ⟨hslash, hbackslash⟩ := finalComponent_append front name
    exact ⟨by rw [pathFor, hslash, pathFor], by rw [pathFor, hbackslash, pathFor]⟩

end StorageConsole.Download
