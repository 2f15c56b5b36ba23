import Mathlib.Data.List.TakeWhile
import Mathlib.Tactic.Lemma
import StorageConsole.Download.Sink
import StorageConsole.Proofs.Text.Pieces
import StorageConsole.Proofs.Text.Trimming

namespace StorageConsole

namespace Files.Path

lemma spelled_append (dir name : String) :
    spelled (dir ++ "/" ++ name) = spelled dir ++ spelled name := by
  have hpieces := Text.pieces_append_cons (· == '/') dir.toList name.toList (a := '/') rfl
  simp [spelled, Text.piecesOf, hpieces]

lemma spelled_name {name : String} (hslash : '/' ∉ name.toList) (hname : name ≠ "") :
    spelled name = [name] := by
  have hpieces : Text.pieces (· == '/') name.toList = [name.toList] := by
    apply Text.pieces_eq_singleton
    intro c hc
    apply beq_eq_false_iff_ne.mpr
    rintro rfl
    exact hslash hc
  simp [spelled, Text.piecesOf, hpieces, hname]

lemma spelled_joinText {dir name : String} (hslash : '/' ∉ name.toList) (hname : name ≠ "") :
    spelled (joinText dir name) = spelled dir ++ [name] := by
  by_cases hdir : dir = ""
  · subst hdir
    have hempty : spelled "" = [] := by decide
    simp [joinText, spelled_name hslash hname, hempty]
  · by_cases hlast : dir.toList.getLast? = some '/'
    · -- without the slash at its end the directory spells the same
      obtain ⟨front, hfront⟩ := List.getLast?_eq_some_iff.mp hlast
      have hdir' : dir = String.ofList front ++ "/" ++ "" := by
        apply String.toList_injective
        simp [hfront]
      have hempty : spelled "" = [] := by decide
      rw [joinText, if_pos (.inr hlast)]
      rw [hdir', spelled_append, hempty, List.append_nil, ← spelled_name hslash hname,
        ← spelled_append]
      simp
    · rw [joinText, if_neg (by simp [hdir, hlast]), spelled_append, spelled_name hslash hname]

end Files.Path

namespace Download

def lastPart (name : String) : String :=
  String.ofList (Text.trimChars (afterSeparators name.toList))

def IsEntryName (name : String) : Prop := name ≠ "" ∧ name ≠ "." ∧ name ≠ ".."

lemma finalComponent_cases (name : String) :
    ¬IsEntryName (lastPart name) ∧ finalComponent name = defaultFilename ∨
      IsEntryName (lastPart name) ∧ finalComponent name = lastPart name := by
  have hdef : finalComponent name =
      if lastPart name = "" ∨ lastPart name = "." ∨ lastPart name = ".." then defaultFilename
      else lastPart name := rfl
  rw [hdef]
  by_cases h : lastPart name = "" ∨ lastPart name = "." ∨ lastPart name = ".."
  · rw [if_pos h]
    exact .inl ⟨by simpa [IsEntryName, imp_iff_not_or, or_assoc] using h, rfl⟩
  · rw [if_neg h]
    exact .inr ⟨by simpa [IsEntryName] using h, rfl⟩

lemma mem_afterSeparators {cs : List Char} {c : Char} (h : c ∈ afterSeparators cs) :
    isSeparator c = false := by
  have htaken := List.mem_takeWhile_imp (List.mem_reverse.mp h)
  simpa using htaken

lemma mem_finalComponent {name : String} {c : Char} (h : c ∈ (finalComponent name).toList) :
    isSeparator c = false := by
  obtain ⟨-, hdefault⟩ | ⟨-, hlast⟩ := finalComponent_cases name
  · have hplain : defaultFilename.toList.all (!isSeparator ·) = true := by decide
    rw [hdefault] at h
    simpa using List.all_eq_true.mp hplain c h
  · rw [hlast, lastPart, String.toList_ofList] at h
    exact mem_afterSeparators (Text.mem_of_mem_trimChars h)

lemma finalComponent_isEntryName (name : String) : IsEntryName (finalComponent name) := by
  obtain ⟨-, hdefault⟩ | ⟨hentry, hlast⟩ := finalComponent_cases name
  · rw [hdefault]
    unfold IsEntryName
    decide
  · rw [hlast]
    exact hentry

lemma ofText_pathFor (dir name : String) :
    Files.Path.ofText (pathFor dir name) = target dir name := by
  have hslash : '/' ∉ (finalComponent name).toList := by
    intro h
    have hno := mem_finalComponent h
    cases hno
  obtain ⟨hempty, hdot, hdots⟩ := finalComponent_isEntryName name
  simp only [Files.Path.ofText, pathFor, target, Files.Path.spelled_joinText hslash hempty,
    List.foldl_append, List.foldl_cons, List.foldl_nil]
  rw [Files.Path.follow, if_neg hdot, if_neg hdots]

end Download
end StorageConsole
