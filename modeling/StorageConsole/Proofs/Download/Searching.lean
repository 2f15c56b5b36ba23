import Mathlib.Data.List.TakeWhile
import Mathlib.Tactic.Lemma
import StorageConsole.Download.Disposition

/-! Where a search of a header can find a name: behind a word and an equals sign. -/

namespace StorageConsole.Download.Disposition

open Text (isBlank)

variable {α : Type} {here? : List Char → Option α} {word cs rest : List Char}

def searchIn (here? : List Char → Option α) : (part rest : List Char) → Option α
  | [], _ => none
  | c :: part, rest => (here? (c :: part ++ rest)).or (searchIn here? part rest)

lemma search_append (here? : List Char → Option α) (part rest : List Char) :
    search here? (part ++ rest) = (searchIn here? part rest).or (search here? rest) := by
  induction part with
  | nil => rfl
  | cons c part ih => rw [List.cons_append, search, ih, searchIn, Option.or_assoc, List.cons_append]

lemma searchIn_append (here? : List Char → Option α) (part part' rest : List Char) :
    searchIn here? (part ++ part') rest =
      (searchIn here? part (part' ++ rest)).or (searchIn here? part' rest) := by
  induction part with
  | nil => rfl
  | cons c part ih =>
    simp only [List.cons_append, searchIn, ih, Option.or_assoc, List.append_assoc]

lemma searchIn_eq_none {part : List Char}
    (h : ∀ c back, c :: back <:+ part → here? (c :: back ++ rest) = none) :
    searchIn here? part rest = none := by
  induction part with
  | nil => rfl
  | cons c part ih =>
    rw [searchIn, h c part (List.suffix_refl _), Option.none_or]
    exact ih fun d back hback => h d back (hback.trans (List.suffix_cons c part))

def dropSign (word cs : List Char) : Option (List Char) := (dropWord word cs).bind dropEquals

lemma dropWord_some (h : dropWord word cs = some rest) :
    ∃ front, cs = front ++ rest ∧ front.map Char.toLower = word := by
  induction word generalizing cs with
  | nil =>
    cases h
    exact ⟨[], rfl, rfl⟩
  | cons w word ih =>
    cases cs with
    | nil => cases h
    | cons c cs =>
      rw [dropWord] at h
      split at h
      · rename_i hc
        obtain ⟨front, rfl, rfl⟩ := ih h
        exact ⟨c :: front, rfl, congrArg (· :: front.map Char.toLower) hc⟩
      · cases h

lemma dropEquals_some (h : dropEquals cs = some rest) :
    ∃ gap after, cs = gap ++ '=' :: after ∧ (∀ c ∈ gap, isBlank c = true) ∧
      rest = after.dropWhile isBlank := by
  unfold dropEquals at h
  split at h
  · rename_i after hafter
    refine ⟨cs.takeWhile isBlank, after, ?_, fun c => List.mem_takeWhile_imp, ?_⟩
    · rw [← hafter, List.takeWhile_append_dropWhile]
    · exact (Option.some.inj h).symm
  · cases h

lemma dropSign_some (h : dropSign word cs = some rest) :
    ∃ front gap after, cs = front ++ gap ++ '=' :: after ∧ front.map Char.toLower = word ∧
      (∀ c ∈ gap, isBlank c = true) ∧ rest = after.dropWhile isBlank := by
  obtain ⟨behind, hbehind, hequals⟩ := Option.bind_eq_some_iff.mp h
  obtain ⟨front, rfl, hfront⟩ := dropWord_some hbehind
  obtain ⟨gap, after, rfl, hgap, hrest⟩ := dropEquals_some hequals
  exact ⟨front, gap, after, (List.append_assoc _ _ _).symm, hfront, hgap, hrest⟩

lemma dropWord_append (front rest : List Char) :
    dropWord (front.map Char.toLower) (front ++ rest) = some rest := by
  induction front with
  | nil => rfl
  | cons c front ih => rw [List.map_cons, List.cons_append, dropWord, if_pos rfl, ih]

lemma dropSign_append {front gap : List Char} (hfront : front.map Char.toLower = word)
    (hgap : ∀ c ∈ gap, isBlank c = true) (after : List Char) :
    dropSign word (front ++ gap ++ '=' :: after) = some (after.dropWhile isBlank) := by
  have hequals : (gap ++ '=' :: after).dropWhile isBlank = '=' :: after := by
    rw [List.dropWhile_append_of_pos hgap]
    rfl
  rw [dropSign, ← hfront, List.append_assoc, dropWord_append, Option.bind_some, dropEquals, hequals]
  rfl

lemma span_at {d : Char} {before : List Char} (h : d ∉ before) (after : List Char) :
    (before ++ d :: after).takeWhile (· != d) = before ∧
      (before ++ d :: after).dropWhile (· != d) = d :: after := by
  have hpass : ∀ c ∈ before, (c != d) = true := by
    intro c hc
    apply bne_iff_ne.mpr
    rintro rfl
    exact h hc
  rw [List.takeWhile_append_of_pos hpass, List.dropWhile_append_of_pos hpass]
  simp

lemma dropSign_append_equals {before after : List Char} (hword : '=' ∉ word)
    (hbefore : '=' ∉ before) (h : dropSign word (before ++ '=' :: after) = some rest) :
    ∃ front gap, before = front ++ gap ∧ front.map Char.toLower = word ∧
      (∀ c ∈ gap, isBlank c = true) ∧ rest = after.dropWhile isBlank := by
  obtain ⟨front, gap, after', hcs, hfront, hgap, hrest⟩ := dropSign_some h
  have hfree : '=' ∉ front ++ gap := by
    rintro hmem
    rcases List.mem_append.mp hmem with hmem | hmem
    · exact hword (hfront ▸ List.mem_map_of_mem (f := Char.toLower) hmem)
    · exact absurd (hgap '=' hmem) (by decide)
  have hparts := span_at hbefore after
  rw [hcs, (span_at hfree after').1, (span_at hfree after').2] at hparts
  refine ⟨front, gap, hparts.1.symm, hfront, hgap, ?_⟩
  rw [hrest, (List.cons.inj hparts.2).2]

lemma dropSign_within {before after : List Char} {d : Char} (hd : d ≠ '=')
    (hblank : isBlank d = false) (hword : d.toLower ∉ word)
    (h : dropSign word (before ++ d :: after) = some rest) :
    ∃ front gap behind, before = front ++ gap ++ '=' :: behind ∧ front.map Char.toLower = word ∧
      (∀ c ∈ gap, isBlank c = true) ∧ rest = (behind ++ d :: after).dropWhile isBlank := by
  obtain ⟨front, gap, after', hcs, hfront, hgap, hrest⟩ := dropSign_some h
  have hnot : d ∉ front ++ gap := by
    intro hmem
    rcases List.mem_append.mp hmem with hmem | hmem
    · exact hword (hfront ▸ List.mem_map_of_mem (f := Char.toLower) hmem)
    · exact Bool.false_ne_true (hblank.symm.trans (hgap d hmem))
  rcases List.append_eq_append_iff.mp hcs with ⟨more, hmore, hsame⟩ | ⟨more, hmore, hsame⟩
  · cases more with
    | nil => exact absurd (List.cons.inj hsame).1 hd
    | cons e more =>
      rw [hmore, (List.cons.inj hsame).1] at hnot
      simp at hnot
  · cases more with
    | nil => exact absurd (List.cons.inj hsame).1.symm hd
    | cons e behind =>
      obtain ⟨rfl, rfl⟩ := List.cons.inj hsame
      exact ⟨front, gap, behind, hmore, hfront, hgap, hrest⟩

lemma dropSign_barrier {before after : List Char} {d : Char} (hbefore : '=' ∉ before) (hd : d ≠ '=')
    (hblank : isBlank d = false) (hword : d.toLower ∉ word) :
    dropSign word (before ++ d :: after) = none := by
  rw [Option.eq_none_iff_forall_ne_some]
  intro rest h
  obtain ⟨front, gap, behind, rfl, -⟩ := dropSign_within hd hblank hword h
  exact hbefore (by simp)

lemma dropSign_of_not_mem (h : '=' ∉ cs) : dropSign word cs = none := by
  rw [Option.eq_none_iff_forall_ne_some]
  intro rest hrest
  obtain ⟨front, gap, after, rfl, -⟩ := dropSign_some hrest
  exact h (by simp)

lemma takeWhile_append_stop {p : Char → Bool} {value more : List Char}
    (hvalue : ∀ c ∈ value, p c = true) (hmore : ∀ c ∈ more.head?, p c = false) :
    (value ++ more).takeWhile p = value := by
  have hstop : more.takeWhile p = [] := by
    cases more with
    | nil => rfl
    | cons c more => simp [hmore c rfl]
  rw [List.takeWhile_append_of_pos hvalue, hstop, List.append_nil]

lemma eq_star {c : Char} (h : c.toLower = '*') : c = '*' := by
  unfold Char.toLower at h
  split at h
  · rename_i hupper
    have hlower : (c.val + 32).toNat = c.toNat + 32 := by
      have hle : c.toNat ≤ 90 := UInt32.le_iff_toNat_le.mp hupper.2
      rw [UInt32.toNat_add]
      change (c.toNat + 32) % 4294967296 = _
      omega
    have hstar : (c.val + 32).toNat = 42 := congrArg Char.toNat h
    have hge : 65 ≤ c.toNat := UInt32.le_iff_toNat_le.mp hupper.1
    omega
  · exact h

def extendedValue? (rest : List Char) : Option (List Char) :=
  let value := ((if rest.head? = some '"' then rest.drop 1 else rest).takeWhile inExtended)
  if value.isEmpty then none else some value

lemma extendedHere?_eq (cs : List Char) :
    extendedHere? cs = (dropSign "filename*".toList cs).bind extendedValue? := by
  unfold extendedHere? dropSign
  cases dropWord "filename*".toList cs <;> rfl

def plainValue? (rest : List Char) : Option (List Char) :=
  match quoted? '"' rest with
  | some value => some value
  | none =>
    match quoted? '\'' rest with
    | some value => some value
    | none =>
      let value := rest.takeWhile inToken
      if value.isEmpty then none else some value

lemma plainHere?_eq (cs : List Char) :
    plainHere? cs = (dropSign "filename".toList cs).bind plainValue? := by
  unfold plainHere? dropSign
  cases dropWord "filename".toList cs <;> rfl

end StorageConsole.Download.Disposition
