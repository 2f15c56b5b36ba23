import Mathlib.Tactic.Lemma
import StorageConsole.Text.Pieces

namespace StorageConsole.Text

variable {α : Type} {separates : α → Bool}

lemma pieces_append_cons (separates : α → Bool) (as bs : List α) {a : α} (ha : separates a = true) :
    pieces separates (as ++ a :: bs) = pieces separates as ++ pieces separates bs := by
  induction as with
  | nil => simp [pieces, ha]
  | cons x as ih =>
    simp only [List.cons_append, pieces, ih]
    cases hpieces : pieces separates as with
    | nil => exact absurd hpieces (pieces_ne_nil separates as)
    | cons piece more => split <;> rfl

lemma pieces_eq_singleton {as : List α} (h : ∀ a ∈ as, separates a = false) :
    pieces separates as = [as] := by
  induction as with
  | nil => rfl
  | cons a as ih =>
    have hrest := ih fun b hb => h b (List.mem_cons_of_mem a hb)
    simp [pieces, h a List.mem_cons_self, hrest]

lemma pieces_append_free {as bs first : List α} {more : List (List α)}
    (h : ∀ a ∈ as, separates a = false) (hbs : pieces separates bs = first :: more) :
    pieces separates (as ++ bs) = (as ++ first) :: more := by
  induction as with
  | nil => exact hbs
  | cons a as ih =>
    have hrest := ih fun b hb => h b (List.mem_cons_of_mem a hb)
    simp [pieces, h a List.mem_cons_self, hrest]

lemma pieces_join {a : α} (ha : separates a = true) {parts : List (List α)} (hne : parts ≠ [])
    (h : ∀ part ∈ parts, ∀ b ∈ part, separates b = false) :
    pieces separates (join a parts) = parts := by
  induction parts with
  | nil => exact absurd rfl hne
  | cons part more ih =>
    have hpart := pieces_eq_singleton (h part List.mem_cons_self)
    cases more with
    | nil => exact hpart
    | cons next more =>
      have hmore := ih (List.cons_ne_nil next more) fun b hb => h b (List.mem_cons_of_mem part hb)
      rw [join, pieces_append_cons separates part _ ha, hpart, hmore]
      rfl

lemma not_separates_of_mem_pieces {as piece : List α} (h : piece ∈ pieces separates as) :
    ∀ a ∈ piece, separates a = false := by
  induction as generalizing piece with
  | nil =>
    obtain rfl := List.mem_singleton.mp h
    exact fun a ha => absurd ha List.not_mem_nil
  | cons x as ih =>
    rw [pieces] at h
    split at h
    · rcases List.mem_cons.mp h with rfl | h
      · exact fun a ha => absurd ha List.not_mem_nil
      · exact ih h
    · rename_i hx
      have hx : separates x = false := Bool.eq_false_iff.mpr hx
      cases hpieces : pieces separates as with
      | nil => exact absurd hpieces (pieces_ne_nil separates as)
      | cons first more =>
        simp only [hpieces] at h
        rcases List.mem_cons.mp h with rfl | h
        · intro a ha
          rcases List.mem_cons.mp ha with rfl | ha
          · exact hx
          · exact ih (hpieces ▸ List.mem_cons_self) a ha
        · exact ih (hpieces ▸ List.mem_cons_of_mem first h)

lemma mem_join {a b : α} {parts : List (List α)} (h : b ∈ join a parts) :
    b = a ∨ ∃ part ∈ parts, b ∈ part := by
  induction parts with
  | nil => exact absurd h List.not_mem_nil
  | cons part more ih =>
    cases more with
    | nil => exact .inr ⟨part, List.mem_cons_self, h⟩
    | cons next more =>
      rw [join, List.mem_append, List.mem_cons] at h
      rcases h with h | rfl | h
      · exact .inr ⟨part, List.mem_cons_self, h⟩
      · exact .inl rfl
      · refine (ih h).imp_right ?_
        rintro ⟨found, hfound, hb⟩
        exact ⟨found, List.mem_cons_of_mem part hfound, hb⟩

lemma flatMap_cons_eq_join (a : α) {parts : List (List α)} (hne : parts ≠ []) :
    parts.flatMap (a :: ·) = a :: join a parts := by
  induction parts with
  | nil => exact absurd rfl hne
  | cons part more ih =>
    cases more with
    | nil => simp [join]
    | cons next more =>
      rw [List.flatMap_cons, ih (List.cons_ne_nil next more), join]
      rfl

lemma join_cons (a : α) (part : List α) (more : List (List α)) :
    join a (part :: more) = part ++ more.flatMap (a :: ·) := by
  cases more with
  | nil => simp [join]
  | cons next more => rw [join, flatMap_cons_eq_join a (List.cons_ne_nil next more)]

lemma length_le_join (a : α) (parts : List (List α)) :
    parts.length ≤ (join a parts).length + 1 := by
  induction parts with
  | nil => exact Nat.zero_le _
  | cons part more ih =>
    cases more with
    | nil => exact Nat.le_add_left 1 _
    | cons next more =>
      simp only [join, List.length_cons, List.length_append] at ih ⊢
      omega

lemma flatMap_cons_pieces [DecidableEq α] (a : α) (as : List α) :
    (pieces (· == a) as).flatMap (a :: ·) = a :: as := by
  induction as with
  | nil => rfl
  | cons x as ih =>
    rw [pieces]
    split
    · rename_i hx
      rw [List.flatMap_cons, ih, beq_iff_eq.mp hx]
      rfl
    · cases hpieces : pieces (· == a) as with
      | nil => exact absurd hpieces (pieces_ne_nil _ as)
      | cons first more =>
        rw [hpieces, List.flatMap_cons] at ih
        have htail : first ++ more.flatMap (a :: ·) = as := List.tail_eq_of_cons_eq ih
        simp only [List.flatMap_cons, List.cons_append, htail]

end StorageConsole.Text
