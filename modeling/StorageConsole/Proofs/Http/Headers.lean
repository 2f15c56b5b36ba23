import Mathlib.Tactic.Lemma
import StorageConsole.Http.Authorization
import StorageConsole.Proofs.Text.Utf8

namespace StorageConsole

namespace Http.Headers

variable (hs more : Headers) (name : HeaderName)

def values : List HeaderValue := (hs.filter (·.1 == name)).map (·.2)

variable {hs} {name}

lemma values_append : Headers.values (hs ++ more) name = hs.values name ++ more.values name := by
  simp [values]

lemma values_insert_same (v : HeaderValue) : (hs.insert name v).values name = [v] := by
  simp [insert, erase, values, List.filter_filter]

lemma values_insert_other {other : HeaderName} (h : other ≠ name) (v : HeaderValue) :
    (hs.insert other v).values name = hs.values name := by
  have hkept : (fun field : HeaderName × HeaderValue =>
      field.1 == name && field.1 != other) = fun field => field.1 == name := by
    funext field
    by_cases hfield : field.1 = name <;> simp [hfield, h.symm]
  simp [insert, erase, values, List.filter_filter, hkept, h]

lemma values_insertAll : (hs.insertAll more).values name =
    (more.values name).getLast?.elim (hs.values name) ([·]) := by
  induction more generalizing hs with
  | nil => rfl
  | cons field more ih =>
    have hcons : (hs.insertAll (field :: more)) = (hs.insert field.1 field.2).insertAll more := rfl
    rw [hcons, ih]
    by_cases hfield : field.1 = name
    · have hvalues : Headers.values (field :: more) name = field.2 :: Headers.values more name := by
        simp [values, hfield]
      rw [hvalues, List.getLast?_cons, ← hfield, values_insert_same]
      cases (Headers.values more field.1).getLast? <;> rfl
    · have hvalues : Headers.values (field :: more) name = Headers.values more name := by
        simp [values, hfield]
      rw [hvalues, values_insert_other hfield]

lemma values_filter (hs : Headers) (p : HeaderName → Bool) :
    Headers.values (hs.filter fun field => p field.1) name =
      if p name then hs.values name else [] := by
  have hboth : (fun field : HeaderName × HeaderValue => field.1 == name && p field.1) =
      fun field => p name && field.1 == name := by
    funext field
    by_cases hfield : field.1 = name
    · rw [hfield, Bool.and_comm]
    · rw [beq_eq_false_iff_ne.mpr hfield, Bool.and_false, Bool.false_and]
  rw [values, List.filter_filter, hboth]
  cases p name <;> simp [values]

lemma values_fill (defaults : Headers) : (hs.fill defaults).values name =
    if hs.values name = [] then defaults.values name else hs.values name := by
  have hnames : hs.values name = [] ↔ (!hs.any (·.1 == name)) = true := by
    simp [values, List.filter_eq_nil_iff]
  rw [fill, values_append, values_filter defaults fun other => !hs.any (·.1 == other)]
  by_cases hnone : hs.values name = []
  · rw [if_pos hnone, if_pos (hnames.mp hnone), hnone, List.nil_append]
  · rw [if_neg hnone, if_neg (mt hnames.mpr hnone), List.append_nil]

end Http.Headers

namespace Text.Base64

lemma digit_mem (n : Nat) : digit n ∈ alphabet := by
  rw [digit, List.getD_eq_getElem?_getD]
  cases h : alphabet[n]? with
  | none => exact List.mem_cons_self
  | some c => exact List.mem_of_getElem? h

lemma mem_encode {bs : Bytes} {d : Char} (h : d ∈ encode bs) : d ∈ '=' :: alphabet := by
  have hdigit (n : Nat) : digit n ∈ '=' :: alphabet := List.mem_cons_of_mem _ (digit_mem n)
  induction bs using encode.induct with
  | case1 => cases h
  | case2 a | case3 a b =>
    simp only [encode, List.mem_cons, List.not_mem_nil, or_false] at h
    rcases h with rfl | rfl | rfl | rfl <;> simp [hdigit]
  | case4 a b c rest ih =>
    simp only [encode, List.cons_append, List.nil_append, List.mem_cons] at h
    rcases h with rfl | rfl | rfl | rfl | h
    · exact hdigit _
    · exact hdigit _
    · exact hdigit _
    · exact hdigit _
    · exact ih h

end Text.Base64

namespace Http.HeaderValue

theorem authorization_isValid (i : Userinfo) : isValid i.authorization = true := by
  have hall : ("Basic ".toList ++ '=' :: Text.Base64.alphabet).all (fun c => c.toNat ≤ 127 &&
      isValid [UInt8.ofNat c.toNat]) = true := by
    decide
  rw [isValid, List.all_eq_true]
  intro b hb
  obtain ⟨c, hc, hb⟩ := List.mem_flatMap.mp hb
  have hwritten : c ∈ "Basic ".toList ++ '=' :: Text.Base64.alphabet := by
    rcases List.mem_append.mp hc with hbasic | hdigits
    · exact List.mem_append_left _ hbasic
    · exact List.mem_append_right _ (Text.Base64.mem_encode hdigits)
  obtain ⟨hascii, hvalid⟩ := Bool.and_eq_true_iff.mp (List.all_eq_true.mp hall c hwritten)
  rw [Text.Utf8.utf8EncodeChar_ascii (of_decide_eq_true hascii), List.mem_singleton] at hb
  rw [hb]
  exact List.all_eq_true.mp hvalid _ List.mem_cons_self

end Http.HeaderValue
end StorageConsole
