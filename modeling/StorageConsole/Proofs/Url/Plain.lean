import StorageConsole.Proofs.Text.Form
import StorageConsole.Proofs.Url.Resolving

namespace StorageConsole.Url

variable {cs : List Char}

lemma trimEdges_eq_self (h : ∀ c ∈ cs, isEdge c = false) : trimEdges cs = cs := by
  have hdrop {cs : List Char} (h : ∀ c ∈ cs, isEdge c = false) : cs.dropWhile isEdge = cs := by
    cases cs with
    | nil => rfl
    | cons c cs => exact List.dropWhile_cons_of_neg (by simp [h c List.mem_cons_self])
  rw [trimEdges, hdrop h, hdrop fun c hc => h c (List.mem_reverse.mp hc), List.reverse_reverse]

lemma solid_eq_self (h : ∀ c ∈ cs, isBreak c = false) : solid cs = cs := by
  apply List.filter_eq_self.mpr
  intro c hc
  rw [h c hc]
  rfl

lemma scheme?_eq_none (h : ':' ∉ cs) : scheme? cs = none := by
  apply if_neg
  intro hscheme
  have hcolon : (cs.dropWhile isSchemeChar).head? = some ':' := by
    simpa using (Bool.and_eq_true_iff.mp hscheme).2
  exact h ((List.dropWhile_sublist _).subset (List.mem_of_head? hcolon))

lemma eq_of_dots {n : Nat} (h : dots cs = some n) (hpercent : '%' ∉ cs) :
    cs = List.replicate n '.' := by
  induction cs generalizing n with
  | nil =>
    cases h
    rfl
  | cons c cs ih =>
    unfold dots at h
    split at h
    · contradiction
    · rename_i rest hcons
      obtain ⟨rfl, rfl⟩ := List.cons.inj hcons
      obtain ⟨m, hm, rfl⟩ := Option.map_eq_some_iff.mp h
      rw [ih hm fun hmem => hpercent (List.mem_cons_of_mem '.' hmem), List.replicate_succ]
    · rename_i rest hcons
      exact absurd (hcons ▸ List.mem_cons_self) hpercent
    · rename_i rest hcons
      exact absurd (hcons ▸ List.mem_cons_self) hpercent
    · cases h

def isUnreserved (c : Char) : Bool :=
  c.isAlphanum || c == '-' || c == '_' || c == '~' || c == '.'

lemma toNat_le_of_isUnreserved (c : Char) (h : isUnreserved c = true) : c.toNat ≤ 127 := by
  simp only [isUnreserved, Bool.or_eq_true, beq_iff_eq] at h
  rcases h with (((h | rfl) | rfl) | rfl) | rfl
  · exact Text.toNat_le_of_isAlphanum h
  all_goals decide

lemma inPath_of_isUnreserved : ∀ c : Char, isUnreserved c = true →
    c.toNat ≤ 127 ∧ Escaping.inPath (UInt8.ofNat c.toNat) = true := by
  refine Text.forall_ascii toNat_le_of_isUnreserved ?_
  decide +kernel

lemma ordinary_of_isUnreserved : ∀ c : Char, isUnreserved c = true →
    (isEdge c = false ∧ isBreak c = false ∧ c ≠ ':' ∧ c ≠ '#') ∧
      isSlash .web c = false ∧ endsPath c = false := by
  refine Text.forall_ascii toNat_le_of_isUnreserved ?_
  decide +kernel

def IsSegment (cs : List Char) : Prop :=
  cs ≠ [] ∧ cs.all isUnreserved = true ∧ cs ≠ ['.'] ∧ cs ≠ ['.', '.']

instance : DecidablePred IsSegment := fun _ => inferInstanceAs (Decidable (_ ∧ _ ∧ _ ∧ _))

namespace IsSegment

lemma isUnreserved_of_mem (h : IsSegment cs) {c : Char} (hc : c ∈ cs) : isUnreserved c = true :=
  List.all_eq_true.mp h.2.1 c hc

lemma solid_eq (h : IsSegment cs) : solid cs = cs :=
  solid_eq_self fun c hc => (ordinary_of_isUnreserved c (h.isUnreserved_of_mem hc)).1.2.1

lemma nameOf_eq (h : IsSegment cs) : nameOf cs = cs := by
  rw [nameOf, h.solid_eq]
  exact Text.Percent.encode_of_kept fun c hc =>
    inPath_of_isUnreserved c (h.isUnreserved_of_mem hc)

lemma dots_ne (h : IsSegment cs) : dots (solid cs) ≠ some 1 ∧ dots (solid cs) ≠ some 2 := by
  have hpercent : '%' ∉ cs := fun hmem => absurd (h.isUnreserved_of_mem hmem) (by decide)
  rw [h.solid_eq]
  obtain ⟨-, -, hone, htwo⟩ := h
  exact ⟨fun hdots => hone (eq_of_dots hdots hpercent),
    fun hdots => htwo (eq_of_dots hdots hpercent)⟩

end IsSegment

lemma along_segments {segments : List (List Char)} (h : ∀ segment ∈ segments, IsSegment segment)
    (t : Trail) : t.along segments = { t with names := t.names ++ segments } := by
  induction segments generalizing t with
  | nil => rw [Trail.along, List.append_nil]
  | cons segment more ih =>
    have hsegment := h segment List.mem_cons_self
    obtain ⟨hone, htwo⟩ := hsegment.dots_ne
    cases more with
    | nil =>
      rw [Trail.along]
      split
      · contradiction
      · contradiction
      · rw [hsegment.nameOf_eq]
        rfl
    | cons next more =>
      rw [Trail.along]
      split
      · contradiction
      · contradiction
      · rw [hsegment.nameOf_eq, ih fun s hs => h s (List.mem_cons_of_mem segment hs), Trail.down,
          List.append_assoc]
        rfl

lemma inWebQuery_of_writes : ∀ c : Char, Text.Form.writes c = true →
    c.toNat ≤ 127 ∧ Escaping.inWebQuery (UInt8.ofNat c.toNat) = true := by
  refine Text.forall_ascii Text.Form.toNat_le_of_writes ?_
  decide +kernel

lemma ordinary_of_writes : ∀ c : Char, Text.Form.writes c = true →
    isEdge c = false ∧ isBreak c = false ∧ c ≠ ':' ∧ c ≠ '#' := by
  refine Text.forall_ascii Text.Form.toNat_le_of_writes ?_
  decide +kernel

structure IsPlain (segments : List (List Char)) (query : Option (List Char)) : Prop where
  ne_nil : segments ≠ []
  segments : ∀ segment ∈ segments, IsSegment segment
  query : ∀ cs ∈ query, ∀ c ∈ cs, Text.Form.writes c = true

def spell (segments : List (List Char)) (query : Option (List Char)) : List Char :=
  Text.join '/' segments ++ part '?' query

namespace IsPlain

variable {segments : List (List Char)} {query : Option (List Char)} {base : Url}

lemma mem_join (h : IsPlain segments query) {c : Char} (hc : c ∈ Text.join '/' segments) :
    c = '/' ∨ isUnreserved c = true :=
  (Text.mem_join hc).imp_right fun ⟨segment, hsegment, hc⟩ =>
    (h.segments segment hsegment).isUnreserved_of_mem hc

lemma join_eq_cons (h : IsPlain segments query) :
    ∃ c rest, Text.join '/' segments = c :: rest ∧ isUnreserved c = true := by
  obtain ⟨first, more, rfl⟩ := List.exists_cons_of_ne_nil h.ne_nil
  have hfirst := h.segments first List.mem_cons_self
  obtain ⟨c, rest, rfl⟩ := List.exists_cons_of_ne_nil hfirst.1
  have hc := hfirst.isUnreserved_of_mem List.mem_cons_self
  cases more with
  | nil => exact ⟨c, rest, rfl, hc⟩
  | cons next more => exact ⟨c, _, rfl, hc⟩

lemma ordinary_part (h : IsPlain segments query) :
    ∀ c ∈ part '?' query, isEdge c = false ∧ isBreak c = false ∧ c ≠ ':' ∧ c ≠ '#' := by
  intro c hc
  cases query with
  | none => exact absurd hc List.not_mem_nil
  | some cs =>
    rcases List.mem_cons.mp hc with rfl | hc
    · decide
    · exact ordinary_of_writes c (h.query cs rfl c hc)

lemma ordinary_spell (h : IsPlain segments query) :
    ∀ c ∈ spell segments query, isEdge c = false ∧ isBreak c = false ∧ c ≠ ':' ∧ c ≠ '#' := by
  intro c hc
  rcases List.mem_append.mp hc with hc | hc
  · rcases h.mem_join hc with rfl | hc
    · decide
    · exact (ordinary_of_isUnreserved c hc).1
  · exact h.ordinary_part c hc

lemma split_spell (h : IsPlain segments query) :
    (spell segments query).takeWhile (!endsPath ·) = Text.join '/' segments ∧
      (spell segments query).dropWhile (!endsPath ·) = part '?' query := by
  have hpath : ∀ c ∈ Text.join '/' segments, (!endsPath c) = true := by
    intro c hc
    rcases h.mem_join hc with rfl | hc
    · rfl
    · rw [(ordinary_of_isUnreserved c hc).2.2]
      rfl
  have hquery : (part '?' query).takeWhile (!endsPath ·) = [] ∧
      (part '?' query).dropWhile (!endsPath ·) = part '?' query := by
    cases query <;> exact ⟨rfl, rfl⟩
  constructor
  · rw [spell, List.takeWhile_append_of_pos hpath, hquery.1, List.append_nil]
  · rw [spell, List.dropWhile_append_of_pos hpath, hquery.2]

lemma tail_part (h : IsPlain segments query) : tail .web (part '?' query) = (query, none) := by
  cases query with
  | none => rfl
  | some cs =>
    have hcs := h.query cs rfl
    have hhash : ∀ c ∈ cs, (c != '#') = true := fun c hc =>
      bne_iff_ne.mpr (ordinary_of_writes c (hcs c hc)).2.2.2
    have hkept : Escaping.encode Escaping.inWebQuery cs = cs :=
      Text.Percent.encode_of_kept fun c hc => inWebQuery_of_writes c (hcs c hc)
    simp only [tail, part, List.takeWhile_eq_self_iff.mpr hhash,
      List.dropWhile_eq_nil_iff.mpr hhash]
    exact congrArg (fun q => (some q, none)) hkept

lemma trail_spell (h : IsPlain segments query) : trail (spell segments query) = ⟨0, segments⟩ := by
  have hslash : ∀ segment ∈ segments, ∀ c ∈ segment, isSlash .web c = false :=
    fun segment hsegment c hc =>
      (ordinary_of_isUnreserved c ((h.segments segment hsegment).isUnreserved_of_mem hc)).2.1
  rw [trail, h.split_spell.1, Text.pieces_join rfl h.ne_nil hslash, along_segments h.segments]
  rfl

lemma relative_spell (h : IsPlain segments query) (base : Url) :
    relative base (spell segments query) =
      .ok (withPath base.scheme base.authority base.dirs (spell segments query)) := by
  obtain ⟨c, rest, hcs, hc⟩ := h.join_eq_cons
  have hplain : c ≠ '#' ∧ c ≠ '?' ∧ c ≠ '/' ∧ c ≠ '\\' := by
    refine ⟨?_, ?_, ?_, ?_⟩ <;> rintro rfl <;> cases hc
  obtain ⟨hhash, hmark, hslash, hback⟩ := hplain
  rw [spell, hcs, List.cons_append]
  simp only [relative, hslash, hback, or_self, if_false]
  rfl

lemma withPath_spell (h : IsPlain segments query) (hbase : base.IsApiBase) :
    withPath base.scheme base.authority base.dirs (spell segments query) =
      { base with path := .rooted (base.dirs ++ segments), query := query } := by
  have hsolid : solid (part '?' query) = part '?' query :=
    solid_eq_self fun c hc => (h.ordinary_part c hc).2.1
  have hkind : Kind.ofScheme base.scheme = .web := hbase.kind_eq
  have hpath := withPath_web hkind base.authority base.dirs (spell segments query)
  rw [h.trail_spell] at hpath
  unfold withPath at hpath ⊢
  dsimp only at hpath ⊢
  rw [hpath, h.split_spell.2, hsolid, hkind, h.tail_part, hbase.fragment]
  rfl

theorem resolve_spell (h : IsPlain segments query) (hbase : base.IsApiBase) :
    resolve (some base) (spell segments query) =
      .ok { base with path := .rooted (base.dirs ++ segments), query := query } := by
  have hordinary := h.ordinary_spell
  have htrim : trimEdges (spell segments query) = spell segments query :=
    trimEdges_eq_self fun c hc => (hordinary c hc).1
  have hsolid : solid (spell segments query) = spell segments query :=
    solid_eq_self fun c hc => (hordinary c hc).2.1
  have hscheme : scheme? (spell segments query) = none :=
    scheme?_eq_none fun hc => (hordinary ':' hc).2.2.1 rfl
  have hhead : (spell segments query).head? ≠ some '#' := fun hc =>
    (hordinary '#' (List.mem_of_head? hc)).2.2.2 rfl
  simp only [resolve, htrim, hsolid, hscheme, hhead, if_false, hbase.path_eq.1, hbase.kind_eq,
    reduceCtorEq]
  rw [h.relative_spell, h.withPath_spell hbase]

lemma chars_spell (h : IsPlain segments query) (hbase : base.IsApiBase) :
    ({ base with path := .rooted (base.dirs ++ segments), query := query } : Url).chars =
      base.chars ++ spell segments query := by
  obtain ⟨a, ha⟩ := Option.isSome_iff_exists.mp (hbase.proper hbase.kind_eq).1
  have hbaseText : base.path.text = (Path.rooted base.dirs).text ++ ['/'] := by
    rw [hbase.path_eq.1, text_append]
    rfl
  simp only [chars, originChars, ha, hbase.query, hbase.fragment, part, text_append, spell,
    text_eq_join h.ne_nil, hbaseText, List.append_nil, List.append_assoc, List.cons_append,
    List.nil_append]

end IsPlain
end StorageConsole.Url
