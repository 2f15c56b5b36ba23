import Mathlib.Logic.Function.Iterate
import Mathlib.Tactic.Lemma
import StorageConsole.Proofs.Text.Percent
import StorageConsole.Proofs.Text.Pieces
import StorageConsole.Url.Reference

/-! Ways along paths: how far a path goes up, and which names it then goes down by. -/

namespace StorageConsole.Url

def nameOf (piece : List Char) : List Char := Escaping.encode Escaping.inPath (solid piece)

/-- What a path does to the segments that it sets out from: it goes up so often, and then down. -/
structure Trail where
  ups : Nat := 0
  names : List (List Char) := []
  deriving DecidableEq, Repr

namespace Trail

def up (t : Trail) : Trail :=
  if t.names = [] then { t with ups := t.ups + 1 } else { t with names := parent t.names }

def down (t : Trail) (name : List Char) : Trail := { t with names := t.names ++ [name] }

def along : Trail → (pieces : List (List Char)) → Trail
  | t, [] => t
  | t, [piece] =>
    match dots (solid piece) with
    | some 2 => t.up.down []
    | some 1 => t.down []
    | _ => t.down (nameOf piece)
  | t, piece :: next :: more =>
    match dots (solid piece) with
    | some 2 => along t.up (next :: more)
    | some 1 => along t (next :: more)
    | _ => along (t.down (nameOf piece)) (next :: more)

def ends (t : Trail) (start : List (List Char)) : List (List Char) :=
  parent^[t.ups] start ++ t.names

end Trail

def trail (cs : List Char) : Trail :=
  Trail.along {} (Text.pieces (isSlash .web) (cs.takeWhile (!endsPath ·)))

lemma parent_append (above : List (List Char)) {names : List (List Char)} (hne : names ≠ []) :
    parent (above ++ names) = above ++ parent names := by
  have hlast := List.getLast?_eq_some_getLast hne
  simp only [parent, List.getLast?_append, hlast, Option.some_or]
  split
  · rfl
  · exact List.dropLast_append_of_ne_nil hne

namespace Trail

variable (t : Trail) (start : List (List Char))

lemma ends_up : t.up.ends start = parent (t.ends start) := by
  unfold up
  split
  · rename_i hnames
    simp only [ends, hnames, List.append_nil, Function.iterate_succ_apply']
  · rename_i hnames
    exact (parent_append _ hnames).symm

lemma ends_down (name : List Char) : (t.down name).ends start = t.ends start ++ [name] :=
  (List.append_assoc _ _ _).symm

end Trail

lemma down_web (w : Walk) (piece : List Char) :
    (w.down .web piece).segments = w.segments ++ [nameOf piece] := by
  rw [Walk.down, if_neg (by simp)]
  rfl

lemma along_web (pieces : List (List Char)) (t : Trail) (start : List (List Char)) (w : Walk)
    (h : w.segments = t.ends start) :
    (Walk.along .web w pieces).segments = (t.along pieces).ends start := by
  induction pieces generalizing w t with
  | nil => exact h
  | cons piece more ih =>
    have hup : parent w.segments = t.up.ends start := by rw [h, Trail.ends_up]
    have hdown : (w.down .web piece).segments = (t.down (nameOf piece)).ends start := by
      rw [down_web, h, Trail.ends_down]
    cases more with
    | nil =>
      rw [Walk.along, Trail.along]
      rcases dots (solid piece) with _ | _ | _ | _ | _
      case some.succ.zero => exact (congrArg (· ++ [[]]) h).trans (t.ends_down start []).symm
      case some.succ.succ.zero =>
        exact (congrArg (· ++ [[]]) hup).trans (t.up.ends_down start []).symm
      all_goals exact hdown
    | cons next more =>
      rw [Walk.along, Trail.along]
      rcases dots (solid piece) with _ | _ | _ | _ | _
      case some.succ.zero => exact ih t w h
      case some.succ.succ.zero => exact ih t.up _ hup
      all_goals exact ih _ _ hdown

lemma walk_web (start : List (List Char)) (cs : List Char) :
    (walk .web start cs).segments = (trail cs).ends start :=
  along_web _ {} start { segments := start } (List.append_nil start).symm

def SlashFree (segments : List (List Char)) : Prop := ∀ segment ∈ segments, '/' ∉ segment

lemma not_slash_mem_nameOf {piece : List Char} (h : '/' ∉ piece) : '/' ∉ nameOf piece := by
  intro hmem
  rcases Text.Percent.mem_encode (by decide) hmem with hsolid | hescape
  · exact h ((List.mem_filter.mp hsolid).1)
  · exact absurd hescape (by decide)

lemma parent_subset (segments : List (List Char)) : parent segments ⊆ segments := by
  unfold parent
  split
  · split
    · exact List.Subset.refl _
    · exact List.dropLast_subset segments
  · exact List.nil_subset _

lemma SlashFree.parent {segments : List (List Char)} (h : SlashFree segments) :
    SlashFree (parent segments) :=
  fun segment hsegment => h segment (parent_subset segments hsegment)

namespace Trail

variable {t : Trail}

lemma slashFree_up (h : SlashFree t.names) : SlashFree t.up.names := by
  unfold up
  split
  · exact h
  · exact h.parent

lemma slashFree_down (h : SlashFree t.names) {name : List Char} (hname : '/' ∉ name) :
    SlashFree (t.down name).names := by
  intro segment hsegment
  rcases List.mem_append.mp hsegment with hsegment | hsegment
  · exact h segment hsegment
  · rwa [List.mem_singleton.mp hsegment]

lemma slashFree_along {pieces : List (List Char)} (ht : SlashFree t.names)
    (hpieces : SlashFree pieces) : SlashFree (t.along pieces).names := by
  induction pieces generalizing t with
  | nil => exact ht
  | cons piece more ih =>
    have hmore : SlashFree more := fun segment hsegment =>
      hpieces segment (List.mem_cons_of_mem piece hsegment)
    have hempty : '/' ∉ ([] : List Char) := List.not_mem_nil
    have hname := not_slash_mem_nameOf (hpieces piece List.mem_cons_self)
    cases more with
    | nil =>
      rw [along]
      split
      · exact slashFree_down (slashFree_up ht) hempty
      · exact slashFree_down ht hempty
      · exact slashFree_down ht hname
    | cons next more =>
      rw [along]
      split
      · exact ih (slashFree_up ht) hmore
      · exact ih ht hmore
      · exact ih (slashFree_down ht hname) hmore

lemma names_along_ne_nil {pieces : List (List Char)} (hne : pieces ≠ []) :
    (t.along pieces).names ≠ [] := by
  have hdown (t : Trail) (name : List Char) : (t.down name).names ≠ [] :=
    List.append_ne_nil_of_right_ne_nil _ (List.cons_ne_nil name [])
  induction pieces generalizing t with
  | nil => exact absurd rfl hne
  | cons piece more ih =>
    cases more with
    | nil =>
      rw [along]
      split <;> exact hdown _ _
    | cons next more =>
      rw [along]
      split <;> exact ih (List.cons_ne_nil next more)

end Trail

lemma slashFree_trail (cs : List Char) : SlashFree (trail cs).names := by
  apply Trail.slashFree_along
  · exact fun segment hsegment => absurd hsegment List.not_mem_nil
  · intro piece hpiece hslash
    exact absurd (Text.not_separates_of_mem_pieces hpiece _ hslash) (by decide)

lemma slashFree_ends {start : List (List Char)} (hstart : SlashFree start) (cs : List Char) :
    SlashFree ((trail cs).ends start) := by
  have hup (n : Nat) : SlashFree (parent^[n] start) := by
    induction n with
    | zero => exact hstart
    | succ n ih =>
      rw [Function.iterate_succ_apply']
      exact ih.parent
  intro segment hsegment
  rcases List.mem_append.mp hsegment with hsegment | hsegment
  · exact hup _ segment hsegment
  · exact slashFree_trail cs segment hsegment

lemma eq_of_prefix {name name' more rest : List Char} (hname : '/' ∉ name) (hname' : '/' ∉ name')
    (hrest : ∀ c, rest.head? = some c → c = '/')
    (h : name ++ '/' :: more <+: name' ++ rest) : name = name' ∧ '/' :: more <+: rest := by
  induction name generalizing name' with
  | nil =>
    cases name' with
    | nil => exact ⟨rfl, h⟩
    | cons d name' =>
      obtain ⟨rfl, -⟩ := List.cons_prefix_cons.mp h
      exact absurd List.mem_cons_self hname'
  | cons c name ih =>
    obtain ⟨hc, hname⟩ := not_or.mp (List.mem_cons.not.mp hname)
    cases name' with
    | nil =>
      obtain ⟨after, rfl⟩ := h
      exact absurd (hrest c rfl).symm hc
    | cons d name' =>
      obtain ⟨rfl, htail⟩ := List.cons_prefix_cons.mp h
      obtain ⟨rfl, hmore⟩ := ih hname (not_or.mp (List.mem_cons.not.mp hname')).2 htail
      exact ⟨rfl, hmore⟩

lemma head?_text {segments : List (List Char)} {c : Char}
    (h : (Path.rooted segments).text.head? = some c) : c = '/' := by
  cases segments with
  | nil => cases h
  | cons segment more => exact (Option.some.inj h).symm

lemma text_cons (segment : List Char) (more : List (List Char)) :
    (Path.rooted (segment :: more)).text = '/' :: (segment ++ (Path.rooted more).text) := rfl

lemma text_append (segments more : List (List Char)) :
    (Path.rooted (segments ++ more)).text =
      (Path.rooted segments).text ++ (Path.rooted more).text :=
  List.flatMap_append

lemma text_eq_join {segments : List (List Char)} (hne : segments ≠ []) :
    (Path.rooted segments).text = '/' :: Text.join '/' segments :=
  Text.flatMap_cons_eq_join '/' hne

lemma text_prefix_iff {dirs segments : List (List Char)} (hdirs : SlashFree dirs)
    (hsegments : SlashFree segments) :
    (Path.rooted (dirs ++ [[]])).text <+: (Path.rooted segments).text ↔
      ∃ more, more ≠ [] ∧ segments = dirs ++ more := by
  constructor
  · intro h
    induction dirs generalizing segments with
    | nil =>
      refine ⟨segments, ?_, rfl⟩
      rintro rfl
      exact absurd (List.prefix_nil.mp h) (by decide)
    | cons dir dirs ih =>
      cases segments with
      | nil => exact absurd (List.prefix_nil.mp h) (List.cons_ne_nil _ _)
      | cons segment segments =>
        obtain ⟨hdir, hdirs'⟩ := List.forall_mem_cons.mp hdirs
        obtain ⟨hsegment, hsegments'⟩ := List.forall_mem_cons.mp hsegments
        have hne := List.append_ne_nil_of_right_ne_nil dirs (List.cons_ne_nil ([] : List Char) [])
        rw [List.cons_append, text_cons, text_cons, text_eq_join hne] at h
        obtain ⟨rfl, htail⟩ := eq_of_prefix hdir hsegment (fun c => head?_text)
          (List.cons_prefix_cons.mp h).2
        rw [← text_eq_join hne] at htail
        obtain ⟨more, hmore, rfl⟩ := ih hdirs' hsegments' htail
        exact ⟨more, hmore, rfl⟩
  · rintro ⟨more, hmore, rfl⟩
    rw [text_append, text_append, text_eq_join hmore]
    apply (List.prefix_append_right_inj _).mpr
    exact List.prefix_append ['/'] _

end StorageConsole.Url
