import StorageConsole.Proofs.Download.Naming
import StorageConsole.Proofs.Download.Saving

/-! Saves into one directory in progress together, in any order of their steps. -/

namespace StorageConsole.Download

open Files (Tree Path)
open Save (Stage Move)

def Save.Stage.hasLanded : Stage → Bool
  | .ended (.ok ()) => true
  | _ => false

def Save.Stage.hasEnded : Stage → Bool
  | .ended _ => true
  | _ => false

def Save.Stage.left : Stage → Bytes
  | .writing _ left => left
  | _ => []

structure Together where
  tree : Tree
  stages : List Stage
  -- The places of the saves whose files have come onto their names, oldest first.
  landed : List Nat := []
  -- The unfinished files that have been opened so far.
  opened : List Path := []

structure Turn where
  place : Nat
  move : Move

namespace Together

def start (dir : String) (saves : List Save) (t : Tree) : Together :=
  ⟨t, saves.map fun _ => Save.begin dir, [], []⟩

def went (x : Together) (place : Nat) (stage : Stage) (tree : Tree) (stage' : Stage) :
    Together where
  tree := tree
  stages := x.stages.set place stage'
  landed := if stage'.hasLanded && !stage.hasLanded then x.landed ++ [place] else x.landed
  opened := if stage.part?.isNone then x.opened ++ stage'.part?.toList else x.opened

variable (dir : String) (saves : List Save)

def turn (x : Together) (t : Turn) : Together :=
  match saves[t.place]?, x.stages[t.place]? with
  | some s, some stage =>
    let next := s.step dir x.tree stage t.move
    x.went t.place stage next.1 next.2
  | _, _ => x

def play (x : Together) (turns : List Turn) : Together := turns.foldl (turn dir saves) x

def lastAt (landed : List Nat) (p : Path) : Option Save :=
  (landed.filterMap (saves[·]?)).reverse.find? fun s => s.landsOn dir == p

def held (t₀ : Tree) (landed : List Nat) (p : Path) : Option Bytes :=
  ((lastAt dir saves landed p).map (·.bytes)).or (t₀.content? p)

def part? (x : Together) (i : Nat) : Option Path := x.stages[i]?.bind (·.part?)

def IsClear (x : Together) : Prop := ∀ part ∈ x.opened, ∀ s ∈ saves, part ≠ s.landsOn dir

/-- Each save that has an unfinished file is alone with it, and has written it so far; every other
path holds what it is to hold. -/
structure Apart (t₀ : Tree) (x : Together) : Prop where
  owns : ∀ (i : Nat) (stage : Stage) (part : Path), x.stages[i]? = some stage →
    stage.part? = some part → part ∈ x.opened ∧ ∃ s done, saves[i]? = some s ∧
      done ++ stage.left = s.bytes ∧ x.tree.get? part = some (.file done Files.ownerOnly)
  alone : ∀ i j part, x.part? i = some part → x.part? j = some part → i = j
  fresh : ∀ part ∈ x.opened, t₀.content? part = none
  holds : ∀ p, (∀ i, x.part? i ≠ some p) → x.tree.content? p = held dir saves t₀ x.landed p
  landed_iff : ∀ i, i ∈ x.landed ↔ x.stages[i]? = some (.ended (.ok ()))
  nodup : x.landed.Nodup

variable {dir saves} {x : Together} {t₀ tree : Tree} {place : Nat} {stage stage' : Stage} {s : Save}
  {part : Path}

lemma held_of_not_target {landed : List Nat} {p : Path} (hp : ∀ s ∈ saves, p ≠ s.landsOn dir) :
    held dir saves t₀ landed p = t₀.content? p := by
  have hnone : lastAt dir saves landed p = none := by
    apply List.find?_eq_none.mpr
    intro s hs heq
    obtain ⟨i, -, hi⟩ := List.mem_filterMap.mp (List.mem_reverse.mp hs)
    exact hp s (List.mem_of_getElem? hi) (beq_iff_eq.mp heq).symm
  rw [held, hnone]
  rfl

lemma held_append {landed : List Nat} (hs : saves[place]? = some s) (p : Path) :
    held dir saves t₀ (landed ++ [place]) p =
      if s.landsOn dir = p then some s.bytes else held dir saves t₀ landed p := by
  by_cases hp : s.landsOn dir = p <;> simp [held, lastAt, hs, hp]

lemma Apart.owned (h : Apart dir saves t₀ x) {i : Nat} (hi : x.part? i = some part) :
    part ∈ x.opened ∧ ∃ done, x.tree.get? part = some (.file done Files.ownerOnly) := by
  obtain ⟨stage, hstage, hpart⟩ := Option.bind_eq_some_iff.mp hi
  obtain ⟨hmem, -, done, -, -, hget⟩ := h.owns i stage part hstage hpart
  exact ⟨hmem, done, hget⟩

lemma hasLanded_iff : stage.hasLanded = true ↔ stage = .ended (.ok ()) := by
  cases stage with
  | ended result => cases result <;> simp [Stage.hasLanded]
  | _ => simp [Stage.hasLanded]

lemma went_landed_same (h : stage'.hasLanded = false) :
    (x.went place stage tree stage').landed = x.landed := by
  simp [went, h]

lemma went_opened_same (h : stage.part? = some part) :
    (x.went place stage tree stage').opened = x.opened := by
  simp [went, h]

lemma Apart.ne_of_other (h : Apart dir saves t₀ x) {i : Nat} {q : Path} (hi : i ≠ place)
    (hplace : x.part? place = some part) (hq : x.part? i = some q) : q ≠ part := by
  rintro rfl
  exact hi (h.alone i place q hq hplace)

section

variable (hstage : x.stages[place]? = some stage)

include hstage

lemma went_stages (i : Nat) :
    (x.went place stage tree stage').stages[i]? =
      if i = place then some stage' else x.stages[i]? := by
  have hlt : place < x.stages.length := (List.getElem?_eq_some_iff.mp hstage).1
  by_cases hi : i = place
  · subst hi
    simp [went, hlt]
  · simp [went, List.getElem?_set_ne (Ne.symm hi), hi]

lemma went_part? (i : Nat) :
    (x.went place stage tree stage').part? i = if i = place then stage'.part? else x.part? i := by
  rw [part?, went_stages hstage]
  by_cases hi : i = place <;> simp [hi, part?]

lemma part?_place : x.part? place = stage.part? := by
  simp [part?, hstage]

lemma went_part?_same (hpart : stage'.part? = stage.part?) :
    (x.went place stage tree stage').part? = x.part? := by
  funext i
  rw [went_part? hstage, hpart, ← part?_place hstage]
  split
  · rename_i hi
    rw [hi]
  · rfl

lemma went_self : x.went place stage x.tree stage = x := by
  have hset : x.stages.set place stage = x.stages := by
    apply List.ext_getElem?
    intro i
    have hi : (x.went place stage x.tree stage).stages[i]? = _ := went_stages hstage i
    simp only [went] at hi
    rw [hi]
    split
    · rename_i heq
      rw [heq, hstage]
    · rfl
  have hopened : (if stage.part?.isNone then x.opened ++ stage.part?.toList else x.opened) =
      x.opened := by
    cases stage.part? <;> simp
  rw [went, hset, hopened, Bool.and_not_self]
  rfl

lemma went_landed (tree : Tree) (stage' : Stage) (h : Apart dir saves t₀ x)
    (hbefore : stage.hasLanded = false) :
    (∀ i, i ∈ (x.went place stage tree stage').landed ↔
      (x.went place stage tree stage').stages[i]? = some (.ended (.ok ()))) ∧
    (x.went place stage tree stage').landed.Nodup := by
  have hnot : place ∉ x.landed := by
    intro hmem
    rw [h.landed_iff, hstage] at hmem
    have hlanded := hasLanded_iff.mpr (Option.some.inj hmem)
    rw [hbefore] at hlanded
    cases hlanded
  cases hafter : stage'.hasLanded with
  | true =>
    have hlanded : (x.went place stage tree stage').landed = x.landed ++ [place] := by
      simp [went, hbefore, hafter]
    rw [hlanded]
    refine ⟨?_, List.nodup_append.mpr ⟨h.nodup, List.nodup_singleton place, ?_⟩⟩
    · intro i
      rw [went_stages hstage, List.mem_append, List.mem_singleton, h.landed_iff]
      by_cases hi : i = place
      · simp [hi, hasLanded_iff.mp hafter]
      · simp [hi]
    · rintro i hi _ hj rfl
      exact hnot (List.mem_singleton.mp hj ▸ hi)
  | false =>
    rw [went_landed_same hafter]
    refine ⟨?_, h.nodup⟩
    intro i
    rw [went_stages hstage]
    by_cases hi : i = place
    · subst hi
      have hnone : stage' ≠ .ended (.ok ()) := by
        rintro rfl
        cases hafter
      simp [hnot, hnone]
    · simp [hi, h.landed_iff]

lemma Apart.went (h : Apart dir saves t₀ x) (hs : saves[place]? = some s)
    (hbefore : stage.hasLanded = false)
    (hmine : ∀ part, stage'.part? = some part →
      part ∈ (x.went place stage tree stage').opened ∧ ∃ done, done ++ stage'.left = s.bytes ∧
        tree.get? part = some (.file done Files.ownerOnly))
    (hothers : ∀ i part content mode, i ≠ place → x.part? i = some part →
      stage'.part? ≠ some part ∧ (x.tree.get? part = some (.file content mode) →
        tree.get? part = some (.file content mode)))
    (hfresh : ∀ part ∈ (x.went place stage tree stage').opened, t₀.content? part = none)
    (hholds : ∀ p, (∀ i, (x.went place stage tree stage').part? i ≠ some p) →
      tree.content? p = held dir saves t₀ (x.went place stage tree stage').landed p) :
    Apart dir saves t₀ (x.went place stage tree stage') := by
  obtain ⟨hlanded, hnodup⟩ := went_landed hstage tree stage' h hbefore
  have hopened : ∀ part ∈ x.opened, part ∈ (x.went place stage tree stage').opened := by
    intro part hpart
    by_cases hnone : stage.part?.isNone = true <;> simp [Together.went, hnone, hpart]
  refine ⟨?_, ?_, hfresh, hholds, hlanded, hnodup⟩
  · intro i stage₁ part hstage₁ hpart
    rw [went_stages hstage] at hstage₁
    by_cases hi : i = place
    · subst hi
      rw [if_pos rfl] at hstage₁
      cases hstage₁
      obtain ⟨hmem, done, hbytes, hget⟩ := hmine part hpart
      exact ⟨hmem, s, done, hs, hbytes, hget⟩
    · rw [if_neg hi] at hstage₁
      obtain ⟨hmem, s', done, hs', hbytes, hget⟩ := h.owns i stage₁ part hstage₁ hpart
      have hpart' : x.part? i = some part := by rw [part?_place hstage₁, hpart]
      exact ⟨hopened part hmem, s', done, hs', hbytes, (hothers i part done _ hi hpart').2 hget⟩
  · intro i j part hi hj
    rw [went_part? hstage] at hi hj
    split_ifs at hi hj with hi' hj' hj'
    · rw [hi', hj']
    · exact absurd hi (hothers j part [] 0 hj' hj).1
    · exact absurd hj (hothers i part [] 0 hi' hi).1
    · exact h.alone i j part hi hj

lemma Apart.quiet (h : Apart dir saves t₀ x) (hs : saves[place]? = some s)
    (hbefore : stage.hasLanded = false) (hafter : stage'.hasLanded = false)
    (hnone : stage.part? = none) (hnone' : stage'.part? = none)
    (hfiles : ∀ p content mode, x.tree.get? p = some (.file content mode) →
      tree.get? p = some (.file content mode))
    (hcontent : ∀ p, tree.content? p = x.tree.content? p) :
    Apart dir saves t₀ (x.went place stage tree stage') := by
  apply h.went hstage hs hbefore
  · intro part hpart
    rw [hnone'] at hpart
    cases hpart
  · intro i part content mode _ _
    exact ⟨by simp [hnone'], hfiles part content mode⟩
  · have hopened : (x.went place stage tree stage').opened = x.opened := by
      simp [Together.went, hnone, hnone']
    rw [hopened]
    exact h.fresh
  · intro p hp
    rw [went_part?_same hstage (hnone'.trans hnone.symm)] at hp
    rw [went_landed_same hafter, hcontent]
    exact h.holds p hp

lemma Apart.writes (h : Apart dir saves t₀ x) (hs : saves[place]? = some s)
    (hpart : stage.part? = some part) (hpart' : stage'.part? = some part) {done : Bytes}
    (hdone : done ++ stage'.left = s.bytes)
    (hget : ∀ p, tree.get? p =
      if p = part then some (.file done Files.ownerOnly) else x.tree.get? p) :
    Apart dir saves t₀ (x.went place stage tree stage') := by
  have hbefore : stage.hasLanded = false := by cases stage <;> cases hpart <;> rfl
  have hafter : stage'.hasLanded = false := by cases stage' <;> cases hpart' <;> rfl
  have hplace : x.part? place = some part := by rw [part?_place hstage, hpart]
  have hopened : (x.went place stage tree stage').opened = x.opened := went_opened_same hpart
  apply h.went hstage hs hbefore
  · intro q hq
    rw [hpart'] at hq
    cases hq
    rw [hopened]
    exact ⟨(h.owns place stage part hstage hpart).1, done, hdone, by rw [hget, if_pos rfl]⟩
  · intro i q content mode hi hq
    have hne : q ≠ part := h.ne_of_other hi hplace hq
    refine ⟨by simpa [hpart'] using hne.symm, ?_⟩
    intro hfile
    rw [hget, if_neg hne, hfile]
  · rw [hopened]
    exact h.fresh
  · intro p hp
    rw [went_part?_same hstage (hpart'.trans hpart.symm)] at hp
    have hne : p ≠ part := by
      rintro rfl
      exact hp place hplace
    rw [went_landed_same hafter, ← h.holds p hp]
    apply Tree.content?_of_get?
    rw [hget, if_neg hne]

lemma Apart.opens (h : Apart dir saves t₀ x) (hs : saves[place]? = some s)
    (hbefore : stage.hasLanded = false) (hnone : stage.part? = none)
    (habsent : x.tree.get? part = none)
    (hclear : IsClear dir saves (x.went place stage tree (.writing part s.bytes)))
    (hget : ∀ p, tree.get? p =
      if p = part then some (.file [] Files.ownerOnly) else x.tree.get? p) :
    Apart dir saves t₀ (x.went place stage tree (.writing part s.bytes)) := by
  have hopened : (x.went place stage tree (.writing part s.bytes)).opened = x.opened ++ [part] := by
    simp only [Together.went, hnone, Option.isNone_none, if_true]
    rfl
  have hpart : part ∈ (x.went place stage tree (.writing part s.bytes)).opened := by simp [hopened]
  -- the file that is opened was not there, so it is nobody's
  have hunowned : ∀ i, x.part? i ≠ some part := by
    intro i hi
    obtain ⟨-, done, hfile⟩ := h.owned hi
    rw [habsent] at hfile
    cases hfile
  apply h.went hstage hs hbefore
  · intro q hq
    cases hq
    exact ⟨hpart, [], rfl, by rw [hget, if_pos rfl]⟩
  · intro i q content mode _ hq
    have hne : q ≠ part := by
      rintro rfl
      exact hunowned i hq
    refine ⟨by simpa [Stage.part?] using hne.symm, ?_⟩
    intro hfile
    rw [hget, if_neg hne, hfile]
  · intro q hq
    rw [hopened] at hq
    rcases List.mem_append.mp hq with hq | hq
    · exact h.fresh q hq
    · rw [List.mem_singleton.mp hq, ← held_of_not_target (hclear part hpart),
        ← h.holds part hunowned, Tree.content?, habsent]
  · intro p hp
    have hne : p ≠ part := by
      rintro rfl
      exact hp place (by rw [went_part? hstage, if_pos rfl]; rfl)
    have hbefore' : ∀ i, x.part? i ≠ some p := by
      intro i
      by_cases hi : i = place
      · rw [hi, part?_place hstage, hnone]
        simp
      · have hsame := hp i
        rwa [went_part? hstage, if_neg hi] at hsame
    rw [went_landed_same rfl, ← h.holds p hbefore']
    apply Tree.content?_of_get?
    rw [hget, if_neg hne]

lemma Apart.ends (h : Apart dir saves t₀ x) (hs : saves[place]? = some s)
    (hclear : IsClear dir saves x) (hpart : stage.part? = some part)
    {result : Except Files.Fault Unit}
    (hothers : ∀ p, p ≠ part → (∀ s ∈ saves, p ≠ s.landsOn dir) → tree.get? p = x.tree.get? p)
    (hgone : tree.content? part = none)
    (hholds : ∀ p, p ≠ part → (∀ i, x.part? i ≠ some p) →
      tree.content? p =
        held dir saves t₀ (x.went place stage tree (.ended result)).landed p) :
    Apart dir saves t₀ (x.went place stage tree (.ended result)) := by
  have hbefore : stage.hasLanded = false := by cases stage <;> cases hpart <;> rfl
  have hplace : x.part? place = some part := by rw [part?_place hstage, hpart]
  have hmem := (h.owned hplace).1
  have hopened : (x.went place stage tree (.ended result)).opened = x.opened :=
    went_opened_same hpart
  apply h.went hstage hs hbefore
  · intro q hq
    cases hq
  · intro i q content mode hi hq
    have hne : q ≠ part := h.ne_of_other hi hplace hq
    refine ⟨by simp [Stage.part?], ?_⟩
    intro hfile
    rw [hothers q hne (hclear q (h.owned hq).1), hfile]
  · rw [hopened]
    exact h.fresh
  · intro p hp
    by_cases hne : p = part
    · subst hne
      rw [hgone, held_of_not_target (hclear p hmem), h.fresh p hmem]
    · apply hholds p hne
      intro i
      by_cases hi : i = place
      · rw [hi, hplace]
        exact fun heq => hne (Option.some.inj heq).symm
      · have hsame := hp i
        rwa [went_part? hstage, if_neg hi] at hsame

lemma Apart.lands (h : Apart dir saves t₀ x) (hclear : IsClear dir saves x)
    (hs : saves[place]? = some s) (hwritten : stage = .written part)
    (hmoved : x.tree.rename part (s.landsOn dir) = .ok tree) :
    Apart dir saves t₀ (x.went place stage tree (.ended (.ok ()))) := by
  subst hwritten
  obtain ⟨hmem, s', done, hs', hbytes, hpart⟩ := h.owns place _ part hstage rfl
  obtain rfl : s = s' := Option.some.inj (hs.symm.trans hs')
  obtain ⟨content, mode, hsource, rfl, -⟩ := Tree.rename_cases hmoved
  obtain ⟨rfl, rfl⟩ : content = s.bytes ∧ mode = Files.ownerOnly := by
    have hdone : done = s.bytes := by simpa [Stage.left] using hbytes
    rw [hpart, hdone] at hsource
    cases hsource
    exact ⟨rfl, rfl⟩
  have hne : part ≠ s.landsOn dir := hclear part hmem s (List.mem_of_getElem? hs)
  have hget := Tree.get?_move hsource (Save.landsOn_ne_root dir s)
  have hlanded (t : Tree) : (x.went place (.written part) t (.ended (.ok ()))).landed =
      x.landed ++ [place] := rfl
  apply h.ends hstage hs hclear rfl
  · intro p hp hnone
    rw [hget, if_neg (hnone s (List.mem_of_getElem? hs)), if_neg hp]
  · rw [Tree.content?, hget, if_neg hne, if_pos rfl]
  · intro p hp hunowned
    rw [hlanded, held_append hs]
    by_cases hp' : p = s.landsOn dir
    · rw [if_pos hp'.symm]
      apply Tree.content?_file
      rw [hget, if_pos hp']
    · rw [if_neg (Ne.symm hp'), ← h.holds p hunowned]
      apply Tree.content?_of_get?
      rw [hget, if_neg hp', if_neg hp]

lemma Apart.drops (h : Apart dir saves t₀ x) (hclear : IsClear dir saves x)
    (hs : saves[place]? = some s) (hpart : stage.part? = some part) (fault : Files.Fault) :
    Apart dir saves t₀ (x.went place stage (x.tree.erase part) (.ended (.error fault))) := by
  obtain ⟨-, done, hfile⟩ := h.owned ((part?_place hstage).trans hpart)
  have hget := x.tree.get?_erase (Tree.ne_root hfile)
  apply h.ends hstage hs hclear hpart
  · intro p hp _
    rw [hget, if_neg hp]
  · rw [Tree.content?, hget, if_pos rfl]
  · intro p hp hunowned
    rw [went_landed_same rfl, ← h.holds p hunowned]
    apply Tree.content?_of_get?
    rw [hget, if_neg hp]

lemma Apart.makes (h : Apart dir saves t₀ x) (hs : saves[place]? = some s) {path here : Path}
    {name : String} {more more' : List String} (habsent : x.tree.get? path = none)
    (hentering : stage = .entering here (name :: more)) :
    Apart dir saves t₀
      (x.went place stage (x.tree.put path .directory) (.entering path more')) := by
  subst hentering
  have hget := x.tree.get?_put (Tree.ne_root_of_absent habsent) .directory
  apply h.quiet hstage hs rfl rfl rfl rfl
  · intro p content mode hfile
    have hne : p ≠ path := by
      rintro rfl
      rw [habsent] at hfile
      cases hfile
    rw [hget, if_neg hne, hfile]
  · intro p
    by_cases hp : p = path
    · subst hp
      rw [Tree.content?, Tree.content?, hget, if_pos rfl, habsent]
    · apply Tree.content?_of_get?
      rw [hget, if_neg hp]

lemma Apart.did (h : Apart dir saves t₀ x) (hs : saves[place]? = some s)
    (hdid : s.Did dir x.tree stage tree stage')
    (hclear : IsClear dir saves (x.went place stage tree stage')) :
    Apart dir saves t₀ (x.went place stage tree stage') := by
  cases hdid with
  | idle =>
    rw [went_self hstage]
    exact h
  | enters _ _ => exact h.quiet hstage hs rfl rfl rfl rfl (fun _ _ _ h => h) fun _ => rfl
  | turnsBack fault => exact h.quiet hstage hs rfl rfl rfl rfl (fun _ _ _ h => h) fun _ => rfl
  | makes _ habsent => exact h.makes hstage hs habsent rfl
  | opens mark habsent =>
    exact h.opens hstage hs rfl rfl habsent hclear
      (x.tree.get?_put (Tree.ne_root_of_absent habsent) _)
  | writes n =>
    obtain ⟨-, s', done, hs', hbytes, hfile⟩ := h.owns place _ _ hstage rfl
    obtain rfl : s = s' := Option.some.inj (hs.symm.trans hs')
    apply h.writes hstage hs rfl rfl _ (Tree.get?_append hfile _)
    rw [List.append_assoc, Stage.left, List.take_append_drop]
    exact hbytes
  | @completes part =>
    obtain ⟨-, s', done, hs', hbytes, hfile⟩ := h.owns place _ _ hstage rfl
    obtain rfl : s = s' := Option.some.inj (hs.symm.trans hs')
    have hwritten : done ++ (Stage.written part).left = s.bytes := hbytes
    apply h.writes hstage hs rfl rfl hwritten
    intro p
    split
    · rename_i hp
      rw [hp, hfile]
    · rfl
  | lands hmoved => exact h.lands hstage hclear hs rfl hmoved
  | drops fault hpart =>
    apply h.drops hstage _ hs hpart
    intro q hq
    apply hclear q
    rwa [went_opened_same hpart]

end

lemma begin_cases (dir : String) :
    (∃ names, Save.begin dir = .entering [] names) ∨ ∃ e, Save.begin dir = .ended (.error e) := by
  by_cases hzero : Tree.hasZero (Path.spelled dir) = true
  · exact .inr ⟨_, if_pos hzero⟩
  · exact .inl ⟨_, if_neg hzero⟩

lemma start_stage {saves : List Save} {t : Tree} {i : Nat}
    (h : (start dir saves t).stages[i]? = some stage) :
    stage.part? = none ∧ stage ≠ .ended (.ok ()) := by
  have hbegin : Save.begin dir = stage := by
    simp only [start, List.getElem?_map] at h
    obtain ⟨s, -, hs⟩ := Option.map_eq_some_iff.mp h
    exact hs
  rw [← hbegin]
  obtain ⟨names, h⟩ | ⟨e, h⟩ := begin_cases dir <;> simp [h, Stage.part?]

lemma start_part? (saves : List Save) (t : Tree) (i : Nat) :
    (start dir saves t).part? i = none := by
  cases hi : (start dir saves t).stages[i]? with
  | none => simp [part?, hi]
  | some stage => rw [part?_place hi, (start_stage hi).1]

lemma start_apart (saves : List Save) (t : Tree) : Apart dir saves t (start dir saves t) where
  owns i stage part hstage hpart := by
    rw [(start_stage hstage).1] at hpart
    cases hpart
  alone i j part hi := by
    rw [start_part?] at hi
    cases hi
  fresh := by simp [start]
  holds p _ := by simp [start, held, lastAt]
  landed_iff i :=
    ⟨fun hmem => (List.not_mem_nil hmem).elim, fun hend => ((start_stage hend).2 rfl).elim⟩
  nodup := List.nodup_nil

lemma opened_turn (x : Together) (t : Turn) : x.opened ⊆ (x.turn dir saves t).opened := by
  intro part hpart
  simp only [turn]
  split
  · rename_i s stage _ _
    by_cases hnone : stage.part?.isNone = true <;> simp [went, hnone, hpart]
  · exact hpart

lemma opened_play (turns : List Turn) (x : Together) :
    x.opened ⊆ (x.play dir saves turns).opened := by
  induction turns generalizing x with
  | nil => exact List.Subset.refl _
  | cons t turns ih => exact List.Subset.trans (opened_turn x t) (ih _)

lemma Apart.turn (h : Apart dir saves t₀ x) (t : Turn)
    (hclear : IsClear dir saves (x.turn dir saves t)) :
    Apart dir saves t₀ (x.turn dir saves t) := by
  simp only [Together.turn] at hclear ⊢
  split
  · rename_i s stage hs hstage
    simp only [hs, hstage] at hclear
    exact h.did hstage hs (Save.step_did x.tree stage t.move) hclear
  · exact h

lemma Apart.play (turns : List Turn) (h : Apart dir saves t₀ x)
    (hclear : IsClear dir saves (x.play dir saves turns)) :
    Apart dir saves t₀ (x.play dir saves turns) := by
  induction turns generalizing x with
  | nil => exact h
  | cons t turns ih =>
    -- what the last state tells of all opened files holds for the earlier ones of them
    have hturn : Apart dir saves t₀ (x.turn dir saves t) :=
      h.turn t fun part hpart => hclear part (opened_play turns _ hpart)
    exact ih hturn hclear

lemma Apart.holds_target (h : Apart dir saves t₀ x) (hclear : IsClear dir saves x)
    (hs : s ∈ saves) :
    x.tree.content? (s.landsOn dir) = held dir saves t₀ x.landed (s.landsOn dir) := by
  apply h.holds
  intro i hi
  exact hclear _ (h.owned hi).1 s hs rfl

lemma lastAt_cases (dir : String) (saves : List Save) (landed : List Nat) (s : Save) :
    lastAt dir saves landed (s.landsOn dir) = none ∨
      ∃ s' ∈ saves, finalComponent s'.name = finalComponent s.name ∧
        lastAt dir saves landed (s.landsOn dir) = some s' := by
  cases hlast : lastAt dir saves landed (s.landsOn dir) with
  | none => exact .inl rfl
  | some s' =>
    obtain ⟨i, -, hi⟩ :=
      List.mem_filterMap.mp (List.mem_reverse.mp (List.mem_of_find?_eq_some hlast))
    have hsame : s'.landsOn dir = s.landsOn dir := by simpa using List.find?_some hlast
    refine .inr ⟨s', List.mem_of_getElem? hi, ?_, rfl⟩
    simpa [Save.landsOn, target] using hsame

lemma part?_of_ended (hended : ∀ stage ∈ x.stages, stage.hasEnded = true) (i : Nat) :
    x.part? i = none := by
  cases hi : x.stages[i]? with
  | none => simp [part?, hi]
  | some stage =>
    have hend := hended stage (List.mem_of_getElem? hi)
    rw [part?_place hi]
    cases stage with
    | ended result => rfl
    | _ => cases hend

lemma play_alone (dir : String) (s : Save) (moves : List Move) (t : Tree) (stage : Stage)
    (landed : List Nat) (opened : List Path) :
    let x := (Together.mk t [stage] landed opened).play dir [s] (moves.map (⟨0, ·⟩))
    x.tree = (s.run dir moves t stage).1 ∧ x.stages = [(s.run dir moves t stage).2] := by
  induction moves generalizing t stage landed opened with
  | nil => exact ⟨rfl, rfl⟩
  | cons move moves ih => exact ih _ _ _ _

lemma saveInto_alone (dir : String) (s : Save) (t : Tree) :
    ∃ turns, let x := (start dir [s] t).play dir [s] turns
      x.tree = (saveInto t dir s.name s.bytes).1 ∧
        x.stages = [.ended (saveInto t dir s.name s.bytes).2] := by
  obtain ⟨moves, hrun⟩ := Save.finish_run dir s t (Save.begin dir)
  have halone := play_alone dir s moves t (Save.begin dir) [] []
  rw [hrun] at halone
  exact ⟨_, halone⟩

/-- Saves into one directory in progress together, after any number of steps in any order, with
anything refused to any of them, where no unfinished file has the name of a file that is saved:
under each of these names is what was there before, or all bytes of one of the saves of that name.
When all have ended, it is the bytes of the save that came onto the name last, and no unfinished
file is left. -/
theorem saves_never_mix (dir : String) (saves : List Save) (t : Tree) (turns : List Turn)
    (hclear : IsClear dir saves ((start dir saves t).play dir saves turns)) :
    let x := (start dir saves t).play dir saves turns
    (∀ s ∈ saves, let path := Path.ofText (pathFor dir s.name)
      x.tree.content? path = t.content? path ∨
        ∃ s' ∈ saves, finalComponent s'.name = finalComponent s.name ∧
          x.tree.content? path = some s'.bytes) ∧
    (x.landed.Nodup ∧ ∀ i, i ∈ x.landed ↔ x.stages[i]? = some (.ended (.ok ()))) ∧
    ((∀ stage ∈ x.stages, stage.hasEnded = true) →
      (∀ s ∈ saves, let path := Path.ofText (pathFor dir s.name)
        x.tree.content? path =
          ((lastAt dir saves x.landed path).map (·.bytes)).or (t.content? path)) ∧
      ∀ part ∈ x.opened, x.tree.content? part = none) := by
  intro x
  have hx : Apart dir saves t x := Apart.play turns (start_apart saves t) hclear
  have hheld (s : Save) (hs : s ∈ saves) := hx.holds_target hclear hs
  have hpath (s : Save) : Path.ofText (pathFor dir s.name) = s.landsOn dir :=
    ofText_pathFor dir s.name
  refine ⟨?_, ⟨hx.nodup, hx.landed_iff⟩, ?_⟩
  · intro s hs
    simp only [hpath s, hheld s hs, held]
    obtain hnone | ⟨s', hs', hname, hlast⟩ := lastAt_cases dir saves x.landed s
    · rw [hnone]
      exact .inl rfl
    · rw [hlast]
      exact .inr ⟨s', hs', hname, rfl⟩
  · intro hended
    refine ⟨?_, ?_⟩
    · intro s hs
      simp only [hpath s]
      exact hheld s hs
    · intro part hpart
      have hunowned (i : Nat) : x.part? i ≠ some part := by simp [part?_of_ended hended i]
      rw [hx.holds part hunowned, held_of_not_target (hclear part hpart), hx.fresh part hpart]

theorem later_of_two_saves :
    let saves : List Save := [⟨"report.csv", [1, 2]⟩, ⟨"old/report.csv", [3]⟩]
    let turns : List Turn := [⟨0, .proceed "" 0⟩, ⟨0, .proceed "a" 0⟩, ⟨0, .proceed "" 1⟩,
      ⟨1, .proceed "" 0⟩, ⟨1, .proceed "b" 0⟩, ⟨1, .proceed "" 1⟩, ⟨1, .proceed "" 0⟩,
      ⟨1, .proceed "" 0⟩, ⟨0, .proceed "" 1⟩, ⟨0, .proceed "" 0⟩, ⟨0, .proceed "" 0⟩]
    let x := (start "files" saves []).play "files" saves turns
    IsClear "files" saves x ∧ (∀ stage ∈ x.stages, stage.hasEnded = true) ∧ x.landed = [1, 0] ∧
      (∀ s ∈ saves, x.tree.content? (Path.ofText (pathFor "files" s.name)) = some [1, 2]) ∧
      ∀ part ∈ x.opened, x.tree.content? part = none := by
  intro saves turns x
  have hclear : IsClear "files" saves x := by
    unfold IsClear
    decide +kernel
  have hended : ∀ stage ∈ x.stages, stage.hasEnded = true := by decide +kernel
  obtain ⟨-, -, hall⟩ := saves_never_mix "files" saves [] turns hclear
  obtain ⟨hholds, hnone⟩ := hall hended
  refine ⟨hclear, hended, by decide +kernel, ?_, hnone⟩
  intro s hs
  have hlast : ∀ s ∈ saves, let path := Path.ofText (pathFor "files" s.name)
      ((lastAt "files" saves x.landed path).map (·.bytes)).or (Tree.content? [] path) =
        some [1, 2] := by
    decide +kernel
  exact (hholds s hs).trans (hlast s hs)

end Together
end StorageConsole.Download
