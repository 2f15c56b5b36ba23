import Mathlib.Data.List.Nodup
import Mathlib.Data.List.Perm.Subperm
import Mathlib.Logic.Relation
import StorageConsole.Download.Sink
import StorageConsole.Proofs.Files.Tree

namespace StorageConsole.Download

open Files (Tree Path)

lemma partName_toString_injective : Function.Injective fun n : Nat => partName (toString n) := by
  intro m n h
  have hdigits : Nat.toDigits 10 m = Nat.toDigits 10 n := by
    have hlist := congrArg String.toList h
    simpa [partName, Nat.toString_eq_ofList_toDigits] using hlist
  rw [← Nat.ofDigitChars_ten_toDigits (n := m), hdigits, Nat.ofDigitChars_ten_toDigits]

lemma freeMark_absent (t : Tree) (here : Path) :
    t.get? (here ++ [partName (freeMark t here)]) = none := by
  let part (n : Nat) : Path := here ++ [partName (toString n)]
  cases hfind : (List.range (t.length + 1)).find? fun n => (t.get? (part n)).isNone with
  | some n =>
    have hfree := List.find?_some (p := fun n => (t.get? (part n)).isNone) hfind
    have hmark : freeMark t here = toString n :=
      congrArg (fun found => toString (found.getD 0)) hfind
    rw [hmark]
    exact Option.isNone_iff_eq_none.mp hfree
  | none =>
    -- every mark would be taken, by more entries than there are
    have htaken : (List.range (t.length + 1)).map part ⊆ t.map (·.1) := by
      intro path hpath
      obtain ⟨n, hn, rfl⟩ := List.mem_map.mp hpath
      have hsome : ¬t.get? (part n) = none := by simpa using List.find?_eq_none.mp hfind n hn
      obtain ⟨entry, hentry⟩ := Option.ne_none_iff_exists'.mp hsome
      exact Tree.mem_of_get? (by simp [part]) hentry
    have hnodup : ((List.range (t.length + 1)).map part).Nodup := by
      apply List.Nodup.map _ List.nodup_range
      intro m n h
      have hname : partName (toString m) = partName (toString n) := by
        simpa only [part, List.append_cancel_left_eq, List.cons.injEq, and_true] using h
      exact partName_toString_injective hname
    have hlength := (List.subperm_of_subset hnodup htaken).length_le
    simp only [List.length_map, List.length_range] at hlength
    omega

namespace Save

variable {dir : String} {s : Save}

lemma landsOn_ne_root (dir : String) (s : Save) : s.landsOn dir ≠ [] := by simp [landsOn, target]

def Stage.part? : Stage → Option Path
  | .writing part _ | .written part => some part
  | .entering _ _ | .ended _ => none

inductive Did (dir : String) (s : Save) (t : Tree) : Stage → Tree → Stage → Prop where
  | idle (stage : Stage) : Did dir s t stage t stage
  | enters {here : Path} {name : String} {more : List String} :
    Tree.isTooLong name = false → t.get? (here.follow name) = some .directory →
    Did dir s t (.entering here (name :: more)) t (.entering (here.follow name) more)
  | makes {here : Path} {name : String} {more : List String} :
    Tree.isTooLong name = false → t.get? (here.follow name) = none →
    Did dir s t (.entering here (name :: more)) (t.put (here.follow name) .directory)
      (.entering (here.follow name) more)
  | turnsBack {here : Path} {names : List String} (fault : Files.Fault) :
    Did dir s t (.entering here names) t (.ended (.error fault))
  | opens {here : Path} (mark : String) : t.get? (here ++ [partName mark]) = none →
    Did dir s t (.entering here []) (t.put (here ++ [partName mark]) (.file [] Files.ownerOnly))
      (.writing (here ++ [partName mark]) s.bytes)
  | writes {part : Path} {left : Bytes} (n : Nat) :
    Did dir s t (.writing part left) (t.append part (left.take n)) (.writing part (left.drop n))
  | completes {part : Path} : Did dir s t (.writing part []) t (.written part)
  | lands {part : Path} {t' : Tree} : t.rename part (s.landsOn dir) = .ok t' →
    Did dir s t (.written part) t' (.ended (.ok ()))
  | drops {stage : Stage} {part : Path} (fault : Files.Fault) : stage.part? = some part →
    Did dir s t stage (t.erase part) (.ended (.error fault))

lemma land_did (t : Tree) (part : Path) :
    Did dir s t (.written part) (s.land dir t part).1 (.ended (s.land dir t part).2) := by
  unfold land
  split
  · rename_i t' hmoved
    exact .lands hmoved
  · exact .drops _ rfl

lemma enter_did (t : Tree) (here : Path) (name : String) (more : List String) (mark : String)
    (most : Nat) :
    Did dir s t (.entering here (name :: more))
      (s.step dir t (.entering here (name :: more)) (.proceed mark most)).1
      (s.step dir t (.entering here (name :: more)) (.proceed mark most)).2 := by
  simp only [step]
  obtain ⟨e, h⟩ | ⟨hshort, ⟨hthere, h⟩ | ⟨habsent, h⟩⟩ := t.enter_cases here name more
  · rw [h]
    exact .turnsBack e
  · rw [h]
    exact .enters hshort hthere
  · rw [h]
    exact .makes hshort habsent

lemma openPart_did (t : Tree) (here : Path) (mark : String) :
    Did dir s t (.entering here []) (s.openPart t here mark).1 (s.openPart t here mark).2 := by
  cases habsent : t.get? (here ++ [partName mark]) with
  | none =>
    simp only [openPart, habsent]
    exact .opens mark habsent
  | some entry =>
    simp only [openPart, habsent]
    exact .idle _

lemma step_did (t : Tree) (stage : Stage) (move : Move) :
    Did dir s t stage (s.step dir t stage move).1 (s.step dir t stage move).2 := by
  cases stage with
  | ended result => exact .idle _
  | entering here names =>
    cases move with
    | refuse fault => cases names <;> exact .turnsBack fault
    | proceed mark most =>
      cases names with
      | nil => exact openPart_did t here mark
      | cons name more => exact enter_did t here name more mark most
  | writing part left =>
    cases move with
    | refuse fault => cases left <;> exact .drops fault rfl
    | proceed mark most =>
      cases left with
      | nil => exact .completes
      | cons b left => exact .writes most
  | written part =>
    cases move with
    | refuse fault => exact .drops fault rfl
    | proceed mark most => exact land_did t part

def Goes (dir : String) (s : Save) : Tree × Stage → Tree × Stage → Prop :=
  Relation.ReflTransGen fun x y => Did dir s x.1 x.2 y.1 y.2

def run (dir : String) (s : Save) : (moves : List Move) → Tree → Stage → Tree × Stage
  | [], t, stage => (t, stage)
  | move :: moves, t, stage =>
    run dir s moves (s.step dir t stage move).1 (s.step dir t stage move).2

lemma run_goes (moves : List Move) (t : Tree) (stage : Stage) :
    Goes dir s (t, stage) (s.run dir moves t stage) := by
  induction moves generalizing t stage with
  | nil => exact .refl
  | cons move moves ih => exact .head (step_did t stage move) (ih _ _)

lemma run_append (moves more : List Move) (t : Tree) (stage : Stage) :
    s.run dir (moves ++ more) t stage =
      s.run dir more (s.run dir moves t stage).1 (s.run dir moves t stage).2 := by
  induction moves generalizing t stage with
  | nil => rfl
  | cons move moves ih => exact ih _ _

lemma run_ended (moves : List Move) (t : Tree) (result : Except Files.Fault Unit) :
    s.run dir moves t (.ended result) = (t, .ended result) := by
  induction moves with
  | nil => rfl
  | cons move moves ih => exact ih

def arrival : Except Files.Fault Path → Stage
  | .ok path => .entering path []
  | .error fault => .ended (.error fault)

lemma makeFrom_run (dir : String) (s : Save) (t : Tree) (here : Path) (names : List String) :
    s.run dir (names.map fun _ => .proceed "" 0) t (.entering here names) =
      ((t.makeFrom here names).1, arrival (t.makeFrom here names).2) := by
  induction names generalizing t here with
  | nil => rfl
  | cons name more ih =>
    rw [List.map_cons, run, Tree.makeFrom]
    simp only [step]
    obtain ⟨t', fault | path⟩ := t.enter here name more
    · exact run_ended _ _ _
    · exact ih t' path

lemma writeOut_run (t : Tree) (part : Path) (left : Bytes) :
    s.run dir [.proceed "" left.length, .proceed "" 0, .proceed "" 0] t (.writing part left) =
      ((s.writeOut dir t part left).1, .ended (s.writeOut dir t part left).2) := by
  cases left with
  | nil => rfl
  | cons b left => simp [run, step, writeOut]

lemma finish_run (dir : String) (s : Save) (t : Tree) (stage : Stage) :
    ∃ moves, s.run dir moves t stage =
      ((s.finish dir t stage).1, .ended (s.finish dir t stage).2) := by
  cases stage with
  | ended result => exact ⟨[], rfl⟩
  | written part => exact ⟨[.proceed "" 0], rfl⟩
  | writing part left => exact ⟨_, writeOut_run t part left⟩
  | entering here names =>
    have hmade := makeFrom_run dir s t here names
    rw [finish]
    generalize t.makeFrom here names = made at hmade ⊢
    obtain ⟨t', fault | path⟩ := made
    · exact ⟨_, hmade⟩
    · let mark := freeMark t' path
      have hopens : s.step dir t' (.entering path []) (.proceed mark 0) =
          (t'.put (path ++ [partName mark]) (.file [] Files.ownerOnly),
            .writing (path ++ [partName mark]) s.bytes) := by
        simp [step, openPart, mark, freeMark_absent t' path]
      let writes : List Move := [.proceed "" s.bytes.length, .proceed "" 0, .proceed "" 0]
      refine ⟨(names.map fun _ => .proceed "" 0) ++ .proceed mark 0 :: writes, ?_⟩
      rw [run_append, hmade, arrival, run, hopens]
      exact writeOut_run _ _ _

lemma finish_goes (t : Tree) (stage : Stage) :
    Goes dir s (t, stage) ((s.finish dir t stage).1, .ended (s.finish dir t stage).2) := by
  obtain ⟨moves, hrun⟩ := finish_run dir s t stage
  rw [← hrun]
  exact run_goes moves t stage

end Save
end StorageConsole.Download
