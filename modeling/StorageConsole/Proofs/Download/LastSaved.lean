import StorageConsole.Proofs.Download.Naming
import StorageConsole.Proofs.Download.Saving

/-! A directory of saved files as a map from names to the bytes that were last saved. -/

namespace StorageConsole

namespace Files.Path

def passing : (here : Path) → (names : List String) → List Path
  | here, [] => [here]
  | here, name :: more => here :: passing (here.follow name) more

lemma end_mem_passing (here : Path) (names : List String) :
    names.foldl follow here ∈ passing here names := by
  induction names generalizing here with
  | nil => exact List.mem_singleton.mpr rfl
  | cons name more ih => exact List.mem_cons_of_mem _ (ih _)

def way (dir : String) : List Path := passing [] (spelled dir)

end Files.Path

namespace Download

open Files (Tree Path)

def Kept (dir : String) (before after : Tree) (p : Path) : Prop :=
  after.get? p = before.get? p ∨
    before.get? p = none ∧ p ∈ Path.way dir ∧ after.get? p = some .directory

lemma Kept.of_get? {dir : String} {t₀ t t' : Tree} {p : Path} (h : Kept dir t₀ t p)
    (hsame : t'.get? p = t.get? p) : Kept dir t₀ t' p := by
  rw [Kept, hsame]
  exact h

lemma Kept.absent {dir : String} {t₀ t : Tree} {p : Path} (h : Kept dir t₀ t p)
    (habsent : t.get? p = none) : t₀.get? p = none := by
  rcases h with h | ⟨h, -, -⟩
  · rw [← h, habsent]
  · exact h

lemma Kept.trans {dir : String} {t₀ t t' : Tree} {p : Path} (h : Kept dir t₀ t p)
    (h' : Kept dir t t' p) : Kept dir t₀ t' p := by
  rcases h' with h' | ⟨hbefore, hway, hafter⟩
  · exact h.of_get? h'
  · exact .inr ⟨h.absent hbefore, hway, hafter⟩

lemma Kept.content? {dir : String} {t₀ t : Tree} {p : Path} (h : Kept dir t₀ t p) :
    t.content? p = t₀.content? p := by
  rcases h with h | ⟨hbefore, -, hafter⟩
  · exact Tree.content?_of_get? h
  · rw [Tree.content?, Tree.content?, hbefore, hafter]

namespace Save

variable {dir : String} {s : Save} {t₀ t t' : Tree}

lemma landsOn_eq : s.landsOn dir = Path.ofText dir ++ [finalComponent s.name] := rfl

def IsPaved (dir : String) (t : Tree) : Prop := ∀ q ∈ Path.way dir, t.Reaches q

lemma IsPaved.mono (h : IsPaved dir t)
    (hkept : ∀ q, t.get? q = some .directory → t'.get? q = some .directory) : IsPaved dir t' :=
  fun q hq => (h q hq).mono hkept

lemma IsPaved.reaches (h : IsPaved dir t) : t.Reaches (Path.ofText dir) :=
  h _ (Path.end_mem_passing _ _)

structure Holds (dir : String) (s : Save) (t₀ t : Tree) (part : Path) (left : Bytes) : Prop where
  absent : t₀.get? part = none
  content : ∃ done, done ++ left = s.bytes ∧ t.get? part = some (.file done Files.ownerOnly)
  kept : ∀ p, p ≠ part → Kept dir t₀ t p
  paved : IsPaved dir t

/-- What has become of a tree when a save stands at some stage. -/
def Along (dir : String) (s : Save) (t₀ t : Tree) : Stage → Prop
  | .entering here names =>
    names.foldl Path.follow here = Path.ofText dir ∧ t.Reaches here ∧
      (∀ q ∈ Path.way dir, t.Reaches q ∨ q ∈ Path.passing here names) ∧
      (∀ q ∈ Path.passing here names, q ∈ Path.way dir) ∧ ∀ p, Kept dir t₀ t p
  | .writing part left => Holds dir s t₀ t part left
  | .written part => Holds dir s t₀ t part []
  | .ended (.ok ()) =>
    t.read (s.landsOn dir) = .ok s.bytes ∧
      t.get? (s.landsOn dir) = some (.file s.bytes Files.ownerOnly) ∧
      IsPaved dir t ∧ ∀ p, p ≠ s.landsOn dir → Kept dir t₀ t p
  | .ended (.error _) => ∀ p, Kept dir t₀ t p

lemma begin_along (dir : String) (s : Save) (t : Tree) : Along dir s t t (begin dir) := by
  by_cases hzero : Tree.hasZero (Path.spelled dir) = true
  · rw [begin, if_pos hzero]
    exact fun p => .inl rfl
  · rw [begin, if_neg hzero]
    exact ⟨rfl, .root t, fun q hq => .inr hq, fun q hq => hq, fun p => .inl rfl⟩

lemma passed {here : Path} {name : String} {more : List String} (hhere : t.Reaches here)
    (h : ∀ q ∈ Path.way dir, t.Reaches q ∨ q ∈ Path.passing here (name :: more)) :
    ∀ q ∈ Path.way dir, t.Reaches q ∨ q ∈ Path.passing (here.follow name) more := by
  intro q hq
  rcases h q hq with hreached | hahead
  · exact .inl hreached
  · rcases List.mem_cons.mp hahead with rfl | hahead
    · exact .inl hhere
    · exact .inr hahead

lemma put_keeps_directories {path : Path} (habsent : t.get? path = none) (entry : Files.Entry) :
    ∀ q, t.get? q = some .directory → (t.put path entry).get? q = some .directory := by
  intro q hq
  have hne : q ≠ path := by
    rintro rfl
    rw [habsent] at hq
    cases hq
  rw [t.get?_put (Tree.ne_root_of_absent habsent), if_neg hne]
  exact hq

lemma Along.makes {here : Path} {name : String} {more : List String}
    (h : Along dir s t₀ t (.entering here (name :: more))) (hshort : Tree.isTooLong name = false)
    (habsent : t.get? (here.follow name) = none) :
    Along dir s t₀ (t.put (here.follow name) .directory) (.entering (here.follow name) more) := by
  obtain ⟨hend, hhere, hway, hahead, hkept⟩ := h
  have hroot := Tree.ne_root_of_absent habsent
  have hold := put_keeps_directories habsent .directory
  have hmade : (t.put (here.follow name) .directory).get? (here.follow name) = some .directory := by
    rw [t.get?_put hroot, if_pos rfl]
  refine ⟨hend, (hhere.mono hold).follow hshort hmade, ?_, ?_, ?_⟩
  · intro q hq
    exact (passed hhere hway q hq).imp_left fun hreached => hreached.mono hold
  · exact fun q hq => hahead q (List.mem_cons_of_mem _ hq)
  · intro p
    by_cases hp : p = here.follow name
    · subst hp
      have hstart : here.follow name ∈ Path.passing (here.follow name) more := by
        cases more <;> exact List.mem_cons_self
      exact .inr ⟨(hkept _).absent habsent, hahead _ (List.mem_cons_of_mem _ hstart), hmade⟩
    · apply (hkept p).of_get?
      rw [t.get?_put hroot, if_neg hp]

lemma Along.opens {here : Path} {mark : String} (h : Along dir s t₀ t (.entering here []))
    (habsent : t.get? (here ++ [partName mark]) = none) :
    Along dir s t₀ (t.put (here ++ [partName mark]) (.file [] Files.ownerOnly))
      (.writing (here ++ [partName mark]) s.bytes) := by
  obtain ⟨-, hhere, hway, -, hkept⟩ := h
  have hroot := Tree.ne_root_of_absent habsent
  have hpaved : IsPaved dir t := by
    intro q hq
    rcases hway q hq with hreached | hahead
    · exact hreached
    · rw [List.mem_singleton.mp hahead]
      exact hhere
  refine ⟨(hkept _).absent habsent, ⟨[], rfl, ?_⟩, ?_,
    hpaved.mono (put_keeps_directories habsent _)⟩
  · rw [t.get?_put hroot, if_pos rfl]
  · intro p hp
    apply (hkept p).of_get?
    rw [t.get?_put hroot, if_neg hp]

lemma Holds.writes {part : Path} {left : Bytes} (h : Holds dir s t₀ t part left) (n : Nat) :
    Holds dir s t₀ (t.append part (left.take n)) part (left.drop n) := by
  obtain ⟨done, hbytes, hpart⟩ := h.content
  have hget := Tree.get?_append hpart (left.take n)
  refine ⟨h.absent, ⟨done ++ left.take n, ?_, ?_⟩, ?_, h.paved.mono ?_⟩
  · rw [List.append_assoc, List.take_append_drop, hbytes]
  · rw [hget, if_pos rfl]
  · intro p hp
    apply (h.kept p hp).of_get?
    rw [hget, if_neg hp]
  · intro q hq
    have hne : q ≠ part := by
      rintro rfl
      rw [hpart] at hq
      cases hq
    rw [hget, if_neg hne]
    exact hq

lemma Holds.drops {part : Path} {left : Bytes} (h : Holds dir s t₀ t part left) (p : Path) :
    Kept dir t₀ (t.erase part) p := by
  obtain ⟨done, -, hpart⟩ := h.content
  have hget := t.get?_erase (Tree.ne_root hpart) p
  by_cases hp : p = part
  · subst hp
    left
    rw [hget, if_pos rfl, h.absent]
  · apply (h.kept p hp).of_get?
    rw [hget, if_neg hp]

lemma Holds.lands {part : Path} (h : Holds dir s t₀ t part [])
    (hmoved : t.rename part (s.landsOn dir) = .ok t') : Along dir s t₀ t' (.ended (.ok ())) := by
  obtain ⟨done, hbytes, hpart⟩ := h.content
  obtain ⟨content, mode, hsource, rfl, -⟩ := Tree.rename_cases hmoved
  obtain ⟨rfl, rfl⟩ : content = s.bytes ∧ mode = Files.ownerOnly := by
    rw [List.append_nil] at hbytes
    rw [hpart, hbytes] at hsource
    cases hsource
    exact ⟨rfl, rfl⟩
  obtain ⟨hzero, hlong, hfile⟩ := h.paved.reaches.rename_child hmoved
  have hget := Tree.get?_move hsource (landsOn_ne_root dir s)
  have hlanded := hget (s.landsOn dir)
  rw [if_pos rfl] at hlanded
  have hpaved :
      IsPaved dir ((t.erase part).put (s.landsOn dir) (.file s.bytes Files.ownerOnly)) := by
    apply h.paved.mono
    intro q hq
    have htarget : q ≠ s.landsOn dir := by
      rintro rfl
      exact hfile hq
    have hpart : q ≠ part := by
      rintro rfl
      rw [hsource] at hq
      cases hq
    rw [hget, if_neg htarget, if_neg hpart]
    exact hq
  refine ⟨hpaved.reaches.read_child hzero hlong hlanded, hlanded, hpaved, ?_⟩
  intro p hp
  by_cases hp' : p = part
  · subst hp'
    left
    rw [hget, if_neg hp, if_pos rfl, h.absent]
  · apply (h.kept p hp').of_get?
    rw [hget, if_neg hp, if_neg hp']

lemma Along.did {stage stage' : Stage} (h : Along dir s t₀ t stage)
    (hdid : Did dir s t stage t' stage') : Along dir s t₀ t' stage' := by
  cases hdid with
  | idle => exact h
  | enters hshort hthere =>
    obtain ⟨hend, hhere, hway, hahead, hkept⟩ := h
    exact ⟨hend, hhere.follow hshort hthere, passed hhere hway,
      fun q hq => hahead q (List.mem_cons_of_mem _ hq), hkept⟩
  | makes hshort habsent => exact Along.makes h hshort habsent
  | turnsBack fault => exact h.2.2.2.2
  | opens mark habsent => exact Along.opens h habsent
  | writes n => exact Holds.writes h n
  | completes => exact h
  | lands hmoved => exact Holds.lands h hmoved
  | drops fault hpart =>
    cases stage with
    | writing part left =>
      cases hpart
      exact Holds.drops h
    | written part =>
      cases hpart
      exact Holds.drops h
    | _ => cases hpart

lemma Along.goes {stage stage' : Stage} (h : Along dir s t₀ t stage)
    (hgoes : Goes dir s (t, stage) (t', stage')) : Along dir s t₀ t' stage' := by
  -- induction on the steps, with both ends taken apart again at each of them
  generalize hx : (t, stage) = x at hgoes
  generalize hy : (t', stage') = y at hgoes
  induction hgoes generalizing t' stage' with
  | refl =>
    obtain ⟨rfl, rfl⟩ := Prod.ext_iff.mp (hx.trans hy.symm)
    exact h
  | tail _ hdid ih =>
    obtain ⟨rfl, rfl⟩ := Prod.ext_iff.mp hy
    exact (ih rfl).did hdid

end Save

/-- A save with what it meets first; after that nothing is in its way. -/
structure Attempt extends Save where
  moves : List Save.Move

namespace Attempt

variable (dir : String)

def carryOut (a : Attempt) (t : Tree) : Tree × Except Files.Fault Unit :=
  let met := a.toSave.run dir a.moves t (Save.begin dir)
  a.toSave.finish dir met.1 met.2

def carryOutAll : List Attempt → Tree → Tree × List (Except Files.Fault Unit)
  | [], t => (t, [])
  | a :: more, t =>
    let first := a.carryOut dir t
    let rest := carryOutAll more first.1
    (rest.1, first.2 :: rest.2)

def succeeded : List Attempt → List (Except Files.Fault Unit) → List Attempt
  | a :: more, .ok () :: results => a :: succeeded more results
  | _ :: more, .error _ :: results => succeeded more results
  | _, _ => []

def lastNamed (attempts : List Attempt) (name : String) : Option Attempt :=
  attempts.reverse.find? fun a => finalComponent a.name == name

def lastLanding (attempts : List Attempt) (p : Path) : Option Attempt :=
  attempts.reverse.find? fun a => a.landsOn dir == p

variable {dir} {a : Attempt} {t : Tree}

lemma carryOut_along (dir : String) (a : Attempt) (t : Tree) :
    a.toSave.Along dir t (a.carryOut dir t).1 (.ended (a.carryOut dir t).2) :=
  (Save.begin_along dir a.toSave t).goes
    ((Save.run_goes a.moves t _).trans (Save.finish_goes _ _))

lemma lastLanding_cons (a : Attempt) (attempts : List Attempt) (p : Path) :
    lastLanding dir (a :: attempts) p =
      (lastLanding dir attempts p).or (if a.landsOn dir = p then some a else none) := by
  by_cases h : a.landsOn dir = p <;> simp [lastLanding, List.find?_append, h]

lemma lastLanding_child (dir : String) (attempts : List Attempt) (name : String) :
    lastLanding dir attempts (Path.ofText dir ++ [name]) = lastNamed attempts name := by
  have hsame : (fun a : Attempt => a.landsOn dir == Path.ofText dir ++ [name]) =
      fun a => finalComponent a.name == name := by
    funext a
    simp [Save.landsOn_eq]
  rw [lastLanding, lastNamed, hsame]

lemma lastLanding_outside (attempts : List Attempt) {p : Path}
    (h : ∀ name, p ≠ Path.ofText dir ++ [name]) : lastLanding dir attempts p = none := by
  apply List.find?_eq_none.mpr
  intro a _ heq
  exact h _ (beq_iff_eq.mp heq).symm

lemma carryOutAll_holds (dir : String) (attempts : List Attempt) (t : Tree) (p : Path) :
    let after := carryOutAll dir attempts t
    let last := lastLanding dir (succeeded attempts after.2) p
    (∃ a, last = some a ∧ after.1.get? p = some (.file a.bytes Files.ownerOnly)) ∨
      last = none ∧ Kept dir t after.1 p := by
  -- what a later attempt leaves counts, so its case comes first
  induction attempts generalizing t with
  | nil => exact .inr ⟨rfl, .inl rfl⟩
  | cons a more ih =>
    have hfirst := a.carryOut_along dir t
    simp only [carryOutAll]
    cases hresult : (a.carryOut dir t).2 with
    | error fault =>
      rw [hresult] at hfirst
      exact (ih _).imp id fun ⟨hnone, hrest⟩ => ⟨hnone, (hfirst p).trans hrest⟩
    | ok done =>
      rw [hresult] at hfirst
      obtain ⟨-, hsaved, -, hkept⟩ := hfirst
      simp only [succeeded, lastLanding_cons]
      rcases ih (a.carryOut dir t).1 with ⟨a', hlast, hrest⟩ | ⟨hlast, hrest⟩
      · exact .inl ⟨a', by rw [hlast, Option.some_or], hrest⟩
      · rw [hlast, Option.none_or]
        by_cases hp : a.landsOn dir = p
        · refine .inl ⟨a, if_pos hp, ?_⟩
          subst hp
          rcases hrest with hsame | ⟨habsent, -, -⟩
          · rw [hsame, hsaved]
          · rw [hsaved] at habsent
            cases habsent
        · exact .inr ⟨if_neg hp, (hkept p (Ne.symm hp)).trans hrest⟩

/-- A save that succeeds makes its directory, replaces the file of its name and changes nothing
else; one that fails changes no file. So a file of the directory holds the bytes of the last save of
its name that succeeded, no other file is changed, and no unfinished file stays. -/
theorem directory_holds_last_saved (dir : String) :
    (∀ (t : Tree) (name : String) (blob : Blob),
      let a : Attempt := ⟨⟨name, blob.bytes⟩, []⟩
      (Sink.directory dir t).save name blob =
        (.directory dir (a.carryOut dir t).1, (a.carryOut dir t).2)) ∧
    (∀ (t : Tree) (a : Attempt),
      let path := Path.ofText (pathFor dir a.name)
      let after := (a.carryOut dir t).1
      match (a.carryOut dir t).2 with
      | .ok () => after.read path = .ok a.bytes ∧
        (∀ q ∈ Path.way dir, after.get? q = some .directory) ∧
        ∀ p, p ≠ path → Kept dir t after p
      | .error _ => ∀ p, Kept dir t after p) ∧
    ∀ (t : Tree) (attempts : List Attempt),
      let after := (carryOutAll dir attempts t).1
      let saved := succeeded attempts (carryOutAll dir attempts t).2
      (∀ name, let path := Path.ofText dir ++ [name]
        after.content? path = ((lastNamed saved name).map (·.bytes)).or (t.content? path)) ∧
      (∀ p, (∀ name, p ≠ Path.ofText dir ++ [name]) → after.content? p = t.content? p) ∧
      ∀ p, t.get? p = none → p ∉ Path.way dir →
        (∀ a ∈ saved, p ≠ Path.ofText (pathFor dir a.name)) → after.get? p = none := by
  refine ⟨fun t name blob => rfl, ?_, ?_⟩
  · intro t a
    have hcall := a.carryOut_along dir t
    rw [ofText_pathFor]
    cases hresult : (a.carryOut dir t).2 with
    | error fault =>
      rw [hresult] at hcall
      exact hcall
    | ok done =>
      rw [hresult] at hcall
      obtain ⟨hread, -, hpaved, hkept⟩ := hcall
      exact ⟨hread, fun q hq => (hpaved q hq).get?, hkept⟩
  · intro t attempts
    have hholds := carryOutAll_holds dir attempts t
    refine ⟨?_, ?_, ?_⟩
    · intro name
      rw [← lastLanding_child dir]
      rcases hholds (Path.ofText dir ++ [name]) with ⟨a, hlast, hfile⟩ | ⟨hlast, hkept⟩
      · rw [hlast]
        exact Tree.content?_file hfile
      · rw [hlast]
        exact hkept.content?
    · intro p hp
      rcases hholds p with ⟨a, hlast, -⟩ | ⟨-, hkept⟩
      · rw [lastLanding_outside _ hp] at hlast
        cases hlast
      · exact hkept.content?
    · intro p habsent hway hsaved
      rcases hholds p with ⟨a, hlast, -⟩ | ⟨-, hsame | ⟨-, hin, -⟩⟩
      · have hmem := List.mem_reverse.mp (List.mem_of_find?_eq_some hlast)
        have hlands : a.landsOn dir = p := by simpa using List.find?_some hlast
        exact absurd (hlands.symm.trans (ofText_pathFor dir a.name).symm) (hsaved a hmem)
      · rw [hsame, habsent]
      · exact absurd hin hway

def savedThenRefused : List Attempt :=
  [⟨⟨"a.txt", [1, 2]⟩, []⟩,
    ⟨⟨"a.txt", [3, 4]⟩, [.proceed "" 0, .proceed "x" 0, .proceed "" 1, .refuse (.other "full")]⟩]

theorem refused_save_keeps_last :
    let run := carryOutAll "out" savedThenRefused []
    run.2 = [.ok (), .error (.other "full")] ∧
    run.1.content? (Path.ofText "out" ++ ["a.txt"]) = some [1, 2] ∧
    run.1.get? (Path.ofText "out" ++ [partName "x"]) = none := by
  intro run
  have hresults : run.2 = [.ok (), .error (.other "full")] := by decide +kernel
  obtain ⟨-, -, hall⟩ := directory_holds_last_saved "out"
  obtain ⟨hsaved, -, habsent⟩ := hall [] savedThenRefused
  refine ⟨hresults, (hsaved "a.txt").trans ?_, habsent _ (by decide +kernel) (by decide +kernel) ?_⟩
  · decide +kernel
  · decide +kernel

end Attempt

end Download
end StorageConsole
