import StorageConsole.Proofs.Files.Tree

namespace StorageConsole.Files.Tree

def IsRooted (t : Tree) : Prop := ∀ path more, t.get? path = none → t.get? (path ++ more) = none

def contents (t : Tree) (path : Path) : Except Fault Bytes :=
  match t.get? path with
  | some (.file content _) => .ok content
  | some .directory => .error .isADirectory
  | none => .error .notFound

variable {t : Tree} {here : Path} {name : String} {names : List String}

lemma readFile_eq (t : Tree) (names : List String) :
    t.readFile names = (t.find names).bind t.contents := by
  unfold readFile
  cases t.find names <;> rfl

lemma locate_step (hhere : t.get? here = some .directory) (hname : isTooLong name = false) :
    t.locate here (name :: names) = t.locate (here.follow name) names := by
  rw [locate, hhere]
  simp [hname]

lemma locate_absent (habsent : t.get? here = none) (hnames : names ≠ []) :
    t.locate here names = .error .notFound := by
  cases names with
  | nil => exact absurd rfl hnames
  | cons name more => rw [locate, habsent]

lemma makeFrom_same_or_gap (hhere : t.get? here = some .directory) (names : List String)
    (count : Nat) :
    (t.makeFrom here ((names.filter (· != ".")).dropLast.take count)).1 = t ∨
      t.locate here names = .error .notFound := by
  induction names generalizing here count with
  | nil => exact .inl (by simp [makeFrom])
  | cons name more ih =>
    by_cases hdot : name = "."
    · subst hdot
      rw [locate_step hhere (by decide)]
      exact ih hhere count
    · rw [List.filter_cons_of_pos (by simpa using hdot)]
      cases hmore : more.filter (· != ".") with
      | nil => exact .inl (by simp [makeFrom])
      | cons next rest =>
        cases count with
        | zero => exact .inl rfl
        | succ count =>
          rw [List.dropLast_cons_cons, List.take_succ_cons, makeFrom]
          obtain ⟨e, h⟩ | ⟨hname, ⟨hthere, h⟩ | ⟨habsent, h⟩⟩ := t.enter_cases here name
            ((next :: rest).dropLast.take count)
          · rw [h]
            exact .inl rfl
          · rw [h, locate_step hhere hname, ← hmore]
            exact ih hthere count
          · right
            rw [locate_step hhere hname]
            refine locate_absent habsent ?_
            rintro rfl
            cases hmore

def IsPlain (name : String) : Prop := name ≠ "." ∧ name ≠ ".." ∧ isTooLong name = false

lemma IsPlain.follow (h : IsPlain name) (here : Path) : here.follow name = here ++ [name] := by
  simp [Path.follow, h.1, h.2.1]

lemma IsRooted.put (hroot : t.IsRooted) (hhere : t.get? here = some .directory) (name : String) :
    (t.put (here ++ [name]) .directory).IsRooted := by
  intro path more hpath
  have hput := t.get?_put (show here ++ [name] ≠ [] by simp) .directory
  rw [hput] at hpath ⊢
  split_ifs at hpath with hnew
  rw [if_neg]
  · exact hroot path more hpath
  · intro hbelow
    -- a path above the new one is there already
    have hprefix : path <+: here := by
      have hle : path <+: here ++ [name] := ⟨more, hbelow⟩
      rcases List.prefix_concat_iff.mp hle with heq | hle
      · exact absurd heq hnew
      · exact hle
    obtain ⟨rest, rfl⟩ := hprefix
    rw [hroot path rest hpath] at hhere
    cases hhere

lemma locate_new (hplain : ∀ n ∈ names, IsPlain n) (hroot : t.IsRooted)
    (habsent : t.get? here = none) :
    ((t.put here .directory).locate here names).bind (t.put here .directory).contents =
      if names = [] then .error .isADirectory else .error .notFound := by
  have hput := t.get?_put (ne_root_of_absent habsent) .directory
  cases names with
  | nil => simp [locate, Except.bind, contents, hput]
  | cons name more =>
    have hname := hplain name List.mem_cons_self
    rw [locate_step (by simp [hput]) hname.2.2, hname.follow]
    have hbelow : (t.put here .directory).get? (here ++ [name]) = none := by
      rw [hput, if_neg (by simp), hroot here [name] habsent]
    cases more with
    | nil => simp [locate, Except.bind, contents, hbelow]
    | cons next rest => simp [locate_absent hbelow, Except.bind]

lemma makeFrom_directory {p : Path} (h : t.get? p = some .directory) (here : Path)
    (names : List String) : (t.makeFrom here names).1.get? p = some .directory := by
  rcases t.makeFrom_keeps here names p with hsame | ⟨hnone, -⟩
  · rw [hsame, h]
  · rw [hnone] at h
    cases h

lemma makeFrom_plain (hroot : t.IsRooted) (hhere : t.get? here = some .directory)
    (hplain : ∀ n ∈ names, IsPlain n) (count : Nat) :
    ((t.makeFrom here (names.dropLast.take count)).1.locate here names).bind
        (t.makeFrom here (names.dropLast.take count)).1.contents =
      (t.locate here names).bind t.contents := by
  induction names generalizing t here count with
  | nil => simp [makeFrom]
  | cons name more ih =>
    cases more with
    | nil => simp [makeFrom]
    | cons next rest =>
      cases count with
      | zero => rfl
      | succ count =>
        have hname := hplain name List.mem_cons_self
        have hmore : ∀ n ∈ next :: rest, IsPlain n := fun n hn =>
          hplain n (List.mem_cons_of_mem _ hn)
        rw [List.dropLast_cons_cons, List.take_succ_cons, makeFrom]
        obtain ⟨e, h⟩ | ⟨-, ⟨hthere, h⟩ | ⟨habsent, h⟩⟩ := t.enter_cases here name
          ((next :: rest).dropLast.take count)
        · rw [h]
        · rw [h, locate_step (makeFrom_directory hhere _ _) hname.2.2, locate_step hhere hname.2.2]
          exact ih hroot hthere hmore count
        · rw [hname.follow] at h habsent
          have hput := t.get?_put (ne_root_of_absent habsent) .directory
          have hhere' : (t.put (here ++ [name]) .directory).get? here = some .directory := by
            rw [hput, if_neg (by simp), hhere]
          -- what is made now is empty, so its names lead to nothing before and after
          rw [h, locate_step (makeFrom_directory hhere' _ _) hname.2.2, locate_step hhere hname.2.2,
            hname.follow, ih (hroot.put hhere name) ((hput _).trans (if_pos rfl)) hmore count,
            locate_new hmore hroot habsent, locate_absent habsent (List.cons_ne_nil _ _)]
          rfl

lemma makeDirectory_tree (t : Tree) (path : Path) :
    (t.makeDirectory path).1 = t ∨ (t.makeDirectory path).1 = (t.makeFrom [] path).1 := by
  unfold makeDirectory
  split_ifs
  · exact .inl rfl
  · exact .inr rfl

lemma readFile_of_locate {t' : Tree}
    (h : (t'.locate [] names).bind t'.contents = (t.locate [] names).bind t.contents) :
    t'.readFile names = t.readFile names := by
  simp only [readFile_eq, find]
  split_ifs
  · rfl
  · exact h

lemma readFile_same_or_gap (t : Tree) (names : List String) (count : Nat) :
    (t.makeDirectory ((names.filter (· != ".")).dropLast.take count)).1.readFile names =
        t.readFile names ∨
      t.readFile names = .error .notFound := by
  rcases t.makeDirectory_tree ((names.filter (· != ".")).dropLast.take count) with hmade | hmade
  · rw [hmade]
    exact .inl rfl
  · rw [hmade]
    have hhere : t.get? [] = some .directory := rfl
    rcases makeFrom_same_or_gap hhere names count with hsame | hgap
    · rw [hsame]
      exact .inl rfl
    · by_cases hzero : hasZero names = true
      · exact .inl (by simp only [readFile_eq, find, if_pos hzero, Except.bind])
      · exact .inr (by simp only [readFile_eq, find, if_neg hzero, hgap, Except.bind])

lemma readFile_plain (hroot : t.IsRooted) (hplain : ∀ n ∈ names, IsPlain n) (count : Nat) :
    (t.makeDirectory ((names.filter (· != ".")).dropLast.take count)).1.readFile names =
      t.readFile names := by
  have hnames : names.filter (· != ".") = names :=
    List.filter_eq_self.mpr fun n hn => by simpa using (hplain n hn).1
  rw [hnames]
  rcases t.makeDirectory_tree (names.dropLast.take count) with hmade | hmade
  · rw [hmade]
  · rw [hmade]
    exact readFile_of_locate (makeFrom_plain hroot rfl hplain count)

end StorageConsole.Files.Tree
