import Mathlib.Data.List.Infix
import Mathlib.Tactic.Lemma
import StorageConsole.Files.Tree

namespace StorageConsole.Files.Tree

variable (t : Tree) {path : Path} {p : Path}

lemma get?_erase (hpath : path ≠ []) (p : Path) :
    (t.erase path).get? p = if p = path then none else t.get? p := by
  by_cases hp : p = path
  · subst hp
    simp [get?, erase, hpath, List.find?_filter]
  · have hfind : (t.erase path).find? (·.1 == p) = t.find? (·.1 == p) := by
      simp only [erase, List.find?_filter]
      congr 1
      funext entry
      by_cases hentry : entry.1 = p <;> simp [hentry, hp]
    simp only [get?, hfind, hp, if_false]

lemma get?_put (hpath : path ≠ []) (entry : Entry) (p : Path) :
    (t.put path entry).get? p = if p = path then some entry else t.get? p := by
  have herase := get?_erase t hpath p
  by_cases hp : p = path
  · subst hp
    simp only [if_true] at herase ⊢
    have hnone : (t.erase p).find? (·.1 == p) = none := by simpa [get?, hpath] using herase
    simp [get?, put, hpath, List.find?_append, hnone]
  · simp only [hp, if_false] at herase ⊢
    rw [← herase]
    by_cases hroot : p = []
    · simp [get?, hroot]
    · have hne : ¬path = p := fun h => hp h.symm
      simp [get?, put, hroot, List.find?_append, hne]

variable {t}

lemma ne_root {content : Bytes} {mode : Nat} (h : t.get? path = some (.file content mode)) :
    path ≠ [] := by
  rintro rfl
  simp [get?] at h

lemma get?_append {content : Bytes} {mode : Nat} (h : t.get? path = some (.file content mode))
    (bytes : Bytes) (p : Path) :
    (t.append path bytes).get? p =
      if p = path then some (.file (content ++ bytes) mode) else t.get? p := by
  rw [append, h]
  exact t.get?_put (ne_root h) _ p

lemma get?_setMode {content : Bytes} {mode : Nat} (h : t.get? path = some (.file content mode))
    (new : Nat) (p : Path) :
    (t.setMode path new).get? p = if p = path then some (.file content new) else t.get? p := by
  rw [setMode, h]
  exact t.get?_put (ne_root h) _ p

lemma content?_of_get? {t' : Tree} (h : t'.get? p = t.get? p) : t'.content? p = t.content? p := by
  rw [content?, content?, h]

lemma content?_file {content : Bytes} {mode : Nat} (h : t.get? p = some (.file content mode)) :
    t.content? p = some content := by
  rw [content?, h]

lemma mem_of_get? {entry : Entry} (hpath : path ≠ []) (h : t.get? path = some entry) :
    path ∈ t.map (·.1) := by
  simp only [get?, hpath, if_false] at h
  obtain ⟨found, hfound, -⟩ := Option.map_eq_some_iff.mp h
  have hname : found.1 = path := by simpa using List.find?_some hfound
  exact List.mem_map.mpr ⟨found, List.mem_of_find?_eq_some hfound, hname⟩

lemma ne_root_of_absent (h : t.get? path = none) : path ≠ [] := by
  rintro rfl
  simp [get?] at h

structure Reaches (t : Tree) (path : Path) : Prop where
  directories : ∀ q, q <+: path → t.get? q = some .directory
  short : ∀ name ∈ path, isTooLong name = false

lemma Reaches.root (t : Tree) : t.Reaches [] where
  directories q hq := by simp [get?, List.prefix_nil.mp hq]
  short name h := by simp at h

lemma Reaches.get? (h : t.Reaches path) : t.get? path = some .directory :=
  h.directories path List.prefix_rfl

lemma Reaches.dropLast (h : t.Reaches path) : t.Reaches path.dropLast where
  directories q hq := h.directories q (hq.trans path.dropLast_prefix)
  short name hname := h.short name (path.dropLast_subset hname)

lemma Reaches.child {name : String} (h : t.Reaches path) (hname : isTooLong name = false)
    (hget : t.get? (path ++ [name]) = some .directory) : t.Reaches (path ++ [name]) where
  directories q hq := by
    rcases List.prefix_concat_iff.mp hq with hq | hq
    · rw [hq]
      exact hget
    · exact h.directories q hq
  short n hn := by
    rcases List.mem_append.mp hn with hn | hn
    · exact h.short n hn
    · rwa [List.mem_singleton.mp hn]

lemma Reaches.follow {name : String} (h : t.Reaches path) (hname : isTooLong name = false)
    (hget : t.get? (path.follow name) = some .directory) : t.Reaches (path.follow name) := by
  unfold Path.follow at hget ⊢
  split_ifs at hget ⊢
  · exact h
  · exact h.dropLast
  · exact h.child hname hget

lemma Reaches.mono {t' : Tree} (h : t.Reaches path)
    (hkept : ∀ q, t.get? q = some .directory → t'.get? q = some .directory) : t'.Reaches path :=
  ⟨fun q hq => hkept q (h.directories q hq), h.short⟩

lemma walk_append {here : Path} (more : List String) :
    ∀ {names : List String}, t.Reaches (here ++ names) →
      t.walk here (names ++ more) = t.walk (here ++ names) more := by
  intro names
  induction names generalizing here with
  | nil => simp
  | cons name names ih =>
    intro h
    have hhere : t.get? here = some .directory := h.directories here (List.prefix_append _ _)
    have hname : isTooLong name = false := h.short name (by simp)
    have hassoc : here ++ name :: names = here ++ [name] ++ names := by simp
    rw [hassoc] at h ⊢
    rw [List.cons_append, walk, hhere]
    simp only [hname, Bool.false_eq_true, if_false]
    exact ih h

lemma Reaches.lookup_child (h : t.Reaches path) (name : String) :
    t.lookup (path ++ [name]) =
      if hasZero (path ++ [name]) then .error .invalidInput
      else if isTooLong name then .error .invalidFilename
      else match t.get? (path ++ [name]) with
        | some entry => .ok entry
        | none => .error .notFound := by
  rw [lookup, walk_append [name] (by simpa using h), List.nil_append, walk, h.get?]
  rfl

lemma enter_cases (t : Tree) (here : Path) (name : String) (more : List String) :
    (∃ e, t.enter here name more = (t, .error e)) ∨
    isTooLong name = false ∧
      (t.get? (here.follow name) = some .directory ∧
          t.enter here name more = (t, .ok (here.follow name)) ∨
        t.get? (here.follow name) = none ∧
          t.enter here name more =
            (t.put (here.follow name) .directory, .ok (here.follow name))) := by
  cases hname : isTooLong name with
  | true => exact .inl ⟨_, by simp only [enter, hname, if_true]; rfl⟩
  | false =>
    cases hget : t.get? (here.follow name) with
    | some entry =>
      cases entry with
      | directory => exact .inr ⟨rfl, .inl ⟨rfl, by simp [enter, hname, hget]⟩⟩
      | file content mode =>
        exact .inl ⟨if more.isEmpty then .alreadyExists else .notADirectory,
          by simp [enter, hname, hget]⟩
    | none =>
      by_cases hdots : (!more.isEmpty && more.all (· == ".")) = true
      · exact .inl ⟨.notFound, by simp only [enter, hname, hget, hdots]; rfl⟩
      · exact .inr ⟨rfl, .inr ⟨rfl, by simp only [enter, hname, hget, hdots]; rfl⟩⟩

lemma makeFrom_keeps (t : Tree) (here : Path) (names : List String) (p : Path) :
    (t.makeFrom here names).1.get? p = t.get? p ∨
      t.get? p = none ∧ (t.makeFrom here names).1.get? p = some .directory := by
  induction names generalizing t here with
  | nil => exact .inl rfl
  | cons name more ih =>
    rw [makeFrom]
    obtain ⟨e, h⟩ | ⟨-, ⟨-, h⟩ | ⟨habsent, h⟩⟩ := t.enter_cases here name more
    · rw [h]
      exact .inl rfl
    · rw [h]
      exact ih t _
    · rw [h]
      have hput := t.get?_put (ne_root_of_absent habsent) .directory p
      by_cases hp : p = here.follow name
      · rw [if_pos hp] at hput
        refine .inr ⟨by rw [hp, habsent], ?_⟩
        rcases ih (t.put (here.follow name) .directory) (here.follow name) with hrest | ⟨hnone, -⟩
        · exact hrest.trans hput
        · rw [hput] at hnone
          cases hnone
      · rw [if_neg hp] at hput
        rw [← hput]
        exact ih _ _

variable {names : List String}

lemma directory_of_locate {here : Path} {name : String}
    (h : t.locate here (name :: names) = .ok path) : t.get? here = some .directory := by
  rw [locate] at h
  split at h
  · cases h
  · cases h
  · rename_i hhere
    exact hhere

lemma locate_mono {t' : Tree} {here : Path}
    (hkept : ∀ q, t.get? q = some .directory → t'.get? q = some .directory)
    (h : t.locate here names = .ok path) : t'.locate here names = .ok path := by
  induction names generalizing here with
  | nil => exact h
  | cons name more ih =>
    rw [locate] at h ⊢
    split at h
    · cases h
    · cases h
    · rename_i hhere
      rw [hkept here hhere]
      dsimp only
      split_ifs at h ⊢
      exact ih h

lemma locate_dot {here : Path} (h : t.locate here (names ++ ["."]) = .ok path) :
    t.get? path = some .directory := by
  induction names generalizing here with
  | nil =>
    rw [List.nil_append, locate] at h
    split at h
    · cases h
    · cases h
    · rename_i hhere
      split_ifs at h
      cases h
      exact hhere
  | cons name more ih =>
    rw [List.cons_append, locate] at h
    split at h
    · cases h
    · cases h
    · split_ifs at h
      exact ih h

lemma makeFrom_there {here : Path} {last : String}
    (h : t.locate here (names ++ [last]) = .ok path) :
    ∃ dir, t.makeFrom here (names.filter (· != ".")) = (t, .ok dir) := by
  induction names generalizing here with
  | nil => exact ⟨here, rfl⟩
  | cons name more ih =>
    rw [List.cons_append, locate] at h
    split at h
    · cases h
    · cases h
    · split_ifs at h with hlong
      obtain ⟨dir, hmore⟩ := ih h
      by_cases hdot : name = "."
      · subst hdot
        exact ⟨dir, by simpa [Path.follow] using hmore⟩
      · have hnext : t.get? (here.follow name) = some .directory := by
          cases more <;> exact directory_of_locate h
        refine ⟨dir, ?_⟩
        rw [List.filter_cons_of_pos (by simpa using hdot), makeFrom]
        simp only [enter, hlong, hnext]
        exact hmore

lemma find_mono {t' : Tree} (hkept : ∀ q, t.get? q = some .directory → t'.get? q = some .directory)
    (h : t.find names = .ok path) : t'.find names = .ok path := by
  unfold find at h ⊢
  split_ifs at h ⊢
  exact locate_mono hkept h

lemma openFile_cases {t' : Tree} {mode : Nat} (h : t.openFile names mode = .ok (path, t')) :
    t.find names = .ok path ∧ t.get? path ≠ some .directory ∧
      ∃ mode, t' = t.put path (.file [] mode) := by
  unfold openFile at h
  split at h
  · cases h
  · rename_i found hfound
    split at h
    · rename_i hget
      cases h
      exact ⟨hfound, by simp [hget], _, rfl⟩
    · cases h
    · rename_i hget
      cases h
      exact ⟨hfound, by simp [hget], _, rfl⟩

variable {t' : Tree} {source target : Path}

lemma rename_cases (h : t.rename source target = .ok t') :
    ∃ content mode, t.get? source = some (.file content mode) ∧
      t' = (t.erase source).put target (.file content mode) ∧
      ((∃ old mode, t.lookup target = .ok (.file old mode)) ∨
        t.lookup target = .error .notFound) := by
  unfold rename at h
  split at h
  · rename_i content mode hsource
    refine ⟨content, mode, hsource, ?_⟩
    split at h
    · cases h
    · rename_i old mode' hlookup
      cases h
      exact ⟨rfl, .inl ⟨old, mode', hlookup⟩⟩
    · rename_i hlookup
      split at h
      · cases h
        exact ⟨rfl, .inr hlookup⟩
      · cases h
      · cases h
    · cases h
  · cases h

lemma get?_move {content : Bytes} {mode : Nat} (hsource : t.get? source = some (.file content mode))
    (htarget : target ≠ []) (p : Path) :
    ((t.erase source).put target (.file content mode)).get? p =
      if p = target then some (.file content mode) else if p = source then none else t.get? p := by
  rw [get?_put _ htarget, get?_erase _ (ne_root hsource)]

lemma Reaches.rename_child {name : String} (hdir : t.Reaches path)
    (h : t.rename source (path ++ [name]) = .ok t') :
    hasZero (path ++ [name]) = false ∧ isTooLong name = false ∧
      t.get? (path ++ [name]) ≠ some .directory := by
  obtain ⟨content, mode, -, -, hlookup⟩ := rename_cases h
  rw [hdir.lookup_child name] at hlookup
  split_ifs at hlookup with hzero hlong
  · simp at hlookup
  · simp at hlookup
  · refine ⟨by simpa using hzero, by simpa using hlong, ?_⟩
    intro hget
    rw [hget] at hlookup
    simp at hlookup

lemma Reaches.read_child {name : String} {content : Bytes} {mode : Nat} (hdir : t.Reaches path)
    (hzero : hasZero (path ++ [name]) = false) (hlong : isTooLong name = false)
    (h : t.get? (path ++ [name]) = some (.file content mode)) :
    t.read (path ++ [name]) = .ok content := by
  simp [read, hdir.lookup_child name, hzero, hlong, h]

end StorageConsole.Files.Tree
