import StorageConsole.Preferences.Store
import StorageConsole.Proofs.Files.Tree
import StorageConsole.Proofs.Preferences.Rereading

namespace StorageConsole.Preferences

open Files (Tree Path Entry)

variable {t after : Tree} {path : Path} {p : Preferences} {interruption : Option Interruption}

lemma get?_written {made : Tree} {file : Path} (hfile : made.get? file ≠ some .directory)
    (mode : Nat) (bytes : Bytes) (q : Path) :
    (((made.put file (.file [] mode)).setMode file Files.ownerOnly).append file bytes).get? q =
      if q = file then some (.file bytes Files.ownerOnly) else made.get? q := by
  have hroot : file ≠ [] := by
    rintro rfl
    exact hfile rfl
  have hput := made.get?_put hroot (.file [] mode)
  have hset := Tree.get?_setMode ((hput file).trans (if_pos rfl)) Files.ownerOnly
  have happend := Tree.get?_append ((hset file).trans (if_pos rfl)) bytes
  rw [happend, List.nil_append]
  split
  · rfl
  · rename_i hq
    rw [hset, if_neg hq, hput, if_neg hq]

lemma saveUnless_ok (h : saveUnless interruption t path p = (after, .ok ())) :
    ∃ made file, t.makeDirectory (parentNames path) = (made, .ok ()) ∧
      made.find path = .ok file ∧ made.get? file ≠ some .directory ∧
      ∀ q, after.get? q =
        if q = file then some (.file p.encode Files.ownerOnly) else made.get? q := by
  unfold saveUnless at h
  dsimp only at h
  split at h
  · cases h
  · split at h
    · cases h
    · rename_i made hmade
      split at h
      · cases h
      · split at h
        · cases h
        · rename_i file opened hopened
          obtain ⟨hfound, hfile, mode, rfl⟩ := Tree.openFile_cases hopened
          split at h
          · cases h
          · split at h
            · cases h
            · split at h
              · cases h
              · cases h
                exact ⟨made, file, hmade, hfound, hfile, get?_written hfile mode p.encode⟩

lemma makeDirectory_there {file : Path} {content : Bytes} {mode : Nat}
    (hfound : t.find path = .ok file) (hfile : t.get? file = some (.file content mode)) :
    t.makeDirectory (parentNames path) = (t, .ok ()) := by
  unfold Tree.find at hfound
  split_ifs at hfound with hzero
  rcases List.eq_nil_or_concat' path with rfl | ⟨names, last, rfl⟩
  · cases hfound
    cases hfile
  · have hlast : last ≠ "." := by
      rintro rfl
      rw [Tree.locate_dot hfound] at hfile
      cases hfile
    have hparents : parentNames (names ++ [last]) = names.filter (· != ".") := by
      simp [parentNames, hlast]
    have hparents_zero : ¬Tree.hasZero (names.filter (· != ".")) = true := by
      simp only [Tree.hasZero, List.any_eq_true, List.mem_append, List.mem_filter] at hzero ⊢
      rintro ⟨name, ⟨hname, -⟩, hchars⟩
      exact hzero ⟨name, .inl hname, hchars⟩
    obtain ⟨dir, hmade⟩ := Tree.makeFrom_there hfound
    rw [hparents, Tree.makeDirectory, if_neg hparents_zero, hmade]
    rfl

lemma save_there {file : Path} {content : Bytes} {mode : Nat} (hfound : t.find path = .ok file)
    (hfile : t.get? file = some (.file content mode)) (p : Preferences) :
    ∃ after, save t path p = (after, .ok ()) := by
  have hmade := makeDirectory_there hfound hfile
  have hopened : t.openFile path Files.ownerOnly = .ok (file, t.put file (.file [] mode)) := by
    simp only [Tree.openFile, hfound, hfile]
  let emptied := (t.put file (.file [] mode)).setMode file Files.ownerOnly
  refine ⟨emptied.append file p.encode, ?_⟩
  simp only [save, saveUnless, Option.filter_none, Option.map_none, hmade, hopened, emptied]

lemma load_written {file : Path} {mode : Nat} (hfound : t.find path = .ok file)
    (hfile : t.get? file = some (.file p.encode mode)) : load t path = .ok p := by
  simp only [load, Tree.readFile, hfound, hfile, decode_encode]

def SameFiles (t after : Tree) (file : Path) : Prop :=
  ∀ q, q ≠ file → ∀ content mode,
    after.get? q = some (.file content mode) ↔ t.get? q = some (.file content mode)

lemma makeDirectory_sameFiles {made : Tree} {names : List String}
    (h : t.makeDirectory names = (made, .ok ())) (file : Path) : SameFiles t made file := by
  intro q _ content mode
  have hmade : made = (t.makeFrom [] names).1 := by
    unfold Tree.makeDirectory at h
    split_ifs at h
    · cases h
    · exact (congrArg Prod.fst h).symm
  subst hmade
  rcases t.makeFrom_keeps [] names q with hsame | ⟨hbefore, hafter⟩
  · rw [hsame]
  · simp [hbefore, hafter]

lemma saved_survives (h : saveUnless interruption t path p = (after, .ok ())) :
    load after path = .ok p ∧ ∃ file, after.find path = .ok file ∧
      after.get? file = some (.file p.encode 0o600) ∧ SameFiles t after file := by
  obtain ⟨made, file, hmade, hfound, hfile, hget⟩ := saveUnless_ok h
  have hwritten : after.get? file = some (.file p.encode Files.ownerOnly) :=
    (hget file).trans (if_pos rfl)
  have hthere : after.find path = .ok file := by
    apply Tree.find_mono _ hfound
    intro q hq
    have hne : q ≠ file := by
      rintro rfl
      exact hfile hq
    rw [hget, if_neg hne, hq]
  refine ⟨load_written hthere hwritten, file, hthere, hwritten, ?_⟩
  intro q hq content mode
  rw [hget, if_neg hq]
  exact makeDirectory_sameFiles hmade file q hq content mode

lemma readFile_ok {content : Bytes} (h : t.readFile path = .ok content) :
    ∃ file mode, t.find path = .ok file ∧ t.get? file = some (.file content mode) := by
  unfold Tree.readFile at h
  split at h
  · cases h
  · rename_i file hfound
    split at h
    · rename_i mode hfile
      cases h
      exact ⟨file, mode, hfound, hfile⟩
    · cases h
    · cases h

lemma readFile_written {file : Path} {bytes : Bytes} {mode : Nat} (hfound : t.find path = .ok file)
    (hfile : t.get? file = some (.file bytes mode)) : t.readFile path = .ok bytes := by
  simp only [Tree.readFile, hfound, hfile]

/-- What is saved is loaded again, from a file that only its owner may use, and no other file is
changed. Loading and saving what is there changes its form once, and never what it says. -/
theorem preferences_survive :
    (∀ (interruption : Option Interruption) (t after : Tree) (path : Path) (p : Preferences),
      saveUnless interruption t path p = (after, .ok ()) →
        load after path = .ok p ∧ ∃ file, after.find path = .ok file ∧
          after.get? file = some (.file p.encode 0o600) ∧ SameFiles t after file) ∧
    ∀ (t : Tree) (path : Path) (content : Bytes) (p : Preferences),
      t.readFile path = .ok content → load t path = .ok p →
        ∃ once twice bytes,
          save t path p = (once, .ok ()) ∧ load once path = .ok p ∧
          save once path p = (twice, .ok ()) ∧
          once.readFile path = .ok bytes ∧ twice.readFile path = .ok bytes := by
  refine ⟨fun _ _ _ _ _ => saved_survives, ?_⟩
  intro t path content p hread _
  obtain ⟨file, mode, hfound, hfile⟩ := readFile_ok hread
  obtain ⟨once, honce⟩ := save_there hfound hfile p
  obtain ⟨hload, file', hfound', hfile', -⟩ := saved_survives honce
  obtain ⟨twice, htwice⟩ := save_there hfound' hfile' p
  obtain ⟨-, file'', hfound'', hfile'', -⟩ := saved_survives htwice
  exact ⟨once, twice, p.encode, honce, hload, htwice, readFile_written hfound' hfile',
    readFile_written hfound'' hfile''⟩

def openToAll : Tree :=
  [(["home"], .directory), (["home", "me"], .directory),
    (["home", "me", "preferences.json"],
      .file (Text.Utf8.encode
        "[\"en\", \x7b\"secretAccessKey\": \"\\u00e9\", \"endpoint\": \"\", \"more\": []\x7d]")
        Files.shared),
    (["home", "notes"], .file [1] Files.shared)]

def detour : Path := ["home", ".", "me", "..", "me", "preferences.json"]

def frugal : Preferences :=
  ⟨.en, some { accessKeyId := "", secretAccessKey := "é", endpoint := some "" }⟩

theorem preferences_survive_open_to_all :
    let once := (save openToAll detour frugal).1
    load openToAll detour = .ok frugal ∧ save openToAll detour frugal = (once, .ok ()) ∧
      load once detour = .ok frugal ∧ once.mode? ["home", "me", "preferences.json"] = some 0o600 ∧
      once.get? ["home", "notes"] = some (.file [1] Files.shared) ∧
      ∃ twice bytes, save once detour frugal = (twice, .ok ()) ∧
        once.readFile detour = .ok bytes ∧ twice.readFile detour = .ok bytes := by
  intro once
  have hload : load openToAll detour = .ok frugal := Json.ok_of_toOption (by decide +kernel)
  have hsave : save openToAll detour frugal = (once, .ok ()) := rfl
  obtain ⟨hagain, file, hfound, hfile, hothers⟩ :=
    preferences_survive.1 none openToAll once detour frugal hsave
  obtain ⟨first, twice, bytes, hfirst, -, htwice, hbytes, hsame⟩ :=
    preferences_survive.2 openToAll detour _ frugal rfl hload
  obtain rfl : once = first := congrArg Prod.fst hfirst
  have hhere : once.find detour = .ok ["home", "me", "preferences.json"] := rfl
  obtain rfl : ["home", "me", "preferences.json"] = file := Except.ok.inj (hhere.symm.trans hfound)
  have hmode : once.mode? ["home", "me", "preferences.json"] = some 0o600 := by
    rw [Tree.mode?, hfile]
  have hnotes : once.get? ["home", "notes"] = some (.file [1] Files.shared) :=
    (hothers _ (by decide) _ _).mpr rfl
  exact ⟨hload, hsave, hagain, hmode, hnotes, twice, bytes, htwice, hbytes, hsame⟩

end StorageConsole.Preferences
