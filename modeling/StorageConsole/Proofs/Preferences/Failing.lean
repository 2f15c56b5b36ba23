import StorageConsole.Proofs.Files.Making
import StorageConsole.Proofs.Preferences.Cutting
import StorageConsole.Proofs.Preferences.Storing

/-! Saves that fail: the stored preferences are lost once the file is open. -/

namespace StorageConsole.Preferences

open Files (Tree Path Entry)

def written? (interruption : Option Interruption) (t : Tree) (path : Path) (p : Preferences) :
    Option Bytes :=
  match t.makeDirectory (parentNames path) with
  | (_, .error _) => none
  | (made, .ok ()) =>
    match made.openFile path Files.ownerOnly, interruption with
    | .ok _, some ⟨.setMode, _⟩ => some []
    | .ok _, some ⟨.write written, _⟩ => some (p.encode.take written)
    | .ok _, some ⟨.sync, _⟩ => some p.encode
    | _, _ => none

inductive Fails (t : Tree) (path : Path) (p : Preferences) : Option Bytes → Tree → Prop where
  | refused {interruption : Option Interruption} {after : Tree} {fault : Fault} :
    saveUnless interruption t path p = (after, .error fault) →
    Fails t path p (written? interruption t path p) after
  | halfway (made : Nat) :
    Fails t path p none (t.makeDirectory ((parentNames path).take made)).1

variable {t after : Tree} {path : Path} {p : Preferences} {interruption : Option Interruption}

def Overwritten (t after : Tree) (path : Path) (bytes : Bytes) : Prop :=
  ∃ (made : Tree) (file : Path) (mode : Nat), t.makeDirectory (parentNames path) = (made, .ok ()) ∧
    made.find path = .ok file ∧ made.get? file ≠ some .directory ∧
    ∀ q, after.get? q = if q = file then some (.file bytes mode) else made.get? q

lemma makeDirectory_all (t : Tree) (path : Path) : ∃ count,
    (t.makeDirectory (parentNames path)).1 =
      (t.makeDirectory ((parentNames path).take count)).1 :=
  ⟨(parentNames path).length, by rw [List.take_length]⟩

lemma makeDirectory_none (t : Tree) (path : Path) : ∃ count,
    t = (t.makeDirectory ((parentNames path).take count)).1 := ⟨0, rfl⟩

lemma saveUnless_error {fault : Fault}
    (h : saveUnless interruption t path p = (after, .error fault)) :
    match written? interruption t path p with
    | none => ∃ count, after = (t.makeDirectory ((parentNames path).take count)).1
    | some bytes => Overwritten t after path bytes := by
  obtain ⟨count, hall⟩ := makeDirectory_all t path
  unfold saveUnless at h
  unfold written?
  rcases hmade : t.makeDirectory (parentNames path) with ⟨made, fault' | ⟨⟩⟩
  · rw [hmade] at h hall
    dsimp only at h ⊢
    split at h
    · cases h
      exact makeDirectory_none t path
    · cases h
      exact ⟨count, hall⟩
  · rw [hmade] at h hall
    dsimp only at h hall ⊢
    rcases hopened : made.openFile path Files.ownerOnly with fault' | ⟨file, opened⟩
    · rw [hopened] at h
      dsimp only at h ⊢
      split at h
      · cases h
        exact makeDirectory_none t path
      · split at h
        · cases h
          exact ⟨count, hall⟩
        · cases h
          exact ⟨count, hall⟩
    · obtain ⟨hfound, hfile, mode, rfl⟩ := Tree.openFile_cases hopened
      have hroot : file ≠ [] := by
        rintro rfl
        exact hfile rfl
      have hput := made.get?_put hroot (.file [] mode)
      rw [hopened] at h
      dsimp only at h ⊢
      rcases interruption with _ | ⟨step, reason⟩
      · cases h
      · cases step with
        | makeDirectories =>
          cases h
          exact makeDirectory_none t path
        | openFile =>
          cases h
          exact ⟨count, hall⟩
        | setMode =>
          cases h
          exact ⟨made, file, mode, hmade, hfound, hfile, hput⟩
        | write written =>
          cases h
          exact ⟨made, file, Files.ownerOnly, hmade, hfound, hfile, get?_written hfile mode _⟩
        | sync =>
          cases h
          exact ⟨made, file, Files.ownerOnly, hmade, hfound, hfile, get?_written hfile mode _⟩

lemma readFile_overwritten {bytes : Bytes} (h : Overwritten t after path bytes) :
    after.readFile path = .ok bytes := by
  obtain ⟨made, file, mode, -, hfound, hfile, hget⟩ := h
  have hthere : after.find path = .ok file := by
    refine Tree.find_mono (fun q hq => ?_) hfound
    have hne : q ≠ file := by
      rintro rfl
      exact hfile hq
    rw [hget, if_neg hne, hq]
  exact readFile_written hthere ((hget file).trans (if_pos rfl))

lemma load_overwritten {n : Nat} (h : Overwritten t after path (p.encode.take n)) :
    load after path = if p.encode.take n = p.encode then .ok p
      else .error (.serialization .truncated) := by
  by_cases hall : p.encode.take n = p.encode
  · rw [if_pos hall, load, readFile_overwritten h, hall]
    simp only [decode_encode]
  · have hlength : n < p.encode.length := by
      by_contra hlong
      exact hall (List.take_of_length_le (by omega))
    rw [if_neg hall, load, readFile_overwritten h]
    simp only [decode_cut p hlength]

lemma written?_prefix {bytes : Bytes} (h : written? interruption t path p = some bytes) :
    ∃ n, bytes = p.encode.take n := by
  unfold written? at h
  split at h
  · cases h
  · split at h
    · cases h
      exact ⟨0, rfl⟩
    · rename_i written _ _
      cases h
      exact ⟨_, rfl⟩
    · cases h
      exact ⟨_, List.take_length.symm⟩
    · cases h

lemma load_congr (h : after.readFile path = t.readFile path) : load after path = load t path := by
  rw [load, load, h]

lemma load_notFound (h : t.readFile path = .error .notFound) : load t path = .ok {} := by
  rw [load, h]

/-- A save that fails keeps what is loaded exactly if its file was not opened and there was a file
to load, or nothing that is found instead; once the file was opened, what is loaded is what was
written, and a part of it is not even read. Where all names of the path are plain, a save that fails
before its file is opened keeps what is loaded. -/
theorem failed_save_keeps_iff (t after : Tree) (path : Path) (p : Preferences)
    (written : Option Bytes) : Fails t path p written after →
    (load after path = load t path ↔
      match written with
      | some bytes => load t path =
          if bytes = p.encode then .ok p else .error (.serialization .truncated)
      | none => t.readFile path ≠ .error .notFound ∨ load after path = .ok {}) ∧
    (written = none → t.IsRooted → (∀ name ∈ path, Tree.IsPlain name) →
      load after path = load t path) := by
  have hunopened (count : Nat) :
      let after := (t.makeDirectory ((parentNames path).take count)).1
      (load after path = load t path ↔
        t.readFile path ≠ .error .notFound ∨ load after path = .ok {}) ∧
      (t.IsRooted → (∀ name ∈ path, Tree.IsPlain name) → load after path = load t path) := by
    intro after
    refine ⟨⟨fun hkept => ?_, ?_⟩, fun hroot hplain =>
      load_congr (Tree.readFile_plain hroot hplain count)⟩
    · by_cases hgap : t.readFile path = .error .notFound
      · exact .inr (hkept.trans (load_notFound hgap))
      · exact .inl hgap
    · rcases t.readFile_same_or_gap path count with hsame | hgap
      · exact fun _ => load_congr hsame
      · rintro (hthere | hdefaults)
        · exact absurd hgap hthere
        · rw [hdefaults, load_notFound hgap]
  intro h
  cases h with
  | halfway made => exact ⟨(hunopened made).1, fun _ => (hunopened made).2⟩
  | @refused interruption _ fault hsave =>
    have hfailed := saveUnless_error hsave
    cases hwritten : written? interruption t path p with
    | none =>
      rw [hwritten] at hfailed
      obtain ⟨count, rfl⟩ := hfailed
      exact ⟨(hunopened count).1, fun _ => (hunopened count).2⟩
    | some bytes =>
      rw [hwritten] at hfailed
      obtain ⟨n, rfl⟩ := written?_prefix hwritten
      exact ⟨by rw [load_overwritten hfailed]; exact eq_comm, nofun⟩

def keys : Preferences :=
  ⟨.en, some { accessKeyId := "AKIA", secretAccessKey := "secret" }⟩

def stored : Tree :=
  [(["home"], .directory), (["home", "preferences.json"], .file keys.encode Files.ownerOnly)]

def fullDisk : Interruption := ⟨.write 10, .other "No space left on device (os error 28)"⟩

theorem full_disk_fails :
    let path : Path := ["home", "preferences.json"]
    let after := (saveUnless (some fullDisk) stored path {}).1
    Fails stored path {} (some ((encode {}).take 10)) after ∧
      load after path ≠ load stored path := by
  intro path after
  have hfails : Fails stored path {} (some ((encode {}).take 10)) after :=
    .refused (show saveUnless (some fullDisk) stored path {} =
      (after, .error (.files fullDisk.reason)) from rfl)
  refine ⟨hfails, fun hkept => ?_⟩
  have hstored : load stored path = .ok keys := load_written rfl rfl
  have hsame := (failed_save_keeps_iff stored after path {} _ hfails).1.mp hkept
  rw [hstored] at hsame
  dsimp only at hsame
  rw [if_neg (by decide +kernel)] at hsame
  cases hsame

lemma save_too_long {dir name : String} (hdir : Tree.IsPlain dir)
    (hname : Tree.isTooLong name = true) (hzero : Tree.hasZero [dir, name] = false)
    (p : Preferences) :
    let made : Tree := [([dir], .directory)]
    save [] [dir, name] p = (made, .error (.files .invalidFilename)) ∧
      load [] [dir, name] = .ok {} ∧
      load made [dir, name] = .error (.files .invalidFilename) := by
  intro made
  have hdot : name ≠ "." := by
    rintro rfl
    exact absurd hname (by decide)
  have hparents : parentNames [dir, name] = [dir] := by simp [parentNames, hdir.1, hdot]
  have hzero' : Tree.hasZero [dir] = false := by
    simp only [Tree.hasZero, List.any_cons, Bool.or_eq_false_iff] at hzero ⊢
    exact ⟨hzero.1, rfl⟩
  have hmade : Tree.makeDirectory [] [dir] = (made, .ok ()) := by
    simp [Tree.makeDirectory, hzero', Tree.makeFrom, Tree.enter, hdir.2.2, hdir.follow, Tree.get?,
      Tree.put, Tree.erase, Except.map, made]
  have hbefore : Tree.find [] [dir, name] = .error .notFound := by
    simp [Tree.find, hzero, Tree.locate, Tree.get?, hdir.2.2, hdir.follow]
  have hafter : made.find [dir, name] = .error .invalidFilename := by
    simp [Tree.find, hzero, Tree.locate, Tree.get?, hdir.2.2, hdir.follow, hname, made]
  refine ⟨?_, ?_, ?_⟩
  · simp [save, saveUnless, hparents, hmade, Tree.openFile, hafter]
  · simp [load, Tree.readFile, hbefore]
  · simp [load, Tree.readFile, hafter]

theorem failed_save_loses_keys :
    (let path : Path := ["home", "preferences.json"]
      let after := (saveUnless (some fullDisk) stored path {}).1
      saveUnless (some fullDisk) stored path {} = (after, .error (.files fullDisk.reason)) ∧
        load stored path = .ok keys ∧ load after path = .error (.serialization .truncated)) ∧
    let path : Path := ["a", String.ofList (List.replicate 256 'x')]
    let after : Tree := [(["a"], .directory)]
    save [] path { language := .en } = (after, .error (.files .invalidFilename)) ∧
      load [] path = .ok {} ∧ load after path = .error (.files .invalidFilename) := by
  refine ⟨⟨rfl, by decide +kernel, by decide +kernel⟩,
    save_too_long ⟨by decide, by decide, by decide⟩ ?_ ?_ _⟩
  · simp only [Tree.isTooLong, Text.Utf8.encode, String.toList_ofList]
    decide +kernel
  · simp only [Tree.hasZero, List.any_cons, String.toList_ofList]
    decide +kernel

end StorageConsole.Preferences
