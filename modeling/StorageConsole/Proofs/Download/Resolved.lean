import Mathlib.Data.List.Forall2
import StorageConsole.Download.Filename
import StorageConsole.Proofs.Text.Trimming

namespace StorageConsole.Download

lemma Disposition.nonempty?_cases {name name' : List Char} (h : nonempty? name = some name') :
    name = name' ∧ name' ≠ [] := by
  unfold nonempty? at h
  split at h
  · cases h
  · rename_i hne
    cases h
    exact ⟨rfl, by simpa using hne⟩

lemma Disposition.filenameChars?_cases {header name : List Char}
    (h : filenameChars? header = some name) : Text.IsTrimmed name ∧ name ≠ [] := by
  rcases Option.or_eq_some_iff.mp h with h | ⟨-, h⟩
  · obtain ⟨decoded, hdecoded, hname⟩ := Option.bind_eq_some_iff.mp h
    obtain ⟨rfl, hne⟩ := nonempty?_cases hname
    obtain ⟨raw, -, hraw⟩ := Option.bind_eq_some_iff.mp hdecoded
    obtain ⟨value, -, rfl⟩ := Option.map_eq_some_iff.mp hraw
    exact ⟨Text.isTrimmed_trimChars value, hne⟩
  · obtain ⟨value, hvalue, hname⟩ := Option.bind_eq_some_iff.mp h
    obtain ⟨rfl, hne⟩ := nonempty?_cases hname
    obtain ⟨raw, -, rfl⟩ := Option.map_eq_some_iff.mp hvalue
    exact ⟨Text.isTrimmed_trimChars raw, hne⟩

lemma forall₂_sanitize (name : String) :
    List.Forall₂ (fun c d => if isUnsafe c then d = '_' else d = c) name.toList
      (sanitize name).toList := by
  rw [sanitize, String.toList_ofList, List.forall₂_map_right_iff, List.forall₂_same]
  intro c _
  split <;> rfl

lemma safe_sanitize (name : String) : ∀ c ∈ (sanitize name).toList, isUnsafe c = false := by
  intro c hc
  rw [sanitize, String.toList_ofList] at hc
  obtain ⟨d, -, rfl⟩ := List.mem_map.mp hc
  split
  · rfl
  · rename_i hd
    exact Bool.eq_false_iff.mpr hd

lemma sanitize_of_safe {name : String} (h : ∀ c ∈ name.toList, isUnsafe c = false) :
    sanitize name = name := by
  have hmap : (name.toList.map fun c => if isUnsafe c then '_' else c) = name.toList := by
    conv_rhs => rw [← List.map_id name.toList]
    apply List.map_congr_left
    intro c hc
    rw [h c hc]
    rfl
  rw [sanitize, hmap, String.ofList_toList]

lemma sanitize_trim_isTrimmed (name : String) :
    Text.IsTrimmed (sanitize (Text.trim name)).toList := by
  simp only [sanitize, Text.trim, String.toList_ofList]
  apply (Text.isTrimmed_trimChars name.toList).map
  intro c hc
  split
  · rfl
  · exact hc

lemma sanitize_trim_ne_empty {name : String} (h : Text.blank name = false) :
    sanitize (Text.trim name) ≠ "" := by
  intro hempty
  have hnil : Text.trimChars name.toList = [] := by
    have hlist := congrArg String.toList hempty
    simpa [sanitize, Text.trim] using hlist
  have hblank : Text.blank name = true := by
    simpa [Text.blank] using Text.trimChars_eq_nil hnil
  rw [h] at hblank
  cases hblank

lemma default_isTrimmed : Text.IsTrimmed defaultFilename.toList where
  head c hc := by
    obtain rfl : 'd' = c := Option.some.inj hc
    rfl
  last c hc := by
    obtain rfl : 'p' = c := Option.some.inj hc
    rfl

lemma resolveFilename_cases (disposition requested : Option String) :
    Text.IsTrimmed (resolveFilename disposition requested).toList ∧
      resolveFilename disposition requested ≠ "" := by
  unfold resolveFilename
  cases hheader : disposition.bind Disposition.filename? with
  | some name =>
    obtain ⟨header, -, hname⟩ := Option.bind_eq_some_iff.mp hheader
    obtain ⟨cs, hcs, rfl⟩ := Option.map_eq_some_iff.mp hname
    obtain ⟨htrimmed, hne⟩ := Disposition.filenameChars?_cases hcs
    simpa using ⟨htrimmed, hne⟩
  | none =>
    cases hrequested : requested.filter (!Text.blank ·) with
    | some name =>
      obtain ⟨-, hname⟩ := Option.filter_eq_some_iff.mp hrequested
      exact ⟨sanitize_trim_isTrimmed name, sanitize_trim_ne_empty (by simpa using hname)⟩
    | none => exact ⟨default_isTrimmed, by decide⟩

lemma safe_default : ∀ c ∈ defaultFilename.toList, isUnsafe c = false := by
  have hall : defaultFilename.toList.all (!isUnsafe ·) = true := by decide
  simpa using List.all_eq_true.mp hall

/-- A download always gets a name that can be stored under: the header's, else the requested one
with an underscore for each unsafe character, else the default. -/
theorem resolved_name_is_usable (disposition requested : Option String) :
    let name := resolveFilename disposition requested
    name ≠ "" ∧ Text.IsTrimmed name.toList ∧
    (∀ told, disposition.bind Disposition.filename? = some told → name = told) ∧
    (disposition.bind Disposition.filename? = none →
      (∀ wanted, requested = some wanted → Text.blank wanted = false →
        List.Forall₂ (fun c d => if isUnsafe c then d = '_' else d = c)
          (Text.trim wanted).toList name.toList) ∧
      ((∀ wanted, requested = some wanted → Text.blank wanted = true) →
        name = "download.zip") ∧
      (∀ c ∈ name.toList, isUnsafe c = false) ∧ sanitize name = name) := by
  intro name
  obtain ⟨htrimmed, hne⟩ := resolveFilename_cases disposition requested
  refine ⟨hne, htrimmed, fun told htold => ?_, fun hnone => ?_⟩
  · simp only [name, resolveFilename, htold]
  · have hname : name = (requested.filter (!Text.blank ·)).elim defaultFilename
        fun wanted => sanitize (Text.trim wanted) := by
      simp only [name, resolveFilename, hnone]
      cases requested.filter (!Text.blank ·) <;> rfl
    have hsafe : ∀ c ∈ name.toList, isUnsafe c = false := by
      rw [hname]
      cases requested.filter (!Text.blank ·) with
      | none => exact safe_default
      | some wanted => exact safe_sanitize _
    refine ⟨fun wanted hwanted hblank => ?_, fun hblank => ?_, hsafe, sanitize_of_safe hsafe⟩
    · have hfilter : requested.filter (!Text.blank ·) = some wanted := by
        simp [hwanted, hblank]
      rw [hname, hfilter]
      exact forall₂_sanitize _
    · have hfilter : requested.filter (!Text.blank ·) = none := by
        simpa [Option.filter_eq_none_iff] using hblank
      rw [hname, hfilter]
      rfl

theorem resolved_path_is_usable :
    let name := resolveFilename (some "attachment; filename*=%20; filename=\"\"")
      (some " a/\u0001:ü? ")
    (some "attachment; filename*=%20; filename=\"\"").bind Disposition.filename? = none ∧
      Text.blank " a/\u0001:ü? " = false ∧
      List.Forall₂ (fun c d => if isUnsafe c then d = '_' else d = c)
        (Text.trim " a/\u0001:ü? ").toList name.toList ∧
      name = "a___ü_" ∧ sanitize name = name := by
  intro name
  have hnone : (some "attachment; filename*=%20; filename=\"\"").bind Disposition.filename? =
      none := by decide +kernel
  have hblank : Text.blank " a/\u0001:ü? " = false := by decide
  obtain ⟨-, -, -, hrequested⟩ := resolved_name_is_usable
    (some "attachment; filename*=%20; filename=\"\"") (some " a/\u0001:ü? ")
  obtain ⟨hwritten, -, -, hfixed⟩ := hrequested hnone
  exact ⟨hnone, hblank, hwritten _ rfl hblank, by decide +kernel, hfixed⟩

end StorageConsole.Download
