import StorageConsole.Download.Filename
import StorageConsole.Proofs.Download.Searching
import StorageConsole.Proofs.Text.Percent
import StorageConsole.Proofs.Text.Trimming

namespace StorageConsole.Download.Disposition

open Text (isBlank)

def isAttribute (b : UInt8) : Bool :=
  Text.Percent.isAlphanumeric b || "!#$&+-.^_`|~".toList.any (·.toNat == b.toNat)

def withCharset (name : String) : List Char :=
  "UTF-8''".toList ++ Text.Percent.encode isAttribute (Text.Utf8.encode name)

def isPlainInQuery (b : UInt8) : Bool :=
  Text.Percent.isAlphanumeric b || "-_.~".toList.any (·.toNat == b.toNat)

def asInQuery (name : String) : List Char :=
  (Text.Utf8.encode name).flatMap fun b =>
    if b = 0x20 then ['+'] else Text.Percent.encode isPlainInQuery [b]

def header (plain : Option String) (value : List Char) (more : Option String) : String :=
  "attachment; " ++ (plain.elim "" fun name => "filename=\"" ++ name ++ "\"; ") ++
    "filename*=" ++ String.ofList value ++ more.elim "" (";" ++ ·)

variable {cs rest front value more : List Char}

lemma length_before_star (h : dropSign "filename*".toList cs = some rest) :
    (cs.takeWhile (· != '*')).length = 8 := by
  obtain ⟨word, gap, after, rfl, hword, -, -⟩ := dropSign_some h
  have hsplit : word.map Char.toLower = "filename".toList ++ ['*'] := hword
  obtain ⟨letters, star, rfl, hletters, hstar⟩ := List.map_eq_append_iff.mp hsplit
  obtain ⟨c, rfl, hc⟩ := List.map_eq_singleton_iff.mp hstar
  obtain rfl := eq_star hc
  have hfree : '*' ∉ letters := by
    intro hmem
    have hlower : '*' ∈ "filename".toList := hletters ▸ List.mem_map_of_mem (f := Char.toLower) hmem
    exact absurd hlower (by decide)
  have hlength : letters.length = 8 := by
    rw [← List.length_map (f := Char.toLower), hletters]
    rfl
  rw [List.append_assoc, List.append_assoc, List.singleton_append, (span_at hfree _).1, hlength]

lemma searchIn_before_star (hfront : '*' ∉ front) (more : List Char) :
    searchIn extendedHere? front ("filename".toList ++ '*' :: more) = none := by
  apply searchIn_eq_none
  intro c back hback
  rw [extendedHere?_eq, Option.bind_eq_none_iff]
  intro rest hsign
  have hfree : '*' ∉ c :: back ++ "filename".toList := by
    rw [List.mem_append]
    rintro (hmem | hmem)
    · exact hfront (hback.subset hmem)
    · exact absurd hmem (by decide)
  have hlength := length_before_star hsign
  rw [← List.append_assoc, (span_at hfree more).1, List.length_append, List.length_cons] at hlength
  have height : "filename".toList.length = 8 := rfl
  omega

lemma extendedValue?_append (hne : value ≠ []) (hvalue : ∀ c ∈ value, inExtended c = true)
    (hmore : ∀ c ∈ more.head?, inExtended c = false) :
    extendedValue? ((value ++ more).dropWhile isBlank) = some value := by
  obtain ⟨c, back, rfl⟩ := List.exists_cons_of_ne_nil hne
  have hc : (c ≠ ';' ∧ c ≠ '"') ∧ isBlank c = false := by
    simpa [inExtended] using hvalue c List.mem_cons_self
  have htaken := takeWhile_append_stop hvalue hmore
  rw [List.cons_append, List.dropWhile_cons_of_neg (by simp [hc.2]), ← List.cons_append]
  have hhead : (c :: back ++ more).head? ≠ some '"' := fun h => hc.1.2 (Option.some.inj h)
  simp only [extendedValue?, if_neg hhead, htaken]
  rfl

lemma search_extended (hfront : '*' ∉ front) (hne : value ≠ [])
    (hvalue : ∀ c ∈ value, inExtended c = true) (hmore : ∀ c ∈ more.head?, inExtended c = false) :
    search extendedHere? (front ++ ("filename".toList ++ '*' :: '=' :: (value ++ more))) =
      some value := by
  have hsign : dropSign "filename*".toList ("filename".toList ++ '*' :: '=' :: (value ++ more)) =
      some ((value ++ more).dropWhile isBlank) := rfl
  have hhere := extendedHere?_eq ("filename".toList ++ '*' :: '=' :: (value ++ more))
  rw [hsign, Option.bind_some, extendedValue?_append hne hvalue hmore] at hhere
  have hfirst : search extendedHere? ("filename".toList ++ '*' :: '=' :: (value ++ more)) =
      (some value).or _ := congrArg (Option.or · _) hhere
  rw [search_append, searchIn_before_star hfront, Option.none_or, hfirst]
  rfl

lemma inExtended_encode {keep : UInt8 → Bool} (hkeep : ∀ b, keep b = true →
    inExtended (Char.ofNat b.toNat) = true ∧ Char.ofNat b.toNat ≠ '\'') {bs : Bytes} {c : Char}
    (h : c ∈ Text.Percent.encode keep bs) : inExtended c = true ∧ c ≠ '\'' := by
  have hescapes : Text.Percent.escapes.all (fun c => inExtended c && c != '\'') = true := by decide
  obtain ⟨b, -, h⟩ := List.mem_flatMap.mp h
  split at h
  · rename_i hkept
    rw [List.mem_singleton.mp h]
    exact hkeep b hkept
  · simpa using List.all_eq_true.mp hescapes c (Text.Percent.mem_escape h)

lemma isAttribute_kept : ∀ b, isAttribute b = true →
    (inExtended (Char.ofNat b.toNat) = true ∧ Char.ofNat b.toNat ≠ '\'') ∧
      b.toNat ≤ 127 ∧ b ≠ 0x25 := by
  apply Text.forall_byte
  decide +kernel

lemma isPlainInQuery_kept : ∀ b, isPlainInQuery b = true →
    (inExtended (Char.ofNat b.toNat) = true ∧ Char.ofNat b.toNat ≠ '\'') ∧
      b.toNat ≤ 127 ∧ b ≠ 0x25 := by
  apply Text.forall_byte
  decide +kernel

lemma afterLanguage?_withCharset (name : String) : afterLanguage? (withCharset name) =
    some (Text.Percent.encode isAttribute (Text.Utf8.encode name)) := rfl

lemma afterLanguage?_eq_none {raw : List Char} (h : '\'' ∉ raw) : afterLanguage? raw = none := by
  have hnone : raw.dropWhile (· != '\'') = [] := by
    rw [List.dropWhile_eq_nil_iff]
    intro c hc
    apply bne_iff_ne.mpr
    rintro rfl
    exact h hc
  rw [afterLanguage?, hnone]
  rfl

lemma asInQuery_spaces (name : String) :
    (asInQuery name).map (fun c => if c = '+' then ' ' else c) =
      Text.Percent.encode (fun b => isPlainInQuery b || b == 0x20) (Text.Utf8.encode name) := by
  have hbyte : ∀ b : UInt8, (if b = 0x20 then ['+'] else Text.Percent.encode isPlainInQuery [b]).map
      (fun c => if c = '+' then ' ' else c) =
        if isPlainInQuery b || b == 0x20 then [Char.ofNat b.toNat] else Text.Percent.escape b := by
    apply Text.forall_byte
    decide +kernel
  rw [asInQuery, List.map_flatMap, Text.Percent.encode]
  exact congrArg (List.flatMap · _) (funext hbyte)

lemma decodeExtended?_withCharset (name : String) :
    decodeExtended? (withCharset name) = some (Text.trimChars name.toList) := by
  have hdecode := Text.Percent.decode_encode (fun b hb => (isAttribute_kept b hb).2)
    (Text.Utf8.encode name)
  simp only [decodeExtended?, afterLanguage?_withCharset, hdecode]
  rw [Text.Utf8.encode, Text.Utf8.decodeChars?_encodeChars, Option.map_some]

lemma inExtended_asInQuery {name : String} {c : Char} (h : c ∈ asInQuery name) :
    inExtended c = true ∧ c ≠ '\'' := by
  obtain ⟨b, -, h⟩ := List.mem_flatMap.mp h
  split at h
  · rw [List.mem_singleton.mp h]
    decide
  · exact inExtended_encode (fun b hb => (isPlainInQuery_kept b hb).1) h

lemma decodeExtended?_asInQuery (name : String) :
    decodeExtended? (asInQuery name) = some (Text.trimChars name.toList) := by
  have hfree : '\'' ∉ asInQuery name := fun h => (inExtended_asInQuery h).2 rfl
  have hkeep : ∀ b, (isPlainInQuery b || b == 0x20) = true → b.toNat ≤ 127 ∧ b ≠ 0x25 := by
    intro b hb
    rcases Bool.or_eq_true_iff.mp hb with hb | hb
    · exact (isPlainInQuery_kept b hb).2
    · rw [beq_iff_eq.mp hb]
      decide
  have hdecode := Text.Percent.decode_encode hkeep (Text.Utf8.encode name)
  simp only [decodeExtended?, afterLanguage?_eq_none hfree, asInQuery_spaces, hdecode]
  rw [Text.Utf8.encode, Text.Utf8.decodeChars?_encodeChars, Option.map_some]

lemma inExtended_withCharset {name : String} {c : Char} (h : c ∈ withCharset name) :
    inExtended c = true := by
  have hcharset : "UTF-8''".toList.all inExtended = true := by decide
  rcases List.mem_append.mp h with h | h
  · exact List.all_eq_true.mp hcharset c h
  · exact (inExtended_encode (fun b hb => (isAttribute_kept b hb).1) h).1

lemma filename?_header {plain more : Option String} {value : List Char} {name : String}
    (hname : Text.blank name = false) (hplain : ∀ p ∈ plain, '*' ∉ p.toList)
    (hvalue : ∀ c ∈ value, inExtended c = true)
    (hdecode : decodeExtended? value = some (Text.trimChars name.toList)) :
    filename? (header plain value more) = some (Text.trim name) := by
  have htrimmed : Text.trimChars name.toList ≠ [] := by
    intro hnil
    have hblank : Text.blank name = true := List.all_eq_true.mpr (Text.trimChars_eq_nil hnil)
    exact Bool.false_ne_true (hname.symm.trans hblank)
  have hne : value ≠ [] := by
    rintro rfl
    exact htrimmed (Option.some.inj hdecode).symm
  let front := ("attachment; " ++ plain.elim "" fun name => "filename=\"" ++ name ++ "\"; ").toList
  let behind := (more.elim "" (";" ++ ·)).toList
  have hfront : '*' ∉ front := by
    cases plain with
    | none => decide
    | some p =>
      have hp := hplain p rfl
      simp [front, hp]
  have hbehind : ∀ c ∈ behind.head?, inExtended c = false := by
    cases more with
    | none => exact fun c hc => absurd hc (Option.not_mem_none c)
    | some m =>
      intro c hc
      obtain rfl : ';' = c := by simpa [behind] using hc
      rfl
  have hheader : (header plain value more).toList =
      front ++ ("filename".toList ++ '*' :: '=' :: (value ++ behind)) := by
    simp [header, front, behind]
  rw [filename?, filenameChars?, hheader, search_extended hfront hne hvalue hbehind,
    Option.bind_some, hdecode, Option.bind_some, nonempty?, if_neg (by simpa using htrimmed)]
  rfl

/-- A name that is not blank is read back from an extended value, but for blanks at its ends, in
either form, whatever plain name stands before it and whatever follows. -/
theorem extended_name_rereads (name : String) (plain more : Option String)
    (hname : Text.blank name = false) (hplain : ∀ p ∈ plain, '*' ∉ p.toList) :
    filename? (header plain (withCharset name) more) = some (Text.trim name) ∧
      filename? (header plain (asInQuery name) more) = some (Text.trim name) := by
  constructor
  · apply filename?_header hname hplain _ (decodeExtended?_withCharset name)
    exact fun c hc => inExtended_withCharset hc
  · apply filename?_header hname hplain _ (decodeExtended?_asInQuery name)
    exact fun c hc => (inExtended_asInQuery hc).1

theorem accented_name_rereads :
    Text.blank " Größe 1+1's.csv " = false ∧
    header (some "filename=old.csv") (withCharset " Größe 1+1's.csv ") (some " filename*=x") =
      "attachment; filename=\"filename=old.csv\"; " ++
        "filename*=UTF-8''%20Gr%C3%B6%C3%9Fe%201+1%27s.csv%20; filename*=x" ∧
    String.ofList (asInQuery " Größe 1+1's.csv ") = "+Gr%C3%B6%C3%9Fe+1%2B1%27s.csv+" ∧
    filename? (header (some "filename=old.csv") (withCharset " Größe 1+1's.csv ")
      (some " filename*=x")) = some "Größe 1+1's.csv" ∧
    filename? (header (some "filename=old.csv") (asInQuery " Größe 1+1's.csv ")
      (some " filename*=x")) = some "Größe 1+1's.csv" := by
  have hblank : Text.blank " Größe 1+1's.csv " = false := by decide +kernel
  have hplain : ∀ p ∈ some "filename=old.csv", '*' ∉ p.toList := by
    rintro p hp
    cases hp
    decide +kernel
  have hrereads := extended_name_rereads " Größe 1+1's.csv " (some "filename=old.csv")
    (some " filename*=x") hblank hplain
  rw [show Text.trim " Größe 1+1's.csv " = "Größe 1+1's.csv" from by decide +kernel] at hrereads
  exact ⟨hblank, by decide +kernel, by decide +kernel, hrereads⟩

end StorageConsole.Download.Disposition
