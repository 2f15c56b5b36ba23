import StorageConsole.Http.Header
import StorageConsole.Proofs.Download.Searching
import StorageConsole.Proofs.Text.Percent

namespace StorageConsole.Download.Disposition

open Text (isBlank)

/-! ### Parameters -/

structure Token where
  chars : List Char
  nonempty : chars ≠ []
  plain : chars.all Http.HeaderName.isTokenChar = true

def Token.lower (t : Token) : List Char := t.chars.map Char.toLower

inductive Value
  | token (t : Token) (unquoted : t.chars.head? ≠ some '\'')
  | quoted (cs : List Char) (plain : '"' ∉ cs ∧ '\\' ∉ cs)

namespace Value

def chars : Value → List Char
  | token t _ => t.chars
  | quoted cs _ => cs

def written : Value → List Char
  | token t _ => t.chars
  | quoted cs _ => '"' :: (cs ++ ['"'])

end Value

structure Parameter where
  name : Token
  unstarred : '*' ∉ name.chars
  value : Value

namespace Parameter

def isFilename (p : Parameter) : Prop := p.name.lower = "filename".toList

instance (p : Parameter) : Decidable p.isFilename := inferInstanceAs (Decidable (_ = _))

def written (p : Parameter) : List Char :=
  ';' :: ' ' :: (p.name.chars ++ '=' :: p.value.written)

end Parameter

structure Header where
  type : Token
  before : List Parameter
  filename : Parameter
  after : List Parameter
  isFilename : filename.isFilename
  others : ∀ p ∈ before ++ after, ¬ p.isFilename

namespace Header

def parameters (h : Header) : List Parameter := h.before ++ h.filename :: h.after

def text (h : Header) : String :=
  String.ofList (h.type.chars ++ h.parameters.flatMap Parameter.written)

end Header

def nameOf? (value : List Char) : Option String :=
  (nonempty? (Text.trimChars value)).map String.ofList

/-! ### Searches in parameters -/

variable {α : Type} {here? : List Char → Option α} {word cs rest : List Char}

lemma token_char : ∀ c : Char, Http.HeaderName.isTokenChar c = true →
    c ≠ '=' ∧ c ≠ '"' ∧ c ≠ ';' ∧ isBlank c = false := by
  have hascii : ∀ c : Char, Http.HeaderName.isTokenChar c = true → c.toNat ≤ 127 := by
    intro c h
    rcases Bool.or_eq_true_iff.mp h with h | h
    · exact Text.toNat_le_of_isAlphanum h
    · have hmarks : "!#$%&'*+-.^_`|~".toList.all (·.toNat ≤ 127) = true := by decide
      exact of_decide_eq_true (List.all_eq_true.mp hmarks c (List.contains_iff_mem.mp h))
  refine Text.forall_ascii hascii ?_
  decide +kernel

namespace Token

variable {t : Token}

lemma mem {c : Char} (h : c ∈ t.chars) : c ≠ '=' ∧ c ≠ '"' ∧ c ≠ ';' ∧ isBlank c = false :=
  token_char c (List.all_eq_true.mp t.plain c h)

lemma unsigned (t : Token) : '=' ∉ t.chars := fun h => (mem h).1 rfl

lemma not_blank {c : Char} (h : c ∈ t.chars) : isBlank c = false := (mem h).2.2.2

lemma inToken {c : Char} (h : c ∈ t.chars) : inToken c = true := by
  simp [Disposition.inToken, (mem h).2.2.1, not_blank h]

end Token

structure Seeks (word : List Char) (here? : List Char → Option α) : Prop where
  unsigned : ∀ cs, dropSign word cs = none → here? cs = none
  nonempty : word ≠ []
  plain : ∀ c ∈ [';', ' ', '=', '"'], c ∉ word

lemma seeks_extended : Seeks "filename*".toList extendedHere? where
  unsigned cs h := by rw [extendedHere?_eq, h, Option.bind_none]
  nonempty := by decide
  plain := by simp

lemma seeks_plain : Seeks "filename".toList plainHere? where
  unsigned cs h := by rw [plainHere?_eq, h, Option.bind_none]
  nonempty := by decide
  plain := by simp

namespace Seeks

lemma separator (h : Seeks word here?) {c : Char} (hc : c ∈ [';', ' ', '=', '"'])
    (hlower : c.toLower = c) (cs : List Char) : here? (c :: cs) = none := by
  apply h.unsigned
  obtain ⟨w, word', rfl⟩ := List.exists_cons_of_ne_nil h.nonempty
  have hne : c.toLower ≠ w := by
    intro hw
    exact h.plain c hc (by simp [← hw, hlower])
  rw [dropSign, dropWord, if_neg hne]
  rfl

lemma searchIn_unsigned (h : Seeks word here?) (hcs : '=' ∉ cs)
    (hrest : ∀ c ∈ rest.head?, c = ';') : searchIn here? cs rest = none := by
  apply searchIn_eq_none
  intro c back hback
  have hfree : '=' ∉ c :: back := fun hmem => hcs (hback.subset hmem)
  apply h.unsigned
  cases rest with
  | nil =>
    rw [List.append_nil]
    exact dropSign_of_not_mem hfree
  | cons d rest =>
    obtain rfl := hrest d rfl
    exact dropSign_barrier hfree (by decide) (by decide) (h.plain ';' (by decide))

lemma sign_in_name (h : Seeks word here?) {t : Token} (hback : cs <:+ t.chars) {more : List Char}
    (hsign : dropSign word (cs ++ '=' :: more) = some rest) : cs.map Char.toLower = word := by
  have hfree : '=' ∉ cs := fun hmem => t.unsigned (hback.subset hmem)
  obtain ⟨front, gap, rfl, hfront, hgap, -⟩ :=
    dropSign_append_equals (h.plain '=' (by decide)) hfree hsign
  cases gap with
  | nil => rwa [List.append_nil]
  | cons c gap =>
    have hmem : c ∈ t.chars := hback.subset (by simp)
    exact absurd (hgap c List.mem_cons_self) (by simp [Token.not_blank hmem])

lemma searchIn_name (h : Seeks word here?) {t : Token} (ht : ¬ word <:+ t.lower)
    (more : List Char) : searchIn here? t.chars ('=' :: more) = none := by
  apply searchIn_eq_none
  intro c back hback
  apply h.unsigned
  rw [Option.eq_none_iff_forall_ne_some]
  intro rest hsign
  have hlower := h.sign_in_name hback hsign
  exact ht (hlower ▸ hback.map Char.toLower)

lemma searchIn_quotes (h : Seeks word here?) (cs rest : List Char) :
    searchIn here? ('"' :: (cs ++ ['"'])) rest = searchIn here? cs ('"' :: rest) := by
  have hopen := h.separator (c := '"') (by decide) (by decide) (cs ++ ['"'] ++ rest)
  have hclose := h.separator (c := '"') (by decide) (by decide) rest
  rw [searchIn, List.cons_append, hopen, Option.none_or, searchIn_append, searchIn,
    List.cons_append, List.nil_append, hclose]
  simp [searchIn]

lemma searchIn_parameter (h : Seeks word here?) (p : Parameter) (rest : List Char) :
    searchIn here? p.written rest =
      (searchIn here? p.name.chars ('=' :: (p.value.written ++ rest))).or
        (searchIn here? p.value.written rest) := by
  have hparts : p.written = [';', ' '] ++ (p.name.chars ++ (['='] ++ p.value.written)) := rfl
  have hstart (more : List Char) : searchIn here? [';', ' '] more = none := by
    simp [searchIn, h.separator (c := ';') (by decide) (by decide),
      h.separator (c := ' ') (by decide) (by decide)]
  have hequals (more : List Char) : searchIn here? ['='] more = none := by
    simp [searchIn, h.separator (c := '=') (by decide) (by decide)]
  rw [hparts, searchIn_append, hstart, Option.none_or, searchIn_append, searchIn_append, hequals,
    Option.none_or]
  rfl

end Seeks

lemma head_written (ps : List Parameter) :
    ∀ c ∈ (ps.flatMap Parameter.written).head?, c = ';' := by
  cases ps with
  | nil => simp
  | cons p ps =>
    intro c hc
    exact (Option.some.inj hc).symm

/-! ### Extended names -/

def Value.extended? : Value → Option (List Char)
  | .token _ _ => none
  | .quoted cs _ => search extendedHere? cs

lemma extendedValue?_quote (hcs : '"' ∉ cs) (hrest : ∀ c ∈ rest.head?, c = ';') :
    extendedValue? (cs ++ '"' :: rest) = extendedValue? cs := by
  cases cs with
  | nil =>
    have hclosed : rest.takeWhile inExtended = [] :=
      takeWhile_append_stop (List.forall_mem_nil _) fun c hc => hrest c hc ▸ rfl
    simp only [extendedValue?, List.nil_append, List.head?_cons, if_true, List.drop_one,
      List.tail_cons, hclosed]
    rfl
  | cons c cs =>
    have hc : c ≠ '"' := fun h => hcs (h ▸ List.mem_cons_self)
    have hquote : ('"' :: rest).takeWhile inExtended = [] := rfl
    have htaken :
        (c :: cs ++ '"' :: rest).takeWhile inExtended = (c :: cs).takeWhile inExtended := by
      rw [List.takeWhile_append, hquote, List.append_nil]
      split
      · rename_i hall
        exact (List.IsPrefix.eq_of_length (List.takeWhile_prefix _) hall).symm
      · rfl
    have hhead : (c :: cs ++ '"' :: rest).head? ≠ some '"' := fun h => hc (Option.some.inj h)
    have hhead' : (c :: cs).head? ≠ some '"' := fun h => hc (Option.some.inj h)
    simp only [extendedValue?, if_neg hhead, if_neg hhead', htaken]

lemma extendedHere?_quote (hcs : '"' ∉ cs) (hrest : ∀ c ∈ rest.head?, c = ';') :
    extendedHere? (cs ++ '"' :: rest) = extendedHere? cs := by
  rw [extendedHere?_eq, extendedHere?_eq]
  cases hsign : dropSign "filename*".toList cs with
  | none =>
    -- The quote ends every sign, so a sign before it is one without it.
    have hnone : dropSign "filename*".toList (cs ++ '"' :: rest) = none := by
      rw [Option.eq_none_iff_forall_ne_some]
      intro behind h
      obtain ⟨front, gap, after, rfl, hfront, hgap, -⟩ :=
        dropSign_within (by decide) (by decide) (by decide) h
      cases hsign.symm.trans (dropSign_append hfront hgap after)
    rw [hnone]
  | some behind =>
    obtain ⟨front, gap, after, rfl, hfront, hgap, rfl⟩ := dropSign_some hsign
    have hafter : '"' ∉ after.dropWhile isBlank := by
      intro hmem
      exact hcs (by simp [(List.dropWhile_sublist isBlank).subset hmem])
    have hpassed : (after ++ '"' :: rest).dropWhile isBlank =
        after.dropWhile isBlank ++ '"' :: rest := by
      rw [List.dropWhile_append]
      split
      · rename_i hnil
        rw [List.isEmpty_iff.mp hnil]
        rfl
      · rfl
    rw [List.append_assoc, List.cons_append, dropSign_append hfront hgap, hpassed,
      Option.bind_some, Option.bind_some, extendedValue?_quote hafter hrest]

lemma searchIn_quoted_extended (hcs : '"' ∉ cs) (hrest : ∀ c ∈ rest.head?, c = ';') :
    searchIn extendedHere? cs ('"' :: rest) = search extendedHere? cs := by
  induction cs with
  | nil => rfl
  | cons c cs ih =>
    rw [searchIn, search, extendedHere?_quote hcs hrest, ih fun h => hcs (List.mem_cons_of_mem c h)]

lemma Parameter.unstarred_lower (p : Parameter) : ¬ "filename*".toList <:+ p.name.lower := by
  intro hend
  obtain ⟨c, hc, hstar⟩ := List.mem_map.mp (hend.subset (List.getLast_mem (by decide)))
  exact p.unstarred (eq_star hstar ▸ hc)

lemma searchIn_parameter_extended (p : Parameter) (hrest : ∀ c ∈ rest.head?, c = ';') :
    searchIn extendedHere? p.written rest = p.value.extended? := by
  rw [seeks_extended.searchIn_parameter, seeks_extended.searchIn_name p.unstarred_lower,
    Option.none_or]
  cases p.value with
  | token t => exact seeks_extended.searchIn_unsigned t.unsigned hrest
  | quoted cs hcs =>
    exact (seeks_extended.searchIn_quotes cs rest).trans (searchIn_quoted_extended hcs.1 hrest)

lemma search_parameters_extended (ps : List Parameter) :
    search extendedHere? (ps.flatMap Parameter.written) = ps.findSome? (·.value.extended?) := by
  induction ps with
  | nil => rfl
  | cons p ps ih =>
    rw [List.flatMap_cons, search_append, ih, searchIn_parameter_extended p (head_written ps),
      List.findSome?_cons]
    cases p.value.extended? <;> rfl

/-! ### Plain names -/

def Parameter.mention? (p : Parameter) (more : List Parameter) : Option (List Char) :=
  if "filename".toList <:+ p.name.lower then some p.value.chars
  else match p.value with
    | .token _ _ => none
    | .quoted cs _ => searchIn plainHere? cs ('"' :: more.flatMap Parameter.written)

def mention? : (before more : List Parameter) → Option (List Char)
  | [], _ => none
  | p :: before, more => (p.mention? (before ++ more)).or (mention? before more)

lemma quoted?_token {quote : Char} {t : Token} (h : t.chars.head? ≠ some quote) (rest : List Char) :
    quoted? quote (t.chars ++ rest) = none := by
  obtain ⟨c, cs, hcs⟩ := List.exists_cons_of_ne_nil t.nonempty
  have hc : c ≠ quote := by
    rintro rfl
    exact h (by rw [hcs]; rfl)
  simp [hcs, quoted?, hc]

lemma plainValue?_token {t : Token} (ht : t.chars.head? ≠ some '\'')
    (hrest : ∀ c ∈ rest.head?, c = ';') : plainValue? (t.chars ++ rest) = some t.chars := by
  have hquote : t.chars.head? ≠ some '"' := fun h => (Token.mem (List.mem_of_head? h)).2.1 rfl
  have htaken : (t.chars ++ rest).takeWhile inToken = t.chars :=
    takeWhile_append_stop (fun _ => Token.inToken) fun c hc => hrest c hc ▸ rfl
  simp [plainValue?, quoted?_token hquote, quoted?_token ht, htaken, t.nonempty]

lemma plainValue?_quoted (hcs : '"' ∉ cs) (rest : List Char) :
    plainValue? ('"' :: (cs ++ '"' :: rest)) = some cs := by
  simp [plainValue?, quoted?, (span_at hcs rest).1]

lemma plainValue?_written (v : Value) (hrest : ∀ c ∈ rest.head?, c = ';') :
    plainValue? ((v.written ++ rest).dropWhile isBlank) = some v.chars := by
  cases v with
  | token t ht =>
    obtain ⟨c, cs, hcs⟩ := List.exists_cons_of_ne_nil t.nonempty
    have hc : isBlank c = false := Token.not_blank (hcs ▸ List.mem_cons_self)
    have hstart : (t.chars ++ rest).dropWhile isBlank = t.chars ++ rest := by
      rw [hcs, List.cons_append, List.dropWhile_cons_of_neg (by simp [hc])]
    exact (congrArg plainValue? hstart).trans (plainValue?_token ht hrest)
  | quoted cs hcs =>
    rw [Value.written, List.cons_append, List.append_assoc]
    exact plainValue?_quoted hcs.1 rest

lemma searchIn_ending {p : Parameter} (hend : "filename".toList <:+ p.name.lower)
    (hrest : ∀ c ∈ rest.head?, c = ';') :
    searchIn plainHere? p.name.chars ('=' :: (p.value.written ++ rest)) = some p.value.chars := by
  obtain ⟨front', hsplit⟩ := hend
  obtain ⟨front, letters, hname, -, hletters⟩ := List.map_eq_append_iff.mp hsplit.symm
  have hlength : letters.length = 8 := by
    rw [← List.length_map (f := Char.toLower), hletters]
    rfl
  have hfront : searchIn plainHere? front (letters ++ '=' :: (p.value.written ++ rest)) = none := by
    -- A sign that starts before the ending has more letters than the word.
    apply searchIn_eq_none
    intro c back hback
    apply seeks_plain.unsigned
    rw [Option.eq_none_iff_forall_ne_some]
    intro behind hsign
    have hsuffix : c :: back ++ letters <:+ p.name.chars := by
      obtain ⟨more, rfl⟩ := hback
      exact ⟨more, by rw [hname, List.append_assoc]⟩
    rw [← List.append_assoc] at hsign
    have hlong := congrArg List.length (seeks_plain.sign_in_name hsuffix hsign)
    simp [hlength] at hlong
  have hsign := dropSign_append hletters (List.forall_mem_nil _) (p.value.written ++ rest)
  have hhere : plainHere? (letters ++ '=' :: (p.value.written ++ rest)) = some p.value.chars := by
    rw [List.append_nil] at hsign
    rw [plainHere?_eq, hsign, Option.bind_some, plainValue?_written p.value hrest]
  obtain ⟨c, back, rfl⟩ := List.exists_cons_of_length_eq_add_one hlength
  rw [hname, searchIn_append, hfront, Option.none_or, searchIn, hhere]
  rfl

lemma searchIn_parameter_plain (p : Parameter) (more : List Parameter) :
    searchIn plainHere? p.written (more.flatMap Parameter.written) = p.mention? more := by
  rw [seeks_plain.searchIn_parameter, Parameter.mention?]
  split
  · rename_i hend
    rw [searchIn_ending hend (head_written more)]
    rfl
  · rename_i hend
    rw [seeks_plain.searchIn_name hend, Option.none_or]
    cases p.value with
    | token t => exact seeks_plain.searchIn_unsigned t.unsigned (head_written more)
    | quoted cs => exact seeks_plain.searchIn_quotes cs _

lemma search_parameters_plain (before more : List Parameter) :
    search plainHere? ((before ++ more).flatMap Parameter.written) =
      (mention? before more).or (search plainHere? (more.flatMap Parameter.written)) := by
  induction before with
  | nil => rfl
  | cons p before ih =>
    rw [List.cons_append, List.flatMap_cons, search_append, ih, searchIn_parameter_plain, mention?,
      Option.or_assoc]

/-! ### Names in headers -/

namespace Header

variable (h : Header)

def extendedName? : Option String :=
  (((h.parameters.findSome? (·.value.extended?)).bind decodeExtended?).bind nonempty?).map
    String.ofList

def mention? : Option (List Char) := Disposition.mention? h.before (h.filename :: h.after)

lemma search_extended : search extendedHere? h.text.toList =
    h.parameters.findSome? (·.value.extended?) := by
  rw [text, String.toList_ofList, search_append,
    seeks_extended.searchIn_unsigned h.type.unsigned (head_written _), Option.none_or,
    search_parameters_extended]

lemma search_plain : search plainHere? h.text.toList =
    some (h.mention?.getD h.filename.value.chars) := by
  have hend : "filename".toList <:+ h.filename.name.lower := h.isFilename ▸ List.suffix_refl _
  have hown : search plainHere? ((h.filename :: h.after).flatMap Parameter.written) =
      some h.filename.value.chars := by
    rw [List.flatMap_cons, search_append, searchIn_parameter_plain, Parameter.mention?, if_pos hend]
    rfl
  rw [text, String.toList_ofList, search_append,
    seeks_plain.searchIn_unsigned h.type.unsigned (head_written _), Option.none_or, parameters,
    search_parameters_plain, hown, mention?]
  cases Disposition.mention? h.before (h.filename :: h.after) <;> rfl

lemma filename?_text :
    filename? h.text = h.extendedName?.or (nameOf? (h.mention?.getD h.filename.value.chars)) := by
  rw [filename?, filenameChars?, h.search_extended, h.search_plain, Option.map_or]
  rfl

end Header

/-! ### Clear headers -/

def Signed (word cs : List Char) : Prop :=
  ∃ front letters gap behind, cs = front ++ letters ++ gap ++ '=' :: behind ∧
    letters.map Char.toLower = word ∧ ∀ c ∈ gap, isBlank c = true

lemma not_signed (hcs : '=' ∉ cs) : ¬ Signed word cs := by
  rintro ⟨front, letters, gap, behind, rfl, -⟩
  exact hcs (by simp)

lemma Seeks.searchIn_not_signed (h : Seeks word here?) (hcs : ¬ Signed word cs)
    (rest : List Char) : searchIn here? cs ('"' :: rest) = none := by
  apply searchIn_eq_none
  rintro c back ⟨front, rfl⟩
  apply h.unsigned
  rw [Option.eq_none_iff_forall_ne_some]
  intro behind hsign
  obtain ⟨letters, gap, after, hback, hletters, hgap, -⟩ :=
    dropSign_within (by decide) (by decide) (h.plain '"' (by decide)) hsign
  exact hcs ⟨front, letters, gap, after, by simp [hback], hletters, hgap⟩

/-- No value holds the sign of an extended name. Before the parameter for the file name no value
holds the sign of a plain one, and no name ends in its letters. -/
structure Header.Clear (h : Header) : Prop where
  values : ∀ p ∈ h.parameters, ¬ Signed "filename*".toList p.value.chars
  before : ∀ p ∈ h.before, ¬ "filename".toList <:+ p.name.lower ∧
    ¬ Signed "filename".toList p.value.chars

lemma Header.clear_of_free {h : Header} (hvalues : ∀ p ∈ h.parameters, '=' ∉ p.value.chars)
    (hnames : ∀ p ∈ h.before, ¬ "filename".toList <:+ p.name.lower) : h.Clear where
  values p hp := not_signed (hvalues p hp)
  before p hp := ⟨hnames p hp, not_signed (hvalues p (List.mem_append_left _ hp))⟩

lemma Value.extended?_eq_none {v : Value} (hv : ¬ Signed "filename*".toList v.chars) :
    v.extended? = none := by
  cases v with
  | token t ht => rfl
  | quoted cs hcs =>
    have hend : ∀ c ∈ ([] : List Char).head?, c = ';' := by simp
    rw [extended?, ← searchIn_quoted_extended hcs.1 hend]
    exact seeks_extended.searchIn_not_signed hv []

lemma Parameter.mention?_eq_none {p : Parameter} (hname : ¬ "filename".toList <:+ p.name.lower)
    (hvalue : ¬ Signed "filename".toList p.value.chars) (more : List Parameter) :
    p.mention? more = none := by
  rw [mention?, if_neg hname]
  cases hv : p.value with
  | token t ht => rfl
  | quoted cs hcs =>
    rw [hv] at hvalue
    exact seeks_plain.searchIn_not_signed hvalue _

lemma mention?_eq_none {before : List Parameter} (h : ∀ p ∈ before,
    ¬ "filename".toList <:+ p.name.lower ∧ ¬ Signed "filename".toList p.value.chars)
    (more : List Parameter) : mention? before more = none := by
  induction before with
  | nil => rfl
  | cons p before ih =>
    obtain ⟨hname, hvalue⟩ := h p List.mem_cons_self
    rw [mention?, p.mention?_eq_none hname hvalue, Option.none_or]
    exact ih fun q hq => h q (List.mem_cons_of_mem p hq)

/-- The parameter for it names the file if and only if no other name is found that differs: none in
a quoted value, and no plain one before it. In a clear header none is found at all. -/
theorem own_name_iff (h : Header) :
    (filename? h.text = nameOf? h.filename.value.chars ↔
      (∀ name, h.extendedName? = some name → nameOf? h.filename.value.chars = some name) ∧
        (h.extendedName? = none → ∀ value, h.mention? = some value →
          nameOf? value = nameOf? h.filename.value.chars)) ∧
      (h.Clear → filename? h.text = nameOf? h.filename.value.chars) := by
  rw [h.filename?_text]
  constructor
  · cases h.extendedName? with
    | some name => simp [eq_comm]
    | none => cases h.mention? <;> simp
  · intro hclear
    have hextended : h.parameters.findSome? (·.value.extended?) = none := by
      rw [List.findSome?_eq_none_iff]
      exact fun p hp => Value.extended?_eq_none (hclear.values p hp)
    have hplain : h.mention? = none := mention?_eq_none hclear.before _
    rw [Header.extendedName?, hextended, hplain]
    rfl

theorem own_name_in_clear :
    ∃ h : Header, h.text = "attachment; name=\"a filename; b\"; FileName=\" c.txt \"; n=filename" ∧
      h.Clear ∧ filename? h.text = some "c.txt" := by
  refine ⟨{
    type := ⟨"attachment".toList, by decide, by decide⟩
    before := [⟨⟨"name".toList, by decide, by decide⟩, by decide,
      .quoted "a filename; b".toList (by decide)⟩]
    filename := ⟨⟨"FileName".toList, by decide, by decide⟩, by decide,
      .quoted " c.txt ".toList (by decide)⟩
    after := [⟨⟨"n".toList, by decide, by decide⟩, by decide,
      .token ⟨"filename".toList, by decide, by decide⟩ (by decide)⟩]
    isFilename := by decide
    others := by decide }, by decide +kernel, ?clear, ?name⟩
  case clear => exact Header.clear_of_free (by decide) (by decide)
  case name =>
    refine ((own_name_iff _).2 (Header.clear_of_free ?_ ?_)).trans ?_
    all_goals decide +kernel

theorem other_names_taken :
    (∃ h : Header, h.text = "attachment; name=\"filename=evil.txt\"; filename=good.txt" ∧
      nameOf? h.filename.value.chars = some "good.txt" ∧ filename? h.text = some "evil.txt\"") ∧
    (∃ h : Header, h.text = "attachment; x-filename=evil.txt; filename=good.txt" ∧
      nameOf? h.filename.value.chars = some "good.txt" ∧ filename? h.text = some "evil.txt") ∧
    ∃ h : Header, h.text = "attachment; filename=\"a filename*=b.txt\"" ∧
      nameOf? h.filename.value.chars = some "a filename*=b.txt" ∧
      filename? h.text = some "b.txt" := by
  refine ⟨⟨?quoted, ?_, ?_, ?_⟩, ⟨?behind, ?_, ?_, ?_⟩, ⟨?own, ?_, ?_, ?_⟩⟩
  case quoted =>
    exact {
      type := ⟨"attachment".toList, by decide, by decide⟩
      before := [⟨⟨"name".toList, by decide, by decide⟩, by decide,
        .quoted "filename=evil.txt".toList (by decide)⟩]
      filename := ⟨⟨"filename".toList, by decide, by decide⟩, by decide,
        .token ⟨"good.txt".toList, by decide, by decide⟩ (by decide)⟩
      after := []
      isFilename := by decide
      others := by decide }
  case behind =>
    exact {
      type := ⟨"attachment".toList, by decide, by decide⟩
      before := [⟨⟨"x-filename".toList, by decide, by decide⟩, by decide,
        .token ⟨"evil.txt".toList, by decide, by decide⟩ (by decide)⟩]
      filename := ⟨⟨"filename".toList, by decide, by decide⟩, by decide,
        .token ⟨"good.txt".toList, by decide, by decide⟩ (by decide)⟩
      after := []
      isFilename := by decide
      others := by decide }
  case own =>
    exact {
      type := ⟨"attachment".toList, by decide, by decide⟩
      before := []
      filename := ⟨⟨"filename".toList, by decide, by decide⟩, by decide,
        .quoted "a filename*=b.txt".toList (by decide)⟩
      after := []
      isFilename := by decide
      others := by decide }
  all_goals decide +kernel

end StorageConsole.Download.Disposition
