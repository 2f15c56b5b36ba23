import Mathlib.Data.List.TakeWhile
import Mathlib.Tactic.Lemma
import StorageConsole.Proofs.Text.Percent
import StorageConsole.Proofs.Text.Pieces
import StorageConsole.Text.Form

namespace StorageConsole.Text.Form

def written (b : UInt8) : List Char := if b = 0x20 then ['+'] else Percent.encode keeps [b]

lemma encodePart_eq (s : String) : encodePart s = (Utf8.encode s).flatMap written := rfl

def writes (c : Char) : Bool :=
  c.isAlphanum || c == '*' || c == '-' || c == '.' || c == '_' || c == '+' || c == '%' ||
    c == '=' || c == '&'

lemma toNat_le_of_writes (c : Char) (h : writes c = true) : c.toNat ≤ 127 := by
  simp only [writes, Bool.or_eq_true, beq_iff_eq] at h
  rcases h with (((((((h | rfl) | rfl) | rfl) | rfl) | rfl) | rfl) | rfl) | rfl
  · exact toNat_le_of_isAlphanum h
  all_goals decide

lemma all_writes_written : ∀ b : UInt8, (written b).all writes = true := by
  apply forall_byte
  decide +kernel

lemma writes_of_mem_encodePart {s : String} {c : Char} (h : c ∈ encodePart s) :
    writes c = true := by
  obtain ⟨b, -, hc⟩ := List.mem_flatMap.mp h
  exact List.all_eq_true.mp (all_writes_written b) c hc

def unplus (b : UInt8) : UInt8 := if b = 0x2B then 0x20 else b

lemma unplus_digit {b : UInt8} {n : Nat} (h : Hex.digit? b = some n) : unplus b = b := by
  apply if_neg
  rintro rfl
  cases h

lemma decode_written (b : UInt8) (rest : Bytes) :
    Percent.decode ((Utf8.encodeChars (written b)).map unplus ++ rest) =
      b :: Percent.decode rest := by
  have hkept : ∀ b : UInt8, keeps b = true →
      Utf8.encodeChars [Char.ofNat b.toNat] = [b] ∧ unplus b = b ∧ b ≠ 0x25 := by
    apply forall_byte
    decide +kernel
  rw [written]
  split
  · rename_i hspace
    subst hspace
    exact Percent.decode_cons (by decide) rest
  · simp only [Percent.encode, List.flatMap_cons, List.flatMap_nil, List.append_nil]
    split
    · rename_i hkeeps
      obtain ⟨hbytes, hunplus, hpercent⟩ := hkept b hkeeps
      rw [hbytes, List.map_singleton, hunplus]
      exact Percent.decode_cons hpercent rest
    · obtain ⟨c, d, hbytes, hc, hd⟩ := Percent.encodeChars_escape b
      rw [hbytes, List.map_cons, List.map_cons, List.map_singleton, unplus_digit hc,
        unplus_digit hd]
      exact Percent.decode_escape hc hd rest

lemma decodePart_encodePart (s : String) : decodePart (Utf8.encodeChars (encodePart s)) = s := by
  have hbytes (bs : Bytes) :
      Percent.decode ((Utf8.encodeChars (bs.flatMap written)).map unplus) = bs := by
    induction bs with
    | nil => rfl
    | cons b bs ih =>
      rw [List.flatMap_cons, Utf8.encodeChars_append, List.map_append, decode_written, ih]
  have hpart := hbytes (Utf8.encode s)
  rw [decodePart, encodePart_eq]
  exact (congrArg Utf8.decodeLossy hpart).trans (Utf8.decodeLossy_encode s)

lemma encodePart_free (s : String) :
    ∀ b ∈ Utf8.encodeChars (encodePart s), b ≠ 0x3D ∧ b ≠ 0x26 := by
  have hwritten : ∀ b : UInt8, (Utf8.encodeChars (written b)).all
      (fun b' => b' != 0x3D && b' != 0x26) = true := by
    apply forall_byte
    decide +kernel
  intro b' hb'
  obtain ⟨c, hc, hb'⟩ := List.mem_flatMap.mp hb'
  obtain ⟨b, -, hc⟩ := List.mem_flatMap.mp hc
  have hfree := List.all_eq_true.mp (hwritten b) b' (List.mem_flatMap.mpr ⟨c, hc, hb'⟩)
  simpa using hfree

lemma encodeChars_encodePair (p : String × String) : Utf8.encodeChars (encodePair p) =
    Utf8.encodeChars (encodePart p.1) ++ 0x3D :: Utf8.encodeChars (encodePart p.2) := by
  rw [encodePair, Utf8.encodeChars_append]
  rfl

lemma decodePair_encodePair (p : String × String) :
    decodePair (Utf8.encodeChars (encodePair p)) = p := by
  have hkey : ∀ b ∈ Utf8.encodeChars (encodePart p.1), (b != 0x3D) = true :=
    fun b hb => bne_iff_ne.mpr (encodePart_free p.1 b hb).1
  rw [decodePair, encodeChars_encodePair, List.takeWhile_append_of_pos hkey,
    List.dropWhile_append_of_pos hkey]
  simp [decodePart_encodePart]

lemma encodePair_free (p : String × String) :
    ∀ b ∈ Utf8.encodeChars (encodePair p), (b == 0x26) = false := by
  intro b hb
  rw [encodeChars_encodePair] at hb
  apply beq_eq_false_iff_ne.mpr
  rcases List.mem_append.mp hb with hb | hb
  · exact (encodePart_free _ b hb).2
  · rcases List.mem_cons.mp hb with rfl | hb
    · decide
    · exact (encodePart_free _ b hb).2

lemma encodePair_not_isEmpty (p : String × String) :
    (!(Utf8.encodeChars (encodePair p)).isEmpty) = true := by
  simp [encodeChars_encodePair]

lemma encodeChars_eq_join (ps : List (String × String)) :
    encodeChars ps = join '&' (ps.map encodePair) := by
  induction ps with
  | nil => rfl
  | cons p ps ih =>
    cases ps with
    | nil => rfl
    | cons q rest =>
      rw [encodeChars, ih]
      rfl

lemma encodeChars_join (c : Char) (parts : List (List Char)) {b : UInt8}
    (hc : String.utf8EncodeChar c = [b]) :
    Utf8.encodeChars (join c parts) = join b (parts.map Utf8.encodeChars) := by
  induction parts with
  | nil => rfl
  | cons part more ih =>
    cases more with
    | nil => rfl
    | cons next more =>
      rw [join, Utf8.encodeChars_append, Utf8.encodeChars_cons, hc, ih]
      rfl

lemma pieces_encode {ps : List (String × String)} (hne : ps ≠ []) :
    pieces (· == 0x26) (Utf8.encode (encode ps)) =
      ps.map fun p => Utf8.encodeChars (encodePair p) := by
  rw [Utf8.encode, encode, String.toList_ofList, encodeChars_eq_join, encodeChars_join '&' _ rfl,
    List.map_map]
  apply pieces_join rfl
  · simpa using hne
  · intro part hpart
    obtain ⟨p, -, rfl⟩ := List.mem_map.mp hpart
    exact encodePair_free p

theorem decode_encode (ps : List (String × String)) : decode (encode ps) = ps := by
  by_cases hne : ps = []
  · subst hne
    rfl
  · have hkeep : ∀ part ∈ ps.map fun p => Utf8.encodeChars (encodePair p),
        (!part.isEmpty) = true := by
      intro part hpart
      obtain ⟨p, -, rfl⟩ := List.mem_map.mp hpart
      exact encodePair_not_isEmpty p
    rw [decode, pieces_encode hne, List.filter_eq_self.mpr hkeep, List.map_map]
    simp [Function.comp_def, decodePair_encodePair]

lemma decode_eq (s : String) : decode s =
    ((pieces (· == 0x26) (Utf8.encode s)).filter (!·.isEmpty)).map decodePair := rfl

lemma decode_append_cons (cs ds : List Char) : decode (String.ofList (cs ++ '&' :: ds)) =
    decode (String.ofList cs) ++ decode (String.ofList ds) := by
  have hbytes : Utf8.encodeChars (cs ++ '&' :: ds) =
      Utf8.encodeChars cs ++ 0x26 :: Utf8.encodeChars ds := Utf8.encodeChars_append cs ('&' :: ds)
  simp only [decode_eq, Utf8.encode, String.toList_ofList, hbytes,
    pieces_append_cons (· == (0x26 : UInt8)) _ _ (beq_self_eq_true _), List.filter_append,
    List.map_append]

lemma decodePart_question (bs : Bytes) :
    (decodePart (0x3F :: bs)).toList = '?' :: (decodePart bs).toList := by
  have hdecode := Percent.decode_cons (b := 0x3F) (by decide) (bs.map unplus)
  have hscan (bs : Bytes) : Utf8.scan (0x3F :: bs) = some '?' :: Utf8.scan bs :=
    Utf8.scan_char '?' bs
  change (Utf8.decodeLossy (Percent.decode (unplus 0x3F :: bs.map unplus))).toList =
    '?' :: (Utf8.decodeLossy (Percent.decode (bs.map unplus))).toList
  rw [show unplus 0x3F = 0x3F from rfl, hdecode]
  simp [Utf8.decodeLossy, hscan]

lemma decodePair_question_ne (p : String × String) :
    decodePair (0x3F :: Utf8.encodeChars (encodePair p)) ≠ p := by
  intro h
  have hkey : ∀ b ∈ Utf8.encodeChars (encodePart p.1), (b != 0x3D) = true :=
    fun b hb => bne_iff_ne.mpr (encodePart_free p.1 b hb).1
  have hfirst : (decodePair (0x3F :: Utf8.encodeChars (encodePair p))).1 =
      decodePart (0x3F :: Utf8.encodeChars (encodePart p.1)) := by
    rw [decodePair, encodeChars_encodePair,
      List.takeWhile_cons_of_pos (by decide), List.takeWhile_append_of_pos hkey]
    simp
  have hlonger := decodePart_question (Utf8.encodeChars (encodePart p.1))
  rw [← hfirst, h, decodePart_encodePart] at hlonger
  simpa using congrArg List.length hlonger

lemma free_bytes {cs : List Char} (h : '&' ∉ cs) :
    ∀ b ∈ Utf8.encodeChars cs, (b == 0x26) = false := by
  intro b hb
  apply beq_eq_false_iff_ne.mpr
  rintro rfl
  exact h (Utf8.mem_of_mem_encodeChars (by decide) hb)

lemma decode_free {cs : List Char} (hfree : '&' ∉ cs) (hne : cs ≠ []) :
    decode (String.ofList cs) = [decodePair (Utf8.encodeChars cs)] := by
  have hbytes : Utf8.encodeChars cs ≠ [] := by
    obtain ⟨c, rest, rfl⟩ := List.exists_cons_of_ne_nil hne
    simp [Utf8.encodeChars_cons]
  rw [decode_eq, Utf8.encode, String.toList_ofList, pieces_eq_singleton (free_bytes hfree)]
  simp [hbytes]

lemma decode_free_question {cs : List Char} (hfree : '&' ∉ cs) (p : String × String)
    (more : List (String × String)) :
    decode (String.ofList (cs ++ '?' :: encodeChars (p :: more))) =
      decodePair (Utf8.encodeChars cs ++ 0x3F :: Utf8.encodeChars (encodePair p)) :: more := by
  have hquery : pieces (· == 0x26) (Utf8.encodeChars (encodeChars (p :: more))) =
      (p :: more).map fun p => Utf8.encodeChars (encodePair p) := by
    have hpieces := pieces_encode (List.cons_ne_nil p more)
    rwa [Utf8.encode, encode, String.toList_ofList] at hpieces
  have hown : '&' ∉ cs ++ ['?'] := by simp [hfree]
  have hglued := pieces_append_free (free_bytes hown) hquery
  have hbytes : Utf8.encodeChars (cs ++ '?' :: encodeChars (p :: more)) =
      Utf8.encodeChars (cs ++ ['?']) ++ Utf8.encodeChars (encodeChars (p :: more)) := by
    rw [← Utf8.encodeChars_append, List.append_assoc, List.singleton_append]
  have hfirst : Utf8.encodeChars (cs ++ ['?']) ++ Utf8.encodeChars (encodePair p) =
      Utf8.encodeChars cs ++ 0x3F :: Utf8.encodeChars (encodePair p) := by
    rw [Utf8.encodeChars_append, List.append_assoc]
    rfl
  have hmore : ∀ part ∈ more.map fun p => Utf8.encodeChars (encodePair p),
      (!part.isEmpty) = true := by
    intro part hpart
    obtain ⟨p, -, rfl⟩ := List.mem_map.mp hpart
    exact encodePair_not_isEmpty p
  rw [decode_eq, Utf8.encode, String.toList_ofList, hbytes, hglued, hfirst,
    List.filter_cons_of_pos (by simp), List.filter_eq_self.mpr hmore]
  simp [Function.comp_def, decodePair_encodePair]

lemma decode_question_ne (cs : List Char) {ps : List (String × String)} (hne : ps ≠ []) :
    decode (String.ofList (cs ++ '?' :: encodeChars ps)) ≠ decode (String.ofList cs) ++ ps := by
  by_cases hamp : '&' ∈ cs
  · -- the pairs before a separator are the same on both sides
    obtain ⟨before, after, hcs, -⟩ := List.eq_append_cons_of_mem hamp
    have hshorter : after.length < cs.length := by
      simp only [hcs, List.length_append, List.length_cons]
      omega
    have hafter := decode_question_ne after hne
    rw [hcs, List.append_assoc, List.cons_append, decode_append_cons, decode_append_cons,
      List.append_assoc]
    exact fun h => hafter (List.append_cancel_left h)
  · obtain ⟨p, more, rfl⟩ := List.exists_cons_of_ne_nil hne
    rw [decode_free_question hamp]
    intro h
    by_cases hempty : cs = []
    · subst hempty
      exact decodePair_question_ne p (List.head_eq_of_cons_eq h)
    · rw [decode_free hamp hempty] at h
      simpa using congrArg List.length h
termination_by cs.length

lemma writes_of_mem_encodePair {p : String × String} {c : Char} (h : c ∈ encodePair p) :
    writes c = true := by
  rcases List.mem_append.mp h with h | h
  · exact writes_of_mem_encodePart h
  · rcases List.mem_cons.mp h with rfl | h
    · rfl
    · exact writes_of_mem_encodePart h

lemma writes_of_mem_encodeChars {ps : List (String × String)} {c : Char}
    (h : c ∈ encodeChars ps) : writes c = true := by
  rw [encodeChars_eq_join] at h
  rcases mem_join h with rfl | ⟨part, hpart, hc⟩
  · rfl
  · obtain ⟨p, -, rfl⟩ := List.mem_map.mp hpart
    exact writes_of_mem_encodePair hc

end StorageConsole.Text.Form
