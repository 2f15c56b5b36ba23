import StorageConsole.Json.Printer
import StorageConsole.Json.Scan
import StorageConsole.Proofs.Text.Utf8

namespace StorageConsole.Json

open Text.Utf8 (encodeChars)

namespace Scan

def IsPlain (b : UInt8) : Prop := b ≠ 0x22 ∧ b ≠ 0x5C ∧ ¬b < 0x20

variable {fuel : Nat} {seen bs rest : Bytes}

lemma stringBytes_plain {b : UInt8} (h : IsPlain b) :
    stringBytes (fuel + 1) seen (b :: rest) = stringBytes fuel (b :: seen) rest := by
  obtain ⟨hquote, hbackslash, hspace⟩ := h
  exact (if_neg hquote).trans ((if_neg hbackslash).trans (if_neg hspace))

lemma stringBytes_plains (h : ∀ b ∈ bs, IsPlain b) :
    stringBytes (fuel + bs.length) seen (bs ++ rest) =
      stringBytes fuel (bs.reverse ++ seen) rest := by
  induction bs generalizing seen with
  | nil => rfl
  | cons b bs ih =>
    rw [List.reverse_cons, List.append_assoc]
    exact (stringBytes_plain (h b List.mem_cons_self)).trans
      (ih fun b' hb' => h b' (List.mem_cons_of_mem b hb'))

lemma stringBytes_escaped {e b : UInt8} (hunicode : e ≠ 0x75) (h : escaped? e = some b) :
    stringBytes (fuel + 1) seen (0x5C :: e :: rest) = stringBytes fuel (b :: seen) rest := by
  rw [stringBytes, if_neg (by decide), if_pos rfl]
  simp only [hunicode, if_false, h]

lemma stringBytes_unicode {c : Char} (h : unicodeEscape bs = .ok (c, rest)) :
    stringBytes (fuel + 1) seen (0x5C :: 0x75 :: bs) =
      stringBytes fuel ((String.utf8EncodeChar c).reverse ++ seen) rest := by
  rw [stringBytes, if_neg (by decide), if_pos rfl]
  simp only [if_true, h]

lemma plain_of_char {c : Char} (hquote : c ≠ '"') (hbackslash : c ≠ '\\')
    (hcontrol : ¬c.toNat < 0x20) : ∀ b ∈ String.utf8EncodeChar c, IsPlain b := by
  intro b hb
  by_cases hascii : c.toNat ≤ 127
  · rw [Text.Utf8.utf8EncodeChar_ascii hascii, List.mem_singleton] at hb
    have hvalue : b.toNat = c.toNat := by
      rw [hb, UInt8.toNat_ofNat']
      omega
    refine ⟨?_, ?_, ?_⟩
    · rintro rfl
      exact hquote (Char.toNat_inj.mp hvalue.symm)
    · rintro rfl
      exact hbackslash (Char.toNat_inj.mp hvalue.symm)
    · rw [UInt8.lt_iff_toNat_lt, hvalue]
      exact hcontrol
  · have hlarge := Text.Utf8.le_of_mem_utf8EncodeChar (by omega) hb
    refine ⟨?_, ?_, ?_⟩
    · rintro rfl
      exact absurd hlarge (by decide)
    · rintro rfl
      exact absurd hlarge (by decide)
    · rw [UInt8.lt_iff_toNat_lt]
      exact Nat.not_lt.mpr (Nat.le_trans (by decide) hlarge)

def shortEscapes : List (Char × UInt8) :=
  [('"', 0x22), ('\\', 0x5C), ('\x08', 0x62), ('\x0c', 0x66), ('\n', 0x6E), ('\r', 0x72),
    ('\t', 0x74)]

lemma shortEscapes_stand : ∀ p ∈ ('/', 0x2F) :: shortEscapes,
    p.2 ≠ 0x75 ∧ (escaped? p.2).map ([·]) = some (String.utf8EncodeChar p.1) := by
  decide

inductive Stands : Char → Bytes → Prop where
  | plain {c : Char} : c ≠ '"' → c ≠ '\\' → ¬c.toNat < 0x20 → Stands c (String.utf8EncodeChar c)
  | short {c : Char} {e : UInt8} : (c, e) ∈ ('/', 0x2F) :: shortEscapes → Stands c [0x5C, e]
  | unit {c : Char} {u v w x : UInt8} : hex4? u v w x = some c.toNat →
    Stands c [0x5C, 0x75, u, v, w, x]
  | pair {c : Char} {u v w x u' v' w' x' : UInt8} {high low : Nat} :
    hex4? u v w x = some (0xD800 + high) → hex4? u' v' w' x' = some (0xDC00 + low) →
    low < 0x400 → c.toNat = 0x10000 + high * 0x400 + low →
    Stands c [0x5C, 0x75, u, v, w, x, 0x5C, 0x75, u', v', w', x']

inductive Writes : List Char → Bytes → Prop where
  | nil : Writes [] []
  | cons {c : Char} {cs : List Char} {bs more : Bytes} : Stands c bs → Writes cs more →
    Writes (c :: cs) (bs ++ more)

lemma unicodeEscape_unit {c : Char} {u v w x : UInt8} (h : hex4? u v w x = some c.toNat)
    (rest : Bytes) : unicodeEscape (u :: v :: w :: x :: rest) = .ok (c, rest) := by
  have hscalar : c.toNat < 0xD800 ∨ 0xDFFF < c.toNat ∧ c.toNat < 0x110000 := c.valid
  simp only [unicodeEscape, codeUnit, h]
  rw [if_neg (by omega), if_pos (by omega), Char.ofNat_toNat]

lemma unicodeEscape_pair {c : Char} {u v w x u' v' w' x' : UInt8} {high low : Nat}
    (hhigh : hex4? u v w x = some (0xD800 + high)) (hlow : hex4? u' v' w' x' = some (0xDC00 + low))
    (hbound : low < 0x400) (hc : c.toNat = 0x10000 + high * 0x400 + low) (rest : Bytes) :
    unicodeEscape (u :: v :: w :: x :: 0x5C :: 0x75 :: u' :: v' :: w' :: x' :: rest) =
      .ok (c, rest) := by
  have hscalar : c.toNat < 0xD800 ∨ 0xDFFF < c.toNat ∧ c.toNat < 0x110000 := c.valid
  have htrailing : trailingSurrogate (0x5C :: 0x75 :: u' :: v' :: w' :: x' :: rest) =
      .ok (0xDC00 + low, rest) := by
    have hunit : codeUnit (u' :: v' :: w' :: x' :: rest) = .ok (0xDC00 + low, rest) := by
      simp only [codeUnit, hlow]
    simp only [trailingSurrogate, hunit]
    rw [if_neg (by decide), if_neg (by decide), if_pos (by omega)]
  have hvalue : (0xD800 + high - 0xD800) * 1024 + (0xDC00 + low - 0xDC00) + 0x10000 = c.toNat := by
    omega
  simp only [unicodeEscape, codeUnit, hhigh, htrailing]
  rw [if_neg (by omega), if_neg (by omega), hvalue, Char.ofNat_toNat]

lemma Stands.read {c : Char} (h : Stands c bs) :
    ∃ steps, steps ≤ bs.length ∧ ∀ fuel seen rest,
      stringBytes (fuel + steps) seen (bs ++ rest) =
        stringBytes fuel ((String.utf8EncodeChar c).reverse ++ seen) rest := by
  cases h with
  | plain hquote hbackslash hcontrol =>
    have hplain := plain_of_char hquote hbackslash hcontrol
    exact ⟨_, Nat.le_refl _, fun _ _ _ => stringBytes_plains hplain⟩
  | short hmem =>
    obtain ⟨hunicode, hstands⟩ := shortEscapes_stand _ hmem
    obtain ⟨b, hb, hchar⟩ := Option.map_eq_some_iff.mp hstands
    rw [← hchar]
    exact ⟨1, Nat.le_add_left 1 _, fun _ _ _ => stringBytes_escaped hunicode hb⟩
  | unit hunit =>
    exact ⟨1, Nat.le_add_left 1 _, fun _ _ rest =>
      stringBytes_unicode (unicodeEscape_unit hunit rest)⟩
  | pair hhigh hlow hbound hc =>
    exact ⟨1, Nat.le_add_left 1 _, fun _ _ rest =>
      stringBytes_unicode (unicodeEscape_pair hhigh hlow hbound hc rest)⟩

lemma Writes.read {cs : List Char} (h : Writes cs bs) :
    ∃ steps, steps ≤ bs.length ∧ ∀ fuel seen rest,
      stringBytes (fuel + steps) seen (bs ++ rest) =
        stringBytes fuel ((encodeChars cs).reverse ++ seen) rest := by
  induction h with
  | nil => exact ⟨0, Nat.zero_le _, fun _ _ _ => rfl⟩
  | cons hstands _ ih =>
    obtain ⟨first, hfirst, hchar⟩ := hstands.read
    obtain ⟨more, hmore, hrest⟩ := ih
    refine ⟨more + first, ?_, fun fuel seen rest => ?_⟩
    · rw [List.length_append]
      omega
    · rw [List.append_assoc, ← Nat.add_assoc, hchar, hrest, Text.Utf8.encodeChars_cons,
        List.reverse_append, List.append_assoc]

lemma Writes.string {s : String} (h : Writes s.toList bs) (rest : Bytes) :
    string (bs ++ 0x22 :: rest) = .ok (s, rest) := by
  obtain ⟨steps, hsteps, hchars⟩ := h.read
  have hread : stringBytes ((bs ++ 0x22 :: rest).length + 1) [] (bs ++ 0x22 :: rest) =
      .ok (encodeChars s.toList, rest) := by
    -- reading takes no more steps than there are bytes, and the quote one more
    obtain ⟨fuel, hfuel⟩ : ∃ fuel, (bs ++ 0x22 :: rest).length + 1 = fuel + 1 + steps := by
      refine ⟨(bs ++ 0x22 :: rest).length - steps, ?_⟩
      simp only [List.length_append]
      omega
    rw [hfuel, hchars]
    simp [stringBytes]
  rw [Scan.string, hread]
  simp only [Text.Utf8.decode?_encodeChars]

lemma hex4?_control : ∀ n < 32,
    hex4? 0x30 0x30 (UInt8.ofNat (Text.Hex.lowerDigit (n / 16)).toNat)
      (UInt8.ofNat (Text.Hex.lowerDigit (n % 16)).toNat) = some n := by
  decide

lemma lowerDigit_ascii : ∀ n < 16, (Text.Hex.lowerDigit n).toNat ≤ 127 := by decide

lemma escape_short : ∀ p ∈ shortEscapes, encodeChars (Printer.escape p.1) = [0x5C, p.2] := by
  decide

lemma escape_cases (c : Char) :
    (∃ p ∈ shortEscapes, p.1 = c) ∨
    (c.toNat < 0x20 ∧ Printer.escape c = ['\\', 'u', '0', '0', Text.Hex.lowerDigit (c.toNat / 16),
      Text.Hex.lowerDigit (c.toNat % 16)]) ∨
    (c ≠ '"' ∧ c ≠ '\\' ∧ ¬c.toNat < 0x20) ∧ Printer.escape c = [c] := by
  by_cases hshort : ∃ p ∈ shortEscapes, p.1 = c
  · exact .inl hshort
  · have hne : ∀ p ∈ shortEscapes, c ≠ p.1 := fun p hp heq => hshort ⟨p, hp, heq.symm⟩
    simp only [shortEscapes, List.forall_mem_cons] at hne
    obtain ⟨hquote, hbackslash, hb, hf, hn, hr, ht, -⟩ := hne
    rw [Printer.escape, if_neg hquote, if_neg hbackslash, if_neg hb, if_neg hf, if_neg hn,
      if_neg hr, if_neg ht]
    by_cases hcontrol : c.toNat < 0x20
    · exact .inr (.inl ⟨hcontrol, if_pos hcontrol⟩)
    · exact .inr (.inr ⟨⟨hquote, hbackslash, hcontrol⟩, if_neg hcontrol⟩)

lemma stands_escape (c : Char) : Stands c (encodeChars (Printer.escape c)) := by
  obtain ⟨p, hp, rfl⟩ | ⟨hcontrol, hescape⟩ | ⟨⟨hquote, hbackslash, hcontrol⟩, hescape⟩ :=
    escape_cases c
  · rw [escape_short p hp]
    exact .short (List.mem_cons_of_mem _ hp)
  · have hhigh := lowerDigit_ascii (c.toNat / 16) (by omega)
    have hlow := lowerDigit_ascii (c.toNat % 16) (by omega)
    have hbytes : encodeChars (Printer.escape c) = [0x5C, 0x75, 0x30, 0x30,
        UInt8.ofNat (Text.Hex.lowerDigit (c.toNat / 16)).toNat,
        UInt8.ofNat (Text.Hex.lowerDigit (c.toNat % 16)).toNat] := by
      rw [hescape]
      simp only [Text.Utf8.encodeChars_cons, Text.Utf8.utf8EncodeChar_ascii hhigh,
        Text.Utf8.utf8EncodeChar_ascii hlow]
      rfl
    rw [hbytes]
    exact .unit (hex4?_control c.toNat hcontrol)
  · have hbytes : encodeChars [c] = String.utf8EncodeChar c := List.append_nil _
    rw [hescape, hbytes]
    exact .plain hquote hbackslash hcontrol

lemma writes_escape (cs : List Char) : Writes cs (encodeChars (cs.flatMap Printer.escape)) := by
  induction cs with
  | nil => exact .nil
  | cons c cs ih =>
    rw [List.flatMap_cons, Text.Utf8.encodeChars_append]
    exact .cons (stands_escape c) ih

def quoted (s : String) : Bytes :=
  encodeChars (s.toList.flatMap Printer.escape) ++ [0x22]

lemma encodeChars_string (s : String) : encodeChars (Printer.string s) = 0x22 :: quoted s := by
  simp only [Printer.string, quoted, List.cons_append, Text.Utf8.encodeChars_cons,
    Text.Utf8.encodeChars_append]
  rfl

lemma string_quoted (s : String) (rest : Bytes) : string (quoted s ++ rest) = .ok (s, rest) := by
  rw [quoted, List.append_assoc]
  exact (writes_escape s.toList).string rest

end Scan
end StorageConsole.Json
