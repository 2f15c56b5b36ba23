import StorageConsole.Proofs.Json.Lines

/-! A record that breaks off is told as truncated, wherever that is. -/

namespace StorageConsole

def Cuts (P : Bytes → Prop) : Bytes → Prop
  | [] => True
  | b :: text => P [] ∧ Cuts (fun bs => P (b :: bs)) text

namespace Cuts

variable {P Q : Bytes → Prop} {text : Bytes}

lemma take (h : Cuts P text) {n : Nat} (hn : n < text.length) : P (text.take n) := by
  induction text generalizing P n with
  | nil => cases hn
  | cons b text ih =>
    cases n with
    | zero => exact h.1
    | succ n => exact ih h.2 (Nat.lt_of_succ_lt_succ hn)

lemma imp (h : Cuts P text) (hPQ : ∀ bs, P bs → Q bs) : Cuts Q text := by
  induction text generalizing P Q with
  | nil => trivial
  | cons b text ih => exact ⟨hPQ _ h.1, ih h.2 fun bs => hPQ (b :: bs)⟩

lemma append {more : Bytes} (h : Cuts P text) (hmore : Cuts (fun bs => P (text ++ bs)) more) :
    Cuts P (text ++ more) := by
  induction text generalizing P with
  | nil => exact hmore
  | cons b text ih => exact ⟨h.1, ih h.2 hmore⟩

end Cuts

namespace Json

open Text.Utf8 (encodeChars)

namespace Scan

def Dangles (bs : Bytes) : Prop := ∀ fuel seen, stringBytes fuel seen bs = .error .truncated

variable {bs tail : Bytes}

lemma dangles_of_step (h : ∀ fuel seen, stringBytes (fuel + 1) seen bs = .error .truncated) :
    Dangles bs := by
  intro fuel seen
  cases fuel with
  | zero => rfl
  | succ fuel => exact h fuel seen

lemma dangles_nil : Dangles [] := dangles_of_step fun _ _ => rfl

lemma dangles_plains (h : ∀ b ∈ bs, IsPlain b) :
    Cuts Dangles bs ∧ ∀ tail, Dangles tail → Dangles (bs ++ tail) := by
  induction bs with
  | nil => exact ⟨trivial, fun _ => id⟩
  | cons b bs ih =>
    have hfirst {tail : Bytes} (htail : Dangles tail) : Dangles (b :: tail) :=
      dangles_of_step fun fuel seen =>
        (stringBytes_plain (h b List.mem_cons_self)).trans (htail fuel _)
    obtain ⟨hcut, hrest⟩ := ih fun b' hb' => h b' (List.mem_cons_of_mem b hb')
    exact ⟨⟨dangles_nil, hcut.imp fun _ => hfirst⟩, fun tail htail => hfirst (hrest tail htail)⟩

lemma dangles_unicode (h : unicodeEscape bs = .error .truncated) :
    Dangles (0x5C :: 0x75 :: bs) := by
  refine dangles_of_step fun fuel seen => ?_
  rw [stringBytes, if_neg (by decide), if_pos rfl]
  simp only [if_true, h]

lemma dangles_backslash : Dangles [0x5C] := dangles_of_step fun _ _ => rfl

lemma unicodeEscape_half {u v w x : UInt8} {high : Nat}
    (hhigh : hex4? u v w x = some (0xD800 + high)) (hbound : high < 0x400)
    (h : trailingSurrogate bs = .error .truncated) :
    unicodeEscape (u :: v :: w :: x :: bs) = .error .truncated := by
  simp only [unicodeEscape, codeUnit, hhigh, h]
  rw [if_neg (by omega), if_neg (by omega)]

lemma Stands.dangles {c : Char} (h : Stands c bs) :
    Cuts Dangles bs ∧ ∀ tail, Dangles tail → Dangles (bs ++ tail) := by
  cases h with
  | plain hquote hbackslash hcontrol =>
    exact dangles_plains (plain_of_char hquote hbackslash hcontrol)
  | short hmem =>
    obtain ⟨hunicode, hstands⟩ := shortEscapes_stand _ hmem
    obtain ⟨b, hb, -⟩ := Option.map_eq_some_iff.mp hstands
    refine ⟨⟨dangles_nil, dangles_backslash, trivial⟩, fun tail htail => ?_⟩
    exact dangles_of_step fun fuel seen => (stringBytes_escaped hunicode hb).trans (htail fuel _)
  | unit hunit =>
    refine ⟨⟨dangles_nil, dangles_backslash, dangles_unicode rfl, dangles_unicode rfl,
      dangles_unicode rfl, dangles_unicode rfl, trivial⟩, fun tail htail => ?_⟩
    exact dangles_of_step fun fuel seen =>
      (stringBytes_unicode (unicodeEscape_unit hunit tail)).trans (htail fuel _)
  | @pair u v w x u' v' w' x' high low hhigh hlow hbound hc =>
    have hscalar : c.toNat < 0xD800 ∨ 0xDFFF < c.toNat ∧ c.toNat < 0x110000 := c.valid
    have half {bs : Bytes} (h : trailingSurrogate bs = .error .truncated) :
        Dangles (0x5C :: 0x75 :: u :: v :: w :: x :: bs) :=
      dangles_unicode (unicodeEscape_half hhigh (by omega) h)
    refine ⟨⟨dangles_nil, dangles_backslash, dangles_unicode rfl, dangles_unicode rfl,
      dangles_unicode rfl, dangles_unicode rfl, half rfl, half rfl, half rfl, half rfl, half rfl,
      half rfl, trivial⟩, fun tail htail => ?_⟩
    exact dangles_of_step fun fuel seen =>
      (stringBytes_unicode (unicodeEscape_pair hhigh hlow hbound hc tail)).trans (htail fuel _)

lemma Writes.dangles {cs : List Char} (h : Writes cs bs) : Cuts Dangles (bs ++ [0x22]) := by
  induction h with
  | nil => exact ⟨dangles_nil, trivial⟩
  | cons hstands _ ih =>
    obtain ⟨hcut, hrest⟩ := hstands.dangles
    rw [List.append_assoc]
    exact hcut.append (ih.imp hrest)

lemma string_cut (s : String) : Cuts (fun bs => string bs = .error .truncated) (quoted s) := by
  refine (writes_escape s.toList).dangles.imp fun bs hdangles => ?_
  rw [string, hdangles]

end Scan

open Value (newlineBytes linedMember linesAfter linedBytes)

lemma linedMember_append (level : Nat) (m : String × Value) (rest : Bytes) :
    linedMember level m rest = linedMember level m [] ++ rest := by
  simp [linedMember]

lemma newline_cut (level : Nat) (b : UInt8) :
    Cuts (fun bs => Scan.skipSpace bs = []) (newlineBytes level ++ [b]) := by
  have hspaces (n : Nat) : Cuts (fun bs => Scan.skipSpace bs = [])
      (encodeChars (List.replicate n ' ') ++ [b]) := by
    induction n with
    | zero => exact ⟨rfl, trivial⟩
    | succ n ih => exact ⟨rfl, ih⟩
  exact ⟨rfl, hspaces (2 * level)⟩

namespace Record

variable {α σ : Type} {shape : Shape σ} {depth level : Nat} {state next : σ}
  {m : String × Value} {more : List (String × Value)}

structure ReadsLine (read : Bytes → Read α) (v : Value) (level : Nat) (a : α) : Prop where
  whole : ∀ rest, read (0x20 :: (linedBytes level v ++ rest)) = .ok (a, rest)
  cut : Cuts (fun bs => read bs = .error .truncated) (0x20 :: linedBytes level v)

lemma ReadsLine.map {inner : Bytes → Read α} {read : Bytes → Read σ} {v : Value} {a : α}
    (h : ReadsLine inner v level a) (f : α → σ)
    (hread : ∀ bs, read bs = (inner bs).map fun (a, rest) => (f a, rest)) :
    ReadsLine read v level (f a) where
  whole rest := by
    rw [hread, h.whole]
    rfl
  cut := h.cut.imp fun bs hbs => by
    rw [hread, hbs]
    rfl

inductive BreaksLines (shape : Shape σ) (depth level : Nat) : σ → List (String × Value) → Prop where
  | nil (state : σ) : BreaksLines shape depth level state []
  | cons {state next : σ} {m : String × Value} {more : List (String × Value)} {field : Field σ} :
    shape.fields.find? (·.name == m.1) = some field → field.present state = false →
    ReadsLine (field.read depth state) m.2 level next → BreaksLines shape depth level next more →
    BreaksLines shape depth level state (m :: more)

lemma member_cut {field : Field σ} (hfield : shape.fields.find? (·.name == m.1) = some field)
    (hnew : field.present state = false)
    (hcut : Cuts (fun bs => field.read depth state bs = .error .truncated)
      (0x20 :: linedBytes level m.2)) :
    Cuts (fun bs => Record.member shape depth state bs = .error .truncated)
      (linedMember level m []) := by
  have htext : linedMember level m [] =
      Scan.quoted m.1 ++ 0x3A :: 0x20 :: linedBytes level m.2 := by
    simp [linedMember]
  have hnothing : Record.member shape depth state (Scan.quoted m.1 ++ []) = .error .truncated := by
    have hcolon : Scan.colon [] = .error .truncated := rfl
    simp only [Record.member, Scan.string_quoted, hfield, hnew, hcolon]
    rfl
  have hvalue (bs : Bytes) : Record.member shape depth state (Scan.quoted m.1 ++ 0x3A :: bs) =
      field.read depth state bs := by
    have hcolon : Scan.colon (0x3A :: bs) = .ok bs := rfl
    simp only [Record.member, Scan.string_quoted, hfield, hnew, hcolon]
    rfl
  rw [htext]
  refine Cuts.append ((Scan.string_cut m.1).imp fun bs hbs => ?_) ?_
  · rw [Record.member, hbs]
  · exact ⟨hnothing, hcut.imp fun bs hbs => (hvalue bs).trans hbs⟩

lemma members_cut_in {member : σ → Bytes → Read σ} {first : Bool} {start : Bytes → Bytes}
    {text lines : Bytes}
    (hstart : ∀ c, Scan.nextKey first (start c) = .ok (some c, []))
    (hcut : Cuts (fun c => member state c = .error .truncated) text)
    (hwhole : ∀ rest, member state (text ++ rest) = .ok (next, rest))
    (hlines : Cuts (fun bs => ∀ fuel, Scan.members member fuel false next bs = .error .truncated)
      lines) :
    Cuts (fun c => ∀ fuel, Scan.members member fuel first state (start c) = .error .truncated)
      (text ++ lines) := by
  refine Cuts.append (hcut.imp fun c hc fuel => ?_) (hlines.imp fun rest hrest fuel => ?_)
  · cases fuel with
    | zero => rfl
    | succ fuel => simp only [Scan.members, hstart, hc]
  · cases fuel with
    | zero => rfl
    | succ fuel =>
      simp only [Scan.members, hstart, hwhole]
      exact hrest fuel

lemma members_blank {member : σ → Bytes → Read σ} {bs : Bytes} (h : Scan.skipSpace bs = [])
    (first : Bool) (fuel : Nat) :
    Scan.members member fuel first state bs = .error .truncated := by
  cases fuel with
  | zero => rfl
  | succ fuel => simp only [Scan.members, Scan.nextKey, h]

lemma members_comma {member : σ → Bytes → Read σ} {bs : Bytes} (h : Scan.skipSpace bs = [])
    (fuel : Nat) : Scan.members member fuel false state (0x2C :: bs) = .error .truncated := by
  have hcomma := Reader.skipSpace_of_front (b := 0x2C) rfl bs
  cases fuel with
  | zero => rfl
  | succ fuel => simp [Scan.members, Scan.nextKey, hcomma, h]

lemma members_cut (h : BreaksLines shape depth level state more) (closing : Nat) :
    Cuts (fun bs => ∀ fuel, Scan.members (Record.member shape depth) fuel false state bs =
      .error .truncated) (linesAfter level more (newlineBytes closing ++ [0x7D])) := by
  induction h with
  | nil state => exact (newline_cut closing 0x7D).imp fun bs hbs => members_blank hbs false
  | @cons state next m more field hfield hnew hread _ ih =>
    have htext : linesAfter level (m :: more) (newlineBytes closing ++ [0x7D]) =
        0x2C :: ((newlineBytes level ++ [0x22]) ++ (linedMember level m [] ++
          linesAfter level more (newlineBytes closing ++ [0x7D]))) := by
      rw [linesAfter, linedMember_append]
      simp
    rw [htext]
    refine ⟨fun fuel => members_blank rfl false fuel,
      Cuts.append ((newline_cut level 0x22).imp fun bs hbs => members_comma hbs) ?_⟩
    refine members_cut_in (fun c => ?_) (member_cut hfield hnew hread.cut) (fun rest => ?_) ih
    · rw [List.append_assoc]
      exact (nextKey_line level c).2
    · rw [← linedMember_append]
      exact member_line hfield hnew (hread.whole rest)

lemma record_cut {empty : σ} (h : BreaksLines shape depth (level + 1) empty (m :: more)) :
    Cuts (fun bs => record shape empty (depth + 1) bs = .error .truncated)
      (linedBytes level (.object (m :: more))) := by
  cases h with
  | cons hfield hnew hread hmore =>
    have htext : linedBytes level (.object (m :: more)) =
        0x7B :: ((newlineBytes (level + 1) ++ [0x22]) ++ (linedMember (level + 1) m [] ++
          linesAfter (level + 1) more (newlineBytes level ++ [0x7D]))) := by
      rw [← List.append_nil (linedBytes level (.object (m :: more))), Value.linedBytes_object,
        linedMember_append]
      simp
    have hmembers : Cuts (fun bs => ∀ fuel, Scan.members (Record.member shape depth) fuel true empty
        bs = .error .truncated) ((newlineBytes (level + 1) ++ [0x22]) ++
          (linedMember (level + 1) m [] ++
            linesAfter (level + 1) more (newlineBytes level ++ [0x7D]))) := by
      refine Cuts.append
        ((newline_cut (level + 1) 0x22).imp fun bs hbs => members_blank hbs true) ?_
      refine members_cut_in (fun c => ?_) (member_cut hfield hnew hread.cut) (fun rest => ?_)
        (members_cut hmore level)
      · rw [List.append_assoc]
        exact (nextKey_line (level + 1) c).1
      · rw [← linedMember_append]
        exact member_line hfield hnew (hread.whole rest)
    rw [htext]
    refine ⟨rfl, hmembers.imp fun bs hbs => ?_⟩
    have hbrace := Reader.skipSpace_of_front (b := 0x7B) rfl bs
    simp [record, hbrace, hbs]

end Record
end Json
end StorageConsole
