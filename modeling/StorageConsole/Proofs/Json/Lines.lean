import StorageConsole.Proofs.Json.Rereading

namespace StorageConsole.Json

open Text.Utf8 (encodeChars)
open Scan (quoted)

namespace Value

variable (level : Nat)

def newlineBytes : Bytes := encodeChars (Printer.newline level)

def linedBytes (v : Value) : Bytes := encodeChars (Printer.indented level v)

def linedMember (m : String × Value) (rest : Bytes) : Bytes :=
  quoted m.1 ++ 0x3A :: 0x20 :: (linedBytes level m.2 ++ rest)

def linesAfter : List (String × Value) → Bytes → Bytes
  | [], rest => rest
  | m :: more, rest =>
    0x2C :: (newlineBytes level ++ 0x22 :: linedMember level m (linesAfter more rest))

lemma encodeChars_indentedMember (m : String × Value) (rest : Bytes) :
    encodeChars (Printer.string m.1 ++ ':' :: ' ' :: Printer.indented level m.2) ++ rest =
      0x22 :: linedMember level m rest := by
  rw [Text.Utf8.encodeChars_append, Scan.encodeChars_string, Text.Utf8.encodeChars_cons,
    Text.Utf8.encodeChars_cons, List.cons_append, List.cons_append, List.append_assoc]
  rfl

lemma encodeChars_indentedMembers (m : String × Value) (more : List (String × Value))
    (rest : Bytes) :
    encodeChars (Printer.indentedMembers level (m :: more)) ++ rest =
      0x22 :: linedMember level m (linesAfter level more rest) := by
  induction more generalizing m with
  | nil => exact encodeChars_indentedMember level m rest
  | cons m' more ih =>
    have hfirst := encodeChars_indentedMember level m (linesAfter level (m' :: more) rest)
    rw [linesAfter, ← ih m'] at hfirst
    rw [linesAfter, ← ih m', ← hfirst, Printer.indentedMembers]
    simp only [Text.Utf8.encodeChars_append, Text.Utf8.encodeChars_cons, List.append_assoc]
    rfl

lemma linedBytes_object (m : String × Value) (more : List (String × Value)) (rest : Bytes) :
    linedBytes level (.object (m :: more)) ++ rest =
      0x7B :: (newlineBytes (level + 1) ++ 0x22 :: linedMember (level + 1) m
        (linesAfter (level + 1) more (newlineBytes level ++ 0x7D :: rest))) := by
  rw [← encodeChars_indentedMembers, linedBytes, Printer.indented]
  simp only [List.cons_append, Text.Utf8.encodeChars_append, Text.Utf8.encodeChars_cons,
    List.append_assoc]
  rfl

lemma linedBytes_string (s : String) : linedBytes level (.string s) = 0x22 :: quoted s := by
  rw [linedBytes, Printer.indented, Scan.encodeChars_string]

end Value

open Value (newlineBytes linedMember linesAfter linedBytes)

lemma skipSpace_newline (level : Nat) {b : UInt8} (hb : Scan.isSpace b = false) (rest : Bytes) :
    Scan.skipSpace (newlineBytes level ++ b :: rest) = b :: rest := by
  have hspaces (n : Nat) (rest : Bytes) :
      Scan.skipSpace (encodeChars (List.replicate n ' ') ++ rest) = Scan.skipSpace rest := by
    induction n with
    | zero => rfl
    | succ n ih => exact ih
  have hnewline : newlineBytes level ++ b :: rest =
      0x0A :: (encodeChars (List.replicate (2 * level) ' ') ++ b :: rest) := rfl
  rw [hnewline]
  exact (hspaces _ _).trans (Reader.skipSpace_of_front hb rest)

namespace Record

variable {σ : Type} {member : σ → Bytes → Read σ} {state next last : σ} {level : Nat}

inductive GathersLines (member : σ → Bytes → Read σ) (level : Nat) :
    σ → List (String × Value) → σ → Prop where
  | nil (state : σ) : GathersLines member level state [] state
  | cons {state next last : σ} {m : String × Value} {more : List (String × Value)} :
    (∀ rest, member state (linedMember level m rest) = .ok (next, rest)) →
    GathersLines member level next more last → GathersLines member level state (m :: more) last

lemma nextKey_line (level : Nat) (bs : Bytes) :
    Scan.nextKey true (newlineBytes level ++ 0x22 :: bs) = .ok (some bs, []) ∧
      Scan.nextKey false (0x2C :: (newlineBytes level ++ 0x22 :: bs)) = .ok (some bs, []) := by
  have hskip := skipSpace_newline level (b := 0x22) rfl bs
  have hcomma := Reader.skipSpace_of_front (b := 0x2C) rfl (newlineBytes level ++ 0x22 :: bs)
  refine ⟨?_, ?_⟩
  · simp [Scan.nextKey, hskip]
  · simp [Scan.nextKey, hcomma, hskip]

lemma members_close_line (fuel : Nat) (first : Bool) (state : σ) (rest : Bytes) :
    Scan.members member (fuel + 1) first state (newlineBytes level ++ 0x7D :: rest) =
      .ok (state, rest) := by
  have hskip := skipSpace_newline level (b := 0x7D) rfl rest
  simp [Scan.members, Scan.nextKey, hskip]

lemma members_more_lines {more : List (String × Value)} {closing : Nat}
    (h : GathersLines member level state more last) {fuel : Nat} (hfuel : more.length < fuel)
    (rest : Bytes) :
    Scan.members member fuel false state
      (linesAfter level more (newlineBytes closing ++ 0x7D :: rest)) = .ok (last, rest) := by
  obtain ⟨fuel, rfl⟩ := Nat.exists_eq_succ_of_ne_zero (Nat.ne_zero_of_lt hfuel)
  induction h generalizing fuel with
  | nil state => exact members_close_line _ _ _ _
  | @cons state next last m more hmember _ ih =>
    have hmore : more.length < fuel := Nat.lt_of_succ_lt_succ hfuel
    obtain ⟨fuel, rfl⟩ := Nat.exists_eq_succ_of_ne_zero (Nat.ne_zero_of_lt hmore)
    rw [linesAfter, Scan.members, (nextKey_line level _).2]
    simp only [hmember]
    exact ih _ hmore

lemma length_linesAfter (level : Nat) (more : List (String × Value)) (rest : Bytes) :
    more.length + rest.length ≤ (linesAfter level more rest).length := by
  induction more with
  | nil => simp [linesAfter]
  | cons m more ih =>
    simp only [linesAfter, linedMember, List.length_cons, List.length_append]
    omega

variable {shape : Shape σ} {empty : σ} {depth : Nat} {m : String × Value} {bs rest : Bytes}

lemma member_line {field : Field σ}
    (hfield : shape.fields.find? (·.name == m.1) = some field) (hnew : field.present state = false)
    (hread : field.read depth state (0x20 :: (linedBytes level m.2 ++ rest)) = .ok (next, rest)) :
    Record.member shape depth state (linedMember level m rest) = .ok (next, rest) := by
  have hcolon : Scan.colon (0x3A :: 0x20 :: (linedBytes level m.2 ++ rest)) =
      .ok (0x20 :: (linedBytes level m.2 ++ rest)) := rfl
  simp [Record.member, linedMember, Scan.string_quoted, hfield, hnew, hcolon, hread]

lemma record_lines {more : List (String × Value)}
    (hfront : Scan.skipSpace bs = linedBytes level (.object (m :: more)) ++ rest)
    (h : GathersLines (Record.member shape depth) (level + 1) empty (m :: more) last)
    (hrequired : (shape.fields.find? fun f => f.required && !f.present last) = none) :
    record shape empty (depth + 1) bs = .ok (last, rest) := by
  cases h with
  | @cons _ next _ _ _ hmember hmore =>
    let lines := linesAfter (level + 1) more (newlineBytes level ++ 0x7D :: rest)
    let start := newlineBytes (level + 1) ++ 0x22 :: linedMember (level + 1) m lines
    have hstart : Scan.skipSpace bs = 0x7B :: start :=
      hfront.trans (Value.linedBytes_object level m more rest)
    have hfuel : more.length < start.length := by
      have hlines := length_linesAfter (level + 1) more (newlineBytes level ++ 0x7D :: rest)
      simp only [start, lines, linedMember, List.length_append, List.length_cons] at hlines ⊢
      omega
    have hmembers : Scan.members (Record.member shape depth) (start.length + 1) true empty start =
        .ok (last, rest) := by
      rw [Scan.members, (nextKey_line (level + 1) _).1]
      simp only [hmember]
      exact members_more_lines hmore hfuel rest
    rw [record, hstart]
    simp [hmembers, hrequired]

end Record
end StorageConsole.Json
