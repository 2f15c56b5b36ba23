import StorageConsole.Json.Record
import StorageConsole.Proofs.Json.Numbers
import StorageConsole.Proofs.Json.Ordered
import StorageConsole.Proofs.Json.Strings

/-! Values that were written are read back. -/

namespace StorageConsole.Json

open Text.Utf8 (encodeChars)
open Scan (Ends quoted digits)

namespace Value

/-- Nests at most so deep, and all numbers are integers that sixty-four bits hold, with a sign or
without. -/
inductive Fits : (depth : Nat) → Value → Prop where
  | null {depth : Nat} : Fits depth .null
  | bool {depth : Nat} (b : Bool) : Fits depth (.bool b)
  | string {depth : Nat} (s : String) : Fits depth (.string s)
  | int {depth : Nat} {i : Int} : -Int.pow 2 63 ≤ i → i < Int.pow 2 64 →
    Fits depth (.number (.int i))
  | array {depth : Nat} {items : List Value} : (∀ v ∈ items, Fits depth v) →
    Fits (depth + 1) (.array items)
  | object {depth : Nat} {members : List (String × Value)} :
    (∀ m ∈ members, Fits depth m.2) → Fits (depth + 1) (.object members)

/-! ### Bytes of values -/

def memberBytes (m : String × Value) (rest : Bytes) : Bytes :=
  quoted m.1 ++ 0x3A :: (m.2.bytes ++ rest)

def itemsAfter : List Value → Bytes → Bytes
  | [], rest => 0x5D :: rest
  | v :: more, rest => 0x2C :: (v.bytes ++ itemsAfter more rest)

def itemsBytes : List Value → Bytes → Bytes
  | [], rest => 0x5D :: rest
  | v :: more, rest => v.bytes ++ itemsAfter more rest

def membersAfter : List (String × Value) → Bytes → Bytes
  | [], rest => 0x7D :: rest
  | m :: more, rest => 0x2C :: 0x22 :: memberBytes m (membersAfter more rest)

def membersBytes : List (String × Value) → Bytes → Bytes
  | [], rest => 0x7D :: rest
  | m :: more, rest => 0x22 :: memberBytes m (membersAfter more rest)

lemma encodeChars_compactItems (items : List Value) (rest : Bytes) :
    encodeChars (Printer.compactItems items) ++ 0x5D :: rest = itemsBytes items rest := by
  cases items with
  | nil => rfl
  | cons v more =>
    induction more generalizing v with
    | nil => rfl
    | cons w more ih =>
      rw [Printer.compactItems, Text.Utf8.encodeChars_append, Text.Utf8.encodeChars_cons,
        List.append_assoc, List.append_assoc, ih]
      rfl

lemma encodeChars_compactMember (m : String × Value) (rest : Bytes) :
    encodeChars (Printer.string m.1 ++ ':' :: Printer.compact m.2) ++ rest =
      0x22 :: memberBytes m rest := by
  rw [Text.Utf8.encodeChars_append, Scan.encodeChars_string, Text.Utf8.encodeChars_cons,
    List.cons_append, List.cons_append, List.append_assoc, List.append_assoc]
  rfl

lemma encodeChars_compactMembers (members : List (String × Value)) (rest : Bytes) :
    encodeChars (Printer.compactMembers members) ++ 0x7D :: rest = membersBytes members rest := by
  cases members with
  | nil => rfl
  | cons m more =>
    induction more generalizing m with
    | nil => exact encodeChars_compactMember m _
    | cons m' more ih =>
      rw [Printer.compactMembers, Text.Utf8.encodeChars_append, Text.Utf8.encodeChars_cons,
        List.append_assoc, List.append_assoc, ih, encodeChars_compactMember]
      rfl

lemma bytes_string (s : String) : (Value.string s).bytes = 0x22 :: quoted s := by
  rw [bytes, Printer.compact, Scan.encodeChars_string]

lemma bytes_array (items : List Value) (rest : Bytes) :
    (Value.array items).bytes ++ rest = 0x5B :: itemsBytes items rest := by
  rw [bytes, Printer.compact, List.cons_append, Text.Utf8.encodeChars_cons,
    Text.Utf8.encodeChars_append, List.append_assoc, List.append_assoc, ← encodeChars_compactItems]
  rfl

lemma bytes_object (members : List (String × Value)) (rest : Bytes) :
    (Value.object members).bytes ++ rest = 0x7B :: membersBytes members rest := by
  rw [bytes, Printer.compact, List.cons_append, Text.Utf8.encodeChars_cons,
    Text.Utf8.encodeChars_append, List.append_assoc, List.append_assoc,
    ← encodeChars_compactMembers]
  rfl

lemma bytes_natural (n : Nat) : (Value.number (.int n)).bytes = digits n := by
  have htext : (toString (n : Int)).toList = Nat.toDigits 10 n := by
    rw [Int.toString_eq_repr]
    exact Nat.toList_repr
  rw [bytes, Printer.compact, Number.text, htext, digits]

lemma bytes_negative (n : Nat) :
    (Value.number (.int (Int.negSucc n))).bytes = 0x2D :: digits (n + 1) := by
  have htext : (toString (Int.negSucc n)).toList = '-' :: Nat.toDigits 10 (n + 1) := by
    rw [Int.toString_eq_repr, Int.repr, String.toList_append, Nat.toList_repr]
    rfl
  rw [bytes, Printer.compact, Number.text, htext, digits, Text.Utf8.encodeChars_cons]
  rfl

end Value

namespace Reader

def Rereads (inner : Bytes → Read Value) (v : Value) : Prop :=
  ∀ rest, Ends rest → inner (v.bytes ++ rest) = .ok (v, rest)

lemma skipSpace_of_front {b : UInt8} (h : Scan.isSpace b = false) (rest : Bytes) :
    Scan.skipSpace (b :: rest) = b :: rest := by
  simp [Scan.skipSpace, h]

/-! ### Items -/

def Starts (bs : Bytes) : Prop :=
  ∃ b more, bs = b :: more ∧ Scan.isSpace b = false ∧ b ≠ 0x5D

lemma nextItem_starts {bs : Bytes} (h : Starts bs) (rest : Bytes) :
    Scan.nextItem true (bs ++ rest) = .ok (some (bs ++ rest), []) ∧
      Scan.nextItem false (0x2C :: (bs ++ rest)) = .ok (some (bs ++ rest), []) := by
  obtain ⟨b, more, rfl, hspace, hclose⟩ := h
  have hskip := skipSpace_of_front hspace (more ++ rest)
  have hcomma := skipSpace_of_front (b := 0x2C) rfl (b :: (more ++ rest))
  refine ⟨?_, ?_⟩
  · simp [Scan.nextItem, hskip, hclose]
  · simp [Scan.nextItem, hcomma, hskip, hclose]

lemma items_step {σ : Type} {item : σ → Bytes → Read σ} {state state' : σ} {bs rest : Bytes}
    (hstarts : Starts bs) (hitem : item state (bs ++ rest) = .ok (state', rest)) (fuel : Nat) :
    Scan.items item (fuel + 1) true state (bs ++ rest) =
        Scan.items item fuel false state' rest ∧
      Scan.items item (fuel + 1) false state (0x2C :: (bs ++ rest)) =
        Scan.items item fuel false state' rest := by
  obtain ⟨hfirst, hnext⟩ := nextItem_starts hstarts rest
  refine ⟨?_, ?_⟩
  · simp only [Scan.items, hfirst, hitem]
  · simp only [Scan.items, hnext, hitem]

lemma items_close {σ : Type} (item : σ → Bytes → Read σ) (fuel : Nat) (first : Bool) (state : σ)
    (rest : Bytes) :
    Scan.items item (fuel + 1) first state (0x5D :: rest) = .ok (state, rest) := rfl

variable {inner : Bytes → Read Value}

lemma ends_itemsAfter (more : List Value) (rest : Bytes) : Ends (Value.itemsAfter more rest) := by
  cases more with
  | nil => exact Scan.ends_cons (.inr (.inl rfl))
  | cons v more => exact Scan.ends_cons (.inl rfl)

lemma item_reads {v : Value} (h : Rereads inner v) (seen more : List Value) (rest : Bytes) :
    item inner seen (v.bytes ++ Value.itemsAfter more rest) =
      .ok (v :: seen, Value.itemsAfter more rest) := by
  rw [item, h _ (ends_itemsAfter more rest)]

lemma items_more {more : List Value} (hreads : ∀ v ∈ more, Rereads inner v ∧ Starts v.bytes)
    (seen : List Value) {fuel : Nat} (hfuel : more.length < fuel) (rest : Bytes) :
    Scan.items (item inner) fuel false seen (Value.itemsAfter more rest) =
      .ok (more.reverse ++ seen, rest) := by
  obtain ⟨fuel, rfl⟩ := Nat.exists_eq_succ_of_ne_zero (Nat.ne_zero_of_lt hfuel)
  induction more generalizing seen fuel with
  | nil => exact items_close _ _ _ _ _
  | cons v more ih =>
    obtain ⟨hv, hstarts⟩ := hreads v List.mem_cons_self
    have hmore : more.length < fuel := Nat.lt_of_succ_lt_succ hfuel
    obtain ⟨fuel, rfl⟩ := Nat.exists_eq_succ_of_ne_zero (Nat.ne_zero_of_lt hmore)
    rw [Value.itemsAfter, (items_step hstarts (item_reads hv seen more rest) _).2,
      ih (fun w hw => hreads w (List.mem_cons_of_mem v hw)) _ _ hmore,
      List.reverse_cons, List.append_assoc, List.singleton_append]

lemma items_read {items : List Value} (hreads : ∀ v ∈ items, Rereads inner v ∧ Starts v.bytes)
    {fuel : Nat} (hfuel : items.length < fuel) (rest : Bytes) :
    Scan.items (item inner) fuel true [] (Value.itemsBytes items rest) =
      .ok (items.reverse, rest) := by
  obtain ⟨fuel, rfl⟩ := Nat.exists_eq_succ_of_ne_zero (Nat.ne_zero_of_lt hfuel)
  cases items with
  | nil => exact items_close _ _ _ _ _
  | cons v more =>
    obtain ⟨hv, hstarts⟩ := hreads v List.mem_cons_self
    rw [Value.itemsBytes, (items_step hstarts (item_reads hv [] more rest) _).1,
      items_more (fun w hw => hreads w (List.mem_cons_of_mem v hw)) _
        (Nat.lt_of_succ_lt_succ hfuel),
      List.reverse_cons]

/-! ### Members -/

inductive Gathers {σ : Type} (member : σ → Bytes → Read σ) :
    σ → List (String × Value) → σ → Prop where
  | nil (state : σ) : Gathers member state [] state
  | cons {state next last : σ} {m : String × Value} {more : List (String × Value)} :
    (∀ rest, Ends rest → member state (Value.memberBytes m rest) = .ok (next, rest)) →
    Gathers member next more last → Gathers member state (m :: more) last

variable {σ : Type} {member : σ → Bytes → Read σ} {state next last : σ}

lemma members_close (fuel : Nat) (first : Bool) (state : σ) (rest : Bytes) :
    Scan.members member (fuel + 1) first state (0x7D :: rest) = .ok (state, rest) := rfl

lemma members_step {bs rest : Bytes} (hmember : member state bs = .ok (next, rest)) (fuel : Nat) :
    Scan.members member (fuel + 1) true state (0x22 :: bs) =
        Scan.members member fuel false next rest ∧
      Scan.members member (fuel + 1) false state (0x2C :: 0x22 :: bs) =
        Scan.members member fuel false next rest := by
  have hfirst : Scan.nextKey true (0x22 :: bs) = .ok (some bs, []) := rfl
  have hnext : Scan.nextKey false (0x2C :: 0x22 :: bs) = .ok (some bs, []) := rfl
  refine ⟨?_, ?_⟩
  · simp only [Scan.members, hfirst, hmember]
  · simp only [Scan.members, hnext, hmember]

lemma ends_membersAfter (more : List (String × Value)) (rest : Bytes) :
    Ends (Value.membersAfter more rest) := by
  cases more with
  | nil => exact Scan.ends_cons (.inr (.inr rfl))
  | cons m more => exact Scan.ends_cons (.inl rfl)

lemma members_more {more : List (String × Value)} (h : Gathers member state more last) {fuel : Nat}
    (hfuel : more.length < fuel) (rest : Bytes) :
    Scan.members member fuel false state (Value.membersAfter more rest) = .ok (last, rest) := by
  obtain ⟨fuel, rfl⟩ := Nat.exists_eq_succ_of_ne_zero (Nat.ne_zero_of_lt hfuel)
  induction h generalizing fuel with
  | nil state => exact members_close _ _ _ _
  | @cons state next last m more hmember _ ih =>
    have hmore : more.length < fuel := Nat.lt_of_succ_lt_succ hfuel
    obtain ⟨fuel, rfl⟩ := Nat.exists_eq_succ_of_ne_zero (Nat.ne_zero_of_lt hmore)
    exact (members_step (hmember _ (ends_membersAfter more rest)) _).2.trans (ih _ hmore)

lemma members_read {members : List (String × Value)} (h : Gathers member state members last)
    {fuel : Nat} (hfuel : members.length < fuel) (rest : Bytes) :
    Scan.members member fuel true state (Value.membersBytes members rest) = .ok (last, rest) := by
  obtain ⟨fuel, rfl⟩ := Nat.exists_eq_succ_of_ne_zero (Nat.ne_zero_of_lt hfuel)
  cases h with
  | nil => exact members_close _ _ _ _
  | @cons _ next _ m more hmember hmore =>
    exact (members_step (hmember _ (ends_membersAfter more rest)) _).1.trans
      (members_more hmore (Nat.lt_of_succ_lt_succ hfuel) rest)

lemma member_reads {m : String × Value} (h : Rereads inner m.2) (seen : List (String × Value))
    {rest : Bytes} (hrest : Ends rest) :
    Reader.member inner seen (Value.memberBytes m rest) =
      .ok (Value.insert m.1 m.2 seen, rest) := by
  have hcolon : Scan.colon (0x3A :: (m.2.bytes ++ rest)) = .ok (m.2.bytes ++ rest) := rfl
  simp only [Reader.member, Value.memberBytes, Scan.string_quoted, hcolon, h rest hrest]

lemma gathers_insertAll {members : List (String × Value)} (h : ∀ m ∈ members, Rereads inner m.2)
    (seen : List (String × Value)) :
    Gathers (Reader.member inner) seen members (Value.insertAll seen members) := by
  induction members generalizing seen with
  | nil => exact .nil seen
  | cons m more ih =>
    exact .cons (fun rest hrest => member_reads (h m List.mem_cons_self) seen hrest)
      (ih (fun m' hm' => h m' (List.mem_cons_of_mem m hm')) _)

/-! ### Values -/

lemma length_itemsAfter (more : List Value) (rest : Bytes) :
    more.length < (Value.itemsAfter more rest).length := by
  induction more with
  | nil => simp [Value.itemsAfter]
  | cons v more ih =>
    simp only [Value.itemsAfter, List.length_cons, List.length_append]
    omega

lemma length_itemsBytes (items : List Value) (rest : Bytes) :
    items.length < (Value.itemsBytes items rest).length + 1 := by
  cases items with
  | nil => exact Nat.succ_pos _
  | cons v more =>
    have hmore := length_itemsAfter more rest
    simp only [Value.itemsBytes, List.length_cons, List.length_append]
    omega

lemma length_membersAfter (more : List (String × Value)) (rest : Bytes) :
    more.length < (Value.membersAfter more rest).length := by
  induction more with
  | nil => simp [Value.membersAfter]
  | cons m more ih =>
    simp only [Value.membersAfter, Value.memberBytes, List.length_cons, List.length_append]
    omega

lemma length_membersBytes (members : List (String × Value)) (rest : Bytes) :
    members.length < (Value.membersBytes members rest).length + 1 := by
  cases members with
  | nil => exact Nat.succ_pos _
  | cons m more =>
    have hmore := length_membersAfter more rest
    simp only [Value.membersBytes, Value.memberBytes, List.length_cons, List.length_append]
    omega

lemma valueWith_array {items : List Value} (h : ∀ v ∈ items, Rereads inner v ∧ Starts v.bytes)
    (rest : Bytes) :
    valueWith (some inner) ((Value.array items).bytes ++ rest) = .ok (.array items, rest) := by
  have hitems := items_read h (length_itemsBytes items rest) rest
  have hvalue : valueWith (some inner) (0x5B :: Value.itemsBytes items rest) =
      (Scan.items (item inner) ((Value.itemsBytes items rest).length + 1) true []
        (Value.itemsBytes items rest)).map fun read => (.array read.1.reverse, read.2) := rfl
  rw [Value.bytes_array, hvalue, hitems]
  simp only [Except.map, List.reverse_reverse]

lemma valueWith_object {members last : List (String × Value)}
    (h : Gathers (Reader.member inner) [] members last) (rest : Bytes) :
    valueWith (some inner) ((Value.object members).bytes ++ rest) = .ok (.object last, rest) := by
  have hmembers := members_read h (length_membersBytes members rest) rest
  have hvalue : valueWith (some inner) (0x7B :: Value.membersBytes members rest) =
      (Scan.members (Reader.member inner) ((Value.membersBytes members rest).length + 1) true []
        (Value.membersBytes members rest)).map fun read => (.object read.1, read.2) := rfl
  rw [Value.bytes_object, hvalue, hmembers, Except.map]

variable {inner? : Option (Bytes → Read Value)} {rest : Bytes}

lemma valueWith_string (s : String) :
    valueWith inner? ((Value.string s).bytes ++ rest) = .ok (.string s, rest) := by
  have hvalue (bs : Bytes) : valueWith inner? (0x22 :: bs) =
      (Scan.string bs).map fun read => (.string read.1, read.2) := rfl
  rw [Value.bytes_string, List.cons_append, hvalue, Scan.string_quoted, Except.map]

lemma ne_of_isDigit {b c : UInt8} (hb : Scan.isDigit b = true) (hc : Scan.isDigit c = false) :
    b ≠ c := by
  rintro rfl
  rw [hb] at hc
  cases hc

lemma starts_digit {b : UInt8} (h : Scan.isDigit b = true) : Scan.isSpace b = false ∧ b ≠ 0x5D := by
  refine ⟨?_, ne_of_isDigit h rfl⟩
  simp [Scan.isSpace, ne_of_isDigit h (c := 0x20) rfl, ne_of_isDigit h (c := 0x0A) rfl,
    ne_of_isDigit h (c := 0x0D) rfl, ne_of_isDigit h (c := 0x09) rfl]

lemma valueWith_digit {b : UInt8} (h : Scan.isDigit b = true) (bs : Bytes) :
    valueWith inner? (b :: bs) =
      (Scan.number false (b :: bs)).map fun (n, rest) => (.number n, rest) := by
  have hskip := skipSpace_of_front (starts_digit h).1 bs
  simp only [valueWith, hskip, ne_of_isDigit h (c := 0x6E) rfl, ne_of_isDigit h (c := 0x74) rfl,
    ne_of_isDigit h (c := 0x66) rfl, ne_of_isDigit h (c := 0x2D) rfl, h, if_false, if_true]

lemma valueWith_int {i : Int} (hlow : -Int.pow 2 63 ≤ i) (hhigh : i < Int.pow 2 64)
    (hrest : Ends rest) :
    valueWith inner? ((Value.number (.int i)).bytes ++ rest) = .ok (.number (.int i), rest) := by
  cases i with
  | ofNat n =>
    have hn : n < Nat.pow 2 64 := Int.ofNat_lt.mp hhigh
    obtain ⟨b, more, hfront, hdigit, -⟩ := Scan.digits_front n hrest
    rw [Int.ofNat_eq_natCast, Value.bytes_natural, hfront, valueWith_digit hdigit, ← hfront,
      Scan.number_digits false hn hrest]
    rfl
  | negSucc n =>
    have hmagnitude : ((n + 1 : Nat) : Int) ≤ Int.pow 2 63 := Int.neg_le_neg_iff.mp hlow
    have hn : n + 1 ≤ Nat.pow 2 63 := Int.ofNat_le.mp hmagnitude
    have hlarge : n + 1 < Nat.pow 2 64 :=
      Nat.lt_of_le_of_lt hn (Nat.pow_lt_pow_right (by decide) (by decide))
    have hsmall : ¬(n + 1 = 0 ∨ Nat.pow 2 63 < n + 1) := by omega
    have hvalue (bs : Bytes) : valueWith inner? (0x2D :: bs) =
        (Scan.number true bs).map fun (n, rest) => (.number n, rest) := rfl
    rw [Value.bytes_negative, List.cons_append, hvalue, Scan.number_digits true hlarge hrest,
      if_neg (by decide), if_neg hsmall]
    rfl

lemma bytes_front {v : Value} {depth : Nat} (h : v.Fits depth) :
    ∃ b more, v.bytes = b :: more ∧ (Scan.isSpace b = false ∧ b ≠ 0x5D) ∧
      (v ≠ .null → b ≠ 0x6E) := by
  cases h with
  | null => exact ⟨0x6E, _, rfl, by decide, fun h => absurd rfl h⟩
  | bool b => cases b <;> exact ⟨_, _, rfl, by decide, fun _ => by decide⟩
  | string s => exact ⟨0x22, _, Value.bytes_string s, by decide, fun _ => by decide⟩
  | @array _ items _ =>
    have hbytes := Value.bytes_array items []
    rw [List.append_nil] at hbytes
    exact ⟨0x5B, _, hbytes, by decide, fun _ => by decide⟩
  | @object _ members _ =>
    have hbytes := Value.bytes_object members []
    rw [List.append_nil] at hbytes
    exact ⟨0x7B, _, hbytes, by decide, fun _ => by decide⟩
  | @int _ i _ _ =>
    cases i with
    | ofNat n =>
      obtain ⟨b, more, hfront, hdigit, -⟩ := Scan.digits_front n Scan.ends_nil
      rw [List.append_nil] at hfront
      exact ⟨b, more, (Value.bytes_natural n).trans hfront, starts_digit hdigit,
        fun _ => ne_of_isDigit hdigit rfl⟩
    | negSucc n => exact ⟨0x2D, _, Value.bytes_negative n, by decide, fun _ => by decide⟩

lemma starts_bytes {v : Value} {depth : Nat} (h : v.Fits depth) : Starts v.bytes := by
  obtain ⟨b, more, hbytes, hstarts, -⟩ := bytes_front h
  exact ⟨b, more, hbytes, hstarts⟩

lemma value_rereads {v : Value} {depth : Nat} (hfits : v.Fits depth) (hordered : v.Ordered) :
    Rereads (value depth) v := by
  -- the depth goes down where an array or an object is entered, as it does for the reader
  induction hfits with
  | @null depth => cases depth <;> exact fun rest _ => rfl
  | @bool depth b => cases depth <;> cases b <;> exact fun rest _ => rfl
  | @string depth s => cases depth <;> exact fun rest _ => valueWith_string s
  | @int depth i hlow hhigh =>
    cases depth <;> exact fun rest hrest => valueWith_int hlow hhigh hrest
  | @array depth items hitems ih =>
    cases hordered with
    | array hordered =>
      intro rest _
      exact valueWith_array (fun v hv => ⟨ih v hv (hordered v hv), starts_bytes (hitems v hv)⟩) rest
  | @object depth members _ ih =>
    cases hordered with
    | object hascending hordered =>
      intro rest _
      have hsame : Value.insertAll [] members = members := Value.insertAll_ascending hascending
      have hgathers := gathers_insertAll (fun m hm => ih m hm (hordered m hm)) []
      rw [hsame] at hgathers
      exact valueWith_object hgathers rest

lemma value_object {members : List (String × Value)} {depth : Nat}
    (h : ∀ m ∈ members, m.2.Fits depth ∧ m.2.Ordered) (rest : Bytes) :
    value (depth + 1) ((Value.object members).bytes ++ rest) =
      .ok (.object (Value.insertAll [] members), rest) :=
  valueWith_object (gathers_insertAll (fun m hm => value_rereads (h m hm).1 (h m hm).2) []) rest

end Reader

/-! ### Records -/

namespace Record

variable {rest : Bytes}

lemma bool_reads (b : Bool) : bool ((Value.bool b).bytes ++ rest) = .ok (b, rest) := by
  cases b <;> rfl

lemma string_reads (s : String) : string ((Value.string s).bytes ++ rest) = .ok (s, rest) := by
  rw [Value.bytes_string]
  exact Scan.string_quoted s rest

lemma optional_reads {v : Value} {depth : Nat} (hfits : v.Fits depth) (hordered : v.Ordered)
    (hnull : v ≠ .null) (hrest : Ends rest) :
    optional (Reader.value depth) (v.bytes ++ rest) = .ok (some v, rest) := by
  have hreads := Reader.value_rereads hfits hordered rest hrest
  obtain ⟨b, more, hbytes, ⟨hspace, -⟩, hfront⟩ := Reader.bytes_front hfits
  have hne : b ≠ 0x6E := hfront hnull
  rw [hbytes, List.cons_append] at hreads ⊢
  simp only [optional, Reader.skipSpace_of_front hspace, hne, if_false, hreads]
  rfl

variable {σ : Type} {shape : Shape σ} {depth : Nat} {state next empty last : σ}

lemma member_reads {field : Field σ} {m : String × Value}
    (hfield : shape.fields.find? (·.name == m.1) = some field) (hnew : field.present state = false)
    (hread : field.read depth state (m.2.bytes ++ rest) = .ok (next, rest)) :
    member shape depth state (Value.memberBytes m rest) = .ok (next, rest) := by
  have hcolon : Scan.colon (0x3A :: (m.2.bytes ++ rest)) = .ok (m.2.bytes ++ rest) := rfl
  simp [member, Value.memberBytes, Scan.string_quoted, hfield, hnew, hcolon, hread]

lemma record_object {members : List (String × Value)}
    (h : Reader.Gathers (member shape depth) empty members last)
    (hrequired : (shape.fields.find? fun f => f.required && !f.present last) = none)
    (rest : Bytes) :
    record shape empty (depth + 1) ((Value.object members).bytes ++ rest) = .ok (last, rest) := by
  have hmembers := Reader.members_read h (Reader.length_membersBytes members rest) rest
  rw [Value.bytes_object, record, Reader.skipSpace_of_front rfl]
  simp [hmembers, hrequired]

end Record
end StorageConsole.Json
