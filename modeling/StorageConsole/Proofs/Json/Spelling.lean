import Mathlib.Data.List.DropRight
import Mathlib.Data.List.Forall2
import StorageConsole.Proofs.Json.Numerals
import StorageConsole.Proofs.Json.Rereading
import StorageConsole.Proofs.Text.Pieces

/-! All the texts that a value can be written as, and what each of them is read as. -/

namespace StorageConsole.Json

open Scan (Follows Writes)

/-! ### Texts -/

inductive Tree where
  | null
  | bool (b : Bool)
  | number (n : Numeral)
  | string (s : String)
  | array (items : List Tree)
  | object (members : List (String × Tree))

namespace Tree

def last? : (members : List (String × Tree)) → (key : String) → Option Tree
  | [], _ => none
  | m :: more, key => (last? more key).or (if m.1 = key then some m.2 else none)

/-- One value: numbers are compared by what they are worth, and members by their keys. -/
inductive Same : Tree → Tree → Prop where
  | null : Same .null .null
  | bool (b : Bool) : Same (.bool b) (.bool b)
  | number {n n' : Numeral} : n.value = n'.value → Same (.number n) (.number n')
  | string (s : String) : Same (.string s) (.string s)
  | array {items items' : List Tree} : List.Forall₂ Same items items' →
    Same (.array items) (.array items')
  | object {members members' : List (String × Tree)} :
    (∀ key, Option.Rel Same (last? members key) (last? members' key)) →
    Same (.object members) (.object members')

def value? : (depth : Nat) → Tree → Option Value
  | _, .null => some .null
  | _, .bool b => some (.bool b)
  | _, .number n => n.number?.map .number
  | _, .string s => some (.string s)
  | depth + 1, .array items =>
    (items.foldlM (fun seen t => (value? depth t).map (· :: seen)) []).map (.array ·.reverse)
  | depth + 1, .object members =>
    (members.foldlM (fun seen m => (value? depth m.2).map (Value.insert m.1 · seen)) []).map .object
  | 0, .array _ => none
  | 0, .object _ => none

end Tree

def IsGap (bs : Bytes) : Prop := ∀ b ∈ bs, Scan.isSpace b = true

instance (bs : Bytes) : Decidable (IsGap bs) :=
  decidable_of_iff (bs.all Scan.isSpace = true) List.all_eq_true

inductive SpellsKey (key : String) : Bytes → Prop where
  | quoted {before bs after : Bytes} : IsGap before → Writes key.toList bs → IsGap after →
    SpellsKey key (before ++ 0x22 :: (bs ++ 0x22 :: after))

structure Entry where
  member : String × Tree
  key : Bytes
  value : Bytes

def Entry.text (e : Entry) : Bytes := e.key ++ 0x3A :: e.value

/-- The texts of a value, with white space on both sides. -/
inductive Spells : Tree → Bytes → Prop where
  | null : Spells .null [0x6E, 0x75, 0x6C, 0x6C]
  | true : Spells (.bool true) [0x74, 0x72, 0x75, 0x65]
  | false : Spells (.bool false) [0x66, 0x61, 0x6C, 0x73, 0x65]
  | number (n : Numeral) : Spells (.number n) n.bytes
  | string {s : String} {bs : Bytes} : Writes s.toList bs →
    Spells (.string s) (0x22 :: (bs ++ [0x22]))
  | noItems {gap : Bytes} : IsGap gap → Spells (.array []) (0x5B :: (gap ++ [0x5D]))
  | items {parts : List (Tree × Bytes)} : parts ≠ [] → (∀ part ∈ parts, Spells part.1 part.2) →
    Spells (.array (parts.map (·.1))) (0x5B :: (Text.join 0x2C (parts.map (·.2)) ++ [0x5D]))
  | noMembers {gap : Bytes} : IsGap gap → Spells (.object []) (0x7B :: (gap ++ [0x7D]))
  | members {entries : List Entry} : entries ≠ [] →
    (∀ e ∈ entries, SpellsKey e.member.1 e.key) → (∀ e ∈ entries, Spells e.member.2 e.value) →
    Spells (.object (entries.map (·.member)))
      (0x7B :: (Text.join 0x2C (entries.map Entry.text) ++ [0x7D]))
  | spaced {t : Tree} {before bs after : Bytes} : IsGap before → Spells t bs → IsGap after →
    Spells t (before ++ (bs ++ after))

/-! ### Reading -/

namespace Reader

open Scan (skipSpace)

variable {rest : Bytes}

inductive Yields {α : Type} (rest : Bytes) : Option α → Read α → Prop where
  | some {a : α} {rest' : Bytes} : skipSpace rest' = skipSpace rest →
    Yields rest (some a) (.ok (a, rest'))
  | none (e : Fault) : Yields rest none (.error e)

lemma Yields.map {α β : Type} (f : α → β) {a : Option α} {r : Read α} (h : Yields rest a r) :
    Yields rest (a.map f) (r.map fun read => (f read.1, read.2)) := by
  cases h with
  | some hrest => exact .some hrest
  | none e => exact .none e

lemma Yields.of_skipSpace {α : Type} {rest' : Bytes} {a : Option α} {r : Read α}
    (h : Yields rest a r) (hsame : skipSpace rest = skipSpace rest') : Yields rest' a r := by
  cases h with
  | some hrest => exact .some (hrest.trans hsame)
  | none e => exact .none e

def Stops (rest : Bytes) : Prop := Scan.Ends (skipSpace rest)

lemma Stops.follows (h : Stops rest) : Follows rest := by
  cases rest with
  | nil => exact Scan.follows_nil
  | cons b rest =>
    by_cases hspace : Scan.isSpace b = true
    · have hb : ((b = 0x20 ∨ b = 0x0A) ∨ b = 0x0D) ∨ b = 0x09 := by
        simpa only [Scan.isSpace, Bool.or_eq_true, beq_iff_eq] using hspace
      obtain ((rfl | rfl) | rfl) | rfl := hb <;> exact ⟨rfl, by simp, rfl⟩
    · have hends : Scan.Ends (b :: rest) := by
        rwa [Stops, skipSpace_of_front (by simpa using hspace)] at h
      exact ⟨hends.no_digit, hends.no_point, hends.no_exponent⟩

lemma skipSpace_gap {gap : Bytes} (h : IsGap gap) (rest : Bytes) :
    skipSpace (gap ++ rest) = skipSpace rest :=
  List.dropWhile_append_of_pos h

lemma valueWith_skipSpace (inner? : Option (Bytes → Read Value)) (bs : Bytes) :
    valueWith inner? (skipSpace bs) = valueWith inner? bs := by
  have hsame : skipSpace (skipSpace bs) = skipSpace bs := List.dropWhile_idempotent _ _
  simp only [valueWith, hsame]

lemma value_skipSpace (depth : Nat) (bs : Bytes) : value depth (skipSpace bs) = value depth bs := by
  cases depth <;> exact valueWith_skipSpace _ bs

/-! ### Loops -/

section Loop

variable {σ ι : Type} {next : Bool → Bytes → Except Fault (Option Bytes × Bytes)}
  {step : σ → Bytes → Read σ} {close : UInt8} {text : ι → Bytes} {start : ι → Bytes → Bytes}
  {effect : σ → ι → Option σ}

structure Closes (next : Bool → Bytes → Except Fault (Option Bytes × Bytes)) (close : UInt8) :
    Prop where
  bracket : close = 0x5D ∨ close = 0x7D
  found (first : Bool) {bs rest : Bytes} : skipSpace bs = close :: rest →
    next first bs = .ok (none, rest)

structure IsPart (next : Bool → Bytes → Except Fault (Option Bytes × Bytes))
    (step : σ → Bytes → Read σ) (text : Bytes) (start : Bytes → Bytes) (effect : σ → Option σ) :
    Prop where
  opens (rest : Bytes) : next true (text ++ rest) = .ok (some (start rest), [])
  goesOn {bs rest : Bytes} : skipSpace bs = 0x2C :: (text ++ rest) →
    next false bs = .ok (some (start rest), [])
  steps (state : σ) {rest : Bytes} :
    Stops rest → Yields rest (effect state) (step state (start rest))

def moreText (text : ι → Bytes) (close : UInt8) (more : List ι) (rest : Bytes) : Bytes :=
  more.flatMap (fun i => 0x2C :: text i) ++ close :: rest

lemma moreText_cons (i : ι) (more : List ι) (rest : Bytes) :
    moreText text close (i :: more) rest = 0x2C :: (text i ++ moreText text close more rest) := by
  simp [moreText]

lemma moreText_stops (text : ι → Bytes) (hclose : close = 0x5D ∨ close = 0x7D) (more : List ι)
    (rest : Bytes) :
    skipSpace (moreText text close more rest) = moreText text close more rest ∧
      Stops (moreText text close more rest) := by
  have hfront : ∃ b bs, moreText text close more rest = b :: bs ∧
      (b = 0x2C ∨ b = 0x5D ∨ b = 0x7D) := by
    cases more with
    | nil => exact ⟨close, rest, rfl, .inr hclose⟩
    | cons i more => exact ⟨0x2C, _, rfl, .inl rfl⟩
  obtain ⟨b, bs, hbytes, hb⟩ := hfront
  have hskip : skipSpace (b :: bs) = b :: bs := by
    apply skipSpace_of_front
    obtain rfl | rfl | rfl := hb <;> rfl
  rw [hbytes, Stops, hskip]
  exact ⟨rfl, Scan.ends_cons hb⟩

lemma loop_step {first : Bool} {state : σ} {bs begin tail rest : Bytes} {found : Option σ}
    {go : σ → Option σ} {fuel : Nat} (hnext : next first bs = .ok (some begin, []))
    (hstep : Yields tail found (step state begin))
    (hmore : ∀ state' tail', skipSpace tail' = skipSpace tail →
      Yields rest (go state') (Scan.loop next step fuel false state' tail')) :
    Yields rest (found.bind go) (Scan.loop next step (fuel + 1) first state bs) := by
  simp only [Scan.loop, hnext]
  generalize step state begin = read at hstep ⊢
  cases hstep with
  | none e => exact .none e
  | some htail => exact hmore _ _ htail

lemma loop_more (hclose : Closes next close) {more : List ι}
    (hparts : ∀ i ∈ more, IsPart next step (text i) (start i) (effect · i)) {fuel : Nat}
    (hfuel : more.length < fuel) {bs rest : Bytes}
    (hbs : skipSpace bs = moreText text close more rest) (state : σ) :
    Yields rest (more.foldlM effect state) (Scan.loop next step fuel false state bs) := by
  induction more generalizing fuel bs state with
  | nil =>
    obtain ⟨fuel, rfl⟩ := Nat.exists_eq_succ_of_ne_zero (Nat.ne_zero_of_lt hfuel)
    rw [Scan.loop, hclose.found false hbs]
    exact .some rfl
  | cons i more ih =>
    obtain ⟨fuel, rfl⟩ := Nat.exists_eq_succ_of_ne_zero (Nat.ne_zero_of_lt hfuel)
    have hi := hparts i List.mem_cons_self
    obtain ⟨hskip, hstops⟩ := moreText_stops text hclose.bracket more rest
    rw [List.foldlM_cons]
    apply loop_step (hi.goesOn (hbs.trans (moreText_cons i more rest))) (hi.steps state hstops)
    intro state' tail' htail
    exact ih (fun j hj => hparts j (List.mem_cons_of_mem i hj)) (Nat.lt_of_succ_lt_succ hfuel)
      (htail.trans hskip) state'

lemma loop_parts (hclose : Closes next close) {parts : List ι} (hne : parts ≠ [])
    (hparts : ∀ i ∈ parts, IsPart next step (text i) (start i) (effect · i)) {fuel : Nat}
    (hfuel : parts.length < fuel) (state : σ) (rest : Bytes) :
    Yields rest (parts.foldlM effect state)
      (Scan.loop next step fuel true state
        (Text.join 0x2C (parts.map text) ++ close :: rest)) := by
  obtain ⟨i, more, rfl⟩ := List.exists_cons_of_ne_nil hne
  obtain ⟨fuel, rfl⟩ := Nat.exists_eq_succ_of_ne_zero (Nat.ne_zero_of_lt hfuel)
  have hi := hparts i List.mem_cons_self
  obtain ⟨hskip, hstops⟩ := moreText_stops text hclose.bracket more rest
  have hbytes : Text.join 0x2C ((i :: more).map text) ++ close :: rest =
      text i ++ moreText text close more rest := by
    rw [List.map_cons, Text.join_cons, List.flatMap_map, List.append_assoc]
    rfl
  rw [hbytes, List.foldlM_cons]
  apply loop_step (hi.opens _) (hi.steps state hstops)
  intro state' tail' htail
  exact loop_more hclose (fun j hj => hparts j (List.mem_cons_of_mem i hj))
    (Nat.lt_of_succ_lt_succ hfuel) (htail.trans hskip) state'

end Loop

/-! ### Values -/

lemma spelled_front {t : Tree} {bs : Bytes} (h : Spells t bs) :
    ∃ b more, (∀ rest, skipSpace (bs ++ rest) = b :: (more ++ rest)) ∧ b ≠ 0x5D := by
  have hfront {b : UInt8} {more : Bytes} (hspace : Scan.isSpace b = false) (hclose : b ≠ 0x5D) :
      ∃ b' more', (∀ rest, skipSpace (b :: more ++ rest) = b' :: (more' ++ rest)) ∧ b' ≠ 0x5D :=
    ⟨b, more, fun rest => skipSpace_of_front hspace (more ++ rest), hclose⟩
  induction h with
  | number n =>
    obtain ⟨b, more, hwhole, hb⟩ := n.whole.front
    rw [Numeral.bytes, Numeral.unsigned, hwhole]
    split
    · exact hfront rfl (by decide)
    · exact hfront (starts_digit hb).1 (starts_digit hb).2
  | spaced hbefore _ _ ih =>
    rename_i after _ _
    obtain ⟨b, more, hskip, hclose⟩ := ih
    refine ⟨b, more ++ after, fun rest => ?_, hclose⟩
    rw [List.append_assoc, skipSpace_gap hbefore, List.append_assoc, hskip, List.append_assoc]
  | null | true | false | string | noItems | items | noMembers | members =>
    exact hfront rfl (by decide)

def Understood (depth : Nat) (t : Tree) (bs : Bytes) : Prop :=
  ∀ rest, Stops rest → Yields rest (t.value? depth) (value depth (bs ++ rest))

variable {depth : Nat} {t : Tree} {bs : Bytes}

lemma nextItem_closes : Closes Scan.nextItem 0x5D :=
  ⟨.inl rfl, fun first _ _ h => by simp [Scan.nextItem, h]⟩

lemma nextKey_closes : Closes Scan.nextKey 0x7D :=
  ⟨.inr rfl, fun first _ _ h => by simp [Scan.nextKey, h]⟩

lemma item_isPart (hspells : Spells t bs) (h : Understood depth t bs) :
    IsPart Scan.nextItem (item (value depth)) bs (fun rest => skipSpace (bs ++ rest))
      (fun seen => (t.value? depth).map (· :: seen)) where
  opens rest := by
    obtain ⟨b, more, hskip, hclose⟩ := spelled_front hspells
    simp [Scan.nextItem, hskip, hclose]
  goesOn hbs := by
    obtain ⟨b, more, hskip, hclose⟩ := spelled_front hspells
    simp [Scan.nextItem, hbs, hskip, hclose]
  steps seen rest hrest := by
    have hread := h rest hrest
    rw [item, value_skipSpace]
    generalize t.value? depth = found, value depth _ = read at hread ⊢
    cases hread with
    | none e => exact .none e
    | some htail => exact .some htail

lemma entry_front {e : Entry} (hkey : SpellsKey e.member.1 e.key) :
    ∃ bs after, Writes e.member.1.toList bs ∧ IsGap after ∧ ∀ rest,
      skipSpace (e.text ++ rest) =
        0x22 :: (bs ++ 0x22 :: (after ++ 0x3A :: (e.value ++ rest))) := by
  rw [Entry.text]
  generalize e.key = key at hkey
  cases hkey with
  | @quoted before bs after hbefore hwrites hafter =>
    refine ⟨bs, after, hwrites, hafter, fun rest => ?_⟩
    simp only [List.append_assoc, List.cons_append, skipSpace_gap hbefore]
    exact skipSpace_of_front rfl _

lemma member_isPart {e : Entry} (hkey : SpellsKey e.member.1 e.key)
    (h : Understood depth e.member.2 e.value) :
    IsPart Scan.nextKey (member (value depth)) e.text
      (fun rest => (skipSpace (e.text ++ rest)).drop 1)
      (fun seen => (e.member.2.value? depth).map (Value.insert e.member.1 · seen)) := by
  obtain ⟨bs, after, hwrites, hafter, hskip⟩ := entry_front hkey
  refine ⟨fun rest => ?_, fun hbs => ?_, fun seen rest hrest => ?_⟩
  · simp [Scan.nextKey, hskip]
  · simp [Scan.nextKey, hbs, hskip]
  · have hread := h rest hrest
    have hcolon : Scan.colon (after ++ 0x3A :: (e.value ++ rest)) = .ok (e.value ++ rest) := by
      have hfront := skipSpace_of_front (b := 0x3A) rfl (e.value ++ rest)
      simp [Scan.colon, skipSpace_gap hafter, hfront]
    simp only [hskip, List.drop_succ_cons, List.drop_zero, member, hwrites.string, hcolon]
    generalize e.member.2.value? depth = found, value depth _ = read at hread ⊢
    cases hread with
    | none e => exact .none e
    | some htail => exact .some htail

lemma numeral_understood (n : Numeral) : Understood depth (.number n) n.bytes := by
  intro rest hrest
  have hnumber := Scan.number_reads n hrest.follows
  have hread (inner? : Option (Bytes → Read Value)) : valueWith inner? (n.bytes ++ rest) =
      (Scan.number n.negative (n.unsigned ++ rest)).map fun read => (.number read.1, read.2) := by
    rw [Numeral.bytes]
    cases n.negative with
    | true => rfl
    | false =>
      obtain ⟨b, more, hwhole, hb⟩ := n.whole.front
      rw [Numeral.unsigned, hwhole]
      exact valueWith_digit hb _
  have hyields (inner? : Option (Bytes → Read Value)) :
      Yields rest (n.number?.map .number) (valueWith inner? (n.bytes ++ rest)) := by
    rw [hread, hnumber]
    cases n.number? with
    | none => exact .none _
    | some x => exact .some rfl
  cases depth <;> exact hyields _

lemma string_understood {s : String} (h : Writes s.toList bs) :
    Understood depth (.string s) (0x22 :: (bs ++ [0x22])) := by
  intro rest _
  have hyields (inner? : Option (Bytes → Read Value)) :
      Yields rest (some (.string s)) (valueWith inner? (0x22 :: (bs ++ [0x22]) ++ rest)) := by
    have hvalue (bs : Bytes) : valueWith inner? (0x22 :: bs) =
        (Scan.string bs).map fun read => (.string read.1, read.2) := rfl
    have hstring := h.string rest
    rw [List.cons_append, hvalue, List.append_assoc, List.singleton_append, hstring]
    exact .some rfl
  cases depth <;> exact hyields _

lemma array_understood {items : List Tree} {text : Bytes}
    (h : ∀ depth rest, Yields rest
      (items.foldlM (fun seen t => (t.value? depth).map (· :: seen)) [])
      (Scan.loop Scan.nextItem (item (value depth)) ((text ++ 0x5D :: rest).length + 1) true []
        (text ++ 0x5D :: rest))) :
    Understood depth (.array items) (0x5B :: (text ++ [0x5D])) := by
  intro rest _
  cases depth with
  | zero => exact .none .malformed
  | succ depth =>
    have hvalue (bs : Bytes) : value (depth + 1) (0x5B :: bs) =
        (Scan.loop Scan.nextItem (item (value depth)) (bs.length + 1) true [] bs).map
          fun read => (.array read.1.reverse, read.2) := by
      rw [← Scan.items_eq_loop]
      rfl
    rw [List.cons_append, List.append_assoc, List.singleton_append, hvalue, Tree.value?]
    exact (h depth rest).map _

lemma object_understood {members : List (String × Tree)} {text : Bytes}
    (h : ∀ depth rest, Yields rest
      (members.foldlM (fun seen m => (m.2.value? depth).map (Value.insert m.1 · seen)) [])
      (Scan.loop Scan.nextKey (member (value depth)) ((text ++ 0x7D :: rest).length + 1) true []
        (text ++ 0x7D :: rest))) :
    Understood depth (.object members) (0x7B :: (text ++ [0x7D])) := by
  intro rest _
  cases depth with
  | zero => exact .none .malformed
  | succ depth =>
    have hvalue (bs : Bytes) : value (depth + 1) (0x7B :: bs) =
        (Scan.loop Scan.nextKey (member (value depth)) (bs.length + 1) true [] bs).map
          fun read => (.object read.1, read.2) := by
      rw [← Scan.members_eq_loop]
      rfl
    rw [List.cons_append, List.append_assoc, List.singleton_append, hvalue, Tree.value?]
    exact (h depth rest).map _

lemma loop_empty {σ : Type} {next : Bool → Bytes → Except Fault (Option Bytes × Bytes)}
    {step : σ → Bytes → Read σ} {close : UInt8} (hclose : Closes next close) {gap : Bytes}
    (hgap : IsGap gap) (fuel : Nat) (state : σ) (rest : Bytes) :
    Scan.loop next step (fuel + 1) true state (gap ++ close :: rest) = .ok (state, rest) := by
  have hskip : skipSpace (gap ++ close :: rest) = close :: rest := by
    rw [skipSpace_gap hgap]
    apply skipSpace_of_front
    obtain hb | hb := hclose.bracket <;> rw [hb] <;> rfl
  rw [Scan.loop, hclose.found true hskip]

lemma parts_fuel (close : UInt8) {ι : Type} (text : ι → Bytes) (parts : List ι) (rest : Bytes) :
    parts.length < (Text.join 0x2C (parts.map text) ++ close :: rest).length + 1 := by
  have hjoin := Text.length_le_join 0x2C (parts.map text)
  simp only [List.length_append, List.length_cons, List.length_map] at hjoin ⊢
  omega

lemma spelled_understood (h : Spells t bs) (depth : Nat) : Understood depth t bs := by
  -- the depth goes down by one where an array or an object is entered
  induction h generalizing depth with
  | null => cases depth <;> exact fun rest _ => .some rfl
  | true => cases depth <;> exact fun rest _ => .some rfl
  | false => cases depth <;> exact fun rest _ => .some rfl
  | number n => exact numeral_understood n
  | string hwrites => exact string_understood hwrites
  | noItems hgap =>
    apply array_understood
    intro depth rest
    rw [loop_empty nextItem_closes hgap]
    exact .some rfl
  | @items parts hne hparts ih =>
    apply array_understood
    intro depth rest
    rw [List.foldlM_map]
    exact loop_parts nextItem_closes hne
      (fun part hpart => item_isPart (hparts part hpart) (ih part hpart depth))
      (parts_fuel 0x5D _ parts rest) [] rest
  | noMembers hgap =>
    apply object_understood
    intro depth rest
    rw [loop_empty nextKey_closes hgap]
    exact .some rfl
  | @members entries hne hkeys hentries ih =>
    apply object_understood
    intro depth rest
    rw [List.foldlM_map]
    exact loop_parts nextKey_closes hne
      (fun e he => member_isPart (hkeys e he) (ih e he depth))
      (parts_fuel 0x7D _ entries rest) [] rest
  | @spaced t before bs after hbefore hspells hafter ih =>
    intro rest hrest
    have hstops : Stops (after ++ rest) := by rwa [Stops, skipSpace_gap hafter]
    rw [← value_skipSpace, List.append_assoc, skipSpace_gap hbefore, value_skipSpace,
      List.append_assoc]
    exact (ih depth _ hstops).of_skipSpace (skipSpace_gap hafter rest)

end Reader

theorem Spells.read? {t : Tree} {bs : Bytes} (h : Spells t bs) :
    Value.read? bs = t.value? Reader.depthLimit := by
  have hyields := Reader.spelled_understood h Reader.depthLimit [] Scan.ends_nil
  rw [List.append_nil] at hyields
  rw [Value.read?, Value.read]
  generalize t.value? Reader.depthLimit = found, Reader.value _ bs = read at hyields ⊢
  cases hyields with
  | none e => rfl
  | some hrest =>
    rw [Reader.finish, hrest]
    rfl

/-! ### Meaning -/

namespace Tree

def IsReadable (t : Tree) : Prop := ∃ v, t.value? Reader.depthLimit = some v

/-- A tree beside the value that it is read as, which has a member of a key where the tree has one.
The items of arrays are left open. -/
inductive Means : Tree → Value → Prop where
  | null : Means .null .null
  | bool (b : Bool) : Means (.bool b) (.bool b)
  | number {n : Numeral} {x : Number} : n.number? = some x → Means (.number n) (.number x)
  | string (s : String) : Means (.string s) (.string s)
  | array (items : List Tree) (values : List Value) : Means (.array items) (.array values)
  | object {members : List (String × Tree)} {values : List (String × Value)} :
    (∀ key, Option.Rel Means (last? members key) (Value.member? values key)) →
    Means (.object members) (.object values)

variable {t : Tree} {v : Value} {depth : Nat}

lemma last?_of_foldlM (h : ∀ t v, value? depth t = some v → Means t v)
    {members : List (String × Tree)} {seen values : List (String × Value)}
    (hread : members.foldlM (fun seen m => (value? depth m.2).map (Value.insert m.1 · seen)) seen =
      some values) (key : String) :
    (last? members key = none ∧ Value.member? values key = Value.member? seen key) ∨
      ∃ t v, last? members key = some t ∧ Value.member? values key = some v ∧ Means t v := by
  induction members generalizing seen with
  | nil =>
    cases hread
    exact .inl ⟨rfl, rfl⟩
  | cons m more ih =>
    rw [List.foldlM_cons] at hread
    obtain ⟨seen', hm, hmore⟩ := Option.bind_eq_some_iff.mp hread
    obtain ⟨v, hv, rfl⟩ := Option.map_eq_some_iff.mp hm
    obtain ⟨hnone, hseen⟩ | ⟨t, w, ht, hw, hmeans⟩ := ih hmore
    · rw [Value.member?_insert] at hseen
      by_cases hkey : m.1 = key
      · rw [if_pos hkey] at hseen
        exact .inr ⟨m.2, v, by simp [last?, hnone, hkey], hseen, h _ _ hv⟩
      · rw [if_neg hkey] at hseen
        exact .inl ⟨by simp [last?, hnone, hkey], hseen⟩
    · exact .inr ⟨t, w, by simp [last?, ht], hw, hmeans⟩

lemma means_of_value? : ∀ {depth : Nat} {t : Tree} {v : Value}, t.value? depth = some v → Means t v
  | depth, .null, v, h => by
    cases depth <;> cases h <;> exact .null
  | depth, .bool b, v, h => by
    cases depth <;> cases h <;> exact .bool b
  | depth, .number n, v, h => by
    have hnumber : n.number?.map .number = some v := by cases depth <;> exact h
    obtain ⟨x, hx, rfl⟩ := Option.map_eq_some_iff.mp hnumber
    exact .number hx
  | depth, .string s, v, h => by
    cases depth <;> cases h <;> exact .string s
  | depth + 1, .array items, v, h => by
    obtain ⟨values, -, rfl⟩ := Option.map_eq_some_iff.mp h
    exact .array items _
  | depth + 1, .object members, v, h => by
    obtain ⟨values, hvalues, rfl⟩ := Option.map_eq_some_iff.mp h
    refine .object fun key => ?_
    obtain ⟨hnone, hmember⟩ | ⟨t, v, hlast, hmember, hmeans⟩ :=
      last?_of_foldlM (fun _ _ => means_of_value?) hvalues key
    · rw [hnone, hmember]
      exact .none
    · rw [hlast, hmember]
      exact .some hmeans

lemma Means.zero_iff (h : Means t v) :
    v = .number (.int 0) ↔ ∃ n, t = .number n ∧ n.bytes = [0x30] := by
  cases h with
  | @number n x hx => simp [← Scan.number?_zero, hx]
  | _ => simp

lemma Means.bool_iff (h : Means t v) (b : Bool) : v = .bool b ↔ t = .bool b := by
  cases h <;> simp

end Tree
end StorageConsole.Json
