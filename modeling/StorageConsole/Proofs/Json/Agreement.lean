import StorageConsole.Json.Record
import StorageConsole.Proofs.Json.Numbers
import StorageConsole.Proofs.Json.Ordered

/-! Different readers of one text stop at the same place wherever both succeed. -/

namespace StorageConsole.Json

def Agree {α β : Type} (related : α → β → Prop) (read : Bytes → Read α) (read' : Bytes → Read β) :
    Prop :=
  ∀ bs a b rest rest', read bs = .ok (a, rest) → read' bs = .ok (b, rest') →
    rest = rest' ∧ related a b

namespace Scan

variable {bs rest rest' : Bytes}

/-! ### Numbers -/

variable {negative : Bool} {significand : Nat} {start : Int} {n : Number}

lemma real_rest (h : real negative significand start bs = .ok (n, rest)) : rest = bs := by
  rw [real] at h
  cases hreal : real? negative significand start with
  | none =>
    rw [hreal] at h
    cases h
  | some x =>
    rw [hreal] at h
    cases h
    rfl

lemma passExponent_of_exponentPart
    (h : exponentPart negative significand start bs = .ok (n, rest)) :
    passExponent bs = .ok rest := by
  -- the digits after the sign, for either sign and none
  have hdigits (down : Bool) (bs : Bytes) (h : (if digitNext bs then
        real negative significand (if down then start - (natural bs).1 else start + (natural bs).1)
          (natural bs).2
      else if bs.isEmpty then .error .truncated
      else .error .malformed) = .ok (n, rest)) :
      (if digitNext bs then .ok (passDigits bs).2 else .error .malformed : Except Fault Bytes) =
        .ok rest := by
    split at h
    · rename_i hnext
      rw [if_pos hnext, real_rest h]
      rfl
    · split at h <;> cases h
  cases bs with
  | nil => exact hdigits false [] h
  | cons b bs =>
    by_cases hplus : b = 0x2B
    · subst hplus
      exact hdigits false bs h
    · by_cases hminus : b = 0x2D
      · subst hminus
        exact hdigits true bs h
      · simp only [exponentPart, hplus, hminus, if_false] at h
        simp only [passExponent, hplus, hminus, or_self, if_false]
        exact hdigits false (b :: bs) h

lemma pass_of_fractionPart (h : fractionPart negative significand start bs = .ok (n, rest)) :
    digitNext bs = true ∧
      (if exponentNext (passDigits bs).2 then passExponent ((passDigits bs).2.drop 1)
        else .ok (passDigits bs).2) = .ok rest := by
  have hpassed : (passDigits (gather significand bs).2).2 = (passDigits bs).2 :=
    dropWhile_gather significand bs
  simp only [fractionPart, hpassed] at h
  split at h
  · cases h
  · rename_i hsome
    refine ⟨?_, ?_⟩
    · cases hnext : digitNext bs with
      | true => rfl
      | false =>
        have hnone := gather_no_digit significand hnext
        simp [hnone, hnext] at hsome
    · split at h
      · rename_i hexponent
        rw [if_pos hexponent]
        exact passExponent_of_exponentPart h
      · rename_i hexponent
        rw [if_neg hexponent, real_rest h]

lemma passNumber_of_number (h : number negative bs = .ok (n, rest)) :
    passNumber bs = .ok rest := by
  cases bs with
  | nil => cases h
  | cons b bs =>
    have hpassed : (passDigits (gather 0 (b :: bs)).2).2 = (passDigits (b :: bs)).2 :=
      dropWhile_gather 0 (b :: bs)
    simp only [number, hpassed] at h
    split at h
    · cases h
    · rename_i hdigit
      split at h
      · cases h
      · rename_i hzero
        have hnext : digitNext (b :: bs) = true := by simpa [digitNext] using hdigit
        have hlead : ¬((b :: bs).head? = some 0x30 ∧ digitNext ((b :: bs).drop 1) = true) := by
          simpa using hzero
        simp only [passNumber, hnext, Bool.not_true, Bool.false_eq_true, if_false, hlead]
        split at h
        · rename_i hpoint
          obtain ⟨hfraction, hpass⟩ := pass_of_fractionPart h
          simp only [hpoint, if_true, hfraction, Bool.not_true, Bool.false_eq_true, if_false]
          exact hpass
        · rename_i hpoint
          simp only [hpoint, if_false]
          split at h
          · rename_i hexponent
            rw [if_pos hexponent]
            exact passExponent_of_exponentPart h
          · rename_i hexponent
            rw [if_neg hexponent]
            -- what is left decides between an integer and a real number
            split_ifs at h
            · rw [real_rest h]
            · cases h
              rfl
            · rw [real_rest h]
            · cases h
              rfl

/-! ### Strings -/

lemma trailingSurrogate_unit {n : Nat} (h : trailingSurrogate bs = .ok (n, rest)) :
    ∃ more, bs = 0x5C :: 0x75 :: more ∧ codeUnit more = .ok (n, rest) := by
  unfold trailingSurrogate at h
  split at h
  · cases h
  · split_ifs at h with hbackslash
    split at h
    · cases h
    · split_ifs at h with hu
      split at h
      · cases h
      · rename_i hunit
        split_ifs at h
        cases h
        exact ⟨_, by rw [Decidable.not_not.mp hbackslash, Decidable.not_not.mp hu], hunit⟩

lemma unicodeEscape_units {c : Char} (h : unicodeEscape bs = .ok (c, rest)) :
    ∃ n after, codeUnit bs = .ok (n, after) ∧
      (rest = after ∨ ∃ m more, after = 0x5C :: 0x75 :: more ∧ codeUnit more = .ok (m, rest)) := by
  rw [unicodeEscape] at h
  split at h
  · cases h
  · rename_i n after hunit
    refine ⟨n, after, hunit, ?_⟩
    split_ifs at h
    · cases h
      exact .inl rfl
    · split at h
      · cases h
      · rename_i m _ hsecond
        simp only [Except.ok.injEq, Prod.mk.injEq] at h
        obtain ⟨more, hafter, hmore⟩ := trailingSurrogate_unit hsecond
        exact .inr ⟨m, more, hafter, h.2 ▸ hmore⟩

lemma passString_unit {fuel n : Nat} {after : Bytes} (hunit : codeUnit bs = .ok (n, after))
    (h : passString fuel (0x5C :: 0x75 :: bs) = .ok rest) :
    ∃ fuel', passString fuel' after = .ok rest := by
  cases fuel with
  | zero => cases h
  | succ fuel =>
    refine ⟨fuel, ?_⟩
    rw [passString, if_neg (by decide), if_pos rfl] at h
    simpa only [if_true, hunit] using h

lemma passString_of_stringBytes {fuel fuel' : Nat} {seen raw : Bytes}
    (h : stringBytes fuel seen bs = .ok (raw, rest)) (h' : passString fuel' bs = .ok rest') :
    rest = rest' := by
  -- a pair of surrogates is one step of the reader and two for what passes over it
  induction fuel generalizing fuel' seen bs with
  | zero => cases h
  | succ fuel ih =>
    cases bs with
    | nil => cases h
    | cons b bs =>
      cases fuel' with
      | zero => cases h'
      | succ fuel' =>
        unfold stringBytes at h
        unfold passString at h'
        split_ifs at h h' with hquote hbackslash hcontrol
        · cases h
          cases h'
          rfl
        · cases bs with
          | nil => cases h
          | cons e bs =>
            dsimp only at h h'
            split_ifs at h h' with hu hescaped
            · split at h
              · cases h
              · rename_i hescape
                obtain ⟨n, after, hunit, hone | ⟨m, more, hafter, hsecond⟩⟩ :=
                  unicodeEscape_units hescape
                · simp only [hunit, ← hone] at h'
                  exact ih h h'
                · simp only [hunit, hafter] at h'
                  obtain ⟨fuel', h'⟩ := passString_unit hsecond h'
                  exact ih h h'
            · split at h
              · exact ih h h'
              · cases h
        · exact ih h h'

lemma passString_of_string {fuel : Nat} {s : String} (h : string bs = .ok (s, rest))
    (h' : passString fuel bs = .ok rest') : rest = rest' := by
  rw [string] at h
  split at h
  · cases h
  · rename_i hbytes
    split at h
    · cases h
      exact passString_of_stringBytes hbytes h'
    · cases h

/-! ### Items and members -/

variable {σ τ : Type} {related : σ → τ → Prop} {step : σ → Bytes → Read σ}
  {step' : τ → Bytes → Read τ}

lemma loop_agree {next : Bool → Bytes → Except Fault (Option Bytes × Bytes)}
    (hstep : ∀ s t, related s t → Agree related (step s) (step' t))
    {fuel fuel' : Nat} {first : Bool} {s last : σ} {t last' : τ}
    (h : loop next step fuel first s bs = .ok (last, rest))
    (h' : loop next step' fuel' first t bs = .ok (last', rest')) (hrelated : related s t) :
    rest = rest' ∧ related last last' := by
  induction fuel generalizing fuel' first s t bs with
  | zero => cases h
  | succ fuel ih =>
    cases fuel' with
    | zero => cases h'
    | succ fuel' =>
      rw [loop] at h h'
      cases hnext : next first bs with
      | error e =>
        rw [hnext] at h
        cases h
      | ok found =>
        obtain ⟨_ | start, after⟩ := found
        · rw [hnext] at h h'
          cases h
          cases h'
          exact ⟨rfl, hrelated⟩
        · rw [hnext] at h h'
          dsimp only at h h'
          split at h
          · cases h
          · rename_i hread
            split at h'
            · cases h'
            · rename_i hread'
              obtain ⟨rfl, hnext⟩ := hstep s t hrelated _ _ _ _ _ hread hread'
              exact ih h h' hnext

lemma items_agree (hstep : ∀ s t, related s t → Agree related (step s) (step' t))
    {fuel fuel' : Nat} {first : Bool} {s last : σ} {t last' : τ}
    (h : items step fuel first s bs = .ok (last, rest))
    (h' : items step' fuel' first t bs = .ok (last', rest')) (hrelated : related s t) :
    rest = rest' ∧ related last last' := by
  rw [items_eq_loop] at h h'
  exact loop_agree hstep h h' hrelated

lemma members_agree (hstep : ∀ s t, related s t → Agree related (step s) (step' t))
    {fuel fuel' : Nat} {first : Bool} {s last : σ} {t last' : τ}
    (h : members step fuel first s bs = .ok (last, rest))
    (h' : members step' fuel' first t bs = .ok (last', rest')) (hrelated : related s t) :
    rest = rest' ∧ related last last' := by
  rw [members_eq_loop] at h h'
  exact loop_agree hstep h h' hrelated

end Scan

/-! ### Values -/

open Scan (skipSpace)

variable {bs rest rest' : Bytes}

lemma same_map {α β : Type} {r : Except Fault Bytes} {a c : α} {b d : β}
    (h : r.map (a, ·) = .ok (c, rest)) (h' : r.map (b, ·) = .ok (d, rest')) :
    rest = rest' ∧ a = c ∧ b = d := by
  obtain ⟨_, hr, heq⟩ := ok_of_map h
  obtain ⟨_, hr', heq'⟩ := ok_of_map h'
  rw [hr] at hr'
  cases hr'
  cases heq
  cases heq'
  exact ⟨rfl, rfl, rfl⟩

namespace Skip

def Passes (read : Bytes → Read Value) (pass : Bytes → Read Unit) : Prop :=
  Agree (fun _ _ => True) read pass

variable {read : Bytes → Read Value} {pass : Bytes → Read Unit}

lemma item_passes (h : Passes read pass) (seen : List Value) :
    Agree (fun _ _ => True) (Reader.item read seen) pass := by
  intro bs a b rest rest' hread hpass
  rw [Reader.item] at hread
  split at hread
  · cases hread
  · rename_i hvalue
    cases hread
    exact h _ _ _ _ _ hvalue hpass

def member (pass : Bytes → Read Unit) (bs : Bytes) : Read Unit :=
  match Scan.passString (bs.length + 1) bs with
  | .error e => .error e
  | .ok rest =>
    match Scan.colon rest with
    | .error e => .error e
    | .ok rest => pass rest

lemma member_passes (h : Passes read pass) (seen : List (String × Value)) :
    Agree (fun _ _ => True) (Reader.member read seen) (member pass) := by
  intro bs a b rest rest' hread hpass
  rw [Reader.member] at hread
  rw [member] at hpass
  split at hread
  · cases hread
  · rename_i hkey
    split at hpass
    · cases hpass
    · rename_i hkey'
      obtain rfl := Scan.passString_of_string hkey hkey'
      split at hread
      · cases hread
      · rename_i hcolon
        rw [hcolon] at hpass
        split at hread
        · cases hread
        · rename_i hvalue
          cases hread
          exact h _ _ _ _ _ hvalue hpass

lemma number_passes {negative : Bool} {v : Value} {u : Unit}
    (h : (Scan.number negative bs).map (fun (n, rest) => (Value.number n, rest)) = .ok (v, rest))
    (h' : (Scan.passNumber bs).map ((), ·) = .ok (u, rest')) : rest = rest' := by
  obtain ⟨⟨n, _⟩, hnumber, heq⟩ := ok_of_map h
  rw [Scan.passNumber_of_number hnumber] at h'
  cases heq
  cases h'
  rfl

lemma valueWith_passes {read? : Option (Bytes → Read Value)} {pass? : Option (Bytes → Read Unit)}
    (h : ∀ read ∈ read?, ∀ pass ∈ pass?, Passes read pass) :
    Passes (Reader.valueWith read?) (valueWith pass?) := by
  intro bs v u rest rest' hread hpass
  refine ⟨?_, trivial⟩
  rw [Reader.valueWith] at hread
  rw [valueWith] at hpass
  cases hskip : skipSpace bs with
  | nil =>
    rw [hskip] at hread
    cases hread
  | cons b bs =>
    rw [hskip] at hread hpass
    dsimp only at hread hpass
    -- the first byte tells both what comes
    split_ifs at hread hpass with hn ht hf hm hd hs ha ho
    · exact (same_map hread hpass).1
    · exact (same_map hread hpass).1
    · exact (same_map hread hpass).1
    · exact number_passes hread hpass
    · exact number_passes hread hpass
    · obtain ⟨⟨s, _⟩, hstring, heq⟩ := ok_of_map hread
      obtain ⟨_, hpassed, heq'⟩ := ok_of_map hpass
      cases heq
      cases heq'
      exact Scan.passString_of_string hstring hpassed
    · cases read? with
      | none => cases hread
      | some read =>
        cases pass? with
        | none => cases hpass
        | some pass =>
          obtain ⟨⟨items, _⟩, hitems, heq⟩ := ok_of_map hread
          cases heq
          exact (Scan.items_agree (fun seen _ _ => item_passes (h read rfl pass rfl) seen) hitems
            hpass trivial).1
    · cases read? with
      | none => cases hread
      | some read =>
        cases pass? with
        | none => cases hpass
        | some pass =>
          obtain ⟨⟨members, _⟩, hmembers, heq⟩ := ok_of_map hread
          cases heq
          have hpassed : Scan.members (fun _ => member pass) (bs.length + 1) true () bs =
              .ok (u, rest') := hpass
          exact (Scan.members_agree (fun seen _ _ => member_passes (h read rfl pass rfl) seen)
            hmembers hpassed trivial).1

lemma value_passes (depth depth' : Nat) : Passes (Reader.value depth) (nested depth') := by
  induction depth generalizing depth' with
  | zero => cases depth' <;> exact valueWith_passes (by simp)
  | succ depth ih =>
    cases depth' with
    | zero => exact valueWith_passes (by simp)
    | succ depth' => exact valueWith_passes (by simpa using ih depth')

end Skip

namespace Record

variable {inner? : Option (Bytes → Read Value)}

lemma bool_agrees : Agree (fun b v => v = .bool b) bool (Reader.valueWith inner?) := by
  intro bs b v rest rest' h h'
  rw [bool] at h
  rw [Reader.valueWith] at h'
  cases hskip : skipSpace bs with
  | nil =>
    rw [hskip] at h
    cases h
  | cons first bs =>
    rw [hskip] at h h'
    dsimp only at h h'
    split_ifs at h with ht hf
    · subst ht
      have hvalue : (Scan.literal [0x72, 0x75, 0x65] bs).map (Value.bool true, ·) =
          .ok (v, rest') := h'
      obtain ⟨hrest, rfl, rfl⟩ := same_map h hvalue
      exact ⟨hrest, rfl⟩
    · subst hf
      have hvalue : (Scan.literal [0x61, 0x6C, 0x73, 0x65] bs).map (Value.bool false, ·) =
          .ok (v, rest') := h'
      obtain ⟨hrest, rfl, rfl⟩ := same_map h hvalue
      exact ⟨hrest, rfl⟩

lemma string_agrees : Agree (fun s v => v = .string s) string (Reader.valueWith inner?) := by
  intro bs s v rest rest' h h'
  rw [string] at h
  rw [Reader.valueWith] at h'
  cases hskip : skipSpace bs with
  | nil =>
    rw [hskip] at h
    cases h
  | cons first bs =>
    rw [hskip] at h h'
    dsimp only at h h'
    split_ifs at h with hquote
    subst hquote
    have hvalue : (Scan.string bs).map (fun read => (Value.string read.1, read.2)) =
        .ok (v, rest') := h'
    rw [h] at hvalue
    cases hvalue
    exact ⟨rfl, rfl⟩

lemma map_ne {α β : Type} {r : Except Fault α} {f : α → Value × β} {v : Value} {b : β}
    (hf : ∀ a, (f a).1 ≠ v) : r.map f ≠ .ok (v, b) := by
  intro h
  obtain ⟨a, -, heq⟩ := ok_of_map h
  exact hf a (congrArg Prod.fst heq)

lemma null_front (h : Reader.valueWith inner? bs = .ok (.null, rest)) :
    ∃ more, skipSpace bs = 0x6E :: more := by
  rw [Reader.valueWith] at h
  split at h
  · cases h
  · rename_i b more hskip
    by_cases hn : b = 0x6E
    · exact ⟨more, hn ▸ hskip⟩
    · cases inner? with
      | none => split_ifs at h <;> exact absurd h (map_ne (by simp))
      | some inner => split_ifs at h <;> exact absurd h (map_ne (by simp))

lemma object_front {inner : Bytes → Read Value} {members : List (String × Value)}
    (h : Reader.valueWith (some inner) bs = .ok (.object members, rest)) :
    ∃ more, skipSpace bs = 0x7B :: more ∧
      Scan.members (Reader.member inner) (more.length + 1) true [] more = .ok (members, rest) := by
  rw [Reader.valueWith] at h
  split at h
  · cases h
  · rename_i b more hskip
    by_cases hbrace : b = 0x7B
    · subst hbrace
      obtain ⟨⟨_, _⟩, hmembers, heq⟩ := ok_of_map h
      cases heq
      exact ⟨more, hskip, hmembers⟩
    · split_ifs at h <;> exact absurd h (map_ne (by simp))

lemma optional_agrees :
    Agree (fun d v => d = if v.isNull then none else some v)
      (optional (Reader.valueWith inner?)) (Reader.valueWith inner?) := by
  intro bs d v rest rest' h h'
  rw [optional] at h
  cases hskip : skipSpace bs with
  | nil =>
    rw [hskip] at h
    cases h
  | cons first more =>
    rw [hskip] at h
    dsimp only at h
    split_ifs at h with hn
    · subst hn
      have hvalue : (Scan.literal [0x75, 0x6C, 0x6C] more).map (Value.null, ·) =
          .ok (v, rest') := by
        rw [Reader.valueWith, hskip] at h'
        exact h'
      obtain ⟨hrest, rfl, rfl⟩ := same_map h hvalue
      exact ⟨hrest, rfl⟩
    · rw [h'] at h
      cases h
      refine ⟨rfl, ?_⟩
      have hnull : v.isNull = false := by
        cases v with
        | null =>
          obtain ⟨_, hfront⟩ := null_front h'
          rw [hskip] at hfront
          exact absurd (List.cons.inj hfront).1 hn
        | _ => rfl
      simp [hnull]

lemma record_members {σ : Type} {shape : Shape σ} {empty last : σ} {depth : Nat} {more : Bytes}
    (hfront : skipSpace bs = 0x7B :: more)
    (h : record shape empty (depth + 1) bs = .ok (last, rest)) :
    Scan.members (member shape depth) (more.length + 1) true empty more = .ok (last, rest) ∧
      ∀ field ∈ shape.fields, field.required = true → field.present last = true := by
  rw [record, hfront] at h
  dsimp only at h
  rw [if_neg (by decide), if_pos rfl] at h
  split at h
  · cases h
  · rename_i hmembers
    split at h
    · cases h
    · rename_i hfound
      cases h
      exact ⟨hmembers, by simpa using hfound⟩

end Record

end StorageConsole.Json
