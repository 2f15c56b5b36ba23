import Mathlib.Tactic.Lemma
import Mathlib.Tactic.SplitIfs
import StorageConsole.Json.Reader

namespace StorageConsole.Json

namespace Value

inductive Ordered : Value → Prop where
  | null : Ordered .null
  | bool (b : Bool) : Ordered (.bool b)
  | number (n : Number) : Ordered (.number n)
  | string (s : String) : Ordered (.string s)
  | array {items : List Value} : (∀ v ∈ items, Ordered v) → Ordered (.array items)
  | object {members : List (String × Value)} : members.Pairwise (·.1 < ·.1) →
    (∀ m ∈ members, Ordered m.2) → Ordered (.object members)

def insertAll (seen members : List (String × Value)) : List (String × Value) :=
  members.foldl (fun seen m => insert m.1 m.2 seen) seen

lemma insert_last {key : String} (value : Value) {seen : List (String × Value)}
    (h : ∀ m ∈ seen, m.1 < key) : insert key value seen = seen ++ [(key, value)] := by
  induction seen with
  | nil => rfl
  | cons m seen ih =>
    have hm : m.1 < key := h m List.mem_cons_self
    have hne : key ≠ m.1 := by
      rintro rfl
      exact String.lt_irrefl _ hm
    rw [insert, if_neg (String.lt_asymm hm), if_neg hne,
      ih fun m' hm' => h m' (List.mem_cons_of_mem m hm'), List.cons_append]

lemma insertAll_ascending {seen members : List (String × Value)}
    (h : (seen ++ members).Pairwise (·.1 < ·.1)) : insertAll seen members = seen ++ members := by
  induction members generalizing seen with
  | nil => exact (List.append_nil seen).symm
  | cons m more ih =>
    have hlast := insert_last m.2 (fun m' hm' =>
      (List.pairwise_append.mp h).2.2 m' hm' m List.mem_cons_self)
    have hmore : (seen ++ [(m.1, m.2)] ++ more).Pairwise (·.1 < ·.1) := by simpa using h
    have hstep : insertAll seen (m :: more) = insertAll (seen ++ [(m.1, m.2)]) more := by
      rw [← hlast]
      rfl
    rw [hstep, ih hmore, List.append_assoc, List.singleton_append]

lemma member?_cons (m : String × Value) (members : List (String × Value)) (key : String) :
    member? (m :: members) key = if m.1 = key then some m.2 else member? members key := by
  by_cases h : m.1 = key <;> simp [member?, h]

lemma member?_insert (key : String) (value : Value) (members : List (String × Value)) (k : String) :
    member? (insert key value members) k = if key = k then some value else member? members k := by
  induction members with
  | nil => exact member?_cons _ _ _
  | cons m more ih =>
    rw [insert]
    split
    · exact member?_cons _ _ _
    · split
      · rename_i hsame
        rw [member?_cons, member?_cons, ← hsame]
        split <;> rfl
      · rename_i hdiffers
        rw [member?_cons, member?_cons, ih]
        by_cases hk : m.1 = k
        · have hkey : ¬key = k := fun h => hdiffers (h.trans hk.symm)
          rw [if_pos hk, if_neg hkey, if_pos hk]
        · rw [if_neg hk, if_neg hk]

lemma mem_insert {key : String} {value : Value} {members : List (String × Value)}
    {m : String × Value} (h : m ∈ insert key value members) : m = (key, value) ∨ m ∈ members := by
  induction members with
  | nil => exact .inl (List.mem_singleton.mp h)
  | cons m' more ih =>
    rw [insert] at h
    split_ifs at h with hbefore hsame
    · exact List.mem_cons.mp h
    · exact (List.mem_cons.mp h).imp_right (List.mem_cons_of_mem m')
    · rcases List.mem_cons.mp h with rfl | h
      · exact .inr List.mem_cons_self
      · exact (ih h).imp_right (List.mem_cons_of_mem m')

lemma insert_ascending {key : String} {value : Value} {members : List (String × Value)}
    (h : members.Pairwise (·.1 < ·.1)) : (insert key value members).Pairwise (·.1 < ·.1) := by
  induction members with
  | nil => exact List.pairwise_singleton _ _
  | cons m' more ih =>
    obtain ⟨hfirst, hmore⟩ := List.pairwise_cons.mp h
    rw [insert]
    split_ifs with hbefore hsame
    · refine List.pairwise_cons.mpr ⟨?_, h⟩
      intro m hm
      rcases List.mem_cons.mp hm with rfl | hm
      · exact hbefore
      · exact String.lt_trans hbefore (hfirst m hm)
    · rw [hsame]
      exact List.pairwise_cons.mpr ⟨hfirst, hmore⟩
    · refine List.pairwise_cons.mpr ⟨?_, ih hmore⟩
      intro m hm
      rcases mem_insert hm with rfl | hm
      · exact Std.lt_of_le_of_ne (String.not_lt.mp hbefore) (Ne.symm hsame)
      · exact hfirst m hm

end Value

lemma ok_of_toOption {ε α : Type} {r : Except ε α} {a : α} (h : r.toOption = some a) :
    r = .ok a := by
  cases r with
  | error e => cases h
  | ok b => exact congrArg Except.ok (Option.some.inj h)

lemma ok_of_map {α β : Type} {r : Except Fault α} {f : α → β} {b : β} (h : r.map f = .ok b) :
    ∃ a, r = .ok a ∧ f a = b := by
  cases r with
  | error e => cases h
  | ok a => exact ⟨a, rfl, Except.ok.inj h⟩

lemma Reader.ok_of_finish {α : Type} {r : Read α} {a : α} (h : finish r = .ok a) :
    ∃ rest, r = .ok (a, rest) := by
  cases r with
  | error e => cases h
  | ok result =>
    obtain ⟨a', rest⟩ := result
    rw [finish] at h
    split_ifs at h
    cases h
    exact ⟨rest, rfl⟩

namespace Scan

variable {σ : Type} {next : Bool → Bytes → Except Fault (Option Bytes × Bytes)}
  {step : σ → Bytes → Read σ}

def loop (next : Bool → Bytes → Except Fault (Option Bytes × Bytes)) (step : σ → Bytes → Read σ) :
    (fuel : Nat) → Bool → σ → Bytes → Read σ
  | 0, _, _, _ => .error .truncated
  | fuel + 1, first, state, bs =>
    match next first bs with
    | .error e => .error e
    | .ok (none, rest) => .ok (state, rest)
    | .ok (some start, _) =>
      match step state start with
      | .error e => .error e
      | .ok (state, rest) => loop next step fuel false state rest

lemma items_eq_loop (step : σ → Bytes → Read σ) : items step = loop nextItem step := by
  funext fuel first state bs
  induction fuel generalizing first state bs with
  | zero => rfl
  | succ fuel ih =>
    rw [items, loop]
    cases nextItem first bs with
    | error e => rfl
    | ok found =>
      obtain ⟨_ | start, rest⟩ := found
      · rfl
      · cases hstep : step state start with
        | error e => simp only [hstep]
        | ok next => simpa only [hstep] using ih false next.1 next.2

lemma members_eq_loop (step : σ → Bytes → Read σ) : members step = loop nextKey step := by
  funext fuel first state bs
  induction fuel generalizing first state bs with
  | zero => rfl
  | succ fuel ih =>
    rw [members, loop]
    cases nextKey first bs with
    | error e => rfl
    | ok found =>
      obtain ⟨_ | start, rest⟩ := found
      · rfl
      · cases hstep : step state start with
        | error e => simp only [hstep]
        | ok next => simpa only [hstep] using ih false next.1 next.2

lemma loop_keep {P : σ → Prop} {state last : σ} {bs rest : Bytes}
    (hstep : ∀ state bs next rest, step state bs = .ok (next, rest) → P state → P next)
    {fuel : Nat} {first : Bool} (h : loop next step fuel first state bs = .ok (last, rest))
    (hstate : P state) : P last := by
  induction fuel generalizing first state bs with
  | zero => cases h
  | succ fuel ih =>
    rw [loop] at h
    split at h
    · cases h
    · cases h
      exact hstate
    · split at h
      · cases h
      · rename_i hnext
        exact ih h (hstep _ _ _ _ hnext hstate)

end Scan

namespace Reader

variable {bs rest : Bytes}

def ReadsOrdered (inner : Bytes → Read Value) : Prop :=
  ∀ bs v rest, inner bs = .ok (v, rest) → v.Ordered

variable {inner : Bytes → Read Value} {v : Value}

lemma item_ordered (hinner : ReadsOrdered inner) {seen seen' : List Value}
    (h : item inner seen bs = .ok (seen', rest)) (hseen : ∀ v ∈ seen, v.Ordered) :
    ∀ v ∈ seen', v.Ordered := by
  rw [item] at h
  split at h
  · cases h
  · rename_i hread
    cases h
    exact List.forall_mem_cons.mpr ⟨hinner _ _ _ hread, hseen⟩

lemma member_ordered (hinner : ReadsOrdered inner) {seen seen' : List (String × Value)}
    (h : member inner seen bs = .ok (seen', rest)) (hseen : (Value.object seen).Ordered) :
    (Value.object seen').Ordered := by
  cases hseen with
  | object hascending hordered =>
    rw [member] at h
    split at h
    · cases h
    · split at h
      · cases h
      · split at h
        · cases h
        · rename_i hread
          cases h
          refine .object (Value.insert_ascending hascending) ?_
          intro m hm
          rcases Value.mem_insert hm with rfl | hm
          · exact hinner _ _ _ hread
          · exact hordered m hm

lemma valueWith_ordered {inner? : Option (Bytes → Read Value)}
    (hinner : ∀ inner ∈ inner?, ReadsOrdered inner) : ReadsOrdered (valueWith inner?) := by
  intro bs v rest h
  rw [valueWith] at h
  split at h
  · cases h
  · split_ifs at h with hn ht hf hm hd hs ha ho
    · obtain ⟨_, -, heq⟩ := ok_of_map h
      cases heq
      exact .null
    · obtain ⟨_, -, heq⟩ := ok_of_map h
      cases heq
      exact .bool true
    · obtain ⟨_, -, heq⟩ := ok_of_map h
      cases heq
      exact .bool false
    · obtain ⟨_, -, heq⟩ := ok_of_map h
      cases heq
      exact .number _
    · obtain ⟨_, -, heq⟩ := ok_of_map h
      cases heq
      exact .number _
    · obtain ⟨_, -, heq⟩ := ok_of_map h
      cases heq
      exact .string _
    · split at h
      · cases h
      · obtain ⟨⟨items, _⟩, hitems, heq⟩ := ok_of_map h
        cases heq
        rw [Scan.items_eq_loop] at hitems
        have hall : ∀ v ∈ items, v.Ordered :=
          Scan.loop_keep (fun _ _ _ _ => item_ordered (hinner _ rfl)) hitems (by simp)
        exact .array fun v hv => hall v (List.mem_reverse.mp hv)
    · split at h
      · cases h
      · obtain ⟨⟨members, _⟩, hmembers, heq⟩ := ok_of_map h
        cases heq
        rw [Scan.members_eq_loop] at hmembers
        exact Scan.loop_keep (P := fun ms => (Value.object ms).Ordered)
          (fun _ _ _ _ => member_ordered (hinner _ rfl)) hmembers (.object .nil (by simp))

lemma value_ordered (depth : Nat) : ReadsOrdered (value depth) := by
  induction depth with
  | zero => exact valueWith_ordered (by simp)
  | succ depth ih => exact valueWith_ordered (by simpa using ih)

end Reader

lemma Value.value_of_read? {bs : Bytes} {v : Value} (h : Value.read? bs = some v) :
    ∃ rest, Reader.value Reader.depthLimit bs = .ok (v, rest) := by
  cases hread : Value.read bs with
  | error e =>
    rw [read?, hread] at h
    cases h
  | ok w =>
    rw [read?, hread] at h
    cases h
    exact Reader.ok_of_finish hread

lemma Value.read?_ordered {bs : Bytes} {v : Value} (h : Value.read? bs = some v) : v.Ordered := by
  obtain ⟨rest, hvalue⟩ := Value.value_of_read? h
  exact Reader.value_ordered _ _ _ _ hvalue

end StorageConsole.Json
