import StorageConsole.Proofs.Json.Numbers

/-! All the ways of writing a number, and what each of them is read as. -/

namespace StorageConsole.Json

open Scan (isDigit digitNext exponentNext)

/-! ### Numerals -/

structure Figures where
  bytes : Bytes
  nonempty : bytes ≠ []
  digits : ∀ b ∈ bytes, isDigit b = true

lemma Figures.front (f : Figures) : ∃ b more, f.bytes = b :: more ∧ isDigit b = true := by
  obtain ⟨b, more, hbytes⟩ := List.exists_cons_of_ne_nil f.nonempty
  exact ⟨b, more, hbytes, f.digits b (by simp [hbytes])⟩

def figuresValue (ds : Bytes) : Nat :=
  ds.foldl (fun n b => n * 10 + (b.toNat - 0x30)) 0

structure Exponent where
  letter : UInt8
  negative : Option Bool
  figures : Figures
  isLetter : letter = 0x65 ∨ letter = 0x45

namespace Exponent

def signBytes : Option Bool → Bytes
  | none => []
  | some false => [0x2B]
  | some true => [0x2D]

def after (e : Exponent) : Bytes := signBytes e.negative ++ e.figures.bytes

def bytes (e : Exponent) : Bytes := e.letter :: e.after

def value (e : Exponent) : Int :=
  if e.negative = some true then -figuresValue e.figures.bytes else figuresValue e.figures.bytes

end Exponent

structure Numeral where
  negative : Bool
  whole : Figures
  fraction : Option Figures
  exponent : Option Exponent
  plain : whole.bytes.head? = some 0x30 → whole.bytes = [0x30]

namespace Numeral

def fractionBytes (n : Numeral) : Bytes := n.fraction.elim [] (0x2E :: ·.bytes)

def exponentBytes (n : Numeral) : Bytes := n.exponent.elim [] Exponent.bytes

def unsigned (n : Numeral) : Bytes := n.whole.bytes ++ (n.fractionBytes ++ n.exponentBytes)

def bytes (n : Numeral) : Bytes := if n.negative then 0x2D :: n.unsigned else n.unsigned

def value (n : Numeral) : Rat :=
  (if n.negative then -1 else 1) *
    figuresValue (n.whole.bytes ++ n.fractionBytes.drop 1) *
    10 ^ (n.exponent.elim 0 Exponent.value - (n.fractionBytes.drop 1).length : Int)

def number? (n : Numeral) : Option Number :=
  (Scan.number n.negative n.unsigned).toOption.map (·.1)

end Numeral

namespace Scan

variable {ds rest : Bytes} {n : Nat}

/-! ### Digits -/

lemma gather_append (hds : ∀ b ∈ ds, isDigit b = true) (hrest : digitNext rest = false) (n : Nat) :
    gather n (ds ++ rest) = ((gather n ds).1, (gather n ds).2 ++ rest) := by
  induction ds generalizing n with
  | nil => exact gather_no_digit n hrest
  | cons b ds ih =>
    rw [List.cons_append, gather, gather]
    split
    · exact ih (fun b' hb' => hds b' (List.mem_cons_of_mem b hb')) _
    · rfl

lemma mem_of_mem_gather {b : UInt8} (h : b ∈ (gather n ds).2) : b ∈ ds := by
  induction ds generalizing n with
  | nil => exact h
  | cons b' ds ih =>
    rw [gather] at h
    split at h
    · exact List.mem_cons_of_mem b' (ih h)
    · exact h

lemma le_gather (n : Nat) (ds : Bytes) : n ≤ (gather n ds).1 := by
  induction ds generalizing n with
  | nil => exact Nat.le_refl n
  | cons b ds ih =>
    rw [gather]
    split
    · exact Nat.le_trans (by omega) (ih _)
    · exact Nat.le_refl n

lemma takeWhile_digits (hds : ∀ b ∈ ds, isDigit b = true) (hrest : digitNext rest = false) :
    (ds ++ rest).takeWhile isDigit = ds ∧ (ds ++ rest).dropWhile isDigit = rest := by
  have hstop : rest.takeWhile isDigit = [] ∧ rest.dropWhile isDigit = rest := by
    cases rest with
    | nil => exact ⟨rfl, rfl⟩
    | cons b rest =>
      have hb : ¬isDigit b = true := by simpa [digitNext] using hrest
      exact ⟨List.takeWhile_cons_of_neg hb, List.dropWhile_cons_of_neg hb⟩
  rw [List.takeWhile_append_of_pos hds, List.dropWhile_append_of_pos hds, hstop.1, hstop.2]
  exact ⟨List.append_nil ds, rfl⟩

lemma passDigits_append (hds : ∀ b ∈ ds, isDigit b = true) (hrest : digitNext rest = false) :
    passDigits (ds ++ rest) = (ds.length, rest) := by
  obtain ⟨htake, hdrop⟩ := takeWhile_digits hds hrest
  rw [passDigits, htake, hdrop]

lemma natural_append (hds : ∀ b ∈ ds, isDigit b = true) (hrest : digitNext rest = false) :
    natural (ds ++ rest) = (figuresValue ds, rest) := by
  obtain ⟨htake, hdrop⟩ := takeWhile_digits hds hrest
  rw [natural, htake, hdrop]
  rfl

/-! ### Parts of numerals -/

structure Follows (rest : Bytes) : Prop where
  no_digit : digitNext rest = false
  no_point : rest.head? ≠ some 0x2E
  no_exponent : exponentNext rest = false

lemma exponentPart_reads (e : Exponent) (negative : Bool) (significand : Nat) (start : Int) :
    ∃ power, ∀ rest, digitNext rest = false →
      exponentPart negative significand start (e.after ++ rest) =
        real negative significand power rest := by
  obtain ⟨b, more, hfigures, hb⟩ := e.figures.front
  have hplus : b ≠ 0x2B := by rintro rfl; cases hb
  have hminus : b ≠ 0x2D := by rintro rfl; cases hb
  have hsigned (sign : Option Bool) (rest : Bytes) (hrest : digitNext rest = false) :
      exponentPart negative significand start
          (Exponent.signBytes sign ++ e.figures.bytes ++ rest) =
        real negative significand
          (if sign = some true then start - figuresValue e.figures.bytes
            else start + figuresValue e.figures.bytes) rest := by
    have hnext : digitNext (e.figures.bytes ++ rest) = true := by
      rw [hfigures]
      exact hb
    have hnatural := natural_append e.figures.digits hrest
    rcases sign with _ | _ | _
    · rw [hfigures, List.cons_append] at hnext hnatural
      simp [Exponent.signBytes, exponentPart, hfigures, hplus, hminus, hnext, hnatural]
    · simp [Exponent.signBytes, exponentPart, hnext, hnatural]
    · simp [Exponent.signBytes, exponentPart, hnext, hnatural]
  exact ⟨_, hsigned e.negative⟩

lemma exponent_front (e : Exponent) (rest : Bytes) : digitNext (e.bytes ++ rest) = false ∧
    (e.bytes ++ rest).head? ≠ some 0x2E ∧ exponentNext (e.bytes ++ rest) = true := by
  obtain ⟨letter, sign, figures, hletter⟩ := e
  obtain rfl | rfl := hletter <;> exact ⟨rfl, nofun, rfl⟩

lemma exponent_reads (e : Option Exponent) (negative : Bool) (significand : Nat) (start : Int) :
    ∃ power, ∀ rest, Follows rest →
      (if exponentNext (e.elim [] Exponent.bytes ++ rest) then
        exponentPart negative significand start ((e.elim [] Exponent.bytes ++ rest).drop 1)
      else real negative significand start (e.elim [] Exponent.bytes ++ rest)) =
        real negative significand power rest := by
  cases e with
  | none =>
    refine ⟨start, fun rest hrest => ?_⟩
    simp [hrest.no_exponent]
  | some e =>
    obtain ⟨power, hpower⟩ := exponentPart_reads e negative significand start
    refine ⟨power, fun rest hrest => ?_⟩
    exact (if_pos (exponent_front e rest).2.2).trans (hpower rest hrest.no_digit)

lemma exponent_stops (e : Option Exponent) {rest : Bytes} (hrest : Follows rest) :
    digitNext (e.elim [] Exponent.bytes ++ rest) = false ∧
      (e.elim [] Exponent.bytes ++ rest).head? ≠ some 0x2E := by
  cases e with
  | none => exact ⟨hrest.no_digit, hrest.no_point⟩
  | some e =>
    obtain ⟨hdigit, hpoint, -⟩ := exponent_front e rest
    exact ⟨hdigit, hpoint⟩

lemma fractionPart_reads (f : Figures) (e : Option Exponent) (negative : Bool) (significand : Nat)
    (start : Int) :
    ∃ k power, ∀ rest, Follows rest →
      fractionPart negative significand start (f.bytes ++ (e.elim [] Exponent.bytes ++ rest)) =
        real negative k power rest := by
  obtain ⟨b, more, hfigures, hb⟩ := f.front
  obtain ⟨k, left, hread⟩ : ∃ k left, gather significand f.bytes = (k, left) := ⟨_, _, rfl⟩
  have hleft : ∀ b ∈ left, isDigit b = true := by
    intro b hb
    exact f.digits b (mem_of_mem_gather (by rwa [hread]))
  obtain ⟨power, hpower⟩ :=
    exponent_reads e negative k (start - (f.bytes.length - left.length : Nat))
  refine ⟨k, power, fun rest hrest => ?_⟩
  obtain ⟨hstop, -⟩ := exponent_stops e hrest
  have hgather := gather_append f.digits hstop significand
  rw [hread] at hgather
  have htaken : (f.bytes ++ (e.elim [] Exponent.bytes ++ rest)).length -
      (left ++ (e.elim [] Exponent.bytes ++ rest)).length = f.bytes.length - left.length := by
    simp only [List.length_append]
    omega
  -- a digit is taken, or one is left that the significand does not hold
  have hsome : ¬(f.bytes.length - left.length = 0 ∧
      digitNext (left ++ (e.elim [] Exponent.bytes ++ rest)) = false) := by
    rintro ⟨htaken, hnext⟩
    cases left with
    | nil =>
      rw [hfigures] at htaken
      cases htaken
    | cons b' more' => exact absurd ((hleft b' List.mem_cons_self).symm.trans hnext) (by decide)
  rw [← hpower rest hrest, fractionPart, hgather]
  simp only [htaken, hsome, if_false, passDigits_append hleft hstop]

/-! ### Numerals as they are read -/

inductive Reading (n : Numeral) : Prop where
  | real (significand : Nat) (power : Int) : n.bytes ≠ [0x30] →
    (∀ rest, Follows rest → number n.negative (n.unsigned ++ rest) =
      Scan.real n.negative significand power rest) → Reading n
  | int (i : Int) : (i = 0 ↔ n.bytes = [0x30]) →
    (∀ rest, Follows rest → number n.negative (n.unsigned ++ rest) = .ok (.int i, rest)) →
    Reading n

lemma number_front (n : Numeral) (negative : Bool) {rest : Bytes} (hrest : digitNext rest = false) :
    number negative (n.whole.bytes ++ rest) =
      let (k, left) := gather 0 n.whole.bytes
      if rest.head? = some 0x2E then fractionPart negative k left.length (rest.drop 1)
      else if exponentNext rest then exponentPart negative k left.length (rest.drop 1)
      else if 0 < left.length then Scan.real negative k left.length rest
      else if !negative then .ok (.int k, rest)
      else if k = 0 ∨ Nat.pow 2 63 < k then Scan.real negative k 0 rest
      else .ok (.int (-k), rest) := by
  obtain ⟨b, more, hfigures, hb⟩ := n.whole.front
  have hgather := gather_append n.whole.digits hrest 0
  have hleft : ∀ b ∈ (gather 0 n.whole.bytes).2, isDigit b = true :=
    fun b hb => n.whole.digits b (mem_of_mem_gather hb)
  have hlead : ¬(b = 0x30 ∧ digitNext (more ++ rest) = true) := by
    rintro ⟨rfl, hnext⟩
    have hplain := n.plain (by rw [hfigures]; rfl)
    rw [hfigures] at hplain
    obtain rfl : more = [] := List.tail_eq_of_cons_eq hplain
    exact absurd (hrest.symm.trans hnext) (by decide)
  rw [hfigures, List.cons_append] at hgather ⊢
  rw [hfigures] at hleft
  simp only [number, hb, Bool.not_true, hlead, hgather, passDigits_append hleft hrest]
  rfl

lemma gather_eq_zero {n : Numeral} (h : gather 0 n.whole.bytes = (0, [])) :
    n.whole.bytes = [0x30] := by
  obtain ⟨b, more, hfigures, hb⟩ := n.whole.front
  apply n.plain
  rw [hfigures] at h ⊢
  rw [gather] at h
  split at h
  · have hle := le_gather (0 * 10 + (b.toNat - 0x30)) more
    rw [h] at hle
    have hlow : 0x30 ≤ b.toNat := by
      simp only [isDigit, Bool.and_eq_true, decide_eq_true_eq, UInt8.le_iff_toNat_le] at hb
      exact hb.1
    have hzero : b = 0x30 := UInt8.toNat_inj.mp (by
      change b.toNat = 0x30
      omega)
    rw [hzero]
    rfl
  · cases h

lemma bytes_eq_zero_iff {n : Numeral} : n.bytes = [0x30] ↔
    n.negative = false ∧ n.whole.bytes = [0x30] ∧ n.fraction = none ∧ n.exponent = none := by
  constructor
  · intro h
    have hpositive : n.negative = false := by
      cases hsign : n.negative with
      | false => rfl
      | true => simp [Numeral.bytes, hsign] at h
    have hunsigned : n.unsigned = [0x30] := by rwa [Numeral.bytes, hpositive] at h
    obtain ⟨hwhole, -⟩ | ⟨hwhole, hmore⟩ := List.append_eq_singleton_iff.mp hunsigned
    · exact absurd hwhole n.whole.nonempty
    obtain ⟨hfraction, hexponent⟩ := List.append_eq_nil_iff.mp hmore
    refine ⟨hpositive, hwhole, ?_, ?_⟩
    · cases hf : n.fraction with
      | none => rfl
      | some f => simp [Numeral.fractionBytes, hf] at hfraction
    · cases he : n.exponent with
      | none => rfl
      | some e => simp [Numeral.exponentBytes, he, Exponent.bytes] at hexponent
  · rintro ⟨hpositive, hwhole, hfraction, hexponent⟩
    simp [Numeral.bytes, Numeral.unsigned, Numeral.fractionBytes, Numeral.exponentBytes, hpositive,
      hwhole, hfraction, hexponent]

lemma unsigned_append (n : Numeral) (rest : Bytes) : n.unsigned ++ rest =
    n.whole.bytes ++ (n.fractionBytes ++ (n.exponentBytes ++ rest)) := by
  simp only [Numeral.unsigned, List.append_assoc]

lemma whole_reading {n : Numeral} (hfraction : n.fraction = none) (hexponent : n.exponent = none) :
    Reading n := by
  obtain ⟨k, left, hgather⟩ : ∃ k left, gather 0 n.whole.bytes = (k, left) := ⟨_, _, rfl⟩
  have hread (rest : Bytes) (hrest : Follows rest) : number n.negative (n.unsigned ++ rest) =
      if 0 < left.length then Scan.real n.negative k left.length rest
      else if !n.negative then .ok (.int k, rest)
      else if k = 0 ∨ Nat.pow 2 63 < k then Scan.real n.negative k 0 rest
      else .ok (.int (-k), rest) := by
    have hunsigned : n.unsigned = n.whole.bytes := by
      simp [Numeral.unsigned, Numeral.fractionBytes, Numeral.exponentBytes, hfraction, hexponent]
    rw [hunsigned, number_front n _ hrest.no_digit, hgather]
    simp only [hrest.no_point, hrest.no_exponent, if_false, Bool.false_eq_true]
  have hzero : n.bytes = [0x30] ↔ n.negative = false ∧ k = 0 ∧ left = [] := by
    rw [bytes_eq_zero_iff]
    constructor
    · rintro ⟨hpositive, hwhole, -, -⟩
      rw [hwhole] at hgather
      cases hgather
      exact ⟨hpositive, rfl, rfl⟩
    · rintro ⟨hpositive, rfl, rfl⟩
      exact ⟨hpositive, gather_eq_zero hgather, hfraction, hexponent⟩
  by_cases hdropped : 0 < left.length
  · refine .real k left.length ?_ fun rest hrest => by rw [hread rest hrest, if_pos hdropped]
    intro hbytes
    rw [(hzero.mp hbytes).2.2] at hdropped
    cases hdropped
  obtain rfl : left = [] := by simpa using hdropped
  cases hsign : n.negative with
  | false =>
    refine .int k ?_ fun rest hrest => by rw [hread rest hrest, hsign]; rfl
    simp [hzero, hsign]
  | true =>
    have hbytes : n.bytes ≠ [0x30] := by simp [hzero, hsign]
    by_cases hlarge : k = 0 ∨ Nat.pow 2 63 < k
    · refine .real k 0 hbytes fun rest hrest => ?_
      rw [hread rest hrest, hsign, if_neg hdropped, if_neg (by decide), if_pos hlarge]
    · refine .int (-k) ?_ fun rest hrest => ?_
      · have hk : (-k : Int) ≠ 0 := by omega
        exact iff_of_false hk hbytes
      · rw [hread rest hrest, hsign, if_neg hdropped, if_neg (by decide), if_neg hlarge]

lemma numeral_reading (n : Numeral) : Reading n := by
  obtain ⟨k, left, hgather⟩ : ∃ k left, gather 0 n.whole.bytes = (k, left) := ⟨_, _, rfl⟩
  cases hfraction : n.fraction with
  | some f =>
    obtain ⟨k', power, hpower⟩ := fractionPart_reads f n.exponent n.negative k left.length
    refine .real k' power (by simp [bytes_eq_zero_iff, hfraction]) fun rest hrest => ?_
    have hbytes : n.unsigned ++ rest =
        n.whole.bytes ++ 0x2E :: (f.bytes ++ (n.exponent.elim [] Exponent.bytes ++ rest)) := by
      rw [unsigned_append, Numeral.fractionBytes, hfraction]
      rfl
    rw [← hpower rest hrest, hbytes, number_front n _ rfl, hgather]
    exact if_pos rfl
  | none =>
    cases hexponent : n.exponent with
    | none => exact whole_reading hfraction hexponent
    | some e =>
      obtain ⟨power, hpower⟩ := exponentPart_reads e n.negative k left.length
      refine .real k power (by simp [bytes_eq_zero_iff, hexponent]) fun rest hrest => ?_
      obtain ⟨hdigit, hpoint, hnext⟩ := exponent_front e rest
      have hbytes : n.unsigned ++ rest = n.whole.bytes ++ (e.bytes ++ rest) := by
        rw [unsigned_append, Numeral.fractionBytes, Numeral.exponentBytes, hfraction, hexponent]
        rfl
      rw [← hpower rest hrest.no_digit, hbytes, number_front n _ hdigit, hgather]
      exact (if_neg hpoint).trans (if_pos hnext)

lemma follows_nil : Follows [] := ⟨rfl, nofun, rfl⟩

lemma number_reads (n : Numeral) {rest : Bytes} (hrest : Follows rest) :
    number n.negative (n.unsigned ++ rest) =
      n.number?.elim (.error .malformed) fun x => .ok (x, rest) := by
  cases numeral_reading n with
  | real k power _ hread =>
    have hself := hread [] follows_nil
    rw [List.append_nil] at hself
    rw [hread rest hrest, Numeral.number?, hself, Scan.real, Scan.real]
    cases real? n.negative k power <;> rfl
  | int i _ hread =>
    have hself := hread [] follows_nil
    rw [List.append_nil] at hself
    rw [hread rest hrest, Numeral.number?, hself]
    rfl

lemma number?_zero (n : Numeral) : n.number? = some (.int 0) ↔ n.bytes = [0x30] := by
  cases numeral_reading n with
  | real k power hbytes hread =>
    have hself := hread [] follows_nil
    rw [List.append_nil] at hself
    rw [Numeral.number?, hself, Scan.real]
    refine iff_of_false ?_ hbytes
    cases real? n.negative k power <;> simp [Except.toOption]
  | int i hzero hread =>
    have hself := hread [] follows_nil
    rw [List.append_nil] at hself
    rw [Numeral.number?, hself, ← hzero]
    simp [Except.toOption]

end Scan
end StorageConsole.Json
