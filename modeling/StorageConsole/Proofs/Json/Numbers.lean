import StorageConsole.Json.Printer
import StorageConsole.Json.Scan
import StorageConsole.Proofs.Text.Utf8

namespace StorageConsole.Json.Scan

open Text.Utf8 (encodeChars)

def Ends (rest : Bytes) : Prop := ∀ b, rest.head? = some b → b = 0x2C ∨ b = 0x5D ∨ b = 0x7D

variable {bs rest : Bytes}

lemma ends_nil : Ends [] := by
  intro b hb
  cases hb

lemma ends_cons {b : UInt8} (h : b = 0x2C ∨ b = 0x5D ∨ b = 0x7D) : Ends (b :: rest) := by
  intro b' hb'
  rwa [← Option.some.inj hb']

lemma Ends.no_digit (h : Ends rest) : digitNext rest = false := by
  cases rest with
  | nil => rfl
  | cons b rest => obtain rfl | rfl | rfl := h b rfl <;> rfl

lemma Ends.no_exponent (h : Ends rest) : exponentNext rest = false := by
  cases rest with
  | nil => rfl
  | cons b rest => obtain rfl | rfl | rfl := h b rfl <;> rfl

lemma Ends.no_point (h : Ends rest) : rest.head? ≠ some 0x2E := by
  intro hpoint
  obtain h | h | h := h _ hpoint <;> cases h

lemma dropWhile_gather (n : Nat) (bs : Bytes) :
    (gather n bs).2.dropWhile isDigit = bs.dropWhile isDigit := by
  induction bs generalizing n with
  | nil => rfl
  | cons b bs ih =>
    rw [gather]
    split
    · rename_i hdigit
      rw [ih, List.dropWhile_cons_of_pos hdigit.1]
    · rfl

lemma gather_no_digit (n : Nat) (h : digitNext bs = false) : gather n bs = (n, bs) := by
  cases bs with
  | nil => rfl
  | cons b bs =>
    have hb : ¬isDigit b = true := by simpa [digitNext] using h
    rw [gather, if_neg fun hdigit => hb hdigit.1]

lemma digit_bounds {c : Char} (h : c.isDigit = true) : 48 ≤ c.toNat ∧ c.toNat ≤ 57 := by
  simpa [Char.isDigit, UInt32.le_iff_toNat_le] using h

lemma encodeChars_digit {c : Char} (h : c.isDigit = true) (cs : List Char) :
    encodeChars (c :: cs) = UInt8.ofNat c.toNat :: encodeChars cs := by
  have hascii := Text.Utf8.utf8EncodeChar_ascii (Nat.le_trans (digit_bounds h).2 (by decide))
  rw [Text.Utf8.encodeChars_cons, hascii]
  rfl

lemma digit_toNat {c : Char} (h : c.isDigit = true) : (UInt8.ofNat c.toNat).toNat = c.toNat := by
  have hbounds := digit_bounds h
  rw [UInt8.toNat_ofNat']
  omega

lemma isDigit_ofNat {c : Char} (h : c.isDigit = true) : isDigit (UInt8.ofNat c.toNat) = true := by
  simpa [isDigit, UInt8.le_iff_toNat_le, digit_toNat h] using digit_bounds h

lemma le_ofDigitChars (cs : List Char) (n : Nat) : n ≤ Nat.ofDigitChars 10 cs n := by
  induction cs generalizing n with
  | nil => exact Nat.le_refl n
  | cons c cs ih =>
    rw [Nat.ofDigitChars_cons]
    exact Nat.le_trans (by omega) (ih _)

lemma gather_digits (cs : List Char) (hdigits : ∀ c ∈ cs, c.isDigit = true) (hrest : Ends rest)
    (n : Nat) (hbound : Nat.ofDigitChars 10 cs n < Nat.pow 2 64) :
    gather n (encodeChars cs ++ rest) = (Nat.ofDigitChars 10 cs n, rest) := by
  induction cs generalizing n with
  | nil => exact gather_no_digit n hrest.no_digit
  | cons c cs ih =>
    have hc := hdigits c List.mem_cons_self
    rw [Nat.ofDigitChars_cons] at hbound ⊢
    have hvalue :
        n * 10 + ((UInt8.ofNat c.toNat).toNat - 0x30) = 10 * n + (c.toNat - '0'.toNat) := by
      rw [digit_toNat hc, Nat.mul_comm]
      rfl
    -- the number only grows, so no digit comes too late for its bound
    have hstep : n * 10 + ((UInt8.ofNat c.toNat).toNat - 0x30) < Nat.pow 2 64 := by
      rw [hvalue]
      exact Nat.lt_of_le_of_lt (le_ofDigitChars cs _) hbound
    rw [encodeChars_digit hc, List.cons_append, gather, if_pos ⟨isDigit_ofNat hc, hstep⟩, hvalue]
    exact ih (fun c' hc' => hdigits c' (List.mem_cons_of_mem c hc')) _ hbound

lemma toDigits_head {n : Nat} (h : 0 < n) : ∃ c cs, Nat.toDigits 10 n = c :: cs ∧ c ≠ '0' := by
  induction n using Nat.strongRecOn with
  | _ n ih =>
    by_cases hsmall : n < 10
    · have hdigit : ∀ d < 10, 0 < d → d.digitChar ≠ '0' := by decide
      exact ⟨_, _, Nat.toDigits_of_lt_base hsmall, hdigit n hsmall h⟩
    · obtain ⟨c, cs, hcs, hc⟩ := ih (n / 10) (by omega) (by omega)
      refine ⟨c, cs ++ [(n % 10).digitChar], ?_, hc⟩
      rw [Nat.toDigits_of_base_le (by decide) (by omega), hcs, List.cons_append]

def digits (n : Nat) : Bytes := encodeChars (Nat.toDigits 10 n)

lemma digits_front (n : Nat) (hrest : Ends rest) :
    ∃ b more, digits n ++ rest = b :: more ∧ isDigit b = true ∧
      (b = 0x30 → digitNext more = false) := by
  by_cases hzero : n = 0
  · subst hzero
    exact ⟨0x30, rest, rfl, rfl, fun _ => hrest.no_digit⟩
  · obtain ⟨c, cs, hcs, hc⟩ := toDigits_head (Nat.pos_of_ne_zero hzero)
    have hdigit : c.isDigit = true :=
      Nat.isDigit_of_mem_toDigits (b := 10) (by decide) (by decide) (hcs ▸ List.mem_cons_self)
    refine ⟨UInt8.ofNat c.toNat, encodeChars cs ++ rest, ?_, isDigit_ofNat hdigit, ?_⟩
    · rw [digits, hcs, encodeChars_digit hdigit, List.cons_append]
    · intro hbyte
      have hvalue := digit_toNat hdigit
      rw [hbyte] at hvalue
      exact absurd (Char.toNat_inj.mp hvalue.symm) hc

lemma gather_toDigits {n : Nat} (hn : n < Nat.pow 2 64) (hrest : Ends rest) :
    gather 0 (digits n ++ rest) = (n, rest) := by
  have hvalue : Nat.ofDigitChars 10 (Nat.toDigits 10 n) 0 = n := Nat.ofDigitChars_ten_toDigits
  have hread := gather_digits (Nat.toDigits 10 n)
    (fun c hc => Nat.isDigit_of_mem_toDigits (by decide) (by decide) hc) hrest 0 (hvalue.symm ▸ hn)
  rwa [hvalue] at hread

lemma number_digits (negative : Bool) {n : Nat} (hn : n < Nat.pow 2 64) (hrest : Ends rest) :
    number negative (digits n ++ rest) =
      if !negative then .ok (.int n, rest)
      else if n = 0 ∨ Nat.pow 2 63 < n then real negative n 0 rest
      else .ok (.int (-n), rest) := by
  obtain ⟨b, more, hfront, hdigit, hzero⟩ := digits_front n hrest
  have hgather := gather_toDigits hn hrest
  have hpassed : passDigits rest = (0, rest) := by
    cases rest with
    | nil => rfl
    | cons b rest =>
      have hb : isDigit b = false := hrest.no_digit
      simp [passDigits, hb]
  rw [hfront] at hgather ⊢
  have hlead : ¬(b = 0x30 ∧ digitNext more = true) := by
    rintro ⟨hb, hmore⟩
    rw [hzero hb] at hmore
    cases hmore
  simp [number, hdigit, hlead, hgather, hpassed, hrest.no_point, hrest.no_exponent]

end StorageConsole.Json.Scan
