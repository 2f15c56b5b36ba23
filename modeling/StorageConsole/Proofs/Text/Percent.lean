import Mathlib.Tactic.Lemma
import StorageConsole.Proofs.Text.Utf8
import StorageConsole.Text.Percent

namespace StorageConsole.Text

lemma forall_byte {p : UInt8 → Prop} (h : ∀ n < 256, p (UInt8.ofNat n)) (b : UInt8) : p b := by
  have hb := h b.toNat b.toNat_lt
  rwa [UInt8.ofNat_toNat] at hb

lemma forall_ascii {p q : Char → Prop} (hp : ∀ c, p c → c.toNat ≤ 127)
    (h : ∀ n < 128, p (Char.ofNat n) → q (Char.ofNat n)) (c : Char) : p c → q c := by
  intro hc
  have hq := h c.toNat (Nat.lt_succ_of_le (hp c hc))
  rw [Char.ofNat_toNat] at hq
  exact hq hc

lemma toNat_le_of_isAlphanum {c : Char} (h : c.isAlphanum = true) : c.toNat ≤ 127 := by
  have hranges : c.isAlphanum = ((decide (65 ≤ c.val ∧ c.val ≤ 90) ||
      (97 ≤ c.val && c.val ≤ 122)) || (48 ≤ c.val && c.val ≤ 57)) := rfl
  have htoNat : c.toNat = c.val.toNat := rfl
  simp only [hranges, Bool.or_eq_true, Bool.and_eq_true, decide_eq_true_eq,
    UInt32.le_iff_toNat_le, UInt32.reduceToNat] at h
  omega

namespace Percent

variable {keep : UInt8 → Bool}

lemma encode_append (keep : UInt8 → Bool) (bs bs' : Bytes) :
    encode keep (bs ++ bs') = encode keep bs ++ encode keep bs' :=
  List.flatMap_append

lemma encode_of_kept {cs : List Char}
    (h : ∀ c ∈ cs, c.toNat ≤ 127 ∧ keep (UInt8.ofNat c.toNat) = true) :
    encode keep (Utf8.encodeChars cs) = cs := by
  induction cs with
  | nil => rfl
  | cons c cs ih =>
    obtain ⟨hascii, hkeep⟩ := h c List.mem_cons_self
    have hchar : Char.ofNat (UInt8.ofNat c.toNat).toNat = c := by
      rw [UInt8.toNat_ofNat', Nat.mod_eq_of_lt (by omega), Char.ofNat_toNat]
    have hfirst : encode keep [UInt8.ofNat c.toNat] = [c] := by
      simp only [encode, List.flatMap_cons, List.flatMap_nil, hkeep, if_true, hchar,
        List.append_nil]
    rw [Utf8.encodeChars_cons, Utf8.utf8EncodeChar_ascii hascii, encode_append, hfirst,
      ih fun d hd => h d (List.mem_cons_of_mem c hd)]
    rfl

def escapes : List Char := "%0123456789ABCDEF".toList

lemma mem_escape {b : UInt8} {c : Char} (h : c ∈ escape b) : c ∈ escapes := by
  have hall : ∀ b : UInt8, (escape b).all escapes.contains = true := by
    apply forall_byte
    decide +kernel
  exact List.contains_iff_mem.mp (List.all_eq_true.mp (hall b) c h)

lemma toNat_ofNat_byte : ∀ b : UInt8, (Char.ofNat b.toNat).toNat = b.toNat := by
  apply forall_byte
  decide +kernel

lemma mem_encode {cs : List Char} {c : Char} (hc : c.toNat ≤ 127)
    (h : c ∈ encode keep (Utf8.encodeChars cs)) : c ∈ cs ∨ c ∈ escapes := by
  obtain ⟨b, hb, h⟩ := List.mem_flatMap.mp h
  split at h
  · obtain rfl := List.mem_singleton.mp h
    rw [toNat_ofNat_byte] at hc
    exact .inl (Utf8.mem_of_mem_encodeChars hc hb)
  · exact .inr (mem_escape h)

lemma decode_cons {b : UInt8} (h : b ≠ 0x25) (rest : Bytes) :
    decode (b :: rest) = b :: decode rest := by
  match rest with
  | [] => rfl
  | [c] => rfl
  | c :: d :: rest => rw [decode, if_neg h]

lemma encodeChars_escape : ∀ b : UInt8, ∃ c d, Utf8.encodeChars (escape b) = [0x25, c, d] ∧
    Hex.digit? c = some (b.toNat / 16) ∧ Hex.digit? d = some (b.toNat % 16) := by
  intro b
  have hdigit : ∀ n < 16, (Hex.upperDigit n).toNat ≤ 127 ∧
      Hex.digit? (UInt8.ofNat (Hex.upperDigit n).toNat) = some n := by
    decide
  obtain ⟨hhigh, hhigh'⟩ := hdigit (b.toNat / 16) (by have := b.toNat_lt; omega)
  obtain ⟨hlow, hlow'⟩ := hdigit (b.toNat % 16) (Nat.mod_lt _ (by decide))
  refine ⟨_, _, ?_, hhigh', hlow'⟩
  simp only [escape, Utf8.encodeChars_cons, Utf8.utf8EncodeChar_ascii hhigh,
    Utf8.utf8EncodeChar_ascii hlow]
  rfl

lemma decode_escape {c d : UInt8} {b : UInt8} (hc : Hex.digit? c = some (b.toNat / 16))
    (hd : Hex.digit? d = some (b.toNat % 16)) (rest : Bytes) :
    decode (0x25 :: c :: d :: rest) = b :: decode rest := by
  rw [decode, if_pos rfl, hc, hd]
  simp only [Nat.div_add_mod', UInt8.ofNat_toNat]

lemma encodeChars_kept {b : UInt8} (h : b.toNat ≤ 127) :
    Utf8.encodeChars [Char.ofNat b.toNat] = [b] := by
  have hchar : (Char.ofNat b.toNat).toNat ≤ 127 := by rwa [toNat_ofNat_byte]
  rw [Utf8.encodeChars_cons, Utf8.utf8EncodeChar_ascii hchar, toNat_ofNat_byte, UInt8.ofNat_toNat]
  rfl

lemma decode_encode (hkeep : ∀ b, keep b = true → b.toNat ≤ 127 ∧ b ≠ 0x25) (bs : Bytes) :
    decode (Utf8.encodeChars (encode keep bs)) = bs := by
  induction bs with
  | nil => rfl
  | cons b bs ih =>
    rw [encode, List.flatMap_cons, Utf8.encodeChars_append]
    split
    · rename_i hkept
      obtain ⟨hascii, hpercent⟩ := hkeep b hkept
      rw [encodeChars_kept hascii]
      exact (decode_cons hpercent _).trans (congrArg (b :: ·) ih)
    · obtain ⟨c, d, hbytes, hc, hd⟩ := encodeChars_escape b
      rw [hbytes]
      exact (decode_escape hc hd _).trans (congrArg (b :: ·) ih)

end Percent
end StorageConsole.Text
