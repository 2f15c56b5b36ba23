import Mathlib.Tactic.Lemma
import Mathlib.Tactic.SplitIfs
import StorageConsole.Text.Utf8

namespace StorageConsole.Text.Utf8

lemma encodeChars_cons (c : Char) (cs : List Char) :
    encodeChars (c :: cs) = String.utf8EncodeChar c ++ encodeChars cs := rfl

lemma encodeChars_append (cs cs' : List Char) :
    encodeChars (cs ++ cs') = encodeChars cs ++ encodeChars cs' :=
  List.flatMap_append

lemma utf8EncodeChar_ascii {c : Char} (h : c.toNat ≤ 127) :
    String.utf8EncodeChar c = [UInt8.ofNat c.toNat] := by
  rw [String.utf8EncodeChar.eq_1, Char.toNat_val, if_pos h]

lemma le_of_mem_utf8EncodeChar {c : Char} {b : UInt8} (hc : 127 < c.toNat)
    (hb : b ∈ String.utf8EncodeChar c) : 128 ≤ b.toNat := by
  have hvalid : c.toNat < 0xD800 ∨ 0xDFFF < c.toNat ∧ c.toNat < 0x110000 := c.valid
  rw [String.utf8EncodeChar.eq_1] at hb
  simp only [Char.toNat_val] at hb
  split_ifs at hb with hone htwo hthree
  · omega
  all_goals
    simp only [List.mem_cons, List.not_mem_nil, or_false] at hb
    rcases hb with rfl | rfl | rfl | rfl <;> rw [UInt8.toNat_ofNat'] <;> omega

lemma mem_of_mem_encodeChars {b : UInt8} {cs : List Char} (hb : b.toNat ≤ 127)
    (h : b ∈ encodeChars cs) : Char.ofNat b.toNat ∈ cs := by
  obtain ⟨c, hc, h⟩ := List.mem_flatMap.mp h
  rcases Nat.lt_or_ge 127 c.toNat with hlarge | hascii
  · have := le_of_mem_utf8EncodeChar hlarge h
    omega
  · rw [utf8EncodeChar_ascii hascii] at h
    have hbyte : b.toNat = c.toNat := by
      rw [List.mem_singleton.mp h, UInt8.toNat_ofNat']
      omega
    rwa [hbyte, Char.ofNat_toNat]

lemma begin_two : ∀ k < 32, 2 ≤ k →
    begin (UInt8.ofNat (k + 192)) = ([], some ⟨1, 0x80, 0xBF, k⟩) := by
  decide

-- Overlong forms and surrogates are excluded by the bounds of the second byte.
lemma begin_three : ∀ k < 16, begin (UInt8.ofNat (k + 224)) =
    ([], some ⟨2, if k = 0 then 0xA0 else 0x80, if k = 13 then 0x9F else 0xBF, k⟩) := by
  decide

lemma begin_four : ∀ k < 5, begin (UInt8.ofNat (k + 240)) =
    ([], some ⟨3, if k = 0 then 0x90 else 0x80, if k = 4 then 0x8F else 0xBF, k⟩) := by
  decide

lemma toNat_tail {k : Nat} (hk : k < 64) : (UInt8.ofNat (k + 128)).toNat = k + 128 := by
  rw [UInt8.toNat_ofNat']
  omega

lemma low_le_tail (k : Nat) : (0x80 : UInt8).toNat ≤ k + 128 := Nat.le_add_left 128 k

lemma tail_le_high {k : Nat} (hk : k < 64) : k + 128 ≤ (0xBF : UInt8).toNat :=
  Nat.add_le_add_right (Nat.le_of_lt_succ hk) 128

lemma scan_tail {owed v k : Nat} {low high : UInt8} (hk : k < 64) (hlow : low.toNat ≤ k + 128)
    (hhigh : k + 128 ≤ high.toNat) (rest : Bytes) :
    scanFrom (some ⟨owed, low, high, v⟩) (UInt8.ofNat (k + 128) :: rest) =
      if owed = 1 then some (Char.ofNat (v * 64 + k)) :: scanFrom none rest
      else scanFrom (some ⟨owed - 1, 0x80, 0xBF, v * 64 + k⟩) rest := by
  have hbounds : low ≤ UInt8.ofNat (k + 128) ∧ UInt8.ofNat (k + 128) ≤ high := by
    rw [UInt8.le_iff_toNat_le, UInt8.le_iff_toNat_le, toNat_tail hk]
    exact ⟨hlow, hhigh⟩
  have hbits : (UInt8.ofNat (k + 128)).toNat % 64 = k := by
    rw [toNat_tail hk]
    omega
  rw [scanFrom, advance, if_pos hbounds, hbits]
  split <;> rfl

lemma scan_last {v k : Nat} (hk : k < 64) (rest : Bytes) :
    scanFrom (some ⟨1, 0x80, 0xBF, v⟩) (UInt8.ofNat (k + 128) :: rest) =
      some (Char.ofNat (v * 64 + k)) :: scanFrom none rest :=
  scan_tail hk (low_le_tail k) (tail_le_high hk) rest

lemma scan_inner {owed v k : Nat} {low high : UInt8} (hk : k < 64) (hlow : low.toNat ≤ k + 128)
    (hhigh : k + 128 ≤ high.toNat) (rest : Bytes) :
    scanFrom (some ⟨owed + 2, low, high, v⟩) (UInt8.ofNat (k + 128) :: rest) =
      scanFrom (some ⟨owed + 1, 0x80, 0xBF, v * 64 + k⟩) rest :=
  scan_tail hk hlow hhigh rest

lemma scan_begin {b : UInt8} {p : Pending} (h : begin b = ([], some p)) (rest : Bytes) :
    scanFrom none (b :: rest) = scanFrom (some p) rest := by
  rw [scanFrom, advance, h]
  rfl

lemma scan_char (c : Char) (rest : Bytes) :
    scanFrom none (String.utf8EncodeChar c ++ rest) = some c :: scanFrom none rest := by
  have hvalid : c.toNat < 0xD800 ∨ 0xDFFF < c.toNat ∧ c.toNat < 0x110000 := c.valid
  have hchar {n : Nat} (h : n = c.toNat) : Char.ofNat n = c := by rw [h, Char.ofNat_toNat]
  rw [String.utf8EncodeChar.eq_1]
  simp only [Char.toNat_val]
  split_ifs with hone htwo hthree
  · have hbyte : (UInt8.ofNat c.toNat).toNat = c.toNat := by
      rw [UInt8.toNat_ofNat']
      omega
    have hlow : UInt8.ofNat c.toNat < 0x80 := by
      rw [UInt8.lt_iff_toNat_lt, hbyte]
      exact Nat.lt_succ_of_le hone
    rw [List.singleton_append, scanFrom, advance, begin, if_pos hlow, hbyte, Char.ofNat_toNat]
    rfl
  · have hfirst := begin_two (c.toNat / 64 % 32) (by omega) (by omega)
    simp only [List.cons_append, List.nil_append]
    rw [scan_begin hfirst, scan_last (by omega), hchar (by omega)]
  · have hfirst := begin_three (c.toNat / 4096 % 16) (by omega)
    have hlow : (if c.toNat / 4096 % 16 = 0 then 0xA0 else 0x80 : UInt8).toNat ≤
        c.toNat / 64 % 64 + 128 := by
      split
      · change 160 ≤ _
        omega
      · change 128 ≤ _
        omega
    have hhigh : c.toNat / 64 % 64 + 128 ≤
        (if c.toNat / 4096 % 16 = 13 then 0x9F else 0xBF : UInt8).toNat := by
      split
      · change _ ≤ 159
        omega
      · change _ ≤ 191
        omega
    simp only [List.cons_append, List.nil_append]
    rw [scan_begin hfirst, scan_inner (by omega) hlow hhigh,
      scan_last (by omega), hchar (by omega)]
  · have hfirst := begin_four (c.toNat / 262144 % 8) (by omega)
    have hlow : (if c.toNat / 262144 % 8 = 0 then 0x90 else 0x80 : UInt8).toNat ≤
        c.toNat / 4096 % 64 + 128 := by
      split
      · change 144 ≤ _
        omega
      · change 128 ≤ _
        omega
    have hhigh : c.toNat / 4096 % 64 + 128 ≤
        (if c.toNat / 262144 % 8 = 4 then 0x8F else 0xBF : UInt8).toNat := by
      split
      · change _ ≤ 143
        omega
      · change _ ≤ 191
        omega
    simp only [List.cons_append, List.nil_append]
    rw [scan_begin hfirst, scan_inner (by omega) hlow hhigh,
      scan_inner (by omega) (low_le_tail _) (tail_le_high (by omega)), scan_last (by omega),
      hchar (by omega)]

lemma scan_encodeChars (cs : List Char) : scan (encodeChars cs) = cs.map some := by
  induction cs with
  | nil => rfl
  | cons c cs ih => exact (scan_char c _).trans (congrArg (some c :: ·) ih)

lemma decodeChars?_encodeChars (cs : List Char) : decodeChars? (encodeChars cs) = some cs := by
  have hall := List.mapM_pure (m := Option) (l := cs) (f := id)
  rw [decodeChars?, scan_encodeChars, List.mapM_map]
  exact hall.trans (congrArg some (List.map_id cs))

lemma decode?_encodeChars (s : String) : decode? (encodeChars s.toList) = some s := by
  simp [decode?, decodeChars?_encodeChars]

lemma decodeLossy_encode (s : String) : decodeLossy (encode s) = s := by
  simp [decodeLossy, encode, scan_encodeChars, Function.comp_def]

end StorageConsole.Text.Utf8
