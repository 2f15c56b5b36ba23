import StorageConsole.Proofs.Envelope.Acceptance
import StorageConsole.Proofs.Json.Spelling

/-! What the spelling of an answer decides: a code of zero counts only where it is written `0`. -/

namespace StorageConsole.Envelope

open Json (Value Tree Spells)
open Json.Tree (last? Same Means IsReadable)

def Alike (e e' : Envelope) : Prop := e.success = e'.success ∧ e.message = e'.message

def WritesZero (t : Tree) : Prop :=
  ∃ members n, t = .object members ∧ (∀ b, last? members "success" ≠ some (.bool b)) ∧
    last? members "code" = some (.number n) ∧ n.bytes = [0x30]

section Member

variable {found found' : Option Tree} {read read' : Option Value}

lemma same_text (hsame : Option.Rel Same found found') (hfirst : Option.Rel Means found read)
    (hsecond : Option.Rel Means found' read') : read.bind (·.text?) = read'.bind (·.text?) := by
  cases hsame with
  | none =>
    cases hfirst
    cases hsecond
    rfl
  | some hsame =>
    obtain ⟨hmeans⟩ := hfirst
    obtain ⟨hmeans'⟩ := hsecond
    cases hsame <;> cases hmeans <;> cases hmeans' <;> rfl

lemma same_bool (hsame : Option.Rel Same found found') (b : Bool) :
    found = some (.bool b) ↔ found' = some (.bool b) := by
  cases hsame with
  | none => simp
  | some hsame => cases hsame <;> simp

lemma bool_read (hread : Option.Rel Means found read) (b : Bool) :
    read = some (.bool b) ↔ found = some (.bool b) := by
  cases hread with
  | none => simp
  | some hmeans => simpa using hmeans.bool_iff b

lemma zero_read (hread : Option.Rel Means found read) :
    read = some (.number (.int 0)) ↔ ∃ n, found = some (.number n) ∧ n.bytes = [0x30] := by
  cases hread with
  | none => simp
  | some hmeans => simpa using hmeans.zero_iff

lemma isSome_read (hsame : Option.Rel Same found found') (hfirst : Option.Rel Means found read)
    (hsecond : Option.Rel Means found' read') : read.isSome = read'.isSome := by
  cases hsame <;> cases hfirst <;> cases hsecond <;> rfl

end Member

section Objects

variable {members members' : List (String × Tree)} {values values' : List (String × Value)}

def AreRead (members : List (String × Tree)) (values : List (String × Value)) : Prop :=
  ∀ key, Option.Rel Means (last? members key) (Value.member? values key)

lemma writesZero_iff (hno : ∀ b, last? members "success" ≠ some (.bool b))
    (hread : AreRead members values) :
    WritesZero (.object members) ↔ Value.member? values "code" = some (.number (.int 0)) := by
  rw [zero_read (hread "code")]
  constructor
  · rintro ⟨_, n, hobject, -, hcode, hbytes⟩
    cases hobject
    exact ⟨n, hcode, hbytes⟩
  · rintro ⟨n, hcode, hbytes⟩
    exact ⟨members, n, rfl, hno, hcode, hbytes⟩

lemma not_writesZero {b : Bool} (h : last? members "success" = some (.bool b)) :
    ¬WritesZero (.object members) := by
  rintro ⟨_, _, hobject, hno, -⟩
  cases hobject
  exact hno b h

lemma verdict_same_iff (hsame : ∀ key, Option.Rel Same (last? members key) (last? members' key))
    (hfirst : AreRead members values) (hsecond : AreRead members' values') :
    (verdict? values).isSome = (verdict? values').isSome ∧
      (verdict? values = verdict? values' ↔
        (WritesZero (.object members) ↔ WritesZero (.object members'))) := by
  by_cases hsuccess : ∃ b, last? members "success" = some (.bool b)
  · obtain ⟨b, hb⟩ := hsuccess
    have hb' := (same_bool (hsame "success") b).mp hb
    rw [verdict_of_success ((bool_read (hfirst "success") b).mpr hb),
      verdict_of_success ((bool_read (hsecond "success") b).mpr hb')]
    exact ⟨rfl, iff_of_true rfl (iff_of_false (not_writesZero hb) (not_writesZero hb'))⟩
  · have hno : ∀ b, last? members "success" ≠ some (.bool b) := fun b hb => hsuccess ⟨b, hb⟩
    have hno' : ∀ b, last? members' "success" ≠ some (.bool b) :=
      fun b hb => hno b ((same_bool (hsame "success") b).mpr hb)
    have hcode := isSome_read (hsame "code") (hfirst "code") (hsecond "code")
    rw [verdict_by_code fun b hb => hno b ((bool_read (hfirst "success") b).mp hb),
      verdict_by_code fun b hb => hno' b ((bool_read (hsecond "success") b).mp hb),
      writesZero_iff hno hfirst, writesZero_iff hno' hsecond]
    generalize Value.member? values "code" = code, Value.member? values' "code" = code' at hcode ⊢
    cases code <;> cases code' <;> simp_all

lemma ofReport_alike (htexts : ∀ key, (Value.member? values key).bind (·.text?) =
      (Value.member? values' key).bind (·.text?)) (success : Bool) (fallback : String) :
    Alike (ofReport success values fallback) (ofReport success values' fallback) := by
  have hmessage (keys : List String) : messageOf? values keys = messageOf? values' keys := by
    simp only [messageOf?, htexts]
  cases success with
  | true => exact ⟨rfl, by simp [ofReport, accept, hmessage]⟩
  | false => exact ⟨rfl, by simp [ofReport, reject, hmessage]⟩

lemma ofValue_alike_iff (htexts : ∀ key, (Value.member? values key).bind (·.text?) =
      (Value.member? values' key).bind (·.text?))
    (hsome : (verdict? values).isSome = (verdict? values').isSome) (fallback : String) :
    Alike (ofValue (.object values) fallback) (ofValue (.object values') fallback) ↔
      verdict? values = verdict? values' := by
  simp only [ofValue]
  cases hverdict : verdict? values with
  | none =>
    cases hverdict' : verdict? values' with
    | none => exact iff_of_true ⟨rfl, rfl⟩ rfl
    | some success' => simp [hverdict, hverdict'] at hsome
  | some success =>
    cases hverdict' : verdict? values' with
    | none => simp [hverdict, hverdict'] at hsome
    | some success' =>
      constructor
      · rintro ⟨hsuccess, -⟩
        rw [ofReport_success, ofReport_success] at hsuccess
        rw [hsuccess]
      · intro hsame
        rw [Option.some.inj hsame]
        exact ofReport_alike htexts success' fallback

end Objects

lemma ofSuccessBody_unread {body : Bytes} (h : Value.read? body = none) (fallback : String) :
    (ofSuccessBody body fallback).success = true ∧ (ofSuccessBody body fallback).message = "" := by
  rw [ofSuccessBody]
  split
  · exact ⟨rfl, rfl⟩
  · rw [h]
    exact ⟨rfl, rfl⟩

variable {t t' : Tree}

lemma means_alike_iff (hsame : Same t t') {value value' : Value} (h : Means t value)
    (h' : Means t' value') (fallback : String) :
    Alike (ofValue value fallback) (ofValue value' fallback) ↔ (WritesZero t ↔ WritesZero t') := by
  cases hsame with
  | object hsame =>
    cases h with
    | object hfirst =>
      cases h' with
      | object hsecond =>
        obtain ⟨hsome, hverdict⟩ := verdict_same_iff hsame hfirst hsecond
        rw [← hverdict]
        exact ofValue_alike_iff (fun key => same_text (hsame key) (hfirst key) (hsecond key)) hsome
          fallback
  | _ =>
    cases h
    cases h'
    refine iff_of_true ⟨rfl, rfl⟩ (iff_of_false ?_ ?_) <;>
      (rintro ⟨_, _, hobject, -⟩; cases hobject)

/-- Two texts of one value that are read are told alike unless just one of them succeeds by a code
that is written `0`; two that are refused always are, and where only one is refused, the other one
has to be a success without a message. -/
theorem spellings_alike_iff {body body' : Bytes} (h : Spells t body) (h' : Spells t' body')
    (hsame : Same t t') (fallback : String) :
    let e := ofSuccessBody body fallback
    let e' := ofSuccessBody body' fallback
    (t.IsReadable → t'.IsReadable → (Alike e e' ↔ (WritesZero t ↔ WritesZero t'))) ∧
    (¬t.IsReadable → ¬t'.IsReadable → Alike e e') ∧
    (t.IsReadable → ¬t'.IsReadable → (Alike e e' ↔ e.success = true ∧ e.message = "")) ∧
    (¬t.IsReadable → t'.IsReadable → (Alike e e' ↔ e'.success = true ∧ e'.message = "")) := by
  intro e e'
  have hplain {t : Tree} {body : Bytes} (h : Spells t body) (hno : ¬t.IsReadable) :
      (ofSuccessBody body fallback).success = true ∧
        (ofSuccessBody body fallback).message = "" := by
    apply ofSuccessBody_unread
    rw [h.read?]
    exact Option.eq_none_iff_forall_ne_some.mpr fun v hv => hno ⟨v, hv⟩
  refine ⟨?_, fun hno hno' => ?_, fun _ hno' => ?_, fun hno _ => ?_⟩
  · rintro ⟨value, hvalue⟩ ⟨value', hvalue'⟩
    have he : e = ofValue value fallback := ofSuccessBody_read (h.read?.trans hvalue) fallback
    have he' : e' = ofValue value' fallback := ofSuccessBody_read (h'.read?.trans hvalue') fallback
    rw [he, he']
    exact means_alike_iff hsame (Json.Tree.means_of_value? hvalue)
      (Json.Tree.means_of_value? hvalue') fallback
  · obtain ⟨hsuccess, hmessage⟩ := hplain h hno
    obtain ⟨hsuccess', hmessage'⟩ := hplain h' hno'
    exact ⟨hsuccess.trans hsuccess'.symm, hmessage.trans hmessage'.symm⟩
  · obtain ⟨hsuccess', hmessage'⟩ := hplain h' hno'
    rw [Alike, hsuccess', hmessage']
  · obtain ⟨hsuccess, hmessage⟩ := hplain h hno
    rw [Alike, hsuccess, hmessage, eq_comm, @eq_comm String]

def codeOnly (n : Json.Numeral) : Tree := .object [("code", .number n)]

lemma same_codeOnly {n n' : Json.Numeral} (h : n.value = n'.value) :
    Same (codeOnly n) (codeOnly n') := by
  refine .object fun key => ?_
  by_cases hkey : "code" = key
  · simp only [last?, hkey, if_true, Option.or]
    exact .some (.number h)
  · simp only [last?, hkey, if_false, Option.or]
    exact .none

lemma spells_codeOnly (n : Json.Numeral) :
    Spells (codeOnly n) (Text.Utf8.encode "\x7b\"code\":" ++ n.bytes ++ [0x7D]) := by
  let entry : Json.Entry := ⟨("code", .number n), 0x22 :: Json.Scan.quoted "code", n.bytes⟩
  have hgap : Json.IsGap [] := by decide
  have hkey : Json.SpellsKey "code" entry.key :=
    .quoted hgap (Json.Scan.writes_escape "code".toList) hgap
  exact @Spells.members [entry] (by simp) (by simpa using hkey) (by simpa using Spells.number n)

def oneDigit (b : UInt8) (h : Json.Scan.isDigit b = true) : Json.Figures :=
  ⟨[b], List.cons_ne_nil b [], by simpa using h⟩

def ofDigit (b : UInt8) (h : Json.Scan.isDigit b = true) : Json.Numeral where
  negative := false
  whole := oneDigit b h
  fraction := none
  exponent := none
  plain := by simp [oneDigit]

def withTenths (n : Json.Numeral) : Json.Numeral :=
  { n with fraction := some (oneDigit 0x30 rfl) }

theorem seven_spelled_twice :
    let n := ofDigit 0x37 rfl
    let body := Text.Utf8.encode "\x7b\"code\":7\x7d"
    let body' := Text.Utf8.encode "\n\x7b\"code\":7.0\x7d"
    (Spells (codeOnly n) body ∧ Spells (codeOnly (withTenths n)) body' ∧
      Same (codeOnly n) (codeOnly (withTenths n)) ∧
      (codeOnly n).IsReadable ∧ (codeOnly (withTenths n)).IsReadable) ∧
    Alike (ofSuccessBody body "Failed") (ofSuccessBody body' "Failed") ∧
    ofSuccessBody body "Failed" = ⟨false, "Failed", none⟩ := by
  intro n body body'
  have hspells : Spells (codeOnly n) body := spells_codeOnly n
  have hspells' : Spells (codeOnly (withTenths n)) body' :=
    @Spells.spaced _ [0x0A] _ [] (by decide) (spells_codeOnly (withTenths n)) (by decide)
  have hsame : Same (codeOnly n) (codeOnly (withTenths n)) := same_codeOnly (by decide +kernel)
  have hreadable : (codeOnly n).IsReadable := by
    refine Option.isSome_iff_exists.mp ?_
    rw [← hspells.read?]
    decide +kernel
  have hreadable' : (codeOnly (withTenths n)).IsReadable := by
    refine Option.isSome_iff_exists.mp ?_
    rw [← hspells'.read?]
    decide +kernel
  have hnonzero (m : Json.Numeral) (hm : m.bytes ≠ [0x30]) : ¬WritesZero (codeOnly m) := by
    rintro ⟨_, m', hobject, -, hcode, hbytes⟩
    cases hobject
    cases hcode
    exact hm hbytes
  obtain ⟨hread, -⟩ := spellings_alike_iff hspells hspells' hsame "Failed"
  refine ⟨⟨hspells, hspells', hsame, hreadable, hreadable'⟩, ?_, by decide +kernel⟩
  exact (hread hreadable hreadable').mpr
    (iff_of_false (hnonzero n (by decide)) (hnonzero (withTenths n) (by decide)))

theorem zero_spelled_twice :
    let n := ofDigit 0x30 rfl
    let body := Text.Utf8.encode "\x7b\"code\":0\x7d"
    let body' := Text.Utf8.encode "\x7b\"code\":0.0\x7d"
    (Spells (codeOnly n) body ∧ Spells (codeOnly (withTenths n)) body' ∧
      Same (codeOnly n) (codeOnly (withTenths n))) ∧
    ofSuccessBody body "Failed" = ⟨true, "", none⟩ ∧
    ofSuccessBody body' "Failed" = ⟨false, "Failed", none⟩ := by
  intro n body body'
  have hsame : Same (codeOnly n) (codeOnly (withTenths n)) := same_codeOnly (by decide +kernel)
  exact ⟨⟨spells_codeOnly n, spells_codeOnly (withTenths n), hsame⟩, by decide +kernel,
    by decide +kernel⟩

end StorageConsole.Envelope
