import Mathlib.Tactic.Lemma
import StorageConsole.Envelope.Basic

namespace StorageConsole

namespace Json

lemma Reader.valueWith_blank (inner : Option (Bytes → Read Value)) {bs : Bytes}
    (h : bs.all Envelope.isSpace = true) : ∃ e, valueWith inner bs = .error e := by
  unfold valueWith
  cases hskip : Scan.skipSpace bs with
  | nil => exact ⟨_, rfl⟩
  | cons b rest =>
    -- Of the white space of envelopes, only the form feed is none of JSON.
    have hb : b = 0x0C := by
      unfold Scan.skipSpace at hskip
      have hmem : b ∈ bs := (List.dropWhile_sublist Scan.isSpace).subset (by simp [hskip])
      have hspace := List.all_eq_true.mp h b hmem
      have hstop := List.head?_dropWhile_not Scan.isSpace bs
      rw [hskip, List.head?_cons] at hstop
      simp only [Envelope.isSpace, Scan.isSpace, Bool.or_eq_true, Bool.or_eq_false_iff,
        beq_iff_eq, beq_eq_false_iff_ne] at hspace hstop
      simp_all
    subst hb
    exact ⟨_, rfl⟩

lemma Value.read?_blank {bs : Bytes} (h : bs.all Envelope.isSpace = true) : read? bs = none := by
  obtain ⟨e, he⟩ : ∃ e, Reader.value Reader.depthLimit bs = .error e :=
    Reader.valueWith_blank _ h
  simp [read?, read, he, Reader.finish, Except.toOption]

end Json

namespace Envelope

lemma ofSuccessBody_read {body : Bytes} {value : Json.Value}
    (h : Json.Value.read? body = some value) (fallback : String) :
    ofSuccessBody body fallback = ofValue value fallback := by
  have hspace : ¬body.all isSpace = true := by
    intro hblank
    rw [Json.Value.read?_blank hblank] at h
    cases h
  rw [ofSuccessBody, if_neg hspace, h]

lemma ofReport_success (success : Bool) (members : List (String × Json.Value))
    (fallback : String) : (ofReport success members fallback).success = success := by
  cases success <;> rfl

lemma signed_zero {v : Json.Value} : v.signed? = some 0 ↔ v = .number (.int 0) := by
  unfold Json.Value.signed?
  split
  · rename_i i
    constructor
    · intro h
      split at h
      · simpa using h
      · cases h
    · intro h
      cases h
      rfl
  · rename_i hv
    constructor
    · intro h
      cases h
    · intro h
      exact (hv 0 h).elim

variable {members : List (String × Json.Value)}

lemma verdict_of_success {b : Bool}
    (h : Json.Value.member? members "success" = some (.bool b)) : verdict? members = some b := by
  simp [verdict?, h]

lemma verdict_by_code (h : ∀ b, Json.Value.member? members "success" ≠ some (.bool b)) :
    verdict? members =
      (Json.Value.member? members "code").map fun code => decide (code = .number (.int 0)) := by
  unfold verdict?
  split
  · rename_i hsuccess
    exact absurd hsuccess (h _)
  · rename_i code hcode _
    rw [hcode, Option.map_some, Option.some.injEq, Bool.eq_iff_iff, decide_eq_true_eq, beq_iff_eq]
    exact signed_zero
  · rename_i hcode _
    rw [hcode]
    rfl

lemma verdict_of_code (h : ∀ b, Json.Value.member? members "success" ≠ some (.bool b)) :
    verdict? members = some false ↔
      ∃ code, Json.Value.member? members "code" = some code ∧ code ≠ .number (.int 0) := by
  simp [verdict_by_code h]

def IsFailure (body : Bytes) : Prop :=
  ∃ members, Json.Value.read? body = some (.object members) ∧ verdict? members = some false

lemma ofSuccessBody_success (body : Bytes) (fallback : String) :
    (ofSuccessBody body fallback).success = true ↔ ¬IsFailure body := by
  unfold ofSuccessBody IsFailure
  split
  · rename_i hblank
    simp [accept, Json.Value.read?_blank hblank]
  · cases Json.Value.read? body with
    | none => simp [accept]
    | some value =>
      cases value with
      | object members =>
        cases hverdict : verdict? members with
        | none => simp [ofValue, hverdict, accept]
        | some success => simp [ofValue, hverdict, ofReport_success]
      | _ => simp [ofValue, accept]

lemma ofReply_success (reply : Http.Reply) (fallback : String) :
    (ofReply reply fallback).success = true ↔
      ∃ response, reply = .ok response ∧ ¬IsFailure response.body := by
  cases reply with
  | ok response => simpa [ofReply] using ofSuccessBody_success response.body fallback
  | error failure => simp [ofReply, ofFailure, reject]

end Envelope
end StorageConsole
