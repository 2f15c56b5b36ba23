import Mathlib.Tactic.ByContra
import StorageConsole.Proofs.Envelope.Acceptance

namespace StorageConsole.Envelope

def Visible (text : String) : Prop := ∃ c ∈ text.toList, Text.isBlank c = false

lemma visible_iff {text : String} : Visible text ↔ Text.blank text = false := by
  simp [Visible, Text.blank]

lemma genericFailure_visible : Visible genericFailure :=
  visible_iff.mpr (by decide)

lemma orElse_of_visible {text : String} (h : Visible text) (default : String) :
    orElse text default = text := by
  simp [orElse, visible_iff.mp h]

lemma orElse_visible (text : String) {default : String} (h : Visible default) :
    Visible (orElse text default) := by
  unfold orElse
  split
  · exact h
  · rename_i htext
    exact visible_iff.mpr (by simpa using htext)

lemma reject_visible (message : String) : Visible (reject message).message :=
  orElse_visible message genericFailure_visible

lemma ofSuccessBody_failure {body : Bytes} {fallback : String}
    (h : (ofSuccessBody body fallback).success = false) :
    ∃ members, Json.Value.read? body = some (.object members) ∧
      verdict? members = some false ∧ ofSuccessBody body fallback =
        { reject (resolveMessage (some body) fallback) with data := data? members } := by
  have hfailure : IsFailure body := by
    by_contra hno
    rw [(ofSuccessBody_success body fallback).mpr hno] at h
    cases h
  obtain ⟨members, hread, hverdict⟩ := hfailure
  refine ⟨members, hread, hverdict, ?_⟩
  rw [ofSuccessBody_read hread]
  simp [hread, ofValue, hverdict, ofReport, resolveMessage, Json.Value.members?]

lemma ofValue_reported {members : List (String × Json.Value)} {e : Envelope}
    (hsuccess : Json.Value.member? members "success" = some (.bool e.success))
    (hmsg : Json.Value.member? members "msg" = none)
    (htext : ((Json.Value.member? members "message").bind (·.text?)).getD "" = e.message)
    (hdata : data? members = e.data) (hmessage : e.success = false → Visible e.message)
    (fallback : String) : ofValue (.object members) fallback = e := by
  have hverdict : verdict? members = some e.success := by
    rw [verdict?, hsuccess]
  have hmessages : ∀ keys ∈ [successKeys, failureKeys],
      messageOf? members keys = if e.message = "" then none else some e.message := by
    rw [← htext]
    cases htold : (Json.Value.member? members "message").bind (·.text?) with
    | none => simp [messageOf?, successKeys, failureKeys, hmsg, htold]
    | some text =>
      by_cases hempty : text = "" <;>
        simp [messageOf?, successKeys, failureKeys, hmsg, htold, hempty]
  simp only [List.forall_mem_cons, List.not_mem_nil, false_implies, implies_true, and_true]
    at hmessages
  simp only [ofValue, hverdict, ofReport, hmessages, hdata]
  obtain ⟨success, message, data⟩ := e
  cases success with
  | true => by_cases hempty : message = "" <;> simp [hempty, accept]
  | false =>
    have hvisible : Visible message := hmessage rfl
    have hempty : message ≠ "" := by
      rintro rfl
      simp [Visible] at hvisible
    simp [hempty, reject, orElse_of_visible hvisible]

def told? (body : Bytes) (key : String) : Option String :=
  ((Json.Value.read? body).bind (·.members?)).bind fun members =>
    (Json.Value.member? members key).bind (·.text?)

def told (body : Bytes) : List String := failureKeys.filterMap (told? body)

lemma resolveMessage_told (body : Bytes) (fallback : String) :
    resolveMessage (some body) fallback = ((told body).find? (· != "")).getD fallback := by
  have hmessage : (Json.Value.read? body).bind (fun value =>
      value.members?.bind (messageOf? · failureKeys)) = (told body).find? (· != "") := by
    unfold told told?
    cases Json.Value.read? body with
    | none => rfl
    | some value => cases hmembers : value.members? <;> simp [messageOf?, hmembers]
  exact congrArg (·.getD fallback) hmessage

def firstVisible (texts : List String) (fallback : String) : String :=
  (texts.find? (!Text.blank ·)).getD fallback

/-- The first text that is not empty is blank. -/
def Veiled (texts : List String) : Prop :=
  ∃ t, texts.find? (· != "") = some t ∧ Text.blank t = true

lemma blank_empty : Text.blank "" = true := by decide

lemma reject_veiled {texts : List String} (h : Veiled texts) (fallback : String) :
    (reject ((texts.find? (· != "")).getD fallback)).message = genericFailure := by
  obtain ⟨t, ht, hblank⟩ := h
  simp [reject, orElse, ht, hblank]

lemma find_of_not_veiled {texts : List String} (h : ¬Veiled texts) :
    texts.find? (· != "") = texts.find? (!Text.blank ·) := by
  induction texts with
  | nil => rfl
  | cons t texts ih =>
    by_cases hempty : t = ""
    · subst hempty
      have hrest : ¬Veiled texts := by
        rintro ⟨t, ht, hblank⟩
        exact h ⟨t, by simpa using ht, hblank⟩
      simpa [blank_empty] using ih hrest
    · have hfirst : (t :: texts).find? (· != "") = some t := by simp [hempty]
      have hblank : Text.blank t = false := by
        by_contra hblank
        exact h ⟨t, hfirst, by simpa using hblank⟩
      simp [hempty, hblank]

lemma firstVisible_visible (texts : List String) {fallback : String} (h : Visible fallback) :
    Visible (firstVisible texts fallback) := by
  unfold firstVisible
  cases hfind : texts.find? (!Text.blank ·) with
  | none => exact h
  | some t => exact visible_iff.mpr (by simpa using List.find?_some hfind)

lemma reject_not_veiled {texts : List String} (h : ¬Veiled texts) {fallback : String}
    (hfallback : Visible fallback) :
    (reject ((texts.find? (· != "")).getD fallback)).message = firstVisible texts fallback := by
  rw [find_of_not_veiled h]
  exact orElse_of_visible (firstVisible_visible texts hfallback) genericFailure

end StorageConsole.Envelope
