import StorageConsole.Proofs.Client.Settlement
import StorageConsole.Proofs.Envelope.Acceptance

namespace StorageConsole

open Script Envelope

namespace Login

def SaysZero (body : Bytes) : Prop :=
  ∃ members, Json.Value.read? body = some (.object members) ∧
    Json.Value.member? members "code" = some (.number (.int 0))

def Denies (body : Bytes) : Prop :=
  ∃ members, Json.Value.read? body = some (.object members) ∧
    Json.Value.member? members "success" = some (.bool false)

/-- The bodies that are read as a success although they tell no code of zero. -/
inductive Overlooked (body : Bytes) : Prop
  -- No JSON; an empty body is none.
  | text : Json.Value.read? body = none → Overlooked body
  | noObject {value : Json.Value} : Json.Value.read? body = some value → value.members? = none →
      Overlooked body
  -- Reports success beside another code, or beside none.
  | reported {members : List (String × Json.Value)} :
      Json.Value.read? body = some (.object members) →
      Json.Value.member? members "success" = some (.bool true) →
      Json.Value.member? members "code" ≠ some (.number (.int 0)) → Overlooked body
  -- Reports nothing.
  | unreported {members : List (String × Json.Value)} :
      Json.Value.read? body = some (.object members) →
      (∀ b, Json.Value.member? members "success" ≠ some (.bool b)) →
      Json.Value.member? members "code" = none → Overlooked body

variable {body : Bytes}

lemma accepted_cases (h : ¬IsFailure body) : Overlooked body ∨ (SaysZero body ∧ ¬Denies body) := by
  cases hread : Json.Value.read? body with
  | none => exact .inl (.text hread)
  | some value =>
    cases value with
    | object members =>
      have hverdict : verdict? members ≠ some false := fun hv => h ⟨members, hread, hv⟩
      have hdenies : ¬Denies body := by
        rintro ⟨members', hread', hfalse⟩
        cases hread.symm.trans hread'
        exact hverdict (verdict_of_success hfalse)
      by_cases hzero : Json.Value.member? members "code" = some (.number (.int 0))
      · exact .inr ⟨⟨members, hread, hzero⟩, hdenies⟩
      left
      -- A boolean `success` counts before any code.
      by_cases hsuccess : ∃ b, Json.Value.member? members "success" = some (.bool b)
      · obtain ⟨b, hb⟩ := hsuccess
        cases b with
        | false => exact absurd ⟨members, hread, hb⟩ hdenies
        | true => exact .reported hread hb hzero
      · have hno : ∀ b, Json.Value.member? members "success" ≠ some (.bool b) :=
          fun b hb => hsuccess ⟨b, hb⟩
        refine .unreported hread hno ?_
        cases hcode : Json.Value.member? members "code" with
        | none => rfl
        | some code =>
          have hne : code ≠ .number (.int 0) := fun hc => hzero (hc ▸ hcode)
          exact absurd ((verdict_of_code hno).mpr ⟨code, hcode, hne⟩) hverdict
    | null | bool | number | string | array => exact .inl (.noObject hread rfl)

lemma Overlooked.not_isFailure (h : Overlooked body) : ¬IsFailure body := by
  rintro ⟨members, hread, hverdict⟩
  cases h with
  | text hnone => cases hnone.symm.trans hread
  | noObject hvalue hmembers =>
    cases hvalue.symm.trans hread
    cases hmembers
  | reported hobject hsuccess _ =>
    cases hobject.symm.trans hread
    cases (verdict_of_success hsuccess).symm.trans hverdict
  | unreported hobject hno hcode =>
    cases hobject.symm.trans hread
    obtain ⟨code, hcode', _⟩ := (verdict_of_code hno).mp hverdict
    cases hcode.symm.trans hcode'

lemma Overlooked.not_saysZero (h : Overlooked body) : ¬SaysZero body := by
  rintro ⟨members, hread, hzero⟩
  cases h with
  | text hnone => cases hnone.symm.trans hread
  | noObject hvalue hmembers =>
    cases hvalue.symm.trans hread
    cases hmembers
  | reported hobject _ hcode =>
    cases hobject.symm.trans hread
    exact hcode hzero
  | unreported hobject _ hcode =>
    cases hobject.symm.trans hread
    cases hcode.symm.trans hzero

lemma SaysZero.not_isFailure (h : SaysZero body) (hdenies : ¬Denies body) : ¬IsFailure body := by
  obtain ⟨members, hread, hzero⟩ := h
  rintro ⟨members', hread', hverdict⟩
  cases hread.symm.trans hread'
  by_cases hsuccess : ∃ b, Json.Value.member? members "success" = some (.bool b)
  · obtain ⟨b, hb⟩ := hsuccess
    cases (verdict_of_success hb).symm.trans hverdict
    exact hdenies ⟨members, hread, hb⟩
  · obtain ⟨code, hcode, hne⟩ :=
      (verdict_of_code fun b hb => hsuccess ⟨b, hb⟩).mp hverdict
    cases hzero.symm.trans hcode
    exact hne rfl

lemma message_eq : Session.loginEndpoint.message = "Login failed" := by decide

lemma login_envelope (c : Client) (username password : String) (w : World) :
    ((Session.login c username password).run w).1 =
      ofReply (w.replies.headD World.noReply) "Login failed" := by
  have hsettled (reply : Http.Reply) :
      ((Session.loginOperation username password).settlement reply w.sink).1 =
        ofReply reply Session.loginEndpoint.message := by
    cases reply <;> rfl
  rw [← message_eq, ← hsettled]
  exact (Prod.ext_iff.mp (c.login_upshot w username password)).1

def Answered (w : World) (P : Bytes → Prop) : Prop :=
  ∃ response, w.replies.headD World.noReply = .ok response ∧ P response.body

/-- A login succeeds on a code of zero that the answer does not deny, and on the bodies that are
overlooked; a code of zero is its only success as long as there are none of these. -/
theorem login_succeeds_iff (c : Client) (username password : String) (w : World) :
    (((Session.login c username password).run w).1.success = true ↔
      Answered w fun body => Overlooked body ∨ (SaysZero body ∧ ¬Denies body)) ∧
    ((((Session.login c username password).run w).1.success = true → Answered w SaysZero) ↔
      ¬Answered w Overlooked) := by
  rw [login_envelope]
  have hsuccess : (ofReply (w.replies.headD World.noReply) "Login failed").success = true ↔
      Answered w fun body => Overlooked body ∨ (SaysZero body ∧ ¬Denies body) := by
    rw [ofReply_success]
    constructor
    · rintro ⟨response, hreply, h⟩
      exact ⟨response, hreply, accepted_cases h⟩
    · rintro ⟨response, hreply, h | ⟨hzero, hdenies⟩⟩
      · exact ⟨response, hreply, h.not_isFailure⟩
      · exact ⟨response, hreply, hzero.not_isFailure hdenies⟩
  refine ⟨hsuccess, ?_⟩
  rw [hsuccess]
  constructor
  · rintro h ⟨response, hreply, hoverlooked⟩
    obtain ⟨response', hreply', hzero⟩ := h ⟨response, hreply, .inl hoverlooked⟩
    cases hreply.symm.trans hreply'
    exact hoverlooked.not_saysZero hzero
  · rintro hnone ⟨response, hreply, hoverlooked | ⟨hzero, _⟩⟩
    · exact absurd ⟨response, hreply, hoverlooked⟩ hnone
    · exact ⟨response, hreply, hzero⟩

def claimed : Http.Response := ⟨200, [], Text.Utf8.encode "\x7b\"success\":true,\"code\":1\x7d"⟩

theorem login_succeeds_on_code_one :
    ((Session.login .plain "admin" "x").run (.showing "/login" [.ok claimed])).1.success = true ∧
    ¬Answered (.showing "/login" [.ok claimed]) SaysZero := by
  have hread : Json.Value.read? claimed.body =
      some (.object [("code", .number (.int 1)), ("success", .bool true)]) := by decide +kernel
  have hoverlooked : Overlooked claimed.body := .reported hread rfl (by decide)
  constructor
  · rw [login_envelope, ofReply_success]
    exact ⟨claimed, rfl, hoverlooked.not_isFailure⟩
  · rintro ⟨response, hresponse, hzero⟩
    cases hresponse
    exact hoverlooked.not_saysZero hzero

end Login
end StorageConsole
