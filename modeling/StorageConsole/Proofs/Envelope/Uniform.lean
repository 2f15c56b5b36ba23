import StorageConsole.Envelope.Record
import StorageConsole.Proofs.Envelope.Message
import StorageConsole.Proofs.Json.Agreement

namespace StorageConsole.Envelope

open Json (Value Agree ok_of_map)

structure Reflects (draft : Draft) (members : List (String × Value)) : Prop where
  success : Value.member? members "success" = draft.success.map .bool
  message : Value.member? members "message" = draft.message.map .string
  data : draft.data =
    (Value.member? members "data").map fun v => if v.isNull then none else some v

lemma Reflects.empty : Reflects {} [] := ⟨rfl, rfl, rfl⟩

variable {draft : Draft} {members : List (String × Value)}

lemma Reflects.unknown (h : Reflects draft members) {key : String}
    (hkey : ∀ field ∈ shape.fields, field.name ≠ key) (v : Value) :
    Reflects draft (Value.insert key v members) := by
  have hother (name : String) (hname : name ≠ key) :
      Value.member? (Value.insert key v members) name = Value.member? members name := by
    rw [Value.member?_insert, if_neg fun heq => hname heq.symm]
  simp only [shape, List.forall_mem_cons] at hkey
  obtain ⟨hsuccess, hmessage, hdata, -⟩ := hkey
  refine ⟨?_, ?_, ?_⟩
  · rw [hother _ hsuccess, h.success]
  · rw [hother _ hmessage, h.message]
  · rw [hother _ hdata, h.data]

lemma field_reflects (h : Reflects draft members) (depth : Nat) :
    ∀ field ∈ shape.fields,
      Agree (fun draft' v => Reflects draft' (Value.insert field.name v members))
        (field.read depth draft) (Json.Reader.value depth) := by
  obtain ⟨inner?, hvalue⟩ : ∃ inner?, Json.Reader.value depth = Json.Reader.valueWith inner? := by
    cases depth <;> exact ⟨_, rfl⟩
  simp only [shape, List.forall_mem_cons, List.not_mem_nil, false_implies, implies_true, and_true]
  refine ⟨?_, ?_, ?_⟩
  · intro bs draft' v rest rest' hdraft hread
    obtain ⟨⟨b, _⟩, hbool, heq⟩ := ok_of_map hdraft
    cases heq
    rw [hvalue] at hread
    obtain ⟨rfl, rfl⟩ := Json.Record.bool_agrees _ _ _ _ _ hbool hread
    refine ⟨rfl, ?_, ?_, ?_⟩
    · simp [Value.member?_insert]
    · simpa [Value.member?_insert] using h.message
    · simpa [Value.member?_insert] using h.data
  · intro bs draft' v rest rest' hdraft hread
    obtain ⟨⟨s, _⟩, hstring, heq⟩ := ok_of_map hdraft
    cases heq
    rw [hvalue] at hread
    obtain ⟨rfl, rfl⟩ := Json.Record.string_agrees _ _ _ _ _ hstring hread
    refine ⟨rfl, ?_, ?_, ?_⟩
    · simpa [Value.member?_insert] using h.success
    · simp [Value.member?_insert]
    · simpa [Value.member?_insert] using h.data
  · intro bs draft' v rest rest' hdraft hread
    obtain ⟨⟨d, _⟩, hoptional, heq⟩ := ok_of_map hdraft
    cases heq
    rw [hvalue] at hoptional hread
    obtain ⟨rfl, rfl⟩ := Json.Record.optional_agrees _ _ _ _ _ hoptional hread
    refine ⟨rfl, ?_, ?_, ?_⟩
    · simpa [Value.member?_insert] using h.success
    · simpa [Value.member?_insert] using h.message
    · simp [Value.member?_insert]

lemma member_reflects (h : Reflects draft members) (depth : Nat) :
    Agree Reflects (Json.Record.member shape depth draft)
      (Json.Reader.member (Json.Reader.value depth) members) := by
  intro bs draft' members' rest rest' hdraft hmembers
  rw [Json.Record.member] at hdraft
  rw [Json.Reader.member] at hmembers
  split at hmembers
  · cases hmembers
  · rename_i key after hkey
    split at hmembers
    · cases hmembers
    · rename_i start hcolon
      split at hmembers
      · cases hmembers
      · rename_i v _ hread
        cases hmembers
        simp only [hkey, hcolon] at hdraft
        split at hdraft
        · rename_i hunknown
          obtain ⟨_, hskip, heq⟩ := ok_of_map hdraft
          obtain ⟨⟨_, _⟩, hnested, hrest⟩ := ok_of_map hskip
          cases heq
          cases hrest
          refine ⟨(Json.Skip.value_passes _ _ _ _ _ _ _ hread hnested).1.symm, ?_⟩
          exact h.unknown (by simpa using hunknown) v
        · rename_i field hknown
          split_ifs at hdraft
          obtain rfl : field.name = key := by simpa using List.find?_some hknown
          exact field_reflects h depth field (List.mem_of_find?_eq_some hknown) _ _ _ _ _ hdraft
            hread

lemma decode_object {body : Bytes} {e : Envelope} (hdecode : decode body = .ok e)
    (hobject : Value.read? body = some (.object members)) :
    Value.member? members "success" = some (.bool e.success) ∧
      ((Value.member? members "message").bind (·.text?)).getD "" = e.message ∧
      data? members = e.data := by
  obtain ⟨_, hvalue⟩ := Value.value_of_read? hobject
  obtain ⟨more, hfront, hmembers⟩ := Json.Record.object_front hvalue
  obtain ⟨draft, hfinish, rfl⟩ := ok_of_map hdecode
  obtain ⟨_, hrecord⟩ := Json.Reader.ok_of_finish hfinish
  obtain ⟨hdrafted, hrequired⟩ := Json.Record.record_members hfront hrecord
  obtain ⟨-, hreflects⟩ := Json.Scan.members_agree (fun _ _ h => member_reflects h _) hdrafted
    hmembers Reflects.empty
  have hsuccess : draft.success.isSome = true := by
    simpa [shape] using hrequired
  obtain ⟨b, hb⟩ := Option.isSome_iff_exists.mp hsuccess
  refine ⟨?_, ?_, ?_⟩
  · rw [hreflects.success, hb]
    rfl
  · rw [hreflects.message]
    cases draft.message <;> rfl
  · rw [data?, hreflects.data]
    cases Value.member? members "data" with
    | none => rfl
    | some v => cases v <;> rfl

variable {body : Bytes} {e : Envelope}

/-- A body that is decoded as an envelope is read as that envelope. -/
theorem uniform_body_passes (hobject : Value.read? body = some (.object members))
    (hmsg : Value.member? members "msg" = none) (hdecode : decode body = .ok e)
    (hmessage : e.success = true ∨ Visible e.message) (fallback : String) :
    ofSuccessBody body fallback = e := by
  obtain ⟨hsuccess, htext, hdata⟩ := decode_object hdecode hobject
  have hvisible : e.success = false → Visible e.message := by
    intro hfailed
    refine hmessage.resolve_left ?_
    rw [hfailed]
    exact Bool.false_ne_true
  rw [ofSuccessBody_read hobject]
  exact ofValue_reported hsuccess hmsg htext hdata hvisible fallback

def contradiction : Bytes :=
  Text.Utf8.encode ("\x7b\"code\":0,\"success\":false,\"message\":\"full\",\"data\":[1],"
    ++ "\"more\":\x7b\"msg\":\"x\"\x7d\x7d")

theorem contradiction_passes :
    let e : Envelope := ⟨false, "full", some (.array [.number (.int 1)])⟩
    decode contradiction = .ok e ∧ Visible e.message ∧
      ∀ fallback, ofSuccessBody contradiction fallback = e := by
  intro e
  have hdecode : decode contradiction = .ok e := Json.ok_of_toOption (by decide +kernel)
  have hvisible : Visible e.message := ⟨'f', by decide, by decide⟩
  have hobject : Value.read? contradiction = some (.object [("code", .number (.int 0)),
      ("data", .array [.number (.int 1)]), ("message", .string "full"),
      ("more", .object [("msg", .string "x")]), ("success", .bool false)]) := by
    decide +kernel
  exact ⟨hdecode, hvisible, uniform_body_passes hobject rfl hdecode (.inr hvisible)⟩

end StorageConsole.Envelope
