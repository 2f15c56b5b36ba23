import StorageConsole.Envelope.Record
import StorageConsole.Proofs.Envelope.Message
import StorageConsole.Proofs.Json.Rereading

namespace StorageConsole.Envelope

open Json (Value)
open Json.Scan (Ends)

def CanCarry (data : Option Value) : Prop :=
  ∀ d, data = some d → d ≠ .null ∧ d.Fits 126 ∧ d.Ordered

variable {e : Envelope}

lemma members_fit (hdata : CanCarry e.data) :
    ∀ m ∈ ([("success", .bool e.success), ("message", .string e.message)] : List (String × Value))
      ++ (e.data.map fun d => ("data", d)).toList, m.2.Fits 126 ∧ m.2.Ordered := by
  intro m hm
  simp only [List.mem_append, List.mem_cons, List.not_mem_nil, or_false, Option.mem_toList,
    Option.map_eq_some_iff] at hm
  obtain (rfl | rfl) | ⟨d, hd, rfl⟩ := hm
  · exact ⟨.bool _, .bool _⟩
  · exact ⟨.string _, .string _⟩
  · exact (hdata d hd).2

def readMembers (e : Envelope) : List (String × Value) :=
  (e.data.map fun d => ("data", d)).toList ++
    [("message", .string e.message), ("success", .bool e.success)]

lemma insertAll_members (e : Envelope) :
    Value.insertAll [] ([("success", .bool e.success), ("message", .string e.message)]
      ++ (e.data.map fun d => ("data", d)).toList) = readMembers e := by
  have horder : "message" < "success" ∧ "data" < "message" := by decide
  cases hdata : e.data <;>
    simp [Value.insertAll, Value.insert, readMembers, hdata, horder.1, horder.2]

lemma read?_value (hdata : CanCarry e.data) :
    Value.read? e.value.bytes = some (.object (readMembers e)) := by
  have hread := Json.Reader.value_object (members_fit hdata) []
  rw [List.append_nil, insertAll_members] at hread
  have hvalue : Json.Reader.value Json.Reader.depthLimit e.value.bytes =
      .ok (.object (readMembers e), []) := hread
  rw [Value.read?, Value.read, hvalue]
  rfl

lemma member?_readMembers (e : Envelope) :
    Value.member? (readMembers e) "success" = some (.bool e.success) ∧
      Value.member? (readMembers e) "message" = some (.string e.message) ∧
      Value.member? (readMembers e) "msg" = none ∧
      Value.member? (readMembers e) "data" = e.data := by
  cases hdata : e.data <;> simp [readMembers, Value.member?, hdata]

lemma data?_readMembers (hdata : CanCarry e.data) : data? (readMembers e) = e.data := by
  obtain ⟨-, -, -, hmember⟩ := member?_readMembers e
  rw [data?, hmember]
  cases hd : e.data with
  | none => rfl
  | some d =>
    have hnull := (hdata d hd).1
    cases d <;> first | rfl | exact absurd rfl hnull

lemma ofSuccessBody_value (hdata : CanCarry e.data)
    (hmessage : e.success = false → Visible e.message) (fallback : String) :
    ofSuccessBody e.value.bytes fallback = e := by
  obtain ⟨hsuccess, htold, hmsg, -⟩ := member?_readMembers e
  rw [ofSuccessBody_read (read?_value hdata)]
  exact ofValue_reported hsuccess hmsg (by rw [htold]; rfl) (data?_readMembers hdata) hmessage
    fallback

lemma gathers_draft (hdata : CanCarry e.data) :
    Json.Reader.Gathers (Json.Record.member shape 126) {}
      ([("success", .bool e.success), ("message", .string e.message)]
        ++ (e.data.map fun d => ("data", d)).toList)
      ⟨some e.success, some e.message, e.data.map some⟩ := by
  obtain ⟨success, message, data⟩ := e
  have hsuccess (rest : Bytes) : Json.Record.member shape 126 {}
      (Value.memberBytes ("success", .bool success) rest) =
        .ok (⟨some success, none, none⟩, rest) := by
    apply Json.Record.member_reads rfl rfl
    simp [Json.Record.bool_reads, Except.map]
  have hmessage (rest : Bytes) : Json.Record.member shape 126 ⟨some success, none, none⟩
      (Value.memberBytes ("message", .string message) rest) =
        .ok (⟨some success, some message, none⟩, rest) := by
    apply Json.Record.member_reads rfl rfl
    simp [Json.Record.string_reads, Except.map]
  cases data with
  | none => exact .cons (fun rest _ => hsuccess rest) (.cons (fun rest _ => hmessage rest) (.nil _))
  | some d =>
    obtain ⟨hnull, hfits, hordered⟩ := hdata d rfl
    have hlast (rest : Bytes) (hrest : Ends rest) :
        Json.Record.member shape 126 ⟨some success, some message, none⟩
          (Value.memberBytes ("data", d) rest) =
            .ok (⟨some success, some message, some (some d)⟩, rest) := by
      apply Json.Record.member_reads rfl rfl
      simp [Json.Record.optional_reads hfits hordered hnull hrest, Except.map]
    exact .cons (fun rest _ => hsuccess rest)
      (.cons (fun rest _ => hmessage rest) (.cons hlast (.nil _)))

lemma decode_value (hdata : CanCarry e.data) : decode e.value.bytes = .ok e := by
  have hrecord := Json.Record.record_object (gathers_draft hdata) rfl []
  rw [List.append_nil] at hrecord
  have hread : Json.Record.record shape {} Json.Reader.depthLimit e.value.bytes =
      .ok (⟨some e.success, some e.message, e.data.map some⟩, []) := hrecord
  rw [decode, hread]
  obtain ⟨success, message, data⟩ := e
  cases data <;> rfl

lemma data?_ordered {members : List (String × Value)} (h : (Value.object members).Ordered)
    {d : Value} (hd : data? members = some d) : d.Ordered := by
  obtain ⟨hmember, -⟩ := Option.filter_eq_some_iff.mp hd
  obtain ⟨m, hfind, rfl⟩ := Option.map_eq_some_iff.mp hmember
  cases h with
  | object _ hordered => exact hordered m (List.mem_of_find?_eq_some hfind)

lemma ofValue_ordered {value : Value} (h : value.Ordered) {fallback : String} {d : Value}
    (hd : (ofValue value fallback).data = some d) : d.Ordered := by
  unfold ofValue at hd
  split at hd
  · split at hd
    · rename_i success _
      apply data?_ordered h
      cases success <;> exact hd
    · cases hd
      exact h
  · cases hd
    exact h

lemma ofSuccessBody_ordered (body : Bytes) (fallback : String) {d : Value}
    (hd : (ofSuccessBody body fallback).data = some d) : d.Ordered := by
  unfold ofSuccessBody at hd
  split at hd
  · cases hd
  · cases hread : Value.read? body with
    | none =>
      rw [hread] at hd
      cases hd
      exact .string _
    | some value =>
      have hordered := Value.read?_ordered hread
      rw [hread] at hd
      exact ofValue_ordered hordered hd

/-- An envelope that an answer was read as is read again where it was written, with any fallback,
and decoded too. -/
theorem ofSuccessBody_rereads (body : Bytes) (fallback : String)
    (hdata : ∀ d, (ofSuccessBody body fallback).data = some d → d ≠ .null ∧ d.Fits 126) :
    let e := ofSuccessBody body fallback
    (∀ other, ofSuccessBody e.value.bytes other = e) ∧ decode e.value.bytes = .ok e := by
  intro e
  have hcarry : CanCarry e.data := by
    intro d hd
    obtain ⟨hnull, hfits⟩ := hdata d hd
    exact ⟨hnull, hfits, ofSuccessBody_ordered body fallback hd⟩
  have hmessage : e.success = false → Visible e.message := by
    intro hfailed
    obtain ⟨members, -, -, heq⟩ := ofSuccessBody_failure hfailed
    have hsame : e = { reject (resolveMessage (some body) fallback) with data := data? members } :=
      heq
    rw [hsame]
    exact reject_visible _
  exact ⟨ofSuccessBody_value hcarry hmessage, decode_value hcarry⟩

def refusal : Bytes :=
  Text.Utf8.encode "\x7b\"code\":7,\"msg\":\"full\",\"data\":\x7b\"used\":[3],\"left\":-1\x7d\x7d"

theorem refusal_rereads :
    let e := ofSuccessBody refusal "Failed"
    let d : Value := .object [("left", .number (.int (-1))), ("used", .array [.number (.int 3)])]
    (d ≠ .null ∧ d.Fits 126) ∧ e = ⟨false, "full", some d⟩ ∧
      ofSuccessBody e.value.bytes "Failed again" = e ∧ decode e.value.bytes = .ok e := by
  intro e d
  have he : e = ⟨false, "full", some d⟩ := by decide +kernel
  have hitem : (Value.array [.number (.int 3)]).Fits 125 := by
    apply Value.Fits.array
    simpa using Value.Fits.int (by decide +kernel) (by decide +kernel)
  have hfits : d ≠ .null ∧ d.Fits 126 := by
    refine ⟨by decide, .object ?_⟩
    have hleft : (Value.number (.int (-1))).Fits 125 := .int (by decide +kernel) (by decide +kernel)
    simpa using ⟨hleft, hitem⟩
  obtain ⟨hread, hdecoded⟩ := ofSuccessBody_rereads refusal "Failed" (by
    intro d' hd'
    have hsame : d = d' := by
      rw [show ofSuccessBody refusal "Failed" = ⟨false, "full", some d⟩ from he] at hd'
      exact Option.some.inj hd'
    rw [← hsame]
    exact hfits)
  exact ⟨hfits, he, hread _, hdecoded⟩

end StorageConsole.Envelope
