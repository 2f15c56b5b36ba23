import StorageConsole.Proofs.Client.Settlement
import StorageConsole.Proofs.Envelope.Message

/-! What failed calls say, and where a blank text hides what they should say. -/

namespace StorageConsole

open Script Envelope

namespace Operation

variable (op : Operation)

inductive Fails (sink : Download.Sink) : Http.Reply → Envelope → Prop
  | unsent (reply : Http.Reply) : op.own? = none → Fails sink reply (.reject op.endpoint.message)
  | refused (failure : Http.Failure) : op.own? ≠ none →
      Fails sink (.error failure) (.reject (failureMessage failure op.endpoint.message))
  | reported {response : Http.Response} {members : List (String × Json.Value)} :
      Json.Value.read? response.body = some (.object members) → verdict? members = some false →
      Fails sink (.ok response)
        { reject (resolveMessage (some response.body) op.endpoint.message) with
          data := data? members }
  | disguised {response : Http.Response} : op.endpoint.verb = .download →
      Download.isErrorPayload response.effectiveType = true →
      Fails sink (.ok response) (.reject (resolveMessage (some response.body) op.endpoint.message))
  | unsaved (response : Http.Response) {fault : Files.Fault} : op.endpoint.verb = .download →
      (sink.save (op.file response).1 (op.file response).2).2 = .error fault →
      Fails sink (.ok response) (.reject op.endpoint.message)

variable {op} {sink : Download.Sink} {reply : Http.Reply}

lemma received_fails {response : Http.Response} (hverb : op.endpoint.verb = .download)
    (h : (op.received response sink).1.success = false) :
    op.Fails sink (.ok response) (op.received response sink).1 := by
  unfold received at h ⊢
  by_cases herror : Download.isErrorPayload response.effectiveType = true
  · rw [if_pos herror]
    exact .disguised hverb herror
  · rw [if_neg herror] at h ⊢
    -- a file that has been saved is a success
    cases hsaved : (sink.save (op.file response).1 (op.file response).2).2 with
    | ok u =>
      simp only [hsaved, receipt, accept] at h
      cases h
    | error fault =>
      simp only [hsaved, receipt]
      exact .unsaved response hverb hsaved

lemma settlement_fails (h : (op.settlement reply sink).1.success = false) :
    op.Fails sink reply (op.settlement reply sink).1 := by
  unfold settlement at h ⊢
  cases hsent : op.own? with
  | none => exact .unsent reply hsent
  | some own =>
    simp only [hsent] at h ⊢
    cases reply with
    | error failure => exact .refused failure (by simp [hsent])
    | ok response =>
      simp only [answered] at h ⊢
      by_cases hverb : op.endpoint.verb = .download
      · rw [if_pos hverb] at h ⊢
        exact received_fails hverb h
      · rw [if_neg hverb] at h ⊢
        obtain ⟨members, hread, hverdict, heq⟩ := ofSuccessBody_failure h
        rw [heq]
        exact .reported hread hverdict

lemma Fails.visible {e : Envelope} (h : op.Fails sink reply e) : Visible e.message := by
  cases h with
  | unsent | refused | reported | disguised | unsaved => exact reject_visible _

lemma Fails.data {e : Envelope} (h : op.Fails sink reply e) (hdata : e.data ≠ none) :
    ∃ response members, reply = .ok response ∧
      Json.Value.read? response.body = some (.object members) ∧
      verdict? members = some false ∧ e.data = data? members := by
  cases h with
  | reported hread hverdict => exact ⟨_, _, rfl, hread, hverdict, rfl⟩
  | unsent | refused | disguised | unsaved => exact absurd rfl hdata

/-- The body in which an answer tells why a call failed. -/
inductive Tells (op : Operation) : Http.Reply → Bytes → Prop
  | rejected (code : Nat) (headers : Http.Headers) (body : Bytes) :
      Tells op (.error (.status code headers body)) body
  | reported {response : Http.Response} : op.endpoint.verb ≠ .download →
      IsFailure response.body → Tells op (.ok response) response.body
  | disguised {response : Http.Response} : op.endpoint.verb = .download →
      Download.isErrorPayload response.effectiveType = true →
      Tells op (.ok response) response.body

lemma Tells.settlement {body : Bytes} (h : op.Tells reply body) (hown : op.own? ≠ none)
    (sink : Download.Sink) :
    (op.settlement reply sink).1.success = false ∧
    (op.settlement reply sink).1.message =
      (Envelope.reject (resolveMessage (some body) op.endpoint.message)).message := by
  obtain ⟨own, hsent⟩ := Option.ne_none_iff_exists'.mp hown
  cases h with
  | rejected code headers =>
    rw [settlement_rejected hown]
    exact ⟨rfl, rfl⟩
  | @reported response hverb hfailure =>
    have hfailed : (ofSuccessBody response.body op.endpoint.message).success = false := by
      rw [← Bool.not_eq_true, ofSuccessBody_success]
      exact not_not_intro hfailure
    obtain ⟨members, -, -, heq⟩ := ofSuccessBody_failure hfailed
    simp only [Operation.settlement, hsent, answered, if_neg hverb]
    refine ⟨hfailed, ?_⟩
    rw [heq]
  | @disguised response hverb herror =>
    have hrejected : op.settlement (.ok response) sink =
        (.reject (resolveMessage (some response.body) op.endpoint.message), sink) := by
      simp only [Operation.settlement, hsent, answered, if_pos hverb, received, if_pos herror]
    rw [hrejected]
    exact ⟨rfl, rfl⟩

inductive Carries (op : Operation) : Http.Reply → Bytes → Prop
  | answered (response : Http.Response) : op.endpoint.verb ≠ .download →
      Carries op (.ok response) response.body
  | rejected (code : Nat) (headers : Http.Headers) (body : Bytes) :
      Carries op (.error (.status code headers body)) body
  | disguised (response : Http.Response) : op.endpoint.verb = .download →
      Download.isErrorPayload response.effectiveType = true →
      Carries op (.ok response) response.body

lemma Carries.tells {body : Bytes} (h : op.Carries reply body) (hfailure : IsFailure body) :
    op.Tells reply body := by
  cases h with
  | answered response hverb => exact .reported hverb hfailure
  | rejected code headers => exact .rejected code headers body
  | disguised response hverb herror => exact .disguised hverb herror

end Operation

namespace Client

variable {c : Client} {command : Command} {w : World}

lemma operation_of_envelope {e : Envelope} (h : ((c.perform command).run w).1 = .envelope e) :
    ∃ op, command.operation? = some op ∧ e = (op.settlement w.traffic.reply w.sink).1 := by
  have hcall {op : Operation} (hop : command.operation? = some op) :
      ∃ op, command.operation? = some op ∧ e = (op.settlement w.traffic.reply w.sink).1 := by
    have hresult := congrArg Prod.fst (c.perform_upshot op w hop)
    exact ⟨op, hop, Result.envelope.inj (h.symm.trans hresult)⟩
  cases command with
  | call op => exact hcall rfl
  | login username password => exact hcall rfl
  | visit | refused => cases h
  | logout | authStatus | guard =>
    simp only [perform, bind_eq, run_bind] at h
    cases h

/-- A call that fails says something, and has data only if the answer is an object that reports the
failure. -/
theorem failed_call_speaks (c : Client) (command : Command) (w : World) (e : Envelope)
    (hresult : ((c.perform command).run w).1 = .envelope e) (hfailed : e.success = false) :
    Visible e.message ∧
    (e.data ≠ none → ∃ response members, w.replies.headD World.noReply = .ok response ∧
      Json.Value.read? response.body = some (.object members) ∧
      verdict? members = some false ∧ e.data = data? members) := by
  obtain ⟨op, -, rfl⟩ := operation_of_envelope hresult
  have hfails := Operation.settlement_fails hfailed
  exact ⟨hfails.visible, hfails.data⟩

def mute : Command :=
  .call ⟨⟨.delete, "/x", " "⟩, .query none, {}⟩

def blankReport : Http.Response :=
  ⟨200, [], Text.Utf8.encode "\x7b\"code\":5,\"msg\":\"\\t\",\"data\":[1]\x7d"⟩

theorem mute_call_speaks :
    ((plain.perform mute).run (.showing "/objects" [.ok blankReport])).1 =
      .envelope ⟨false, "Request failed", some (.array [.number (.int 1)])⟩ ∧
    Visible "Request failed" ∧
    ∃ members, Json.Value.read? blankReport.body = some (.object members) ∧
      verdict? members = some false := by
  have hresult : ((plain.perform mute).run (.showing "/objects" [.ok blankReport])).1 =
      .envelope ⟨false, "Request failed", some (.array [.number (.int 1)])⟩ := by decide +kernel
  obtain ⟨hvisible, hdata⟩ := failed_call_speaks plain mute _ _ hresult rfl
  obtain ⟨response, members, hreply, hread, hverdict, -⟩ := hdata (by simp)
  cases hreply
  exact ⟨hresult, hvisible, members, hread, hverdict⟩

/-- The message of a failed call is the first visible text of those that the answer tells and the
fallback that the call was bound with, unless a blank text veils the others: then it is the generic
one, whatever else was told. -/
theorem failure_message_iff_not_veiled (c : Client) (command : Command) (op : Operation) (w : World)
    (body : Bytes) (hop : command.operation? = some op) (hown : op.own? ≠ none)
    (hbound : Visible op.endpoint.fallback)
    (htells : op.Tells (w.replies.headD World.noReply) body) :
    ∃ e, ((c.perform command).run w).1 = .envelope e ∧ e.success = false ∧
      (Veiled (told body) → e.message = genericFailure) ∧
      (e.message = firstVisible (told body) op.endpoint.fallback ↔
        ¬Veiled (told body) ∨ firstVisible (told body) op.endpoint.fallback = genericFailure) := by
  have hresult : ((c.perform command).run w).1 =
      .envelope (op.settlement w.traffic.reply w.sink).1 :=
    congrArg Prod.fst (c.perform_upshot op w hop)
  obtain ⟨hfailed, hmessage⟩ := htells.settlement hown w.sink
  have hfallback : op.endpoint.message = op.endpoint.fallback := orElse_of_visible hbound _
  rw [hfallback, resolveMessage_told] at hmessage
  have hveiled (h : Veiled (told body)) :
      (op.settlement w.traffic.reply w.sink).1.message = genericFailure :=
    hmessage.trans (reject_veiled h _)
  refine ⟨_, hresult, hfailed, hveiled, ?_⟩
  by_cases h : Veiled (told body)
  · rw [hveiled h]
    simp [h, eq_comm]
  · have hfirst := hmessage.trans (reject_not_veiled h hbound)
    exact ⟨fun _ => .inl h, fun _ => hfirst⟩

def refusedWith (body : Bytes) : World :=
  .showing "/objects" [.error (.status 500 [] body)]

def fullDisk : Bytes := Text.Utf8.encode "\x7b\"msg\":\"\",\"message\":\"disk full\"\x7d"

theorem stats_tell_full_disk :
    Visible Resources.stats.endpoint.fallback ∧ told fullDisk = ["", "disk full"] ∧
    ∃ e, ((plain.perform (.call Resources.stats)).run (refusedWith fullDisk)).1 = .envelope e ∧
      e.message = "disk full" := by
  have hbound : Visible Resources.stats.endpoint.fallback := visible_iff.mpr (by decide)
  have htold : told fullDisk = ["", "disk full"] := by decide +kernel
  obtain ⟨e, hresult, -, -, hmessage⟩ :=
    failure_message_iff_not_veiled plain (.call Resources.stats) Resources.stats
      (refusedWith fullDisk) fullDisk rfl (by decide) hbound (.rejected 500 [] fullDisk)
  have hveiled : ¬Veiled (told fullDisk) := by
    rw [htold]
    rintro ⟨t, ht, hblank⟩
    cases ht
    revert hblank
    decide
  refine ⟨hbound, htold, e, hresult, ?_⟩
  rw [hmessage.mpr (.inl hveiled), htold]
  decide

def veiledDisk : Bytes := Text.Utf8.encode "\x7b\"msg\":\" \",\"message\":\"disk full\"\x7d"

theorem stats_hide_full_disk :
    ((plain.perform (.call Resources.stats)).run (refusedWith veiledDisk)).1 =
      .envelope ⟨false, "Request failed", none⟩ ∧
    Resources.stats.own? ≠ none ∧ Visible Resources.stats.endpoint.fallback ∧
    Resources.stats.Tells ((refusedWith veiledDisk).replies.headD World.noReply) veiledDisk ∧
    firstVisible (told veiledDisk) Resources.stats.endpoint.fallback = "disk full" := by
  have hbound : Visible Resources.stats.endpoint.fallback := visible_iff.mpr (by decide)
  refine ⟨by decide +kernel, by decide, hbound, .rejected 500 [] veiledDisk, ?_⟩
  decide +kernel

/-- A body that an answer would report a failure with is told alike wherever it comes: every call
that it reaches fails with the one message. -/
theorem carried_failure_told_alike (body : Bytes) (fallback : String)
    (hfails : (ofSuccessBody body fallback).success = false) (c : Client) (command : Command)
    (op : Operation) (w : World) (hop : command.operation? = some op) (hown : op.own? ≠ none)
    (hfallback : op.endpoint.message = fallback)
    (hcarries : op.Carries (w.replies.headD World.noReply) body) :
    ∃ e, ((c.perform command).run w).1 = .envelope e ∧ e.success = false ∧
      e.message = (ofSuccessBody body fallback).message := by
  obtain ⟨members, hread, hverdict, heq⟩ := ofSuccessBody_failure hfails
  obtain ⟨hfailed, hmessage⟩ :=
    (hcarries.tells ⟨members, hread, hverdict⟩).settlement hown w.sink
  refine ⟨_, congrArg Prod.fst (c.perform_upshot op w hop), hfailed, ?_⟩
  rw [heq, ← hfallback]
  exact hmessage

def exceeded : Bytes :=
  Text.Utf8.encode "\x7b\"code\":7,\"msg\":\"\",\"message\":\"quota exceeded\",\"data\":[1]\x7d"

def exceededCalls : List (Operation × Http.Reply) :=
  [(⟨⟨.get, "/x", "No luck"⟩, .query (some ⟨[("a", some "b")]⟩), {}⟩, .ok ⟨200, [], exceeded⟩),
    (⟨⟨.put, "/x", "No luck"⟩, .json (.json .null), {}⟩, .error (.status 401 [] exceeded)),
    (⟨⟨.upload, "/x", "No luck"⟩, .form [], {}⟩, .ok ⟨201, [], exceeded⟩),
    (⟨⟨.download, "/x", "No luck"⟩, .json (.json .null), {}⟩,
      .ok ⟨200, [(.contentType, Text.Utf8.encode "Text/Plain; charset=utf-8")], exceeded⟩),
    (⟨⟨.download, "/x", "No luck"⟩, .json (.json .null), {}⟩, .error (.status 507 [] exceeded))]

theorem quota_told_alike :
    (ofSuccessBody exceeded "No luck").success = false ∧
    ∀ call ∈ exceededCalls, ∃ e,
      ((audited.perform (.call call.1)).run (.showing "/objects" [call.2])).1 = .envelope e ∧
        e.success = false ∧ e.message = "quota exceeded" := by
  have hfails : (ofSuccessBody exceeded "No luck").success = false := by decide +kernel
  have hmessage : (ofSuccessBody exceeded "No luck").message = "quota exceeded" := by
    decide +kernel
  have hcalls : ∀ call ∈ exceededCalls, call.1.own? ≠ none ∧
      call.1.endpoint.message = "No luck" ∧ call.1.Carries call.2 exceeded := by
    simp only [exceededCalls, List.forall_mem_cons, List.not_mem_nil, false_implies, implies_true,
      and_true]
    exact ⟨⟨by decide, by decide, .answered ⟨200, [], exceeded⟩ (by decide)⟩,
      ⟨by decide, by decide, .rejected 401 [] exceeded⟩,
      ⟨by decide, by decide, .answered ⟨201, [], exceeded⟩ (by decide)⟩,
      ⟨by decide, by decide, .disguised ⟨200, _, exceeded⟩ rfl (by decide +kernel)⟩,
      ⟨by decide, by decide, .rejected 507 [] exceeded⟩⟩
  refine ⟨hfails, fun call hcall => ?_⟩
  obtain ⟨hown, hfallback, hcarries⟩ := hcalls call hcall
  rw [← hmessage]
  exact carried_failure_told_alike exceeded "No luck" hfails audited (.call call.1) call.1
    (.showing "/objects" [call.2]) rfl hown hfallback hcarries

end Client
end StorageConsole
