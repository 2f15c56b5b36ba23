import Mathlib.Data.List.Infix
import StorageConsole.Proofs.Client.Settlement

namespace StorageConsole

open Script

namespace Download

lemma occurs_iff_infix (part cs : List Char) : occurs part cs = true ↔ part <:+: cs := by
  induction cs with
  | nil => simp [occurs]
  | cons c cs ih => simp [occurs, ih, List.infix_cons_iff]

def messageTypes : List String := ["application/json", "text/plain"]

lemma isErrorPayload_iff (type : String) :
    isErrorPayload type = true ↔
      ∃ part ∈ messageTypes, part.toList <:+: type.toList.map Char.toLower := by
  simp only [isErrorPayload, Bool.or_eq_true, occurs_iff_infix, messageTypes, List.mem_cons,
    List.not_mem_nil, or_false, exists_eq_or_imp, exists_eq_left]

end Download

def Http.Response.IsFile (r : Http.Response) : Prop :=
  ∀ part ∈ Download.messageTypes, ¬part.toList <:+: r.effectiveType.toList.map Char.toLower

instance (r : Http.Response) : Decidable r.IsFile :=
  inferInstanceAs (Decidable (∀ part ∈ Download.messageTypes, _))

lemma Http.Response.isFile_iff (r : Http.Response) :
    r.IsFile ↔ Download.isErrorPayload r.effectiveType = false := by
  rw [← Bool.not_eq_true, Download.isErrorPayload_iff]
  simp [IsFile]

structure Fetch where
  path : String
  fallback : String
  params : Json.Value
  options : CallOptions := {}

namespace Fetch

variable (f : Fetch)

def operation : Operation where
  endpoint := ⟨.download, f.path, f.fallback⟩
  content := .json (.json f.params)
  options := f.options

def requested? : Option String :=
  (f.params.members?.bind (Json.Value.member? · "filename")).bind (·.text?)

def file? : Http.Reply → Option (String × Download.Blob)
  | .ok r => if r.IsFile then some (f.operation.file r) else none
  | .error _ => none

variable {f} {reply : Http.Reply} (files : List (String × Download.Blob))

lemma settlement_file {file : String × Download.Blob} (h : f.file? reply = some file) :
    f.operation.settlement reply (.memory files) =
      (.accept "Download started" (some (Operation.report file).value),
        .memory (files ++ [file])) := by
  cases reply with
  | error failure => cases h
  | ok r =>
    by_cases hfile : r.IsFile
    · have hname : f.operation.file r = file := by simpa [file?, hfile] using h
      have herror : Download.isErrorPayload r.effectiveType = false := r.isFile_iff.mp hfile
      have hreceived : f.operation.settlement (.ok r) (.memory files) =
          f.operation.received r (.memory files) := rfl
      rw [hreceived, ← hname, Operation.received, herror]
      rfl
    · simp [file?, hfile] at h

lemma settlement_none (h : f.file? reply = none) :
    (f.operation.settlement reply (.memory files)).1.success = false ∧
      (f.operation.settlement reply (.memory files)).2 = .memory files := by
  cases reply with
  | error failure => exact ⟨rfl, rfl⟩
  | ok r =>
    by_cases hfile : r.IsFile
    · simp [file?, hfile] at h
    · have herror : Download.isErrorPayload r.effectiveType = true := by
        rw [r.isFile_iff] at hfile
        simpa using hfile
      have hreceived : f.operation.settlement (.ok r) (.memory files) =
          f.operation.received r (.memory files) := rfl
      rw [hreceived, Operation.received, if_pos herror]
      exact ⟨rfl, rfl⟩

end Fetch

lemma Envelope.outcome_report (file : String × Download.Blob) (message : String) :
    (accept message (some (Operation.report file).value)).outcome? =
      some (Operation.report file) := by
  simp [outcome?, accept, Outcome.value, Outcome.ofValue?, Outcome.ofFields?, Json.Value.member?,
    Json.Value.bool?, Json.Value.text?]

lemma Envelope.outcome_failed {e : Envelope} (h : e.success = false) : e.outcome? = none := by
  simp [outcome?, h]

namespace Client

variable {c : Client} {w : World} {files : List (String × Download.Blob)}

lemma fetch_upshot (c : Client) (f : Fetch) (hw : w.sink = .memory files) :
    (c.call f.operation).upshot w =
      f.operation.settlement (w.replies.headD World.noReply) (.memory files) := by
  rw [← hw]
  exact c.call_upshot f.operation w

lemma fetch_file {f : Fetch} {file : String × Download.Blob} (hw : w.sink = .memory files)
    (h : f.file? (w.replies.headD World.noReply) = some file) :
    ((c.call f.operation).run w).1 =
        .accept "Download started" (some (Operation.report file).value) ∧
      ((c.call f.operation).run w).2.sink = .memory (files ++ [file]) :=
  Prod.ext_iff.mp ((c.fetch_upshot f hw).trans (Fetch.settlement_file files h))

lemma fetch_none {f : Fetch} (hw : w.sink = .memory files)
    (h : f.file? (w.replies.headD World.noReply) = none) :
    ((c.call f.operation).run w).1.success = false ∧
      ((c.call f.operation).run w).2.sink = .memory files := by
  obtain ⟨henvelope, hsink⟩ := Prod.ext_iff.mp (c.fetch_upshot f hw)
  obtain ⟨hfailed, hkept⟩ := Fetch.settlement_none files h
  exact ⟨(congrArg Envelope.success henvelope).trans hfailed, hsink.trans hkept⟩

def fetched (c : Client) : List Fetch → World → List (String × Download.Blob)
  | [], _ => []
  | f :: more, w =>
    (f.file? (w.replies.headD World.noReply)).toList ++
      c.fetched more ((c.call f.operation).run w).2

lemma performAll_fetched (fs : List Fetch) (hw : w.sink = .memory files) :
    ∃ envelopes : List Envelope,
      (c.performAll (fs.map fun f => .call f.operation) w).1 = envelopes.map .envelope ∧
      (c.performAll (fs.map fun f => .call f.operation) w).2.sink =
        .memory (files ++ c.fetched fs w) ∧
      (envelopes.filter (·.success)).map (·.outcome?) =
        (c.fetched fs w).map fun file => some (Operation.report file) := by
  -- what one download leaves, sink and replies, is what the next one finds
  induction fs generalizing w files with
  | nil => exact ⟨[], rfl, by simpa [fetched, performAll] using hw, rfl⟩
  | cons f more ih =>
    have hperform : (c.perform (.call f.operation)).run w =
        (.envelope ((c.call f.operation).run w).1, ((c.call f.operation).run w).2) :=
      run_bind _ _ _
    simp only [List.map_cons, performAll, hperform, fetched]
    cases hfile : f.file? (w.replies.headD World.noReply) with
    | some file =>
      obtain ⟨henvelope, hsink⟩ := fetch_file (c := c) hw hfile
      obtain ⟨envelopes, hresults, hkept, hreports⟩ := ih hsink
      refine ⟨_ :: envelopes, congrArg _ hresults, ?_, ?_⟩
      · simpa using hkept
      · have hsuccess : ((c.call f.operation).run w).1.success = true := by
          rw [henvelope]
          rfl
        have hreport : ((c.call f.operation).run w).1.outcome? = some (Operation.report file) := by
          rw [henvelope]
          exact Envelope.outcome_report file _
        simpa [hsuccess, hreport] using hreports
    | none =>
      obtain ⟨hfailed, hsink⟩ := fetch_none (c := c) hw hfile
      obtain ⟨envelopes, hresults, hkept, hreports⟩ := ih hsink
      refine ⟨_ :: envelopes, congrArg _ hresults, hkept, ?_⟩
      simpa [hfailed] using hreports

/-- A download whose answer is a file stores it under the resolved name, succeeds and reports it;
any other fails and stores nothing. So downloads one after the other store one file for each
success, in order. -/
theorem download_succeeds_iff_stored (c : Client) (w : World)
    (files : List (String × Download.Blob)) (hw : w.sink = .memory files) :
    (∀ f : Fetch,
      let e := ((c.call f.operation).run w).1
      let after := ((c.call f.operation).run w).2
      (∀ response, w.replies.headD World.noReply = .ok response → response.IsFile →
        let name := Download.resolveFilename (response.headers.text? .contentDisposition)
          f.requested?
        after.sink = .memory (files ++ [(name, ⟨response.body, response.effectiveType⟩)]) ∧
        e.success = true ∧ e.message = "Download started" ∧
        e.outcome? = some ⟨true, name, response.effectiveType⟩) ∧
      ((∀ response, w.replies.headD World.noReply = .ok response → ¬response.IsFile) →
        e.success = false ∧ after.sink = .memory files ∧ e.outcome? = none)) ∧
    ∀ fs : List Fetch, ∃ envelopes : List Envelope,
      let after := c.performAll (fs.map fun f => .call f.operation) w
      after.1 = envelopes.map .envelope ∧
      after.2.sink = .memory (files ++ c.fetched fs w) ∧
      (envelopes.filter (·.success)).map (·.outcome?) =
        (c.fetched fs w).map fun file => some (Operation.report file) := by
  refine ⟨fun f => ⟨?_, ?_⟩, fun fs => performAll_fetched fs hw⟩
  · intro response hreply hfile
    have hfound : f.file? (w.replies.headD World.noReply) = some (f.operation.file response) := by
      rw [hreply]
      exact if_pos hfile
    obtain ⟨henvelope, hsink⟩ := fetch_file (c := c) hw hfound
    refine ⟨hsink, ?_⟩
    rw [henvelope]
    exact ⟨rfl, rfl, Envelope.outcome_report _ _⟩
  · intro hnofile
    have hnone : f.file? (w.replies.headD World.noReply) = none := by
      cases hreply : w.replies.headD World.noReply with
      | error failure => rfl
      | ok response => exact if_neg (hnofile response hreply)
    obtain ⟨hfailed, hsink⟩ := fetch_none (c := c) hw hnone
    exact ⟨hfailed, hsink, Envelope.outcome_failed hfailed⟩

def sampleAnswers : List Http.Reply :=
  [.ok ⟨200, [(.contentDisposition, Text.Utf8.encode "attachment; filename=\"report.csv\""),
      (.contentType, Text.Utf8.encode "text/csv")], [0x61]⟩,
    .ok ⟨200, [(.contentType, Text.Utf8.encode "Application/JSON")], [0x7B, 0x7D]⟩,
    .ok ⟨200, [], [0x50, 0x4B]⟩]

def sampleFetch : Fetch where
  path := "/bucket/getobject"
  fallback := "Failed to download file"
  params := .object [("filename", .string "a:b.zip")]

theorem two_of_three_downloads_stored :
    (World.showing "/objects" sampleAnswers).sink = .memory [] ∧
    (plain.performAll (List.replicate 3 (.call sampleFetch.operation))
      (.showing "/objects" sampleAnswers)).2.sink =
        .memory [("report.csv", ⟨[0x61], "text/csv"⟩),
          ("a_b.zip", ⟨[0x50, 0x4B], "application/octet-stream"⟩)] := by
  have h := download_succeeds_iff_stored plain (.showing "/objects" sampleAnswers) [] rfl
  obtain ⟨envelopes, -, hsink, -⟩ := h.2 (List.replicate 3 sampleFetch)
  refine ⟨rfl, hsink.trans ?_⟩
  have hfetched : plain.fetched (List.replicate 3 sampleFetch) (.showing "/objects" sampleAnswers) =
      [("report.csv", ⟨[0x61], "text/csv"⟩),
        ("a_b.zip", ⟨[0x50, 0x4B], "application/octet-stream"⟩)] := by decide +kernel
  rw [hfetched]
  rfl

end Client
end StorageConsole
