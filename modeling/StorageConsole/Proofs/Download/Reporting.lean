import StorageConsole.Proofs.Download.Entries
import StorageConsole.Proofs.Download.LastSaved
import StorageConsole.Proofs.Download.Storing

namespace StorageConsole

open Script
open Files (Tree Path)

namespace Fetch

variable {f : Fetch} {reply : Http.Reply}

lemma settlement_success {sink : Download.Sink}
    (h : (f.operation.settlement reply sink).1.success = true) :
    ∃ response file, reply = .ok response ∧ f.operation.file response = file ∧
      (sink.save file.1 file.2).2 = .ok () ∧
      f.operation.settlement reply sink =
        (.accept "Download started" (some (Operation.report file).value),
          (sink.save file.1 file.2).1) := by
  cases reply with
  | error failure => cases h
  | ok response =>
    have hreceived : f.operation.settlement (.ok response) sink =
        f.operation.received response sink := rfl
    refine ⟨response, f.operation.file response, rfl, rfl, ?_⟩
    rw [hreceived] at h ⊢
    cases herror : Download.isErrorPayload response.effectiveType with
    | true =>
      rw [Operation.received, if_pos herror] at h
      cases h
    | false =>
      rw [Operation.received, if_neg (by simp [herror])] at h ⊢
      generalize sink.save (f.operation.file response).1 (f.operation.file response).2 = saved
        at h ⊢
      obtain ⟨sink', fault | done⟩ := saved
      · cases h
      · exact ⟨rfl, rfl⟩

end Fetch

namespace Client

/-- A download into a directory that succeeds writes the answer's file, changes no other, and
reports the name that was resolved. The file has the last part of that name: the whole name, unless
there are separators in it or it is made of dots. -/
theorem reported_name_is_saved (c : Client) (w : World) (dir : String) (t : Tree)
    (f : Fetch) (hw : w.sink = .directory dir t)
    (hsuccess : ((c.call f.operation).run w).1.success = true) :
    ∃ (response : Http.Response) (outcome : Outcome) (after : Tree),
      w.replies.headD World.noReply = .ok response ∧
      outcome.filename = Download.resolveFilename
        (response.headers.text? .contentDisposition) f.requested? ∧
      ((c.call f.operation).run w).1.outcome? = some outcome ∧
      ((c.call f.operation).run w).2.sink = .directory dir after ∧
      (let path := Path.ofText (Files.joinText dir (Download.finalComponent outcome.filename))
       after.read path = .ok response.body ∧ ∀ p, p ≠ path → Download.Kept dir t after p) ∧
      ((∀ ch ∈ outcome.filename.toList, Download.isSeparator ch = false) →
        outcome.filename ≠ "." → outcome.filename ≠ ".." →
        Download.finalComponent outcome.filename = outcome.filename) := by
  obtain ⟨henvelope, hsink⟩ := Prod.ext_iff.mp (c.call_upshot f.operation w)
  have hsettled : (f.operation.settlement w.traffic.reply w.sink).1.success = true := by
    rw [← henvelope]
    exact hsuccess
  obtain ⟨response, file, hreply, rfl, hsaved, hsettlement⟩ := Fetch.settlement_success hsettled
  let file := f.operation.file response
  let attempt : Download.Attempt := ⟨⟨file.1, file.2.bytes⟩, []⟩
  have halong := attempt.carryOut_along dir t
  have hresult : (attempt.carryOut dir t).2 = .ok () := by
    rw [hw] at hsaved
    exact hsaved
  rw [hresult] at halong
  obtain ⟨hread, -, -, hkept⟩ := halong
  have hpath : Path.ofText (Download.pathFor dir (Operation.report file).filename) =
      attempt.landsOn dir :=
    Download.ofText_pathFor dir file.1
  refine ⟨response, Operation.report file, (attempt.carryOut dir t).1, hreply, rfl, ?_, ?_, ?_, ?_⟩
  · have hreport := henvelope.trans (congrArg Prod.fst hsettlement)
    have hrun : ((c.call f.operation).run w).1 = _ := hreport
    rw [hrun]
    exact Envelope.outcome_report file _
  · have hleft := hsink.trans (congrArg Prod.snd hsettlement)
    rw [hw] at hleft
    exact hleft
  · rw [← Download.pathFor, hpath]
    exact ⟨hread, hkept⟩
  · intro hplain hdot hdots
    obtain ⟨htrimmed, hne⟩ := Download.resolveFilename_cases
      (response.headers.text? .contentDisposition) f.operation.requestedFilename?
    exact Download.finalComponent_of_isEntryName hplain htrimmed ⟨hne, hdot, hdots⟩

def savingInto (dir : String) (answers : List Http.Reply) : World :=
  { World.showing "/objects" answers with sink := .directory dir [] }

def attached (filename : String) : Http.Response :=
  ⟨200, [(.contentDisposition, Text.Utf8.encode ("attachment; filename=" ++ filename))], [0x61]⟩

theorem report_is_saved :
    let w := savingInto "files" [.ok (attached "report.csv")]
    w.sink = .directory "files" [] ∧
    ((plain.call sampleFetch.operation).run w).1.success = true ∧
    ∃ after, ((plain.call sampleFetch.operation).run w).2.sink = .directory "files" after ∧
      after.read ["files", "report.csv"] = .ok [0x61] := by
  intro w
  have hsuccess : ((plain.call sampleFetch.operation).run w).1.success = true := by decide +kernel
  obtain ⟨response, outcome, after, hreply, hname, -, hsink, ⟨hread, -⟩, -⟩ :=
    reported_name_is_saved plain w "files" [] sampleFetch rfl hsuccess
  obtain rfl : attached "report.csv" = response := Except.ok.inj hreply
  have hpath : Path.ofText (Files.joinText "files" (Download.finalComponent outcome.filename)) =
      ["files", "report.csv"] := by
    rw [hname]
    decide +kernel
  rw [hpath] at hread
  exact ⟨rfl, hsuccess, after, hsink, hread⟩

theorem reported_path_is_cut :
    let w := savingInto "files" [.ok (attached "a/b.txt")]
    let e := ((plain.call sampleFetch.operation).run w).1
    ∃ after, e.success = true ∧ e.outcome?.map (·.filename) = some "a/b.txt" ∧
      ((plain.call sampleFetch.operation).run w).2.sink = .directory "files" after ∧
      after.read (Path.ofText (Files.joinText "files" "a/b.txt")) = .error .notFound ∧
      after.read (Path.ofText (Files.joinText "files" "b.txt")) = .ok [0x61] := by
  refine ⟨[(["files"], .directory), (["files", "b.txt"], .file [0x61] Files.ownerOnly)],
    by decide +kernel, by decide +kernel, by rfl, by decide +kernel, by decide +kernel⟩

end Client
end StorageConsole
