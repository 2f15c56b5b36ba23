import StorageConsole.Envelope.Basic
import StorageConsole.Json.Record

namespace StorageConsole

structure Outcome where
  saved : Bool
  filename : String
  contentType : String
  deriving DecidableEq, Repr

namespace Outcome

def value (o : Outcome) : Json.Value :=
  .object [("contentType", .string o.contentType), ("filename", .string o.filename),
    ("saved", .bool o.saved)]

def ofFields? (saved filename contentType : Json.Value) : Option Outcome := do
  return ⟨← saved.bool?, ← filename.text?, ← contentType.text?⟩

def ofValue? : Json.Value → Option Outcome
  | .object members => do
    ofFields? (← Json.Value.member? members "saved") (← Json.Value.member? members "filename")
      (← Json.Value.member? members "contentType")
  | .array [saved, filename, contentType] => ofFields? saved filename contentType
  | _ => none

structure Draft where
  saved : Option Bool := none
  filename : Option String := none
  contentType : Option String := none

def shape : Json.Record.Shape Draft where
  name := "DownloadOutcome"
  fields := [
    { name := "saved"
      read := fun _ draft bs =>
        (Json.Record.bool bs).map fun (b, rest) => ({ draft with saved := some b }, rest)
      present := (·.saved.isSome)
      required := true },
    { name := "filename"
      read := fun _ draft bs =>
        (Json.Record.string bs).map fun (s, rest) => ({ draft with filename := some s }, rest)
      present := (·.filename.isSome)
      required := true },
    { name := "contentType"
      read := fun _ draft bs =>
        (Json.Record.string bs).map fun (s, rest) => ({ draft with contentType := some s }, rest)
      present := (·.contentType.isSome)
      required := true }]

def decode (bs : Bytes) : Except Json.Fault Outcome :=
  (Json.Reader.finish (Json.Record.record shape {} Json.Reader.depthLimit bs)).map fun draft =>
    ⟨draft.saved.getD false, draft.filename.getD "", draft.contentType.getD ""⟩

end Outcome

def Envelope.outcome? (e : Envelope) : Option Outcome :=
  if e.success then e.data.bind Outcome.ofValue? else none

end StorageConsole
