import StorageConsole.Envelope.Basic
import StorageConsole.Json.Record

namespace StorageConsole.Envelope

def value (e : Envelope) : Json.Value :=
  .object ([("success", .bool e.success), ("message", .string e.message)]
    ++ (e.data.map fun d => ("data", d)).toList)

structure Draft where
  success : Option Bool := none
  message : Option String := none
  data : Option (Option Json.Value) := none

def shape : Json.Record.Shape Draft where
  name := "Envelope"
  fields := [
    { name := "success"
      read := fun _ draft bs =>
        (Json.Record.bool bs).map fun (b, rest) => ({ draft with success := some b }, rest)
      present := (·.success.isSome)
      required := true },
    { name := "message"
      read := fun _ draft bs =>
        (Json.Record.string bs).map fun (s, rest) => ({ draft with message := some s }, rest)
      present := (·.message.isSome)
      required := false },
    { name := "data"
      read := fun depth draft bs =>
        (Json.Record.optional (Json.Reader.value depth) bs).map
          fun (v, rest) => ({ draft with data := some v }, rest)
      present := (·.data.isSome)
      required := false }]

def decode (bs : Bytes) : Except Json.Fault Envelope :=
  (Json.Reader.finish (Json.Record.record shape {} Json.Reader.depthLimit bs)).map fun draft =>
    ⟨draft.success.getD false, draft.message.getD "", draft.data.getD none⟩

end StorageConsole.Envelope
