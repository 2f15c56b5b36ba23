import StorageConsole.Http.Failure
import StorageConsole.Json.Reader
import StorageConsole.Text.Blank

namespace StorageConsole

structure Envelope where
  success : Bool
  message : String
  data : Option Json.Value
  deriving DecidableEq, Repr

namespace Envelope

def genericFailure : String := "Request failed"

def orElse (text default : String) : String :=
  if Text.blank text then default else text

def accept (message : String) (data : Option Json.Value) : Envelope :=
  ⟨true, message, data⟩

def reject (message : String) : Envelope :=
  ⟨false, orElse message genericFailure, none⟩

def messageOf? (members : List (String × Json.Value)) (keys : List String) : Option String :=
  (keys.filterMap fun key => (Json.Value.member? members key).bind (·.text?)).find? (· != "")

def failureKeys : List String := ["msg", "message"]

def successKeys : List String := ["message", "msg"]

def isSpace (b : UInt8) : Bool :=
  b == 0x20 || b == 0x09 || b == 0x0A || b == 0x0C || b == 0x0D

/-- Whether an object reports success: by its member `success` if that is a boolean, else by a
`code` of zero; `none` if it reports nothing. -/
def verdict? (members : List (String × Json.Value)) : Option Bool :=
  match Json.Value.member? members "success", Json.Value.member? members "code" with
  | some (.bool b), _ => some b
  | _, some code => some (code.signed? == some 0)
  | _, none => none

def data? (members : List (String × Json.Value)) : Option Json.Value :=
  (Json.Value.member? members "data").filter (!·.isNull)

def ofReport (success : Bool) (members : List (String × Json.Value)) (fallback : String) :
    Envelope :=
  if success then accept ((messageOf? members successKeys).getD "") (data? members)
  else { reject ((messageOf? members failureKeys).getD fallback) with data := data? members }

def ofValue (value : Json.Value) (fallback : String) : Envelope :=
  match value with
  | .object members =>
    match verdict? members with
    | some success => ofReport success members fallback
    | none => accept "" (some value)
  | _ => accept "" (some value)

def ofSuccessBody (body : Bytes) (fallback : String) : Envelope :=
  if body.all isSpace then accept "" none
  else match Json.Value.read? body with
    | none => accept "" (some (.string (Text.Utf8.decodeLossy body)))
    | some value => ofValue value fallback

def resolveMessage (body : Option Bytes) (fallback : String) : String :=
  ((body.bind Json.Value.read?).bind fun value =>
    value.members?.bind (messageOf? · failureKeys)).getD fallback

def failureMessage (failure : Http.Failure) (fallback : String) : String :=
  resolveMessage failure.body? fallback

def ofFailure (failure : Http.Failure) (fallback : String) : Envelope :=
  reject (failureMessage failure fallback)

def ofReply (reply : Http.Reply) (fallback : String) : Envelope :=
  match reply with
  | .ok response => ofSuccessBody response.body fallback
  | .error failure => ofFailure failure fallback

end Envelope
end StorageConsole
