import StorageConsole.Http.Header
import StorageConsole.Json.Printer

namespace StorageConsole.Http

inductive Part where
  | text (name : String) (value : String)
  | file (name : String) (filename : String) (contentType : Option String) (bytes : Bytes)
  deriving DecidableEq, Repr

def Part.size : Part → Nat
  | text _ value => (Text.Utf8.encode value).length
  | file _ _ _ bytes => bytes.length

abbrev Form := List Part

def Form.size (form : Form) : Nat := form.foldl (fun n part => n + part.size) 0

inductive Body where
  | empty
  | json (bytes : Bytes)
  | form (parts : Form)
  deriving DecidableEq, Repr

def Body.size : Body → Nat
  | empty => 0
  | json bytes => bytes.length
  | form parts => parts.size

/-- A call of the API. The path is relative to the API's URL and may carry a query. Timeouts are in
milliseconds. -/
structure Request where
  method : String
  path : String
  headers : Headers := []
  body : Body := .empty
  timeout : Option Nat := none
  deriving DecidableEq, Repr

inductive Payload where
  | json (value : Json.Value)
  -- A table whose keys are no strings, which JSON cannot write.
  | keyless
  deriving DecidableEq, Repr

def Payload.encode? : Payload → Option Bytes
  | json value => some value.bytes
  | keyless => none

structure Response where
  status : Nat
  headers : Headers
  body : Bytes
  deriving DecidableEq, Repr

namespace Response

def isSuccess (r : Response) : Bool := 200 ≤ r.status && r.status < 300

def text? (r : Response) : Option String := Text.Utf8.decode? r.body

def contentType? (r : Response) : Option String := r.headers.text? .contentType

end Response
end StorageConsole.Http
