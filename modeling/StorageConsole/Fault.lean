import StorageConsole.Files.Fault
import StorageConsole.Http.Failure
import StorageConsole.Json.Fault

namespace StorageConsole

inductive Fault where
  | invalidUrl (reason : String)
  | httpClient (reason : String)
  | invalidHeaderName (name : String)
  | invalidHeaderValue (value : String)
  | invalidConfig (key value : String)
  | serialization (fault : Json.Fault)
  | files (fault : Files.Fault)
  deriving DecidableEq, Repr

namespace Fault

def message : Fault → String
  | invalidUrl reason => "Invalid URL: " ++ reason
  | httpClient reason => "HTTP client error: " ++ reason
  | invalidHeaderName name => "Invalid HTTP header name: " ++ name
  | invalidHeaderValue value => "Invalid HTTP header value: " ++ value
  | invalidConfig key value => "Invalid configuration value for " ++ key ++ ": " ++ value
  | serialization (.mismatch m) => "Serialization error: " ++ m.message
  | serialization .malformed => "Serialization error: malformed JSON"
  | serialization .truncated => "Serialization error: JSON ends early"
  | files fault => "I/O error: " ++ fault.text

def ofFailure : Http.Failure → Fault
  | .invalidUrl reason => invalidUrl reason
  | failure => httpClient failure.text

end Fault

def Http.Headers.field (name value : String) : Except Fault (Http.HeaderName × Http.HeaderValue) :=
  match Http.HeaderName.ofString? name with
  | none => .error (.invalidHeaderName name)
  | some n =>
    match Http.HeaderValue.ofString? value with
    | none => .error (.invalidHeaderValue value)
    | some v => .ok (n, v)

end StorageConsole
