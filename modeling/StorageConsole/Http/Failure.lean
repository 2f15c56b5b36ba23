import StorageConsole.Http.Message

namespace StorageConsole.Http

inductive Failure where
  | status (code : Nat) (headers : Headers) (body : Bytes)
  | connection (reason : String)
  | timeout
  | http (reason : String)
  | invalidUrl (reason : String)
  | serialization (reason : String)
  deriving DecidableEq, Repr

abbrev Reply := Except Failure Response

namespace Failure

def text : Failure → String
  | status code _ _ => "HTTP status " ++ toString code
  | connection reason => "Connection error: " ++ reason
  | timeout => "Timeout"
  | http reason => "HTTP error: " ++ reason
  | invalidUrl reason => "Invalid URL: " ++ reason
  | serialization reason => "Serialization error: " ++ reason

def code? : Failure → Option Nat
  | status code _ _ => some code
  | _ => none

def body? : Failure → Option Bytes
  | status _ _ body => some body
  | _ => none

def isUnauthorized (f : Failure) : Bool := f.code? == some 401

def isNetwork : Failure → Bool
  | connection _ => true
  | timeout => true
  | _ => false

def unencodable : Failure := serialization "key must be a string"

end Failure

def Response.reply (r : Response) : Reply :=
  if r.isSuccess then .ok r else .error (.status r.status r.headers r.body)

def Request.withJson (r : Request) (payload : Payload) : Except Failure Request :=
  match payload.encode? with
  | some bytes => .ok { r with body := .json bytes }
  | none => .error .unencodable

end StorageConsole.Http
