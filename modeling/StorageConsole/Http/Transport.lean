import StorageConsole.Config.Basic
import StorageConsole.Event
import StorageConsole.Http.Authorization
import StorageConsole.Http.MediaType
import StorageConsole.Url.Reference

/-! Sending requests over a network. Nothing is sent twice. -/

namespace StorageConsole.Http

structure Outgoing where
  method : String
  url : Url
  headers : Headers
  body : Body
  -- In milliseconds.
  timeout : Option Nat
  deriving DecidableEq, Repr

abbrev Network := Outgoing → Reply

def Network.unreachable : Network := fun _ => .error (.connection "no server can be reached")

structure Transport where
  baseUrl : Url
  credentials : Credentials := .include
  timeout : Option Nat := none
  connectTimeout : Nat := 10000
  defaultHeaders : Headers := []
  deriving DecidableEq, Repr

namespace Transport

def jsonType : HeaderValue := Text.Utf8.encode "application/json"

def formType (boundary : String) : HeaderValue :=
  Text.Utf8.encode ("multipart/form-data; boundary=" ++ boundary)

def ofConfig (c : Config) : Except Fault Transport :=
  match Url.ofOrigin c.origin c.basePath with
  | .error e => .error (.invalidUrl e.message)
  | .ok baseUrl => .ok {
      baseUrl := baseUrl
      credentials := c.credentials
      timeout := c.timeout
      connectTimeout := c.connectTimeout
      defaultHeaders := c.defaultHeaders }

def resolve (t : Transport) (path : String) : Except Url.Fault Url :=
  Url.resolve (some t.baseUrl) (path.toList.dropWhile (· == '/'))

def standard : Headers := [(.accept, Text.Utf8.encode "*/*"), (.contentType, jsonType)]

def defaults (t : Transport) : Headers :=
  Headers.insertAll [] (t.defaultHeaders.fill standard)

/-- The headers that a request brings. A form's type names the boundary, so no other is kept. -/
def ownHeaders (boundary : String) (r : Request) : Headers :=
  match r.body with
  | .form _ => r.headers.insert .contentType (formType boundary)
  | _ => r.headers

def headersOf (t : Transport) (boundary : String) (userinfo : Option Userinfo) (r : Request) :
    Headers :=
  ((ownHeaders boundary r).fill (.ofUserinfo userinfo)).fill t.defaults

def isTyped : Body → Bool
  | .form parts => parts.all fun
    | .file _ _ (some contentType) _ => MediaType.isValid contentType
    | _ => true
  | _ => true

def maxUrl : Nat := 65534

def unspeakable : List Char := "\"`\x7b\x7d".toList

def isReachable (u : Url) : Bool :=
  (u.scheme == "http".toList || u.scheme == "https".toList)
    && !u.authority.any (·.host.text.any unspeakable.contains)
    && u.chars.length ≤ maxUrl

def outgoing (t : Transport) (boundary : String) (r : Request) (url : Url) :
    Except Failure Outgoing :=
  let userinfo := Userinfo.ofUrl? url
  let url := if userinfo.isSome then url.anonymous else url
  if !isTyped r.body then .error (.http "a part's type is no media type")
  else if !isReachable url then .error (.http "the URL cannot be asked for")
  else .ok {
    method := r.method
    url := url
    headers := t.headersOf boundary userinfo r
    body := r.body
    timeout := r.timeout.or t.timeout }

def send (t : Transport) (boundary : String) (network : Network) (r : Request) :
    Reply × List Event :=
  match t.resolve r.path with
  | .error e => (.error (.invalidUrl e.message), [])
  | .ok url =>
    (match t.outgoing boundary r url with
      | .error failure => .error failure
      | .ok o => (network o).bind Response.reply,
      [.dispatching r.method url.text r.body.size])

end Transport
end StorageConsole.Http
