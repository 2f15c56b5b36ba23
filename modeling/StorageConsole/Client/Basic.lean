import StorageConsole.Call.Operation
import StorageConsole.Client.Interceptor
import StorageConsole.Config.Basic
import StorageConsole.Download.Outcome
import StorageConsole.Url.Reference

/-! From a request to the envelope. Nothing here fails; whatever happens becomes an envelope. -/

namespace StorageConsole

structure Client where
  baseUrl : Url
  credentials : Credentials := .include
  -- How long a logout may take, in milliseconds.
  logoutTimeout : Nat := 2000
  interceptors : List Interceptor

namespace Client

def builtIn (logoutTimeout : Nat) : List Interceptor := [.tracing, .session logoutTimeout]

def dispatch (c : Client) (r : Http.Request) : Script Http.Reply := do
  let reply ← Script.sends r
  match reply with
  | .ok _ => pure ()
  | .error failure => Interceptor.reactAll c.interceptors ⟨r.method, r.path, failure⟩
  return reply

def unknownType : String := "application/octet-stream"

def handOff (op : Operation) (response : Http.Response) : Script Envelope := do
  let fallback := op.endpoint.message
  let contentType := response.contentType?.getD unknownType
  if Download.isErrorPayload contentType then
    return .reject (Envelope.resolveMessage (some response.body) fallback)
  else
    let filename := Download.resolveFilename (response.headers.text? .contentDisposition)
      op.requestedFilename?
    match ← Script.saves filename ⟨response.body, contentType⟩ with
    | .ok () =>
      return .accept "Download started" (some (Outcome.value ⟨true, filename, contentType⟩))
    | .error fault =>
      Script.logs (.unsaved filename fault.text)
      return .reject fallback

def receiveFile (op : Operation) (elapsed : Nat) (response : Http.Response) :
    Script Envelope := do
  let envelope ← handOff op response
  if envelope.success then
    Script.logs (.succeeded op.endpoint.verb op.endpoint.path (some response.status) elapsed
      (some response.body.length))
  else
    Script.logs (.failed op.endpoint.verb op.endpoint.path (some response.status) elapsed
      envelope.message)
  return envelope

def receive (op : Operation) (request : Http.Request) (elapsed : Nat)
    (response : Http.Response) : Script Envelope := do
  Script.logs (.succeeded op.endpoint.verb request.path (some response.status) elapsed
    (some response.body.length))
  return .ofSuccessBody response.body op.endpoint.message

def refuse (op : Operation) (request : Http.Request) (elapsed : Nat)
    (failure : Http.Failure) : Script Envelope := do
  Script.logs (.failed op.endpoint.verb request.path failure.code? elapsed failure.text)
  return .ofFailure failure op.endpoint.message

def execute (c : Client) (op : Operation) (request : Http.Request) : Script Envelope := do
  Script.logs (.sending op.endpoint.verb request.path (some request.body.size))
  match ← (c.dispatch request).timed with
  | (.error failure, elapsed) => refuse op request elapsed failure
  | (.ok response, elapsed) =>
    if op.endpoint.verb = .download then receiveFile op elapsed response
    else receive op request elapsed response

def call (c : Client) (op : Operation) : Script Envelope :=
  match op.request with
  | .ok request => c.execute op request
  | .error failure => do
    Script.logs (.unencodable op.endpoint.verb op.endpoint.path failure.text)
    return .reject op.endpoint.message

end Client
end StorageConsole
