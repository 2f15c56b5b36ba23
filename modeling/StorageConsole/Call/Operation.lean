import StorageConsole.Call.Catalogue
import StorageConsole.Call.Options
import StorageConsole.Call.Params
import StorageConsole.Envelope.Basic

namespace StorageConsole

def Verb.defaultFallback : Verb → String
  | .upload => "File upload failed"
  | .download => "Download failed"
  | _ => Envelope.genericFailure

def Endpoint.message (e : Endpoint) : String :=
  Envelope.orElse e.fallback e.verb.defaultFallback

inductive Content where
  | query (params : Option Params)
  | json (payload : Http.Payload)
  | form (parts : Http.Form)
  deriving DecidableEq, Repr

structure Operation where
  endpoint : Endpoint
  content : Content
  options : CallOptions := {}
  deriving DecidableEq, Repr

namespace Operation

def formType : Http.HeaderValue := Text.Utf8.encode "multipart/form-data"

def bareRequest (op : Operation) : Except Http.Failure Http.Request :=
  let request : Http.Request := { method := op.endpoint.verb.method, path := op.endpoint.path }
  match op.content with
  | .query none => .ok request
  | .query (some params) => .ok { request with path := params.appendTo op.endpoint.path }
  | .json payload => request.withJson payload
  | .form parts =>
    .ok { request with headers := [(.contentType, formType)], body := .form parts }

def request (op : Operation) : Except Http.Failure Http.Request :=
  op.bareRequest.map op.options.apply

def requestedFilename? (op : Operation) : Option String :=
  match op.content with
  | .json (.json value) =>
    (value.members?.bind (Json.Value.member? · "filename")).bind (·.text?)
  | _ => none

end Operation
end StorageConsole
