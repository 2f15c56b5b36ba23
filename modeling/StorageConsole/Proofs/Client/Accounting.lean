import StorageConsole.Call.Resources
import StorageConsole.Proofs.Client.Exchange
import StorageConsole.Proofs.Session.Conduct

/-! The requests of a run, accounted for command by command. -/

namespace StorageConsole

open Script

namespace Content

def body? : Content → Option Http.Body
  | query _ => some .empty
  | json payload => payload.encode?.map .json
  | form parts => some (.form parts)

def suffix : Content → String
  | query (some params) =>
    if params.present = [] then "" else "?" ++ Text.Form.encode params.present
  | _ => ""

def headers : Content → Http.Headers
  | form _ => [(.contentType, Operation.formType)]
  | _ => []

end Content

def Operation.own? (op : Operation) : Option Http.Request :=
  op.content.body?.map fun body => {
    method := op.endpoint.verb.method
    path := op.endpoint.path ++ op.content.suffix
    headers := op.content.headers.insertAll op.options.headers
    body := body
    timeout := op.options.timeout }

lemma Params.appendTo_eq (p : Params) (path : String) :
    p.appendTo path = path ++ Content.suffix (.query (some p)) := by
  simp only [appendTo, query?, Content.suffix, List.isEmpty_iff]
  split
  · rename_i query hquery
    split at hquery
    · cases hquery
    · rename_i hpresent
      cases hquery
      rw [if_neg hpresent, String.append_assoc]
  · rename_i hquery
    split at hquery
    · rename_i hpresent
      rw [if_pos hpresent, String.append_empty]
    · cases hquery

lemma Operation.request_eq (op : Operation) :
    op.request = match op.own? with
      | some own => .ok own
      | none => .error .unencodable := by
  obtain ⟨endpoint, content, options⟩ := op
  cases content with
  | query params =>
    cases params with
    | none => simp [request, bareRequest, own?, Content.body?, Content.suffix, Content.headers,
        CallOptions.apply, Except.map]
    | some params => simp [request, bareRequest, own?, Content.body?, Content.headers,
        CallOptions.apply, Except.map, params.appendTo_eq]
  | json payload =>
    cases hbytes : payload.encode? <;> simp [request, bareRequest, own?, Content.body?,
      Content.suffix, Content.headers, CallOptions.apply, Except.map, Http.Request.withJson, hbytes]
  | form parts => simp [request, bareRequest, own?, Content.body?, Content.suffix,
      Content.headers, CallOptions.apply, Except.map]

structure Entry where
  requests : List Http.Request
  history : History

def Operation.entry (op : Operation) (timeout : Nat) (history : History) (reply : Http.Reply) :
    Entry :=
  match op.own? with
  | none => ⟨[], history⟩
  | some own =>
    if isExpiry reply = true ∧ isAuthFlow history.current = false then
      ⟨[own, Session.logoutRequest timeout], history.navigate loginPage⟩
    else ⟨[own], history⟩

def Command.entry (timeout : Nat) (history : History) (reply : Http.Reply) : Command → Entry
  | visit path => ⟨[], history.visit path⟩
  | call op => op.entry timeout history reply
  | login username password =>
    (Session.loginOperation username password).entry timeout history reply
  | logout => ⟨[Session.logoutRequest timeout], history.navigate loginPage⟩
  | authStatus => ⟨[Session.statusRequest], history⟩
  | guard path =>
    ⟨if pathname path = loginPage then [] else [Session.statusRequest], history⟩
  | refused _ => ⟨[], history⟩

def Traffic.post (t : Traffic) (entry : Entry) : Traffic :=
  ⟨t.replies.drop entry.requests.length, { location := entry.history }, t.sent ++ entry.requests⟩

namespace Traffic

variable {t : Traffic} {history : History}

end Traffic

namespace Client

variable {c : Client} {names : List String} {w : World} {history : History}

section

variable (hc : c.interceptors = builtIn c.logoutTimeout ++ names.map .observer)

include hc

end

end Client

namespace Client

def audited : Client := { plain with interceptors := builtIn 2000 ++ [.observer "audit"] }

end Client
end StorageConsole
