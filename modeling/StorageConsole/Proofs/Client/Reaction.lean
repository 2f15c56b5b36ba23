import StorageConsole.Proofs.Client.Accounting

/-! Interceptors of any kind: scripts that do as they like, but do not reach the files. -/

namespace StorageConsole

open Script

namespace Interceptor

lemma logout_keeps_sink (timeout : Nat) : (Session.logout timeout).Keeps World.sink := by
  intro w
  simp only [Session.logout, bind_eq, run_bind, run_sends]
  cases w.traffic.reply with
  | ok response => rfl
  | error failure => rfl

lemma react_keeps_sink (i : Interceptor) (r : Rejection) : (i.react r).Keeps World.sink := by
  cases i with
  | tracing | observer => exact fun w => rfl
  | session timeout =>
    simp only [react]
    split
    -- the way to the log-in page reads, redirects and logs out, but saves nothing
    · refine Keeps.bind (fun w => rfl) fun page => ?_
      cases isAuthFlow page with
      | true => exact fun w => rfl
      | false => exact Keeps.bind (fun w => rfl) fun _ => logout_keeps_sink timeout
    · exact keeps_done ()

end Interceptor

/-- Any script for each rejection, as long as it leaves the files alone. -/
structure Reaction where
  react : Rejection → Script Unit
  keeps_sink : ∀ r, (react r).Keeps World.sink

def Interceptor.reaction (i : Interceptor) : Reaction := ⟨i.react, i.react_keeps_sink⟩

namespace Reaction

def all (stack : List Reaction) (r : Rejection) : Script Unit :=
  sequence (stack.reverse.map (·.react r))

lemma all_keeps_sink (stack : List Reaction) (r : Rejection) :
    (all stack r).Keeps World.sink := by
  refine keeps_sequence fun s hs => ?_
  obtain ⟨i, -, rfl⟩ := List.mem_map.mp hs
  exact i.keeps_sink r

lemma all_interceptors (stack : List Interceptor) :
    all (stack.map Interceptor.reaction) = Interceptor.reactAll stack := by
  funext r
  simp [all, Interceptor.reactAll, Interceptor.reaction, ← List.map_reverse, Function.comp_def]

end Reaction

namespace Client

variable (c : Client) (extra : List Reaction)

def reactions : List Reaction := c.interceptors.map Interceptor.reaction ++ extra

def dispatchWith (r : Http.Request) : Script Http.Reply := do
  let reply ← sends r
  match reply with
  | .ok _ => pure ()
  | .error failure => Reaction.all (c.reactions extra) ⟨r.method, r.path, failure⟩
  return reply

def callWith (op : Operation) : Script Envelope :=
  match op.request with
  | .ok request => do
    logs (.sending op.endpoint.verb request.path (some request.body.size))
    match ← (c.dispatchWith extra request).timed with
    | (.error failure, elapsed) => refuse op request elapsed failure
    | (.ok response, elapsed) =>
      if op.endpoint.verb = .download then receiveFile op elapsed response
      else receive op request elapsed response
  | .error failure => do
    logs (.unencodable op.endpoint.verb op.endpoint.path failure.text)
    return .reject op.endpoint.message

def loginWith (username password : String) : Script Envelope := do
  let envelope ← c.callWith extra (Session.loginOperation username password)
  if envelope.success then logs (.loggedIn username)
  return envelope

def performWith : Command → Script Result
  | .call op => do return .envelope (← c.callWith extra op)
  | .login username password => do return .envelope (← c.loginWith extra username password)
  | command => c.perform command

lemma callWith_eq {op : Operation} {r : Http.Request} (h : op.request = .ok r) :
    c.callWith extra op = (logs (.sending op.endpoint.verb r.path (some r.body.size))).bind fun _ =>
      (c.dispatchWith extra r).timed.bind (conclude op r) := by
  unfold callWith
  rw [h]
  rfl

lemma dispatchWith_nil : c.dispatchWith [] = c.dispatch := by
  funext r
  simp only [dispatchWith, reactions, List.append_nil, Reaction.all_interceptors]
  rfl

lemma callWith_nil : c.callWith [] = c.call := by
  funext op
  simp only [callWith, dispatchWith_nil]
  rfl

lemma loginWith_nil : c.loginWith [] = Session.login c := by
  funext username password
  simp only [loginWith, callWith_nil]
  rfl

lemma performWith_nil : c.performWith [] = c.perform := by
  funext command
  cases command with
  | call op =>
    simp only [performWith, callWith_nil]
    rfl
  | login username password =>
    simp only [performWith, loginWith_nil]
    rfl
  | visit | logout | authStatus | guard | refused => rfl

end Client
end StorageConsole
