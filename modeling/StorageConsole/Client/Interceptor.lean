import StorageConsole.Session.Logout

/-! Interceptors run on every rejected call before its caller learns of it; they cannot take it
back. -/

namespace StorageConsole

structure Rejection where
  method : String
  path : String
  failure : Http.Failure
  deriving DecidableEq, Repr

inductive Interceptor where
  | tracing
  | session (logoutTimeout : Nat)
  | observer (name : String)
  deriving DecidableEq, Repr

namespace Interceptor

/-- Reacts to an expired session by the page shown, not by the path of the call: on a page of the
authentication flow the refusal is left to that page. -/
def expire (logoutTimeout : Nat) (path : String) : Script Unit := do
  let page ← Script.pageShown
  if isAuthFlow page then Script.logs (.refusedOnAuthPage page path)
  else
    Script.logs (.sessionExpired page path)
    Session.logout logoutTimeout

def react (i : Interceptor) (r : Rejection) : Script Unit :=
  match i with
  | tracing => Script.logs (.rejected r.method r.path r.failure.code? r.failure.text)
  | session logoutTimeout =>
    if r.failure.isUnauthorized then expire logoutTimeout r.path else pure ()
  | observer name => do
    let page ← Script.pageShown
    Script.notes ⟨name, r.method, r.path, r.failure, page⟩

def reactAll (stack : List Interceptor) (r : Rejection) : Script Unit :=
  Script.sequence (stack.reverse.map (·.react r))

end Interceptor
end StorageConsole
