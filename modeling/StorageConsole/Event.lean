import StorageConsole.Call.Verb
import StorageConsole.Session.History

namespace StorageConsole

inductive Level where
  | debug
  | info
  | warn
  deriving DecidableEq, Repr

inductive Event where
  | sending (verb : Verb) (path : String) (size : Option Nat)
  -- The time that the call took is in milliseconds.
  | succeeded (verb : Verb) (path : String) (status : Option Nat) (elapsed : Nat)
    (size : Option Nat)
  | failed (verb : Verb) (path : String) (status : Option Nat) (elapsed : Nat) (error : String)
  | unencodable (verb : Verb) (path error : String)
  | rejected (method path : String) (status : Option Nat) (error : String)
  | sessionExpired (page path : String)
  | refusedOnAuthPage (page path : String)
  | logoutFailed (error : String)
  | unauthenticated (status : Option Nat) (error : String)
  | loggedIn (username : String)
  | saved (path : String) (size : Nat)
  | unsaved (filename error : String)
  | dispatching (method url : String) (size : Nat)
  deriving DecidableEq, Repr

namespace Event

def level : Event → Level
  | sending .. | rejected .. | logoutFailed .. | unauthenticated .. | saved .. | dispatching .. =>
    .debug
  | succeeded .. | loggedIn .. => .info
  | failed .. | unencodable .. | sessionExpired .. | refusedOnAuthPage .. | unsaved .. => .warn

def message : Event → String
  | sending .. => "Sending console request"
  | succeeded .. => "Console request succeeded"
  | failed .. => "Console request failed"
  | unencodable .. => "Could not encode request body"
  | rejected .. => "Console request rejected"
  | sessionExpired .. => "Session expired or invalid, redirecting to " ++ loginPage
  | refusedOnAuthPage .. => "Authentication rejected on an authentication page"
  | logoutFailed .. => "Logout request failed, continuing"
  | unauthenticated .. => "Session is not authenticated"
  | loggedIn .. => "Logged in"
  | saved .. => "Saved download"
  | unsaved .. => "Could not save download"
  | dispatching .. => "Dispatching console request"

def numberField (name : String) (n : Option Nat) : List (String × String) :=
  (n.map fun n => (name, toString n)).toList

def fields : Event → List (String × String)
  | sending verb path size => [("verb", verb.text), ("path", path)] ++ numberField "body_size" size
  | succeeded verb path status elapsed size =>
    [("verb", verb.text), ("path", path)] ++ numberField "status" status
      ++ [("elapsed_ms", toString elapsed)] ++ numberField "body_size" size
  | failed verb path status elapsed error =>
    [("verb", verb.text), ("path", path)] ++ numberField "status" status
      ++ [("elapsed_ms", toString elapsed), ("error", error)]
  | unencodable verb path error => [("verb", verb.text), ("path", path), ("error", error)]
  | rejected method path status error =>
    [("method", method), ("path", path)] ++ numberField "status" status ++ [("error", error)]
  | sessionExpired page path => [("page", page), ("path", path)]
  | refusedOnAuthPage page path => [("page", page), ("path", path)]
  | logoutFailed error => [("error", error)]
  | unauthenticated status error => numberField "status" status ++ [("error", error)]
  | loggedIn username => [("username", username)]
  | saved path size => [("path", path), ("bytes", toString size)]
  | unsaved filename error => [("filename", filename), ("error", error)]
  | dispatching method url size =>
    [("method", method), ("url", url), ("body_size", toString size)]

end Event
end StorageConsole
