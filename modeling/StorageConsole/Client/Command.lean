import StorageConsole.Script.Run
import StorageConsole.Session.Basic

namespace StorageConsole

inductive Command where
  | visit (path : String)
  | call (op : Operation)
  | login (username password : String)
  | logout
  | authStatus
  | guard (path : String)
  | refused (fault : Fault)

inductive Result where
  | nothing
  | envelope (e : Envelope)
  | truth (b : Bool)
  | decision (d : Session.Decision)
  | fault (f : Fault)
  deriving DecidableEq, Repr

namespace Client

def perform (c : Client) : Command → Script Result
  | .visit path => do Script.visits path; return .nothing
  | .call op => do return .envelope (← c.call op)
  | .login username password => do return .envelope (← Session.login c username password)
  | .logout => do Session.logout c.logoutTimeout; return .nothing
  | .authStatus => do return .truth (← Session.isActive)
  | .guard path => do return .decision (← Session.guard path)
  | .refused fault => return .fault fault

def performAll (c : Client) : List Command → World → List Result × World
  | [], w => ([], w)
  | command :: more, w =>
    let (result, w) := (c.perform command).run w
    let (results, w) := performAll c more w
    (result :: results, w)

def maxRequests (c : Client) : Nat := c.interceptors.length + 1

def performTogether (c : Client) (commands : List Command) (w : World) : List Result × World :=
  Script.runTogether (c.maxRequests + 1) (commands.map c.perform) w

end Client
end StorageConsole
