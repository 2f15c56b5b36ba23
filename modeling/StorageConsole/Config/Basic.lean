import StorageConsole.Fault

/-! The configuration of a client. Durations are in milliseconds. -/

namespace StorageConsole

inductive Credentials where
  | include
  | omit
  deriving DecidableEq, Repr

structure Config where
  origin : String := "http://127.0.0.1:3002"
  basePath : String := "/api"
  timeout : Option Nat := none
  connectTimeout : Nat := 10000
  logoutTimeout : Nat := 2000
  credentials : Credentials := .include
  defaultHeaders : Http.Headers := []
  downloadDir : Option String := none
  deriving DecidableEq, Repr

namespace Config

inductive Setting where
  | origin (text : String)
  | basePath (text : String)
  | timeout (ms : Nat)
  | connectTimeout (ms : Nat)
  | logoutTimeout (ms : Nat)
  | credentials (policy : Credentials)
  | defaultHeader (name value : String)
  | downloadDir (path : String)
  deriving DecidableEq, Repr

def set (c : Config) : Setting → Except Fault Config
  | .origin text => .ok { c with origin := text }
  | .basePath text => .ok { c with basePath := text }
  | .timeout ms => .ok { c with timeout := some ms }
  | .connectTimeout ms => .ok { c with connectTimeout := ms }
  | .logoutTimeout ms => .ok { c with logoutTimeout := ms }
  | .credentials policy => .ok { c with credentials := policy }
  | .defaultHeader name value =>
    (Http.Headers.field name value).map fun (n, v) =>
      { c with defaultHeaders := c.defaultHeaders.insert n v }
  | .downloadDir path => .ok { c with downloadDir := some path }

def setAll (c : Config) (settings : List Setting) : Except Fault Config :=
  settings.foldlM set c

def resolvedDownloadDir (c : Config) (userDir : Option String) : String :=
  (c.downloadDir.or userDir).getD "."

end Config
end StorageConsole
