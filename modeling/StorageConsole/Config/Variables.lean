import StorageConsole.Config.Basic

namespace StorageConsole

abbrev Variables := List (String × String)

namespace Variables

def get? (vars : Variables) (name : String) : Option String :=
  (vars.find? (·.1 == name)).map (·.2)

def setDefault (vars : Variables) (name value : String) : Variables :=
  if (vars.get? name).isSome then vars else vars ++ [(name, value)]

def setDefaults (vars more : Variables) : Variables :=
  more.foldl (fun vars p => vars.setDefault p.1 p.2) vars

end Variables

namespace Config

def number? (s : String) : Option Nat :=
  let digits := match s.toList with
    | '+' :: rest => rest
    | cs => cs
  if digits.isEmpty || !digits.all Char.isDigit then none
  else
    let n := digits.foldl (fun n c => n * 10 + (c.toNat - 48)) 0
    if n < Nat.pow 2 64 then some n else none

def originKey : String := "DEDUPS3_CONSOLE_ORIGIN"
def basePathKey : String := "DEDUPS3_CONSOLE_BASE_PATH"
def timeoutKey : String := "DEDUPS3_CONSOLE_TIMEOUT"
def logoutTimeoutKey : String := "DEDUPS3_CONSOLE_LOGOUT_TIMEOUT_MS"
def downloadDirKey : String := "DEDUPS3_CONSOLE_DOWNLOAD_DIR"

def numberIn (vars : Variables) (key : String) : Except Fault (Option Nat) :=
  match vars.get? key with
  | none => .ok none
  | some value =>
    match number? value with
    | some n => .ok (some n)
    | none => .error (.invalidConfig key value)

def ofVariables (vars : Variables) : Except Fault Config := do
  let seconds ← numberIn vars timeoutKey
  let logout ← numberIn vars logoutTimeoutKey
  let c : Config := {}
  return { c with
    origin := (vars.get? originKey).getD c.origin
    basePath := (vars.get? basePathKey).getD c.basePath
    timeout := (seconds.map (· * 1000)).or c.timeout
    logoutTimeout := logout.getD c.logoutTimeout
    downloadDir := (vars.get? downloadDirKey).or c.downloadDir }

end Config
end StorageConsole
