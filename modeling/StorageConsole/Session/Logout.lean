import StorageConsole.Script.Basic

namespace StorageConsole.Session

def logoutRequest (timeout : Nat) : Http.Request where
  method := "POST"
  path := "/logout"
  body := .json (Text.Utf8.encode "\x7b\x7d")
  timeout := some timeout

def logout (timeout : Nat) : Script Unit := do
  match ← Script.sends (logoutRequest timeout) with
  | .ok _ => pure ()
  | .error failure => Script.logs (.logoutFailed failure.text)
  Script.navigates loginPage

end StorageConsole.Session
