import StorageConsole.Client.Basic
import StorageConsole.Digest.Md5
import StorageConsole.Text.Hex

namespace StorageConsole

namespace Session

def hashPassword (password username : String) : String :=
  Text.Hex.encode (Digest.Md5.digest
    (Text.Utf8.encode password ++ Text.Utf8.encode ":" ++ Text.Utf8.encode username))

def loginEndpoint : Endpoint := ⟨.post, "/login", "Login failed"⟩

def loginOperation (username password : String) : Operation where
  endpoint := loginEndpoint
  content := .json (.json (.object [("username", .string username),
    ("password", .string (hashPassword password username))]))

def login (c : Client) (username password : String) : Script Envelope := do
  let envelope ← c.call (loginOperation username password)
  if envelope.success then Script.logs (.loggedIn username)
  return envelope

def statusRequest : Http.Request := { method := "GET", path := "/auth/status" }

def isActive : Script Bool := do
  -- sent past the interceptors, so that being told there is no session sends nobody to log in
  match ← Script.sends statusRequest with
  | .ok _ => return true
  | .error failure =>
    Script.logs (.unauthenticated failure.code? failure.text)
    return false

inductive Decision where
  | proceed
  | redirect (path : String)
  deriving DecidableEq, Repr

def guard (path : String) : Script Decision := do
  if pathname path = loginPage then return .proceed
  else if ← isActive then return .proceed
  else return .redirect loginPage

end Session
end StorageConsole
