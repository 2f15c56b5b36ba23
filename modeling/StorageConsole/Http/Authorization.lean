import StorageConsole.Http.Header
import StorageConsole.Text.Base64
import StorageConsole.Url.Basic

namespace StorageConsole.Http

structure Userinfo where
  name : String
  password : Option String
  deriving DecidableEq, Repr

namespace Userinfo

def text? (escaped : List Char) : Option String :=
  Text.Utf8.decode? (Text.Percent.decode (Text.Utf8.encodeChars escaped))

-- a password that is no text counts as none, a name that is no text keeps everything in the URL
def ofUrl? (u : Url) : Option Userinfo := do
  let authority ← u.authority
  let name ← text? authority.username
  let password := if authority.password.isEmpty then none else text? authority.password
  if name.isEmpty && password.isNone then none else some ⟨name, password⟩

def authorization (i : Userinfo) : HeaderValue :=
  Text.Utf8.encodeChars
    ("Basic ".toList ++
      Text.Base64.encode (Text.Utf8.encode (i.name ++ ":" ++ i.password.getD "")))

end Userinfo

def Headers.ofUserinfo (i : Option Userinfo) : Headers :=
  i.toList.map fun i => (HeaderName.authorization, i.authorization)

end StorageConsole.Http
