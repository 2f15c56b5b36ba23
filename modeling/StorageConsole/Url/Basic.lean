import StorageConsole.Url.Host

namespace StorageConsole

namespace Url

inductive Kind where
  | web
  | file
  | other
  deriving DecidableEq, Repr

def Kind.ofScheme (scheme : List Char) : Kind :=
  if ["http", "https", "ws", "wss", "ftp"].any (·.toList == scheme) then .web
  else if scheme == "file".toList then .file
  else .other

def defaultPort (scheme : List Char) : Option Nat :=
  if scheme == "http".toList || scheme == "ws".toList then some 80
  else if scheme == "https".toList || scheme == "wss".toList then some 443
  else if scheme == "ftp".toList then some 21
  else none

structure Authority where
  username : List Char
  password : List Char
  host : Host
  port : Option Nat
  deriving DecidableEq, Repr

inductive Path where
  | rooted (segments : List (List Char))
  | flat (text : List Char)
  deriving DecidableEq, Repr

end Url

structure Url where
  scheme : List Char
  authority : Option Url.Authority
  path : Url.Path
  query : Option (List Char)
  fragment : Option (List Char)
  deriving DecidableEq, Repr

namespace Url

def kind (u : Url) : Kind := Kind.ofScheme u.scheme

namespace Authority

def credentialsText (a : Authority) : List Char :=
  if a.username.isEmpty && a.password.isEmpty then []
  else if a.password.isEmpty then a.username ++ ['@']
  else a.username ++ ':' :: a.password ++ ['@']

def portText (a : Authority) : List Char :=
  match a.port with
  | some p => ':' :: Nat.toDigits 10 p
  | none => []

def text (a : Authority) : List Char :=
  a.credentialsText ++ a.host.text ++ a.portText

end Authority

namespace Path

def text : Path → List Char
  | rooted segments => segments.flatMap ('/' :: ·)
  | flat cs => cs

def startsLikeHost : Path → Bool
  | rooted ([] :: _ :: _) => true
  | _ => false

def segments? : Path → Option (List (List Char))
  | rooted segments => some segments
  | flat _ => none

end Path

def part (sign : Char) : Option (List Char) → List Char
  | some cs => sign :: cs
  | none => []

def originChars (u : Url) : List Char :=
  u.scheme ++ ':' ::
    match u.authority with
    | some a => '/' :: '/' :: a.text
    | none => if u.path.startsLikeHost then ['/', '.'] else []

def chars (u : Url) : List Char :=
  u.originChars ++ u.path.text ++ part '?' u.query ++ part '#' u.fragment

def text (u : Url) : String := String.ofList u.chars

def anonymous (u : Url) : Url :=
  { u with authority := u.authority.map fun a => { a with username := [], password := [] } }

end Url
end StorageConsole
