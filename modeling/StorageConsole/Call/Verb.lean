namespace StorageConsole

inductive Verb where
  | get
  | post
  | put
  | delete
  | upload
  | download
  deriving DecidableEq, Repr

namespace Verb

def all : List Verb := [get, post, put, delete, upload, download]

def text : Verb → String
  | get => "GET"
  | post => "POST"
  | put => "PUT"
  | delete => "DELETE"
  | upload => "UPLOAD"
  | download => "DOWNLOAD"

def method : Verb → String
  | get => "GET"
  | put => "PUT"
  | delete => "DELETE"
  | post | upload | download => "POST"

end Verb
end StorageConsole
