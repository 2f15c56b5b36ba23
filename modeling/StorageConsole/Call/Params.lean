import StorageConsole.Json.Printer
import StorageConsole.Text.Form

namespace StorageConsole

structure Params where
  entries : List (String × Option String) := []
  deriving DecidableEq, Repr

namespace Params

def set (p : Params) (key value : String) : Params := ⟨p.entries ++ [(key, some value)]⟩

def setOptional (p : Params) (key : String) (value : Option String) : Params :=
  ⟨p.entries ++ [(key, value)]⟩

def valueOf : Json.Value → Option String
  | .null => none
  | .string s => some s
  | v => some v.text

def ofJson (value : Json.Value) : Params :=
  ⟨(value.members?.getD []).map fun (key, v) => (key, valueOf v)⟩

def size (p : Params) : Nat := p.entries.length

def present (p : Params) : List (String × String) :=
  p.entries.filterMap fun (key, value) => value.map (key, ·)

def query? (p : Params) : Option String :=
  if p.present.isEmpty then none else some (Text.Form.encode p.present)

def appendTo (p : Params) (path : String) : String :=
  match p.query? with
  | some query => path ++ "?" ++ query
  | none => path

end Params
end StorageConsole
