import StorageConsole.Json.Fault

/-! Records from values. Members come in key order, and what is missing is looked for last. -/

namespace StorageConsole.Json

def Found.ofValue : Value → Found
  | .null => .null
  | .bool b => .bool b
  | .number n => .number n
  | .string s => .string s
  | .array _ => .sequence
  | .object _ => .map

namespace Members

def text : Value → Except Mismatch String
  | .string s => .ok s
  | v => .error (.invalidType (.ofValue v) .string)

def texts : Value → Except Mismatch (List String)
  | .array items => items.mapM text
  | v => .error (.invalidType (.ofValue v) .sequence)

structure Field (σ : Type) where
  name : String
  read : σ → Value → Except Mismatch σ
  required : Bool

variable {σ : Type}

def member (fields : List (Field σ)) (state : σ) (m : String × Value) : Except Mismatch σ :=
  match fields.find? (·.name == m.1) with
  | some field => field.read state m.2
  | none => .ok state

def positions (name : String) (size : Nat) :
    List (Field σ) → (index : Nat) → σ → List Value → Except Mismatch σ
  | [], _, state, [] => .ok state
  | [], index, _, more => .error (.tooLong (index + more.length))
  | field :: rest, index, state, v :: more =>
    match field.read state v with
    | .error e => .error e
    | .ok state => positions name size rest (index + 1) state more
  | field :: rest, index, state, [] =>
    match (field :: rest).findIdx? (·.required) with
    | some i => .error (.invalidLength (index + i) name size)
    | none => .ok state

def record (name : String) (fields : List (Field σ)) (empty : σ) : Value → Except Mismatch σ
  | .object members =>
    match members.foldlM (member fields) empty with
    | .error e => .error e
    | .ok state =>
      match fields.find? fun f => f.required && !members.any (·.1 == f.name) with
      | some field => .error (.missingField field.name)
      | none => .ok state
  | .array items => positions name fields.length fields 0 empty items
  | v => .error (.invalidType (.ofValue v) (.record name))

end Members
end StorageConsole.Json
