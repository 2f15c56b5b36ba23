import StorageConsole.Json.Reader

/-! Records from bytes: an object, whose unknown members are passed over, or an array of the fields.
-/

namespace StorageConsole.Json

namespace Skip

def valueWith (inner : Option (Bytes → Read Unit)) (bs : Bytes) : Read Unit :=
  match Scan.skipSpace bs with
  | [] => .error .truncated
  | b :: rest =>
    if b = 0x6E then (Scan.literal [0x75, 0x6C, 0x6C] rest).map ((), ·)
    else if b = 0x74 then (Scan.literal [0x72, 0x75, 0x65] rest).map ((), ·)
    else if b = 0x66 then (Scan.literal [0x61, 0x6C, 0x73, 0x65] rest).map ((), ·)
    else if b = 0x2D then (Scan.passNumber rest).map ((), ·)
    else if Scan.isDigit b then (Scan.passNumber (b :: rest)).map ((), ·)
    else if b = 0x22 then (Scan.passString (rest.length + 1) rest).map ((), ·)
    else if b = 0x5B then
      match inner with
      | none => .error .malformed
      | some inner => Scan.items (fun _ => inner) (rest.length + 1) true () rest
    else if b = 0x7B then
      match inner with
      | none => .error .malformed
      | some inner =>
        let member (_ : Unit) (bs : Bytes) : Read Unit :=
          match Scan.passString (bs.length + 1) bs with
          | .error e => .error e
          | .ok rest =>
            match Scan.colon rest with
            | .error e => .error e
            | .ok rest => inner rest
        Scan.members member (rest.length + 1) true () rest
    else .error .malformed

def nested : (depth : Nat) → Bytes → Read Unit
  | 0 => valueWith none
  | depth + 1 => valueWith (some (nested depth))

def value (bs : Bytes) : Except Fault Bytes :=
  (nested bs.length bs).map (·.2)

end Skip

namespace Record

def unwanted (wanted : Wanted) (bs : Bytes) : Fault :=
  let complain (found : Found) : Fault := .mismatch (.invalidType found wanted)
  match Scan.skipSpace bs with
  | [] => .truncated
  | b :: rest =>
    let after (r : Except Fault Found) : Fault :=
      match r with
      | .error e => e
      | .ok found => complain found
    if b = 0x6E then after ((Scan.literal [0x75, 0x6C, 0x6C] rest).map fun _ => .null)
    else if b = 0x74 then after ((Scan.literal [0x72, 0x75, 0x65] rest).map fun _ => .bool true)
    else if b = 0x66 then
      after ((Scan.literal [0x61, 0x6C, 0x73, 0x65] rest).map fun _ => .bool false)
    else if b = 0x2D then after ((Scan.number true rest).map (.number ·.1))
    else if Scan.isDigit b then after ((Scan.number false (b :: rest)).map (.number ·.1))
    else if b = 0x22 then after ((Scan.string rest).map (.string ·.1))
    else if b = 0x5B then complain .sequence
    else if b = 0x7B then complain .map
    else .malformed

def bool (bs : Bytes) : Read Bool :=
  match Scan.skipSpace bs with
  | [] => .error .truncated
  | b :: rest =>
    if b = 0x74 then (Scan.literal [0x72, 0x75, 0x65] rest).map (true, ·)
    else if b = 0x66 then (Scan.literal [0x61, 0x6C, 0x73, 0x65] rest).map (false, ·)
    else .error (unwanted .boolean bs)

def string (bs : Bytes) : Read String :=
  match Scan.skipSpace bs with
  | [] => .error .truncated
  | b :: rest => if b = 0x22 then Scan.string rest else .error (unwanted .string bs)

def optional {α : Type} (inner : Bytes → Read α) (bs : Bytes) : Read (Option α) :=
  match Scan.skipSpace bs with
  | [] => .error .truncated
  | b :: rest =>
    if b = 0x6E then (Scan.literal [0x75, 0x6C, 0x6C] rest).map (none, ·)
    else (inner bs).map fun (a, rest) => (some a, rest)

def closeArray (bs : Bytes) : Except Fault Bytes :=
  match Scan.skipSpace bs with
  | [] => .error .truncated
  | b :: rest => if b = 0x5D then .ok rest else .error .malformed

def list {α : Type} (inner : Bytes → Read α) (bs : Bytes) : Read (List α) :=
  match Scan.skipSpace bs with
  | [] => .error .truncated
  | b :: rest =>
    if b = 0x5B then
      let item (seen : List α) (bs : Bytes) : Read (List α) :=
        (inner bs).map fun (a, rest) => (a :: seen, rest)
      (Scan.items item (rest.length + 1) true [] rest).map fun (as, rest) => (as.reverse, rest)
    else .error (unwanted .sequence bs)

structure Field (σ : Type) where
  name : String
  -- Reads the field, nesting at most so deep.
  read : (depth : Nat) → σ → Bytes → Read σ
  present : σ → Bool
  required : Bool

structure Shape (σ : Type) where
  name : String
  fields : List (Field σ)

def member {σ : Type} (shape : Shape σ) (depth : Nat) (state : σ) (bs : Bytes) : Read σ :=
  match Scan.string bs with
  | .error e => .error e
  | .ok (key, rest) =>
    match shape.fields.find? (·.name == key) with
    | none =>
      match Scan.colon rest with
      | .error e => .error e
      | .ok rest => (Skip.value rest).map (state, ·)
    | some field =>
      if field.present state then .error (.mismatch (.duplicateField field.name))
      else match Scan.colon rest with
        | .error e => .error e
        | .ok rest => field.read depth state rest

def positions {σ : Type} (shape : Shape σ) (depth : Nat) :
    List (Field σ) → (index : Nat) → σ → Bytes → Read σ
  | [], _, state, bs => (closeArray bs).map (state, ·)
  | field :: more, index, state, bs =>
    match Scan.nextItem (index == 0) bs with
    | .error e => .error e
    | .ok (some start, _) =>
      match field.read depth state start with
      | .error e => .error e
      | .ok (state, rest) => positions shape depth more (index + 1) state rest
    | .ok (none, rest) =>
      match (field :: more).findIdx? (·.required) with
      | some i =>
        .error (.mismatch (.invalidLength (index + i) shape.name shape.fields.length))
      | none => .ok (state, rest)

def record {σ : Type} (shape : Shape σ) (empty : σ) (depth : Nat) (bs : Bytes) : Read σ :=
  match Scan.skipSpace bs with
  | [] => .error .truncated
  | b :: rest =>
    if b = 0x5B then
      match depth with
      | 0 => .error .malformed
      | depth + 1 => positions shape depth shape.fields 0 empty rest
    else if b = 0x7B then
      match depth with
      | 0 => .error .malformed
      | depth + 1 =>
        match Scan.members (member shape depth) (rest.length + 1) true empty rest with
        | .error e => .error e
        | .ok (state, rest) =>
          match shape.fields.find? fun f => f.required && !f.present state with
          | some field => .error (.mismatch (.missingField field.name))
          | none => .ok (state, rest)
    else .error (unwanted (.record shape.name) bs)

end Record
end StorageConsole.Json
