import StorageConsole.Json.Scan

/-! Values from bytes. Of several members of one key the last counts. -/

namespace StorageConsole.Json

namespace Reader

def depthLimit : Nat := 127

def item (inner : Bytes → Read Value) (seen : List Value) (bs : Bytes) : Read (List Value) :=
  match inner bs with
  | .error e => .error e
  | .ok (v, rest) => .ok (v :: seen, rest)

def member (inner : Bytes → Read Value) (seen : List (String × Value)) (bs : Bytes) :
    Read (List (String × Value)) :=
  match Scan.string bs with
  | .error e => .error e
  | .ok (key, rest) =>
    match Scan.colon rest with
    | .error e => .error e
    | .ok rest =>
      match inner rest with
      | .error e => .error e
      | .ok (v, rest) => .ok (Value.insert key v seen, rest)

def valueWith (inner : Option (Bytes → Read Value)) (bs : Bytes) : Read Value :=
  match Scan.skipSpace bs with
  | [] => .error .truncated
  | b :: rest =>
    if b = 0x6E then (Scan.literal [0x75, 0x6C, 0x6C] rest).map (.null, ·)
    else if b = 0x74 then (Scan.literal [0x72, 0x75, 0x65] rest).map (.bool true, ·)
    else if b = 0x66 then (Scan.literal [0x61, 0x6C, 0x73, 0x65] rest).map (.bool false, ·)
    else if b = 0x2D then (Scan.number true rest).map fun (n, rest) => (.number n, rest)
    else if Scan.isDigit b then
      (Scan.number false (b :: rest)).map fun (n, rest) => (.number n, rest)
    else if b = 0x22 then (Scan.string rest).map fun (s, rest) => (.string s, rest)
    else if b = 0x5B then
      match inner with
      | none => .error .malformed
      | some inner =>
        (Scan.items (item inner) (rest.length + 1) true [] rest).map
          fun (vs, rest) => (.array vs.reverse, rest)
    else if b = 0x7B then
      match inner with
      | none => .error .malformed
      | some inner =>
        (Scan.members (member inner) (rest.length + 1) true [] rest).map
          fun (ms, rest) => (.object ms, rest)
    else .error .malformed

def value : (depth : Nat) → Bytes → Read Value
  | 0 => valueWith none
  | depth + 1 => valueWith (some (value depth))

def finish {α : Type} : Read α → Except Fault α
  | .error e => .error e
  | .ok (a, rest) => if (Scan.skipSpace rest).isEmpty then .ok a else .error .malformed

end Reader

def Value.read (bs : Bytes) : Except Fault Value :=
  Reader.finish (Reader.value Reader.depthLimit bs)

def Value.read? (bs : Bytes) : Option Value :=
  (Value.read bs).toOption

end StorageConsole.Json
