import StorageConsole.Url.Ipv4

namespace StorageConsole.Url.Ipv6

def group? (cs : List Char) : Option Nat :=
  if cs.isEmpty ∨ 4 < cs.length then none else Ipv4.digits? 16 0 cs

def byte? (cs : List Char) : Option Nat :=
  if cs.isEmpty ∨ (1 < cs.length ∧ cs.head? = some '0') then none
  else do
    let n ← Ipv4.digits? 10 0 cs
    if n ≤ 255 then some n else none

def dotted? (cs : List Char) : Option (List Nat) :=
  match (Text.pieces (· == '.') cs).mapM byte? with
  | some [a, b, c, d] => some [a * 256 + b, c * 256 + d]
  | _ => none

def groups? : List (List Char) → Option (List Nat)
  | [] => some []
  | [last] =>
    if last.contains '.' then dotted? last else (group? last).map ([·])
  | piece :: more => do
    let g ← group? piece
    let gs ← groups? more
    return g :: gs

def run? (cs : List Char) : Option (List Nat) :=
  if cs.isEmpty then some [] else groups? (Text.pieces (· == ':') cs)

def gap? : List Char → Option (List Char × List Char)
  | ':' :: ':' :: rest => some ([], rest)
  | c :: rest => (gap? rest).map fun (front, back) => (c :: front, back)
  | [] => none

def parse? (cs : List Char) : Option (List Nat) :=
  match gap? cs with
  | none => do
    let gs ← run? cs
    if gs.length = 8 then some gs else none
  | some (front, back) => do
    if front.contains '.' then none
    else
      let gs ← run? front
      let hs ← run? back
      if gs.length + hs.length < 8 then
        some (gs ++ List.replicate (8 - gs.length - hs.length) 0 ++ hs)
      else none

def zeros (gs : List Nat) : Nat := (gs.takeWhile (· == 0)).length

def longestRun (gs : List Nat) : Nat × Nat :=
  (List.range gs.length).foldl
    (fun best i => if best.2 < zeros (gs.drop i) then (i, zeros (gs.drop i)) else best) (0, 0)

def runText (gs : List Nat) : List Char :=
  Text.join ':' (gs.map (Nat.toDigits 16))

def text (gs : List Nat) : List Char :=
  let (start, length) := longestRun gs
  if length < 2 then runText gs
  else runText (gs.take start) ++ ':' :: ':' :: runText (gs.drop (start + length))

end StorageConsole.Url.Ipv6
