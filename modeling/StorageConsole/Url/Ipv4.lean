import StorageConsole.Text.Pieces

/-! IPv4 addresses as hosts write them: decimal, octal after `0` or hexadecimal after `0x`. -/

namespace StorageConsole.Url.Ipv4

def digit? (c : Char) : Option Nat :=
  if '0' ≤ c ∧ c ≤ '9' then some (c.toNat - 48)
  else if 'a' ≤ c ∧ c ≤ 'f' then some (c.toNat - 87)
  else if 'A' ≤ c ∧ c ≤ 'F' then some (c.toNat - 55)
  else none

def digits? (base : Nat) : (soFar : Nat) → List Char → Option Nat
  | n, [] => some n
  | n, c :: rest =>
    match digit? c with
    | some d => if d < base then digits? base (n * base + d) rest else none
    | none => none

def number? : List Char → Option Nat
  | [] => none
  | '0' :: 'x' :: rest => digits? 16 0 rest
  | '0' :: 'X' :: rest => digits? 16 0 rest
  | '0' :: c :: rest => digits? 8 0 (c :: rest)
  | cs => digits? 10 0 cs

def parts (cs : List Char) : List (List Char) :=
  let ps := Text.pieces (· == '.') cs
  if ps.getLast? = some [] then ps.dropLast else ps

def endsInNumber (cs : List Char) : Bool :=
  match (parts cs).getLast? with
  | some last => (!last.isEmpty && last.all fun c => '0' ≤ c && c ≤ '9') || (number? last).isSome
  | none => false

def parse? (cs : List Char) : Option Nat := do
  let numbers ← (parts cs).mapM number?
  let last ← numbers.getLast?
  let front := numbers.dropLast
  if 3 < front.length then none
  else if front.any (255 < ·) then none
  else if Nat.pow 256 (4 - front.length) ≤ last then none
  else some (front.foldr (fun n acc => acc / 256 + n * Nat.pow 256 3) 0 + last)

def text (address : Nat) : List Char :=
  Text.join '.' ([16777216, 65536, 256, 1].map fun unit =>
    Nat.toDigits 10 (address / unit % 256))

end StorageConsole.Url.Ipv4
