/-! Labels of other scripts in ASCII, by the numbers at which their characters are put in. -/

namespace StorageConsole.Url.Punycode

def digit? (c : Char) : Option Nat :=
  if 'a' ≤ c ∧ c ≤ 'z' then some (c.toNat - 97)
  else if 'A' ≤ c ∧ c ≤ 'Z' then some (c.toNat - 65)
  else if '0' ≤ c ∧ c ≤ '9' then some (c.toNat - 22)
  else none

structure State where
  text : List Char
  -- The code point to be put in next, unless the number tells another.
  point : Nat := 128
  -- The place to put it in.
  index : Nat := 0
  -- The place before the number.
  start : Nat := 0
  weight : Nat := 1
  -- Thirty-six for each digit of the number, the next one included.
  reach : Nat := 36
  bias : Nat := 72

def bound : Nat := Nat.pow 2 32

def threshold (bias reach : Nat) : Nat :=
  if reach ≤ bias then 1 else if bias + 26 ≤ reach then 26 else reach - bias

def scale (n : Nat) : Nat × Nat :=
  if 455 < n then
    let (m, reach) := scale (n / 35)
    (m, reach + 36)
  else (n, 0)
termination_by n
decreasing_by exact Nat.div_lt_self (by omega) (by omega)

def adapt (number length : Nat) (isFirst : Bool) : Nat :=
  let n := if isFirst then number / 700 else number / 2
  let (m, reach) := scale (n + n / length)
  reach + 36 * m / (m + 38)

def State.put? (s : State) (index : Nat) : Option State :=
  let length := s.text.length + 1
  let point := s.point + index / length
  let place := index % length
  if point.isValidChar then
    some {
      text := s.text.insertIdx place (Char.ofNat point)
      point := point
      index := place + 1
      start := place + 1
      bias := adapt (index - s.start) length (s.start == 0) }
  else none

def State.read? (s : State) (c : Char) : Option State := do
  let digit ← digit? c
  let index := s.index + digit * s.weight
  let t := threshold s.bias s.reach
  if bound ≤ index then none
  else if digit < t then s.put? index
  else if bound ≤ s.weight * (36 - t) then none
  else some { s with index := index, weight := s.weight * (36 - t), reach := s.reach + 36 }

def split (cs : List Char) : List Char × List Char :=
  let digits := (cs.reverse.takeWhile (· != '-')).reverse
  let front := cs.take (cs.length - digits.length - 1)
  if front.isEmpty then ([], cs) else (front, digits)

def decode? (cs : List Char) : Option (List Char) := do
  let (front, digits) := split cs
  let s ← digits.foldlM State.read? { text := front }
  if s.reach = 36 then some s.text else none

def digitChar (n : Nat) : Char := Char.ofNat (if n < 26 then 97 + n else 22 + n)

theorem threshold_bounds (bias reach : Nat) :
    1 ≤ threshold bias reach ∧ threshold bias reach ≤ 26 := by
  unfold threshold
  split
  · omega
  · split <;> omega

def digits (bias reach n : Nat) : List Char :=
  let t := threshold bias reach
  if n < t then [digitChar n]
  else digitChar (t + (n - t) % (36 - t)) :: digits bias (reach + 36) ((n - t) / (36 - t))
termination_by n
decreasing_by
  obtain ⟨hlow, hhigh⟩ := threshold_bounds bias reach
  have hdiv : (n - threshold bias reach) / (36 - threshold bias reach) ≤ n - threshold bias reach :=
    Nat.div_le_self _ _
  omega

structure Writer where
  text : List Char := []
  -- The places and code points since the last character that was put in.
  number : Nat := 0
  bias : Nat := 72
  length : Nat

def Writer.pass (front point : Nat) (w : Writer) (c : Char) : Writer :=
  if c.toNat < point then { w with number := w.number + 1 }
  else if c.toNat = point then {
    text := w.text ++ digits w.bias 36 w.number
    number := 0
    bias := adapt w.number (w.length + 1) (w.length == front)
    length := w.length + 1 }
  else w

def Writer.put (label : List Char) (front next : Nat) (w : Writer) : (points : List Nat) → Writer
  | [] => w
  | point :: points =>
    let w := { w with number := w.number + (point - next) * (w.length + 1) }
    let w := label.foldl (Writer.pass front point) w
    Writer.put label front (point + 1) { w with number := w.number + 1 } points

def insertPoint (n : Nat) : List Nat → List Nat
  | [] => [n]
  | m :: rest =>
    if n < m then n :: m :: rest else if n = m then m :: rest else m :: insertPoint n rest

def encode (label : List Char) : List Char :=
  let front := label.filter (·.toNat < 128)
  let points := (label.map Char.toNat).foldr insertPoint [] |>.filter (128 ≤ ·)
  let w : Writer := Writer.put label front.length 128 { length := front.length } points
  if front.isEmpty then w.text else front ++ '-' :: w.text

end StorageConsole.Url.Punycode
