import StorageConsole.Text.CombiningClass
import StorageConsole.Text.CompositionPairs

/-! The composed form of a text. Characters are given as code points. -/

namespace StorageConsole.Text.Composed

def syllable? (a b : Nat) : Option Nat :=
  if 0x1100 ≤ a ∧ a < 0x1113 ∧ 0x1161 ≤ b ∧ b < 0x1176 then
    some (0xAC00 + ((a - 0x1100) * 21 + (b - 0x1161)) * 28)
  else if 0xAC00 ≤ a ∧ a < 0xD7A4 ∧ (a - 0xAC00) % 28 = 0 ∧ 0x11A7 < b ∧ b < 0x11C3 then
    some (a + (b - 0x11A7))
  else none

def letters? (n : Nat) : Option (List Nat) :=
  if 0xAC00 ≤ n ∧ n < 0xD7A4 then
    let s := n - 0xAC00
    let front := [0x1100 + s / 588, 0x1161 + s % 588 / 28]
    some (if s % 28 = 0 then front else front ++ [0x11A7 + s % 28])
  else none

def maxSteps : Nat := 4

def apart : (steps : Nat) → Nat → List Nat
  | 0, n => [n]
  | steps + 1, n =>
    match letters? n with
    | some letters => letters
    | none =>
      match compositionPairs.find? (·.2.2 == n) with
      | some (a, b, _) => apart steps a ++ [b]
      | none => [n]

def place (n : Nat) : List Nat → List Nat
  | [] => [n]
  | m :: rest =>
    if 0 < combiningClass m ∧ combiningClass m < combiningClass n then m :: place n rest
    else n :: m :: rest

def order (ns : List Nat) : List Nat := ns.foldr place []

def pair? (a b : Nat) : Option Nat :=
  match syllable? a b with
  | some s => some s
  | none => (compositionPairs.find? fun p => p.1 == a && p.2.1 == b).map (·.2.2)

def together (base : Nat) : (between : List Nat) → List Nat → List Nat
  | between, [] => base :: between
  | between, n :: rest =>
    -- a mark of the same class, or of none, keeps a character from what is before it
    let reaches : Bool := match between.getLast? with
      | some m => combiningClass m < combiningClass n
      | none => true
    match (if reaches then pair? base n else none) with
    | some whole => together whole between rest
    | none =>
      if combiningClass n = 0 then base :: between ++ together n [] rest
      else together base (between ++ [n]) rest
termination_by _ rest => rest.length

def compose (ns : List Nat) : List Nat :=
  match order (ns.flatMap (apart maxSteps)) with
  | [] => []
  | base :: rest => together base [] rest

def isComposed (cs : List Char) : Bool :=
  let ns := cs.map Char.toNat
  compose ns == ns

end StorageConsole.Text.Composed
