/-! Finite numbers of sixty-four bits. Results are rounded once, ties to an even significand. -/

namespace StorageConsole.Decimal

/-- The number `± significand * 2 ^ (scale - 1074)`. The significand is at least `2 ^ 52`
unless the scale is zero. -/
structure Binary64 where
  negative : Bool
  significand : Nat
  scale : Nat
  deriving DecidableEq, Repr, Inhabited

namespace Binary64

def lowestPower : Nat := 1074

def highestScale : Nat := 2045

def zero (negative : Bool) : Binary64 := ⟨negative, 0, 0⟩

def isZero (x : Binary64) : Bool := x.significand == 0

def nearest (num den : Nat) : Nat :=
  let q := num / den
  let twice := 2 * (num % den)
  if twice < den then q
  else if den < twice then q + 1
  else if q % 2 = 0 then q else q + 1

def ofRatio? (negative : Bool) (num den : Nat) : Option Binary64 :=
  let units := num * Nat.pow 2 lowestPower
  let scale := (units / den).log2 - 52
  let m := nearest units (den * Nat.pow 2 scale)
  let x : Binary64 :=
    if m = Nat.pow 2 53 then ⟨negative, Nat.pow 2 52, scale + 1⟩ else ⟨negative, m, scale⟩
  if x.scale ≤ highestScale then some x else none

def ofNat? (n : Nat) : Option Binary64 := ofRatio? false n 1

def ratio (x : Binary64) : Nat × Nat :=
  (x.significand * Nat.pow 2 x.scale, Nat.pow 2 lowestPower)

def mul? (x y : Binary64) : Option Binary64 :=
  ofRatio? (x.negative != y.negative) (x.ratio.1 * y.ratio.1) (x.ratio.2 * y.ratio.2)

def div? (x y : Binary64) : Option Binary64 :=
  if y.isZero then none
  else ofRatio? (x.negative != y.negative) (x.ratio.1 * y.ratio.2) (x.ratio.2 * y.ratio.1)

end Binary64
end StorageConsole.Decimal
