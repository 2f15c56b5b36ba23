import StorageConsole.Decimal.Binary64

/-! The shortest decimal text that rounds back to a number. -/

namespace StorageConsole.Decimal

structure Scientific where
  digits : Nat
  exponent : Int
  deriving DecidableEq, Repr

namespace Shortest

def shift (q : Nat × Nat) (e : Int) : Nat × Nat :=
  if 0 ≤ e then (q.1 * Nat.pow 10 e.toNat, q.2) else (q.1, q.2 * Nat.pow 10 (-e).toNat)

def leading (q : Nat × Nat) : List Int → Int
  | [] => 0
  | [k] => k
  | k :: rest => if (shift q (-k)).2 ≤ (shift q (-k)).1 then k else leading q rest

def magnitude (q : Nat × Nat) : Int :=
  let guess : Int := ((q.1.log2 : Int) - (q.2.log2 : Int)) * 30103 / 100000
  leading q [guess + 2, guess + 1, guess, guess - 1, guess - 2]

def interval (x : Binary64) : Nat × Nat :=
  let unit := Nat.pow 2 x.scale
  -- below a power of two the next number is half as far away
  let below := if x.significand = Nat.pow 2 52 ∧ 0 < x.scale then unit else 2 * unit
  (4 * x.ratio.1 - below, 4 * x.ratio.1 + 2 * unit)

def reads (x : Binary64) (d : Nat) (e : Int) : Bool :=
  let (num, den) := shift (4 * d, 1) e
  let (low, high) := interval x
  let v := num * x.ratio.2
  -- the bounds themselves round to an even significand
  if x.significand % 2 = 0 then decide (low * den ≤ v ∧ v ≤ high * den)
  else decide (low * den < v ∧ v < high * den)

def withDigits (x : Binary64) (k : Int) (n : Nat) : Option Scientific :=
  let e := k + 1 - n
  let (num, den) := shift x.ratio (-e)
  let down := num / den
  let twice := 2 * (num % den)
  let upNearer := den < twice || (den == twice && down % 2 == 1)
  match reads x down e, reads x (down + 1) e with
  | true, true => some ⟨if upNearer then down + 1 else down, e⟩
  | true, false => some ⟨down, e⟩
  | false, true => some ⟨down + 1, e⟩
  | false, false => none

def search (x : Binary64) (k : Int) : List Nat → Scientific
  | [] => ⟨0, 0⟩
  | [n] => (withDigits x k n).getD ⟨0, 0⟩
  | n :: more => (withDigits x k n).getD (search x k more)

def decimal (x : Binary64) : Scientific :=
  if x.isZero then ⟨0, 0⟩ else search x (magnitude x.ratio) ((List.range 17).map (· + 1))

end Shortest

def Scientific.trimZeros : Nat → Scientific → Scientific
  | 0, s => s
  | n + 1, s =>
    if s.digits % 10 = 0 ∧ s.digits ≠ 0 then trimZeros n ⟨s.digits / 10, s.exponent + 1⟩ else s

def Binary64.text (x : Binary64) : String :=
  let s := (Shortest.decimal x).trimZeros 20
  let ds := Nat.toDigits 10 s.digits
  let first : Int := s.exponent + ds.length - 1
  let body : List Char :=
    if s.digits = 0 then "0.0".toList
    else if first < -5 ∨ 16 ≤ first then
      let mantissa := match ds with
        | [] => []
        | [d] => [d]
        | d :: rest => d :: '.' :: rest
      let sign := if first < 0 then '-' else '+'
      mantissa ++ 'e' :: sign :: Nat.toDigits 10 first.natAbs
    else if first < 0 then
      '0' :: '.' :: List.replicate (first.natAbs - 1) '0' ++ ds
    else
      let whole := first.toNat + 1
      if ds.length ≤ whole then ds ++ List.replicate (whole - ds.length) '0' ++ ['.', '0']
      else ds.take whole ++ '.' :: ds.drop whole
  String.ofList (if x.negative then '-' :: body else body)

end StorageConsole.Decimal
