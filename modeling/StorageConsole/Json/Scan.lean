import StorageConsole.Json.Fault
import StorageConsole.Text.Hex
import StorageConsole.Text.Utf8

/-! The tokens of JSON, each read from the front of a byte sequence with what follows it. -/

namespace StorageConsole.Json

abbrev Read (α : Type) := Except Fault (α × Bytes)

namespace Scan

def isSpace (b : UInt8) : Bool :=
  b == 0x20 || b == 0x0A || b == 0x0D || b == 0x09

def skipSpace (bs : Bytes) : Bytes :=
  bs.dropWhile isSpace

def literal : (expected : Bytes) → Bytes → Except Fault Bytes
  | [], bs => .ok bs
  | _ :: _, [] => .error .truncated
  | e :: expected, b :: bs => if b = e then literal expected bs else .error .malformed

/-! ### Strings -/

def hex4? (a b c d : UInt8) : Option Nat := do
  let a ← Text.Hex.digit? a
  let b ← Text.Hex.digit? b
  let c ← Text.Hex.digit? c
  let d ← Text.Hex.digit? d
  return ((a * 16 + b) * 16 + c) * 16 + d

def escaped? (b : UInt8) : Option UInt8 :=
  if b = 0x22 ∨ b = 0x5C ∨ b = 0x2F then some b
  else if b = 0x62 then some 0x08
  else if b = 0x66 then some 0x0C
  else if b = 0x6E then some 0x0A
  else if b = 0x72 then some 0x0D
  else if b = 0x74 then some 0x09
  else none

def codeUnit : Bytes → Read Nat
  | a :: b :: c :: d :: rest =>
    match hex4? a b c d with
    | some n => .ok (n, rest)
    | none => .error .malformed
  | _ => .error .truncated

def trailingSurrogate : Bytes → Read Nat
  | [] => .error .truncated
  | b :: rest =>
    if b ≠ 0x5C then .error .malformed
    else match rest with
      | [] => .error .truncated
      | u :: rest =>
        if u ≠ 0x75 then .error .malformed
        else match codeUnit rest with
          | .error e => .error e
          | .ok (n, rest) =>
            if 0xDC00 ≤ n ∧ n ≤ 0xDFFF then .ok (n, rest) else .error .malformed

def unicodeEscape (bs : Bytes) : Read Char :=
  match codeUnit bs with
  | .error e => .error e
  | .ok (n, rest) =>
    if 0xDC00 ≤ n ∧ n ≤ 0xDFFF then .error .malformed
    else if n < 0xD800 ∨ 0xDBFF < n then .ok (Char.ofNat n, rest)
    else match trailingSurrogate rest with
      | .error e => .error e
      | .ok (m, rest) => .ok (Char.ofNat ((n - 0xD800) * 1024 + (m - 0xDC00) + 0x10000), rest)

def stringBytes : (fuel : Nat) → (seen : Bytes) → Bytes → Read Bytes
  | 0, _, _ => .error .truncated
  | _ + 1, _, [] => .error .truncated
  | fuel + 1, seen, b :: rest =>
    if b = 0x22 then .ok (seen.reverse, rest)
    else if b = 0x5C then
      match rest with
      | [] => .error .truncated
      | e :: rest =>
        if e = 0x75 then
          match unicodeEscape rest with
          | .error e => .error e
          | .ok (c, rest) => stringBytes fuel ((String.utf8EncodeChar c).reverse ++ seen) rest
        else match escaped? e with
          | some c => stringBytes fuel (c :: seen) rest
          | none => .error .malformed
    else if b < 0x20 then .error .malformed
    else stringBytes fuel (b :: seen) rest

def string (bs : Bytes) : Read String :=
  match stringBytes (bs.length + 1) [] bs with
  | .error e => .error e
  | .ok (raw, rest) =>
    match Text.Utf8.decode? raw with
    | some s => .ok (s, rest)
    | none => .error .malformed

def passString : (fuel : Nat) → Bytes → Except Fault Bytes
  | 0, _ => .error .truncated
  | _ + 1, [] => .error .truncated
  | fuel + 1, b :: rest =>
    if b = 0x22 then .ok rest
    else if b = 0x5C then
      match rest with
      | [] => .error .truncated
      | e :: rest =>
        if e = 0x75 then
          match codeUnit rest with
          | .error e => .error e
          | .ok (_, rest) => passString fuel rest
        else if (escaped? e).isSome then passString fuel rest
        else .error .malformed
    else if b < 0x20 then .error .malformed
    else passString fuel rest

/-! ### Numbers -/

def isDigit (b : UInt8) : Bool := 0x30 ≤ b && b ≤ 0x39

def digitNext : Bytes → Bool
  | b :: _ => isDigit b
  | [] => false

def exponentNext : Bytes → Bool
  | b :: _ => b == 0x65 || b == 0x45
  | [] => false

def gather (n : Nat) : Bytes → Nat × Bytes
  | [] => (n, [])
  | b :: rest =>
    if isDigit b ∧ n * 10 + (b.toNat - 0x30) < Nat.pow 2 64 then
      gather (n * 10 + (b.toNat - 0x30)) rest
    else (n, b :: rest)

def passDigits (bs : Bytes) : Nat × Bytes :=
  ((bs.takeWhile isDigit).length, bs.dropWhile isDigit)

def natural (bs : Bytes) : Nat × Bytes :=
  ((bs.takeWhile isDigit).foldl (fun n b => n * 10 + (b.toNat - 0x30)) 0, bs.dropWhile isDigit)

def scaleDown : Nat → Decimal.Binary64 → Option Decimal.Binary64
  | 0, x => some x
  | n + 1, x =>
    if x.isZero then some x
    else do
      let power ← Decimal.Binary64.ofNat? (Nat.pow 10 308)
      scaleDown n (← x.div? power)

/-- The number `± significand * 10 ^ exponent`: the significand is rounded first, then multiplied
or divided by a rounded power of ten no greater than 10^308, as often as needed. -/
def real? (negative : Bool) (significand : Nat) (exponent : Int) : Option Decimal.Binary64 := do
  let x ← Decimal.Binary64.ofNat? significand
  let y ←
    if x.isZero then some x
    else if 308 < exponent then none
    else if 0 ≤ exponent then do
      x.mul? (← Decimal.Binary64.ofNat? (Nat.pow 10 exponent.toNat))
    else do
      let steps := (exponent.natAbs - 1) / 308
      let y ← scaleDown steps x
      if y.isZero then some y
      else y.div? (← Decimal.Binary64.ofNat? (Nat.pow 10 (exponent.natAbs - 308 * steps)))
  return { y with negative := negative }

def real (negative : Bool) (significand : Nat) (exponent : Int) (rest : Bytes) : Read Number :=
  (real? negative significand exponent).elim (.error .malformed) fun x => .ok (.real x, rest)

def exponentPart (negative : Bool) (significand : Nat) (start : Int) (bs : Bytes) :
    Read Number :=
  let (down, bs) := match bs with
    | b :: rest =>
      if b = 0x2B then (false, rest) else if b = 0x2D then (true, rest) else (false, bs)
    | [] => (false, [])
  if digitNext bs then
    let (e, rest) := natural bs
    real negative significand (if down then start - e else start + e) rest
  else if bs.isEmpty then .error .truncated
  else .error .malformed

def fractionPart (negative : Bool) (significand : Nat) (start : Int) (bs : Bytes) :
    Read Number :=
  let (n, rest) := gather significand bs
  let taken := bs.length - rest.length
  if taken = 0 ∧ digitNext rest = false then
    .error (if rest.isEmpty then .truncated else .malformed)
  else
    let rest := (passDigits rest).2
    let exponent := start - taken
    if exponentNext rest then exponentPart negative n exponent (rest.drop 1)
    else real negative n exponent rest

def number (negative : Bool) (bs : Bytes) : Read Number :=
  match bs with
  | [] => .error .truncated
  | b :: rest =>
    if !isDigit b then .error .malformed
    else if b = 0x30 ∧ digitNext rest then .error .malformed
    else
      let (n, rest) := gather 0 bs
      -- digits that sixty-four bits do not hold count only as powers of ten
      let (dropped, rest) := passDigits rest
      if rest.head? = some 0x2E then fractionPart negative n dropped (rest.drop 1)
      else if exponentNext rest then exponentPart negative n dropped (rest.drop 1)
      else if 0 < dropped then real negative n dropped rest
      else if !negative then .ok (.int n, rest)
      else if n = 0 ∨ Nat.pow 2 63 < n then real negative n 0 rest
      else .ok (.int (-n), rest)

def passExponent (bs : Bytes) : Except Fault Bytes :=
  let bs := match bs with
    | b :: rest => if b = 0x2B ∨ b = 0x2D then rest else bs
    | [] => []
  if digitNext bs then .ok (passDigits bs).2 else .error .malformed

def passNumber (bs : Bytes) : Except Fault Bytes :=
  if !digitNext bs then .error .malformed
  else if bs.head? = some 0x30 ∧ digitNext (bs.drop 1) then .error .malformed
  else
    let rest := (passDigits bs).2
    if rest.head? = some 0x2E then
      let fraction := rest.drop 1
      if !digitNext fraction then .error .malformed
      else
        let rest := (passDigits fraction).2
        if exponentNext rest then passExponent (rest.drop 1) else .ok rest
    else if exponentNext rest then passExponent (rest.drop 1)
    else .ok rest

/-! ### Items and members -/

def nextItem (first : Bool) (bs : Bytes) : Except Fault (Option Bytes × Bytes) :=
  match skipSpace bs with
  | [] => .error .truncated
  | b :: rest =>
    if b = 0x5D then .ok (none, rest)
    else if first then .ok (some (b :: rest), [])
    else if b = 0x2C then
      match skipSpace rest with
      | [] => .error .truncated
      | c :: rest => if c = 0x5D then .error .malformed else .ok (some (c :: rest), [])
    else .error .malformed

def nextKey (first : Bool) (bs : Bytes) : Except Fault (Option Bytes × Bytes) :=
  match skipSpace bs with
  | [] => .error .truncated
  | b :: rest =>
    if b = 0x7D then .ok (none, rest)
    else if first then
      if b = 0x22 then .ok (some rest, []) else .error .malformed
    else if b = 0x2C then
      match skipSpace rest with
      | [] => .error .truncated
      | c :: rest => if c = 0x22 then .ok (some rest, []) else .error .malformed
    else .error .malformed

def colon (bs : Bytes) : Except Fault Bytes :=
  match skipSpace bs with
  | [] => .error .truncated
  | b :: rest => if b = 0x3A then .ok rest else .error .malformed

def items {σ : Type} (item : σ → Bytes → Read σ) : (fuel : Nat) → Bool → σ → Bytes → Read σ
  | 0, _, _, _ => .error .truncated
  | fuel + 1, first, state, bs =>
    match nextItem first bs with
    | .error e => .error e
    | .ok (none, rest) => .ok (state, rest)
    | .ok (some start, _) =>
      match item state start with
      | .error e => .error e
      | .ok (state, rest) => items item fuel false state rest

def members {σ : Type} (member : σ → Bytes → Read σ) : (fuel : Nat) → Bool → σ → Bytes → Read σ
  | 0, _, _, _ => .error .truncated
  | fuel + 1, first, state, bs =>
    match nextKey first bs with
    | .error e => .error e
    | .ok (none, rest) => .ok (state, rest)
    | .ok (some start, _) =>
      match member state start with
      | .error e => .error e
      | .ok (state, rest) => members member fuel false state rest

end Scan
end StorageConsole.Json
