import StorageConsole.Text.Composed
import StorageConsole.Text.Pieces
import StorageConsole.Url.DomainCharacter
import StorageConsole.Url.DomainMapping
import StorageConsole.Url.Joining
import StorageConsole.Url.Punycode

/-! International domain names in ASCII. -/

namespace StorageConsole.Url.Domain

def maxCode : Nat := 2000

def viramaClass : Nat := 9

def joins (side : Joining) (cs : List Char) : Bool :=
  match (cs.map Joining.ofChar).find? (· != .transparent) with
  | some j => j == side || j == .dual
  | none => false

def joinersFit : (before : List Char) → List Char → Bool
  | _, [] => true
  | before, c :: rest =>
    let silenced := before.head?.any fun b => Text.combiningClass b.toNat == viramaClass
    let fits :=
      if c = '\u200C' then silenced || (joins .left before && joins .right rest)
      else if c = '\u200D' then silenced
      else true
    fits && joinersFit (c :: before) rest

def isLabel (cs : List Char) : Bool :=
  cs.all isDomainCharacter && Text.Composed.isComposed cs
    && !cs.head?.any (fun c => (Direction.ofChar c).isMark) && joinersFit [] cs

def spelled? (label : List Char) : Option (List Char) :=
  match label with
  | 'x' :: 'n' :: '-' :: '-' :: code =>
    if code.isEmpty || code.getLast? == some '-' || maxCode < code.length then none
    else (Punycode.decode? code).filter isLabel
  | _ => some label

/-- Whether a label reads in one direction: its first character tells which one, its last one, marks
apart, has to agree, and it does not mix two kinds of digits from right to left. -/
def readsOneWay (label : List Char) : Bool :=
  match label.map Direction.ofChar with
  | [] => true
  | first :: rest =>
    match (rest.reverse.dropWhile (· == .mark)) with
    | [] => (first matches .left | .leftMark | .right)
    | last :: middle =>
      match first with
      | .left | .leftMark =>
        (last matches .left | .leftMark | .europeanNumber)
          && middle.all (fun d => d != .right && d != .arabicNumber)
      | .right =>
        (last == .right || last.isNumber)
          && middle.all (fun d => d != .left && d != .leftMark)
          && !((last :: middle).contains .arabicNumber
            && (last :: middle).contains .europeanNumber)
      | _ => false

def isLeftward (label : List Char) : Bool :=
  label.any fun c => Direction.ofChar c matches .right | .arabicNumber

def maxLabel : Nat := 1000

def isAscii (c : Char) : Bool := c.toNat < 128

def label? (label : List Char) : Option (List Char × List Char) :=
  if label.all isAscii then (spelled? label).map (label, ·)
  else if "xn--".toList.isPrefixOf label || !isLabel label || maxLabel < label.length then none
  else some ("xn--".toList ++ Punycode.encode label, label)

def mapped (cs : List Char) : List Char :=
  if cs.all isAscii then cs.map Char.toLower
  else (Text.Composed.compose ((cs.flatMap domainMapping).map Char.toNat)).map Char.ofNat

def toAscii? (cs : List Char) : Option (List Char) :=
  match (Text.pieces (· == '.') (mapped cs)).mapM label? with
  | none => none
  | some labels =>
    if !labels.any (isLeftward ·.2) || labels.all (readsOneWay ·.2) then
      some (Text.join '.' (labels.map (·.1)))
    else none

end StorageConsole.Url.Domain
