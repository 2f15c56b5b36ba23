import StorageConsole.Download.Filename
import StorageConsole.Files.Tree

/-! Saving a file: it is written under a name of its own and moved onto the final one at once. -/

namespace StorageConsole.Download

def target (dir name : String) : Files.Path :=
  Files.Path.ofText dir ++ [finalComponent name]

def partName (mark : String) : String := "." ++ mark ++ ".part"

def freeMark (t : Files.Tree) (here : Files.Path) : String :=
  let free (n : Nat) : Bool := (t.get? (here ++ [partName (toString n)])).isNone
  toString (((List.range (t.length + 1)).find? free).getD 0)

structure Save where
  name : String
  bytes : Bytes
  deriving DecidableEq, Repr

namespace Save

/-- How far a save has come. -/
inductive Stage where
  -- On the way to the directory, with these names left to follow.
  | entering (here : Files.Path) (names : List String)
  -- Writing an unfinished file, with these bytes left.
  | writing (part : Files.Path) (left : Bytes)
  -- The unfinished file is whole.
  | written (part : Files.Path)
  | ended (result : Except Files.Fault Unit)

inductive Move where
  -- The next step is taken. An unfinished file that it opens has this mark; of the bytes that it
  -- writes, no more than so many are taken at once.
  | proceed (mark : String) (most : Nat)
  | refuse (fault : Files.Fault)
  deriving DecidableEq, Repr

def begin (dir : String) : Stage :=
  let names := Files.Path.spelled dir
  if Files.Tree.hasZero names then .ended (.error .invalidInput) else .entering [] names

variable (dir : String) (s : Save) (t : Files.Tree)

def landsOn : Files.Path := target dir s.name

def openPart (here : Files.Path) (mark : String) : Files.Tree × Stage :=
  let part := here ++ [partName mark]
  match t.get? part with
  | none => (t.put part (.file [] Files.ownerOnly), .writing part s.bytes)
  | some _ => (t, .entering here [])

def land (part : Files.Path) : Files.Tree × Except Files.Fault Unit :=
  match t.rename part (s.landsOn dir) with
  | .ok t => (t, .ok ())
  | .error e => (t.erase part, .error e)

def step : Stage → Move → Files.Tree × Stage
  | .entering here (name :: more), .proceed _ _ =>
    match t.enter here name more with
    | (t, .ok path) => (t, .entering path more)
    | (t, .error e) => (t, .ended (.error e))
  | .entering here [], .proceed mark _ => s.openPart t here mark
  | .writing part [], .proceed _ _ => (t, .written part)
  | .writing part (b :: left), .proceed _ most =>
    (t.append part ((b :: left).take most), .writing part ((b :: left).drop most))
  | .written part, .proceed _ _ =>
    let (t, result) := s.land dir t part
    (t, .ended result)
  | .entering _ _, .refuse fault => (t, .ended (.error fault))
  | .writing part _, .refuse fault => (t.erase part, .ended (.error fault))
  | .written part, .refuse fault => (t.erase part, .ended (.error fault))
  | .ended result, _ => (t, .ended result)

def writeOut (part : Files.Path) : (left : Bytes) → Files.Tree × Except Files.Fault Unit
  | [] => s.land dir t part
  | b :: left => s.land dir (t.append part (b :: left)) part

def finish : Stage → Files.Tree × Except Files.Fault Unit
  | .entering here names =>
    match t.makeFrom here names with
    | (t, .error e) => (t, .error e)
    | (t, .ok here) =>
      let part := here ++ [partName (freeMark t here)]
      s.writeOut dir (t.put part (.file [] Files.ownerOnly)) part s.bytes
  | .writing part left => s.writeOut dir t part left
  | .written part => s.land dir t part
  | .ended result => (t, result)

end Save

def saveInto (t : Files.Tree) (dir name : String) (bytes : Bytes) :
    Files.Tree × Except Files.Fault Unit :=
  Save.finish dir ⟨name, bytes⟩ t (Save.begin dir)

end StorageConsole.Download
