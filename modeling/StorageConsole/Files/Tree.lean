import StorageConsole.Files.Fault
import StorageConsole.Text.Pieces
import StorageConsole.Text.Utf8

/-! A tree of files without links. What is refused changes nothing, but directories made on the way
stay. -/

namespace StorageConsole.Files

abbrev Path := List String

namespace Path

def spelled (s : String) : List String :=
  (Text.piecesOf (· == '/') s).filter (· != "")

def follow (here : Path) (name : String) : Path :=
  if name = "." then here else if name = ".." then here.dropLast else here ++ [name]

def ofText (s : String) : Path := (spelled s).foldl follow []

end Path

def Path.text (path : Path) : String := String.intercalate "/" path

def joinText (dir name : String) : String :=
  if dir = "" ∨ dir.toList.getLast? = some '/' then dir ++ name else dir ++ "/" ++ name

inductive Entry where
  | file (content : Bytes) (mode : Nat)
  | directory
  deriving DecidableEq, Repr

def ownerOnly : Nat := 0o600

def shared : Nat := 0o644

abbrev Tree := List (Path × Entry)

namespace Tree

def get? (t : Tree) (path : Path) : Option Entry :=
  if path = [] then some .directory else (t.find? (·.1 == path)).map (·.2)

def content? (t : Tree) (path : Path) : Option Bytes :=
  match t.get? path with
  | some (.file content _) => some content
  | _ => none

def mode? (t : Tree) (path : Path) : Option Nat :=
  match t.get? path with
  | some (.file _ mode) => some mode
  | _ => none

def erase (t : Tree) (path : Path) : Tree := t.filter (·.1 != path)

def put (t : Tree) (path : Path) (entry : Entry) : Tree := t.erase path ++ [(path, entry)]

def maxName : Nat := 255

def isTooLong (name : String) : Bool := maxName < (Text.Utf8.encode name).length

def hasZero (path : Path) : Bool := path.any (·.toList.contains '\x00')

def walk (t : Tree) : (here : Path) → (names : List String) → Except Fault Entry
  | here, [] =>
    match t.get? here with
    | some entry => .ok entry
    | none => .error .notFound
  | here, name :: more =>
    match t.get? here with
    | none => .error .notFound
    | some (.file _ _) => .error .notADirectory
    | some .directory =>
      if isTooLong name then .error .invalidFilename else walk t (here ++ [name]) more

def lookup (t : Tree) (path : Path) : Except Fault Entry :=
  if hasZero path then .error .invalidInput else t.walk [] path

def read (t : Tree) (path : Path) : Except Fault Bytes :=
  match t.lookup path with
  | .ok (.file content _) => .ok content
  | .ok .directory => .error .isADirectory
  | .error e => .error e

def enter (t : Tree) (here : Path) (name : String) (more : List String) :
    Tree × Except Fault Path :=
  let path := here.follow name
  if isTooLong name then (t, .error .invalidFilename)
  else match t.get? path with
    | some .directory => (t, .ok path)
    | some (.file _ _) => (t, .error (if more.isEmpty then .alreadyExists else .notADirectory))
    | none =>
      if !more.isEmpty && more.all (· == ".") then (t, .error .notFound)
      else (t.put path .directory, .ok path)

def makeFrom (t : Tree) : (here : Path) → (names : List String) → Tree × Except Fault Path
  | here, [] => (t, .ok here)
  | here, name :: more =>
    match t.enter here name more with
    | (t, .error e) => (t, .error e)
    | (t, .ok path) => makeFrom t path more

def makeDirectory (t : Tree) (path : Path) : Tree × Except Fault Unit :=
  if hasZero path then (t, .error .invalidInput)
  else
    let (t, result) := t.makeFrom [] path
    (t, result.map fun _ => ())

def locate (t : Tree) : (here : Path) → (names : List String) → Except Fault Path
  | here, [] => .ok here
  | here, name :: more =>
    match t.get? here with
    | none => .error .notFound
    | some (.file _ _) => .error .notADirectory
    | some .directory =>
      if isTooLong name then .error .invalidFilename else locate t (here.follow name) more

def find (t : Tree) (names : List String) : Except Fault Path :=
  if hasZero names then .error .invalidInput else t.locate [] names

def readFile (t : Tree) (names : List String) : Except Fault Bytes :=
  match t.find names with
  | .error e => .error e
  | .ok path =>
    match t.get? path with
    | some (.file content _) => .ok content
    | some .directory => .error .isADirectory
    | none => .error .notFound

def openFile (t : Tree) (names : List String) (mode : Nat) : Except Fault (Path × Tree) :=
  match t.find names with
  | .error e => .error e
  | .ok path =>
    match t.get? path with
    | some (.file _ old) => .ok (path, t.put path (.file [] old))
    | some .directory => .error .isADirectory
    | none => .ok (path, t.put path (.file [] mode))

def setMode (t : Tree) (path : Path) (mode : Nat) : Tree :=
  match t.get? path with
  | some (.file content _) => t.put path (.file content mode)
  | _ => t

def append (t : Tree) (path : Path) (bytes : Bytes) : Tree :=
  match t.get? path with
  | some (.file content mode) => t.put path (.file (content ++ bytes) mode)
  | _ => t

def rename (t : Tree) (source target : Path) : Except Fault Tree :=
  match t.get? source with
  | some (.file content mode) =>
    match t.lookup target with
    | .ok .directory => .error .isADirectory
    | .ok (.file _ _) => .ok ((t.erase source).put target (.file content mode))
    | .error .notFound =>
      match t.lookup target.dropLast with
      | .ok .directory => .ok ((t.erase source).put target (.file content mode))
      | .ok (.file _ _) => .error .notADirectory
      | .error e => .error e
    | .error e => .error e
  | _ => .error .notFound

def below (t : Tree) (path : Path) : List (String × Option Bytes) :=
  let entries := t.filterMap fun (p, entry) =>
    if path.isPrefixOf p && path.length < p.length then
      some (Path.text (p.drop path.length),
        match entry with
        | .file content _ => some content
        | .directory => none)
    else none
  entries.mergeSort fun a b => decide (a.1 ≤ b.1)

end Tree
end StorageConsole.Files
