import StorageConsole.Fault
import StorageConsole.Config.Variables
import StorageConsole.Files.Tree
import StorageConsole.Preferences.Record

/-! Preferences in a file that only its owner may read. Opening empties it before anything is
written. -/

namespace StorageConsole.Preferences

def defaultPath (vars : Variables) (accountHome : Option String) : Option String :=
  let home := ((vars.get? "HOME").filter (· != "")).or accountHome
  let configured := (vars.get? "XDG_CONFIG_HOME").filter (·.toList.head? == some '/')
  (configured.or (home.map (Files.joinText · ".config"))).map fun dir =>
    Files.joinText (Files.joinText dir "dedups3-console") "preferences.json"

def load (t : Files.Tree) (path : Files.Path) : Except Fault Preferences :=
  match t.readFile path with
  | .ok bytes =>
    match decode bytes with
    | .ok p => .ok p
    | .error e => .error (.serialization e)
  | .error .notFound => .ok {}
  | .error e => .error (.files e)

inductive Step where
  | makeDirectories
  | openFile
  | setMode
  -- Writing, of which so many bytes reached the file.
  | write (written : Nat)
  | sync
  deriving DecidableEq, Repr

structure Interruption where
  step : Step
  reason : Files.Fault
  deriving DecidableEq, Repr

def parentNames (path : Files.Path) : List String := (path.filter (· != ".")).dropLast

def saveUnless (interruption : Option Interruption) (t : Files.Tree) (path : Files.Path)
    (p : Preferences) : Files.Tree × Except Fault Unit :=
  let refused (step : Step) : Option Fault :=
    (interruption.filter (·.step = step)).map (.files ·.reason)
  match refused .makeDirectories with
  | some e => (t, .error e)
  | none =>
    match t.makeDirectory (parentNames path) with
    | (t, .error e) => (t, .error (.files e))
    | (t, .ok ()) =>
      match refused .openFile with
      | some e => (t, .error e)
      | none =>
        match t.openFile path Files.ownerOnly with
        | .error e => (t, .error (.files e))
        | .ok (file, t) =>
          match refused .setMode with
          | some e => (t, .error e)
          | none =>
            let t := t.setMode file Files.ownerOnly
            match interruption with
            | some ⟨.write written, reason⟩ =>
              (t.append file (p.encode.take written), .error (.files reason))
            | _ =>
              let t := t.append file p.encode
              match refused .sync with
              | some e => (t, .error e)
              | none => (t, .ok ())

def save (t : Files.Tree) (path : Files.Path) (p : Preferences) :
    Files.Tree × Except Fault Unit :=
  saveUnless none t path p

end StorageConsole.Preferences
