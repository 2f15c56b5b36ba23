import StorageConsole.Download.Sink
import StorageConsole.Event
import StorageConsole.Http.Failure

/-! What an operation does, as a tree of single actions that goes on as each of them is answered. -/

namespace StorageConsole

structure Sighting where
  observer : String
  method : String
  path : String
  failure : Http.Failure
  page : String
  deriving DecidableEq, Repr

inductive Script (α : Type) : Type where
  | done (result : α)
  | send (request : Http.Request) (next : Http.Reply → Script α)
  | readPage (next : String → Script α)
  -- Reads a clock that counts nanoseconds.
  | readClock (next : Nat → Script α)
  | visit (path : String) (next : Script α)
  | navigate (path : String) (next : Script α)
  | log (event : Event) (next : Script α)
  | note (sighting : Sighting) (next : Script α)
  | save (name : String) (blob : Download.Blob) (next : Except Files.Fault Unit → Script α)

namespace Script

variable {α β : Type}

def bind : Script α → (α → Script β) → Script β
  | done a, f => f a
  | send r next, f => send r fun reply => (next reply).bind f
  | readPage next, f => readPage fun page => (next page).bind f
  | readClock next, f => readClock fun reading => (next reading).bind f
  | visit path next, f => visit path (next.bind f)
  | navigate path next, f => navigate path (next.bind f)
  | log event next, f => log event (next.bind f)
  | note sighting next, f => note sighting (next.bind f)
  | save name blob next, f => save name blob fun result => (next result).bind f

instance : Monad Script where
  pure := done
  bind := bind

def sends (request : Http.Request) : Script Http.Reply := send request done

def pageShown : Script String := readPage done

def clockShown : Script Nat := readClock done

def visits (path : String) : Script Unit := visit path (done ())

def navigates (path : String) : Script Unit := navigate path (done ())

def logs (event : Event) : Script Unit := log event (done ())

def notes (sighting : Sighting) : Script Unit := note sighting (done ())

def saves (name : String) (blob : Download.Blob) : Script (Except Files.Fault Unit) :=
  save name blob done

def timed (s : Script α) : Script (α × Nat) := do
  let start ← clockShown
  let a ← s
  let now ← clockShown
  return (a, (now - start) / 1000000)

def sequence : List (Script Unit) → Script Unit
  | [] => done ()
  | s :: rest => s.bind fun _ => sequence rest

end Script
end StorageConsole
