import StorageConsole.Download.Saving

namespace StorageConsole.Download

structure Blob where
  bytes : Bytes
  contentType : String
  deriving DecidableEq, Repr

def pathFor (dir name : String) : String :=
  Files.joinText dir (finalComponent name)

inductive Sink where
  -- Every file that was saved, oldest first.
  | memory (files : List (String × Blob))
  | directory (dir : String) (tree : Files.Tree)
  | failing (fault : Files.Fault)
  deriving Repr

namespace Sink

def save (sink : Sink) (name : String) (blob : Blob) : Sink × Except Files.Fault Unit :=
  match sink with
  | memory files => (memory (files ++ [(name, blob)]), .ok ())
  | directory dir tree =>
    let (tree, result) := saveInto tree dir name blob.bytes
    (directory dir tree, result)
  | failing fault => (sink, .error fault)

def files : Sink → List (String × Blob)
  | memory files => files
  | _ => []

def get? (sink : Sink) (name : String) : Option Blob :=
  (sink.files.reverse.find? (·.1 == name)).map (·.2)

end Sink
end StorageConsole.Download
