-- Changes to files from outside, as another program would make them.
import RetryTickets.Files.Disk

namespace RetryTickets.Bench

/-- A change to a file or directory. -/
inductive FileCommand where
  /-- Gives a file these bytes, and makes the directories around it. -/
  | write (path : Path) (content : Bytes)
  | append (path : Path) (content : Bytes)
  /-- Cuts a file to a length, or fills it up with zeros. -/
  | resize (path : Path) (length : Nat)
  /-- Makes a directory and those around it. -/
  | makeDirectory (path : Path)
  | remove (path : Path)
  deriving DecidableEq

/-- Bytes cut or filled up with zeros. -/
def resized (length : Nat) (content : Bytes) : Bytes :=
  content.take length ++ List.replicate (length - content.length) 0

/-- Makes a change. -/
def FileCommand.run : FileCommand → OnDisk (Except FileFault Unit)
  | .write path content => do
    match path.parent? with
    | none => FileOperations.write path content
    | some parent =>
      match ← FileOperations.makeDirectories (m := OnDisk) parent with
      | .error fault => return .error fault
      | .ok () => FileOperations.write path content
  | .append path content => FileOperations.append path content
  | .resize path length => do
    match ← FileOperations.read (m := OnDisk) path with
    | .error fault => return .error fault
    | .ok content => FileOperations.write path (resized length content)
  | .makeDirectory path => FileOperations.makeDirectories path
  | .remove path => OnDisk.change (·.removeFile path)

end RetryTickets.Bench
