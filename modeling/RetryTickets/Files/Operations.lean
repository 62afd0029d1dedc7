-- The file operations that storage needs. Each tells a fault as a value, so
-- that the same storage runs on any system that offers them.
import RetryTickets.Bytes
import RetryTickets.Files.Fault
import RetryTickets.Files.Path

namespace RetryTickets

/-- A system with files. -/
class FileOperations (m : Type → Type) where
  /-- Whether a path leads to something. -/
  isThere : Path → m Bool
  /-- Whether a path leads to a directory. -/
  isDirectory : Path → m Bool
  /-- The bytes of a file. -/
  read : Path → m (Except FileFault Bytes)
  /-- Gives a file these bytes; makes it if it is not there. -/
  write : Path → Bytes → m (Except FileFault Unit)
  /-- Puts bytes behind those of a file; makes it if it is not there. -/
  append : Path → Bytes → m (Except FileFault Unit)
  /-- Makes a directory in one that is there. -/
  makeDirectory : Path → m (Except FileFault Unit)
  /-- Gives a file another path, in the place of the file that was there. -/
  rename : Path → Path → m (Except FileFault Unit)
  /-- Opens what a path leads to and lets it be. -/
  touch : Path → m (Except FileFault Unit)

namespace FileOperations

variable {m : Type → Type} [Monad m] [FileOperations m]

/-- A directory that could not be made is as good as made if it is there. -/
def settle (path : Path) : Except FileFault Unit → m (Except FileFault Unit)
  | .ok () => return .ok ()
  | .error fault => do
    if ← isDirectory path then return .ok () else return .error fault

/-- Makes a directory. If the one around it is missing, that is made before it. -/
def makeWithin (path : Path) (makeOuter : Unit → m (Except FileFault Unit)) :
    m (Except FileFault Unit) := do
  match ← makeDirectory path with
  | .error .notFound =>
    match ← makeOuter () with
    | .error fault => return .error fault
    | .ok () => settle path (← makeDirectory path)
  | made => settle path made

/-- Makes the directory that some segments behind a front name, the last one first, and those
around it that are missing. Without any segment and front there is nothing to make. -/
def makeOutward (front : List String) : List String → m (Except FileFault Unit)
  | [] =>
    if front = [] then return .ok ()
    else makeWithin (.ofParts front []) fun _ => return .ok ()
  | name :: rest =>
    if Path.isIdle name then makeOutward front rest
    else makeWithin (.ofParts front (name :: rest).reverse) fun _ => makeOutward front rest

/-- Makes a directory and those around it that are missing. The path without any name needs no
making. -/
def makeDirectories (path : Path) : m (Except FileFault Unit) :=
  if path = .empty then return .ok ()
  else
    makeWithin path fun _ =>
      makeOutward path.front (path.body.reverse.dropWhile Path.isIdle).tail

end FileOperations

end RetryTickets
