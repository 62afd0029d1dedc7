-- A disk in memory: a tree of named files and folders, and the folder in which
-- relative paths begin. Permissions, links and failures of the device are left out:
-- what is done fails only for its path, its names or what they stand for. What is
-- said of a write that fails is said of these failures, and of no full or broken disk.
import RetryTickets.Files.Operations

namespace RetryTickets

/-- What a name in a folder stands for. -/
inductive Node where
  | file (content : Bytes)
  | folder (entries : List (String × Node))

/-- Names with more bytes than this are refused. -/
def nameLimit : Nat := 255

/-- Paths with more bytes than this, as they are written, are refused. -/
def pathLimit : Nat := 4095

/-- The names in a folder. -/
abbrev Folder := List (String × Node)

namespace Folder

/-- What a name stands for. -/
def get? (folder : Folder) (name : String) : Option Node := folder.lookup name

/-- What a name stands for, once it is short enough to ask. -/
def look (folder : Folder) (name : String) : Except FileFault (Option Node) :=
  if nameLimit < name.utf8ByteSize then .error .nameTooLong else .ok (folder.get? name)

/-- Lets a name stand for something, in the place of what it stood for. -/
def set (name : String) (node : Node) : Folder → Folder
  | [] => [(name, node)]
  | entry :: rest => if entry.1 = name then (name, node) :: rest else entry :: set name node rest

/-- Takes a name away. -/
def remove (name : String) (folder : Folder) : Folder := folder.filter fun e => e.1 ≠ name

/-- The folder that some names lead to, one inside the other. -/
def at? : Folder → (place : List String) → Option Folder
  | folder, [] => some folder
  | folder, name :: rest =>
    match folder.get? name with
    | some (.folder inner) => at? inner rest
    | _ => none

/-- Changes the folder that some names lead to. -/
def update : Folder → (place : List String) → (change : Folder → Folder) → Folder
  | folder, [], change => change folder
  | folder, name :: rest, change =>
    match folder.get? name with
    | some (.folder inner) => folder.set name (.folder (update inner rest change))
    | _ => folder

/-- All paths below a folder, with the bytes of the files. -/
def listing (front : String) : Folder → List (String × Option Bytes)
  | [] => []
  | (name, .file content) :: rest => (front ++ name, some content) :: listing front rest
  | (name, .folder inner) :: rest =>
    let path := front ++ name ++ "/"
    (path, none) :: listing path inner ++ listing front rest

end Folder

/-- A folder on the way through a tree, with the names that led to it and the folders in which
they were found, the last one first. -/
structure Stand where
  folder : Folder
  trail : List (String × Folder)

namespace Stand

/-- The names that lead from the root to the folder. -/
def place (stand : Stand) : List String := (stand.trail.map (·.1)).reverse

/-- The folder around this one. The root is its own. -/
def out (stand : Stand) : Stand :=
  match stand.trail with
  | [] => stand
  | (_, outer) :: trail => ⟨outer, trail⟩

/-- On through one name. -/
def step (stand : Stand) (name : String) : Except FileFault Stand :=
  if Path.isIdle name then .ok stand
  else if name = ".." then .ok stand.out
  else do
    match ← stand.folder.look name with
    | some (.folder inner) => return ⟨inner, (name, stand.folder) :: stand.trail⟩
    | some (.file _) => throw .notDirectory
    | none => throw .notFound

end Stand

/-- A tree of files with a working folder in it. -/
structure Disk where
  root : Folder
  /-- The names that lead from the root to the working folder. -/
  working : List String

/-- Where a path leads: to a folder by way of dots, or to a name in a folder. -/
inductive Target where
  | folder (place : List String)
  | entry (place : List String) (name : String)
  deriving DecidableEq

namespace Disk

/-- A disk with nothing on it but an empty working folder. -/
def blank (working : String) : Disk := ⟨[(working, .folder [])], [working]⟩

/-- What the system refuses in a path before it looks at any name. -/
def accept (path : Path) : Except FileFault Unit :=
  if path.text.toList.contains (Char.ofNat 0) then .error .zeroInName
  else if path = .empty then .error .notFound
  else if pathLimit < path.text.utf8ByteSize then .error .nameTooLong
  else .ok ()

/-- What a name stands for in the folder at a place, once it is short enough to ask. -/
def look (disk : Disk) (place : List String) (name : String) : Except FileFault (Option Node) :=
  ((disk.root.at? place).getD []).look name

/-- Changes the folder at a place. -/
def update (disk : Disk) (place : List String) (change : Folder → Folder) : Disk :=
  { disk with root := disk.root.update place change }

/-- Where a path leads. All names but the last must be folders that are there. -/
def target (disk : Disk) (path : Path) : Except FileFault Target := do
  accept path
  let start := if path.isAbsolute then [] else disk.working
  match path.segments.reverse.dropWhile (· = "") with
  | [] => return .folder []
  | last :: before =>
    let stand ← (start ++ before.reverse).foldlM Stand.step ⟨disk.root, []⟩
    if last = "." then return .folder stand.place
    else if last = ".." then return .folder stand.out.place
    else return .entry stand.place last

/-- What a path leads to. A final slash asks for a folder. -/
def find (disk : Disk) (path : Path) : Except FileFault Node := do
  match ← disk.target path with
  | .folder place =>
    match disk.root.at? place with
    | some folder => return .folder folder
    | none => throw .notFound
  | .entry place name =>
    match ← disk.look place name with
    | none => throw .notFound
    | some (.file content) =>
      if path.endsInSlash then throw .notDirectory else return .file content
    | some (.folder folder) => return .folder folder

/-- Whether a path leads to something. -/
def isThere (disk : Disk) (path : Path) : Bool :=
  match disk.find path with
  | .ok _ => true
  | .error _ => false

/-- Whether a path leads to a folder. -/
def isDirectory (disk : Disk) (path : Path) : Bool :=
  match disk.find path with
  | .ok (.folder _) => true
  | _ => false

/-- The bytes of a file. -/
def read (disk : Disk) (path : Path) : Except FileFault Bytes := do
  match ← disk.find path with
  | .file content => return content
  | .folder _ => throw .isDirectory

/-- The place, the name and the bytes of the file that a path names for writing. A file that
is not there yet has no bytes. -/
def writable (disk : Disk) (path : Path) : Except FileFault (List String × String × Bytes) := do
  match ← disk.target path with
  | .folder _ => throw .isDirectory
  | .entry place name =>
    if path.endsInSlash then throw .isDirectory
    match ← disk.look place name with
    | none => return (place, name, [])
    | some (.file content) => return (place, name, content)
    | some (.folder _) => throw .isDirectory

/-- Gives a file these bytes. -/
def write (disk : Disk) (path : Path) (content : Bytes) : Except FileFault Disk := do
  let (place, name, _) ← disk.writable path
  return disk.update place (·.set name (.file content))

/-- Puts bytes behind those of a file. -/
def append (disk : Disk) (path : Path) (content : Bytes) : Except FileFault Disk := do
  let (place, name, before) ← disk.writable path
  return disk.update place (·.set name (.file (before ++ content)))

/-- Makes a folder. -/
def makeDirectory (disk : Disk) (path : Path) : Except FileFault Disk := do
  match ← disk.target path with
  | .folder _ => throw .occupied
  | .entry place name =>
    match ← disk.look place name with
    | some _ => throw .occupied
    | none => return disk.update place (·.set name (.folder []))

/-- Gives a file another path. -/
def rename (disk : Disk) (source destination : Path) : Except FileFault Disk := do
  accept source
  accept destination
  match ← disk.target source, ← disk.target destination with
  | .entry place name, .entry newPlace newName =>
    match ← disk.look place name, ← disk.look newPlace newName with
    | none, _ => throw .notFound
    | some (.folder _), _ => throw .isDirectory
    | some (.file content), there =>
      if source.endsInSlash || destination.endsInSlash then throw .notDirectory
      match there with
      | some (.folder _) => throw .isDirectory
      | _ =>
        return (disk.update place (·.remove name)).update newPlace (·.set newName (.file content))
  | _, _ => throw .busy

/-- Takes a file away. -/
def removeFile (disk : Disk) (path : Path) : Except FileFault Disk := do
  let _ ← disk.read path
  let (place, name, _) ← disk.writable path
  return disk.update place (·.remove name)

/-- All paths below the working folder, with the bytes of the files. -/
def files (disk : Disk) : List (String × Option Bytes) :=
  match disk.root.at? disk.working with
  | some folder => folder.listing ""
  | none => []

end Disk

/-- Programs on a disk in memory. -/
abbrev OnDisk := StateM Disk

namespace OnDisk

/-- Goes on with the disk that a change gives, or with the old one if it fails. -/
def change (operation : Disk → Except FileFault Disk) : OnDisk (Except FileFault Unit) :=
  fun disk =>
    match operation disk with
    | .ok changed => (.ok (), changed)
    | .error fault => (.error fault, disk)

instance : FileOperations OnDisk where
  isThere path := fun disk => (disk.isThere path, disk)
  isDirectory path := fun disk => (disk.isDirectory path, disk)
  read path := fun disk => (disk.read path, disk)
  write path content := change (·.write path content)
  append path content := change (·.append path content)
  makeDirectory path := change (·.makeDirectory path)
  rename source destination := change (·.rename source destination)
  touch path := fun disk => ((disk.find path).map fun _ => (), disk)

end OnDisk

end RetryTickets
