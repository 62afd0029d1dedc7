-- Paths as they are written: the names between the slashes, with the empty
-- ones that double and final slashes leave.

namespace RetryTickets

/-- The names between the slashes of a path; a first name that is empty and not the only one
stands for the root. -/
structure Path where
  segments : List String
  deriving DecidableEq

namespace Path

/-- The pieces of a text between its slashes. -/
def splitSlash : List Char → List (List Char)
  | [] => [[]]
  | c :: rest =>
    if c = '/' then [] :: splitSlash rest
    else match splitSlash rest with
      | [] => [[c]]
      | piece :: pieces => (c :: piece) :: pieces

/-- The path that a text writes. -/
def ofText (text : String) : Path := ⟨(splitSlash text.toList).map String.ofList⟩

/-- A path as it is written. -/
def text (path : Path) : String := String.intercalate "/" path.segments

/-- The path without any name. -/
def empty : Path := ⟨[""]⟩

/-- Whether a path starts at the root. -/
def isAbsolute (path : Path) : Bool := path.segments.head? = some "" && path.segments ≠ [""]

/-- Whether a path ends in a slash. -/
def endsInSlash (path : Path) : Bool := path.segments.getLast? = some ""

/-- A name that leads nowhere. -/
def isIdle (name : String) : Bool := name = "" || name = "."

/-- What a path begins with when that is no name to look up: the empty segment of the root,
or the dot of the directory in which relative paths begin. -/
def front (path : Path) : List String :=
  match path.segments with
  | "" :: _ :: _ => [""]
  | "." :: _ => ["."]
  | _ => []

/-- The segments behind the front. -/
def body (path : Path) : List String := path.segments.drop path.front.length

/-- The path of a front and the segments behind it. -/
def ofParts (front body : List String) : Path :=
  match front, body with
  | [], [] => empty
  | [""], [] => ⟨["", ""]⟩
  | front, body => ⟨front ++ body⟩

/-- The path without its last name, if it has one. Idle segments at the end go away with the
name; those between the names that stay are kept as they are written. -/
def parent? (path : Path) : Option Path :=
  match path.body.reverse.dropWhile isIdle with
  | [] => if path.front = ["."] then some empty else none
  | _ :: rest => some (ofParts path.front (rest.dropWhile isIdle).reverse)

/-- A file in a directory. An empty last name, as after a final slash, gives way to the file. -/
def join (path : Path) (file : String) : Path :=
  if path.endsInSlash then ⟨path.segments.dropLast ++ [file]⟩ else ⟨path.segments ++ [file]⟩

/-- A name up to its last dot, unless that is its first character. -/
def stem (name : String) : String :=
  match (name.toList.reverse.dropWhile (· ≠ '.')) with
  | _ :: c :: rest => String.ofList (c :: rest).reverse
  | _ => name

/-- The path with the part of its last name behind the last dot changed. What follows that
name goes away; a path that ends in no name stays as it is. The old part is taken off first:
where that leaves two dots and nothing else, the path ends in no name any more. -/
def withExtension (path : Path) (extension : String) : Path :=
  match path.segments.reverse.dropWhile isIdle with
  | [] => path
  | name :: rest =>
    if name = ".." then path
    else if stem name = "." ∧ path.segments.getLast? = some name then ⟨(".." :: rest).reverse⟩
    else ⟨((stem name ++ "." ++ extension) :: rest).reverse⟩

end Path

end RetryTickets
