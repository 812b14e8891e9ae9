/-!
# File trees

A tree of directories and files, and the files that paths lead to. A path is
walked one component at a time, and each component must be taken in a directory;
so a path that goes on after a file, if only with a slash, leads nowhere. Paths and
the names in them are bounded in their length.

* `FileTree.resolve`: what a path leads to;
* `FileTree.read`: the text of the file that a path leads to.
-/

namespace CloudProvider

/-- What is in a directory under some name. -/
inductive FileEntry where
  | file (bytes : List UInt8)
  | directory
  deriving DecidableEq

/-- Why a file cannot be read. -/
inductive ReadFault where
  | notFound
  | notDirectory
  | isDirectory
  | nameTooLong
  | nulInPath
  | notText
  deriving DecidableEq

namespace ReadFault

/-- The text of a fault. -/
def message : ReadFault → String
  | notFound => "No such file or directory (os error 2)"
  | notDirectory => "Not a directory (os error 20)"
  | isDirectory => "Is a directory (os error 21)"
  | nameTooLong => "File name too long (os error 36)"
  | nulInPath => "file name contained an unexpected NUL byte"
  | notText => "stream did not contain valid UTF-8"

end ReadFault

/-- Directories and files by their places, a place being the names that lead to it
    from the root. The root itself is always there. -/
structure FileTree where
  entries : List (List String × FileEntry)

namespace FileTree

/-- What is at a place. -/
def lookup? (t : FileTree) : List String → Option FileEntry
  | [] => some .directory
  | place => t.entries.lookup place

/-- The most bytes that a name in a directory has. -/
def longestName : Nat := 255

/-- The most bytes that a path has. -/
def longestPath : Nat := 4095

/-- Go on from a place by one component of a path. -/
def step (t : FileTree) (place : List String) (component : String) :
    Except ReadFault (List String) :=
  match t.lookup? place with
  | none => .error .notFound
  | some (.file _) => .error .notDirectory
  | some .directory =>
    if component = "" ∨ component = "." then .ok place
    else if component = ".." then .ok place.dropLast
    else if longestName < component.utf8ByteSize then .error .nameTooLong
    else .ok (place ++ [component])

/-- The parts of a text between slashes. -/
def splitSlashes : List Char → List (List Char)
  | [] => [[]]
  | c :: rest =>
    if c = '/' then [] :: splitSlashes rest
    else
      match splitSlashes rest with
      | [] => [[c]]
      | part :: parts => (c :: part) :: parts

/-- The components of a path. -/
def components (path : String) : List String := (splitSlashes path.toList).map String.ofList

/-- Whether a path starts at the root. -/
def isAbsolute (path : String) : Bool := path.toList.head? = some '/'

/-- A path followed by a name. -/
def join (path name : String) : String :=
  if path = "" ∨ path.toList.getLast? = some '/' then path ++ name else path ++ "/" ++ name

/-- What a path leads to, starting at a working directory. -/
def resolve (t : FileTree) (workingDirectory path : String) : Except ReadFault FileEntry := do
  if path.toList.any (·.toNat = 0) then .error .nulInPath
  else if path = "" then .error .notFound
  else if longestPath < path.utf8ByteSize then .error .nameTooLong
  else
    -- The working directory is where a path begins that does not start at the root.
    let start ← (components workingDirectory).foldlM t.step []
    let place ← (components path).foldlM t.step (if isAbsolute path then [] else start)
    match t.lookup? place with
    | some e => .ok e
    | none => .error .notFound

/-- Whether a path leads anywhere. -/
def exists? (t : FileTree) (workingDirectory path : String) : Bool :=
  (t.resolve workingDirectory path).isOk

/-- The text of the file that a path leads to. -/
def read (t : FileTree) (workingDirectory path : String) : Except ReadFault String := do
  match ← t.resolve workingDirectory path with
  | .directory => .error .isDirectory
  | .file bytes =>
    match String.fromUTF8? ⟨bytes.toArray⟩ with
    | some s => .ok s
    | none => .error .notText

end FileTree

end CloudProvider
