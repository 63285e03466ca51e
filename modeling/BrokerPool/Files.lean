import BrokerPool.Text.Utf8

/-!
# A file system

The files, directories and links of a system, each at its path of names from the root, a working
directory, and how a path leads to one of them. Directories that lie on the way to something exist.
A path begins at the root or at the working directory, and links on the way are followed. A file may
exist and still not be handed over, and a directory may not be entered; the reason is the system's.
-/

namespace BrokerPool

/-- Why a file cannot be read. -/
inductive FileError
  | notFound
  | denied
  | isDirectory
  | notDirectory
  | nameTooLong
  | tooManyLinks
  | zeroInName
  | notText
  /-- Any other reason that a system gives. -/
  | other (message : String)
deriving DecidableEq, Repr

def FileError.message : FileError → String
  | .notFound => "No such file or directory (os error 2)"
  | .denied => "Permission denied (os error 13)"
  | .isDirectory => "Is a directory (os error 21)"
  | .notDirectory => "Not a directory (os error 20)"
  | .nameTooLong => "File name too long (os error 36)"
  | .tooManyLinks => "Too many levels of symbolic links (os error 40)"
  | .zeroInName => "file name contained an unexpected NUL byte"
  | .notText => "stream did not contain valid UTF-8"
  | .other message => message

/-- What stands at a path. -/
inductive FileNode
  | file (bytes : List UInt8)
  /-- A file that the system does not hand over. -/
  | unreadable (reason : FileError)
  | directory
  /-- A directory that may not be entered. -/
  | closed
  /-- A link to another path. -/
  | link (target : String)
deriving DecidableEq, Repr

namespace FileNode

/-- Whether it is a file, even if it cannot be read. -/
def isFile : FileNode → Bool
  | .file _ | .unreadable _ => true
  | _ => false

/-- The bytes of a file. -/
def read : FileNode → Except FileError (List UInt8)
  | .file bytes => .ok bytes
  | .unreadable reason => .error reason
  | .directory => .error .isDirectory
  | .closed => .error .denied
  | .link _ => .error .tooManyLinks

end FileNode

/-- All that stands in a file system, and the working directory. -/
structure Files where
  nodes : List (List String × FileNode) := []
  /-- The names on the way from the root to the working directory. -/
  here : List String := []
deriving Repr

namespace Files

/-! ## Paths -/

/-- The names of a path. Empty ones lead nowhere, but what stands before a last slash has to be a
    directory, as if a point followed. -/
def names (path : String) : List String :=
  ((path.toList.splitOn '/').filter (· ≠ [])).map String.ofList ++
    if path.toList.getLast? = some '/' then ["."] else []

/-- The directory at which a path begins that is read in another one. -/
def start (directory : List String) (path : String) : List String :=
  if path.toList.head? = some '/' then [] else directory

/-- Where a path leads in a directory if there are no links. -/
def place (directory : List String) (path : String) : List String :=
  (names path).foldl
    (fun path name =>
      if name = "." then path else if name = ".." then path.dropLast else path ++ [name])
    (start directory path)

/-- The files at some paths as they are read in a working directory. -/
def ofList (entries : List (String × FileNode)) (here : List String := ["working directory"]) :
    Files where
  nodes := entries.map fun (path, node) => (place here path, node)
  here := here

/-! ## Walks -/

/-- What stands at a path of names. A directory is there when something stands below it, and when it
    is the working directory. -/
def node? (files : Files) (path : List String) : Option FileNode :=
  match files.nodes.lookup path with
  | some node => some node
  | none =>
    if path.isPrefixOf files.here || files.nodes.any fun (p, _) => path.isPrefixOf p then
      some .directory
    else none

/-- How far a walk along names gets. -/
inductive Walk
  | arrived (path : List String)
  /-- To a link in a directory, with names that are still to come. -/
  | linked (directory : List String) (target : String) (rest : List String)

/-- The longest name, in bytes. -/
def nameLimit : Nat := 255

/-- The length from which on a path is too long, in bytes. -/
def pathLimit : Nat := 4096

/-- The number of links that are followed for one path. -/
def linkLimit : Nat := 40

/-- A walk from a directory to the first link, or to the end. -/
def walk (files : Files) (path : List String) : List String → Except FileError Walk
  | [] => .ok (.arrived path)
  | name :: rest =>
    match files.node? path with
    | some .directory =>
      if name = "." then files.walk path rest
      else if name = ".." then files.walk path.dropLast rest
      else if nameLimit < name.utf8ByteSize then .error .nameTooLong
      else
        match files.node? (path ++ [name]) with
        | some (.link target) => .ok (.linked path target rest)
        | some _ => files.walk (path ++ [name]) rest
        | none => .error .notFound
    | some .closed => .error .denied
    | some _ => .error .notDirectory
    | none => .error .notFound

/-- The end of a walk on which a number of links may be followed. -/
def follow (files : Files) : Nat → List String → List String → Except FileError (List String)
  | 0, path, names => do
    match ← files.walk path names with
    | .arrived path => return path
    | .linked .. => throw .tooManyLinks
  | links + 1, path, names => do
    match ← files.walk path names with
    | .arrived path => return path
    | .linked directory target rest =>
      files.follow links (start directory target) (Files.names target ++ rest)

/-- What names lead to from a directory. -/
def find (files : Files) (directory names : List String) : Except FileError FileNode := do
  match files.node? (← files.follow linkLimit directory names) with
  | some node => return node
  | none => throw .notFound

/-! ## Reading -/

/-- The bytes of the file that a path leads to. -/
def read (files : Files) (path : String) : Except FileError (List UInt8) := do
  if path.toList.contains '\x00' then throw .zeroInName
  if path = "" then throw .notFound
  if pathLimit ≤ path.utf8ByteSize then throw .nameTooLong
  let node ← files.find (start files.here path) (names path)
  node.read

/-- The text of the file that a path leads to. -/
def readText (files : Files) (path : String) : Except FileError String := do
  match Text.Utf8.decode? (← files.read path) with
  | some text => return text
  | none => throw .notText

/-- What comes of reading the file with a name in the working directory, if there is one. -/
def file? (files : Files) (name : String) : Option (Except FileError (List UInt8)) :=
  match files.find files.here [name] with
  | .ok node => if node.isFile then some node.read else none
  | .error _ => none

end Files

end BrokerPool
