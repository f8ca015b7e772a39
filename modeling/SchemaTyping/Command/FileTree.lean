import SchemaTyping.Json.Pointer

/-!
# Files

What the command needs of a file system, and a file tree that provides it. A path is names between
slashes. Empty names and lone points lead nowhere and are passed over, except a point that starts a path.
The parent of a path is its text up to the last name.

A path is walked from the working directory, or from the root if it starts with a slash: every name on
the way has to be a directory, and two points lead back to the directory above. Neither a name nor a path
may be too long.
-/

namespace SchemaTyping.Command

/-! ### Paths -/

/-- The names of a path, as written between its slashes. -/
def pathParts (path : String) : List (List Char) :=
  Json.splitAt '/' path.toList

/-- Whether a part of a path leads nowhere. -/
def isIdlePart (part : List Char) : Bool :=
  part = [] ∨ part = ['.']

/-- The parts of a path without idle ones at its end. The part that starts a path counts, unless it is
empty: a point is a place, and an empty part stands for the root. -/
def trimParts : List (List Char) → List (List Char)
  | [] => []
  | first :: rest =>
    let kept := (rest.reverse.dropWhile isIdlePart).reverse
    first :: kept

/-- The text of the path to the directory that a path is in: empty if the path is one name, nothing if it
is empty or the root. -/
def parentPath? (path : String) : Option String :=
  match trimParts (pathParts path) with
  | [] | [[]] => none
  | [_] => some ""
  | parts =>
    let dirs := trimParts parts.dropLast
    some (if dirs = [[]] then "/" else String.ofList (['/'].intercalate dirs))

/-! ### File systems -/

inductive FileError where
  | notFound
  | alreadyExists
  | notADirectory
  | isADirectory
  | nameTooLong
  /-- The bytes of a text are not UTF-8. -/
  | notText
  /-- Any other failure, in the system's words. -/
  | other (text : String)
  deriving DecidableEq, Repr

def FileError.message : FileError → String
  | .notFound => "No such file or directory (os error 2)"
  | .alreadyExists => "File exists (os error 17)"
  | .notADirectory => "Not a directory (os error 20)"
  | .isADirectory => "Is a directory (os error 21)"
  | .nameTooLong => "File name too long (os error 36)"
  | .notText => "stream did not contain valid UTF-8"
  | .other text => text

structure FileSystem (m : Type → Type) where
  read : String → m (Except FileError ByteArray)
  isDirectory : String → m Bool
  /-- Makes one directory, in one that exists. -/
  makeDirectory : String → m (Except FileError Unit)
  /-- Makes bytes the whole content of a file. -/
  write : String → ByteArray → m (Except FileError Unit)

/-- Makes a directory and those it is in, as far as they are missing. `levels` bounds how many names the
path has. -/
def FileSystem.makeDirectories {m : Type → Type} [Monad m] (files : FileSystem m) :
    (levels : Nat) → String → m (Except FileError Unit)
  | 0, _ => pure (.error .notFound)
  | levels + 1, path => do
    if path = "" then return .ok ()
    match ← files.makeDirectory path with
    | .ok () => return .ok ()
    | .error .notFound =>
      match parentPath? path with
      | none => return .error .notFound
      | some parent =>
        match ← files.makeDirectories levels parent with
        | .error error => return .error error
        | .ok () =>
          match ← files.makeDirectory path with
          | .ok () => return .ok ()
          | .error error => return if ← files.isDirectory path then .ok () else .error error
    | .error error => return if ← files.isDirectory path then .ok () else .error error

/-- The most bytes that a name of a file has. -/
def nameLimit : Nat := 255

/-- The most bytes that a path has. -/
def pathLimit : Nat := 4095

inductive Entry where
  | file (content : ByteArray)
  | directory

/-- A place in a file tree: the names from the root to it. -/
abbrev Place := List String

/-- A file tree: what stands at which place, and the working directory. The root always stands. -/
structure FileTree where
  entries : List (Place × Entry)
  working : Place

namespace FileTree

def entry? (tree : FileTree) (place : Place) : Option Entry :=
  if place.isEmpty then some .directory else tree.entries.lookup place

def put (tree : FileTree) (place : Place) (entry : Entry) : FileTree :=
  { tree with entries := (place, entry) :: tree.entries.filter (·.1 ≠ place) }

def hasDirectory (tree : FileTree) (place : Place) : Bool :=
  match tree.entry? place with
  | some .directory => true
  | _ => false

/-- Goes one name on from a directory. Where it leads to need not exist. -/
def step (tree : FileTree) (place : Place) (part : List Char) : Except FileError Place :=
  match tree.entry? place with
  | none => .error .notFound
  | some (.file _) => .error .notADirectory
  | some .directory =>
    if isIdlePart part then .ok place
    else if part = ['.', '.'] then .ok place.dropLast
    else
      let name := String.ofList part
      if nameLimit < name.utf8ByteSize then .error .nameTooLong else .ok (place ++ [name])

def walk (tree : FileTree) (place : Place) : List (List Char) → Except FileError Place
  | [] => .ok place
  | part :: rest => do tree.walk (← tree.step place part) rest

/-- Where a path is walked from. -/
def start (tree : FileTree) (path : String) : Place :=
  if path.toList.head? = some '/' then [] else tree.working

/-- The place that the parts of a path lead to. Everything before it exists. -/
def locateParts (tree : FileTree) (path : String) (parts : List (List Char)) : Except FileError Place :=
  if pathLimit < path.utf8ByteSize then .error .nameTooLong else tree.walk (tree.start path) parts

/-- The place that a path leads to. If the path ends with a slash, it is a directory. -/
def locate (tree : FileTree) (path : String) : Except FileError Place :=
  tree.locateParts path (pathParts path)

/-- The place that a path names, whether or not it ends with slashes. -/
def locateNamed (tree : FileTree) (path : String) : Except FileError Place :=
  tree.locateParts path ((pathParts path).reverse.dropWhile (· = [])).reverse

def read (tree : FileTree) (path : String) : Except FileError ByteArray := do
  match tree.entry? (← tree.locate path) with
  | none => .error .notFound
  | some .directory => .error .isADirectory
  | some (.file content) => .ok content

def isDirectory (tree : FileTree) (path : String) : Bool :=
  match tree.locate path with
  | .ok place => tree.hasDirectory place
  | .error _ => false

def makeDirectory (tree : FileTree) (path : String) : Except FileError FileTree := do
  let place ← tree.locateNamed path
  if (tree.entry? place).isSome then .error .alreadyExists else .ok (tree.put place .directory)

/-- Makes bytes the whole content of the file that a path leads to. A path that ends with a slash names a
directory, even where nothing stands. -/
def write (tree : FileTree) (path : String) (content : ByteArray) : Except FileError FileTree := do
  let place ← tree.locateNamed path
  if path.toList.getLast? = some '/' ∨ tree.hasDirectory place then .error .isADirectory
  else .ok (tree.put place (.file content))

end FileTree

def treeFiles : FileSystem (StateM FileTree) where
  read path := do return (← get).read path
  isDirectory path := do return (← get).isDirectory path
  makeDirectory path := do
    match (← get).makeDirectory path with
    | .ok tree => set tree; return .ok ()
    | .error error => return .error error
  write path content := do
    match (← get).write path content with
    | .ok tree => set tree; return .ok ()
    | .error error => return .error error

end SchemaTyping.Command
