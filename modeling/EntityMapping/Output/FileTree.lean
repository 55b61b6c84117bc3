import EntityMapping.Output.Path

/-! # File trees

Directories and files by their place below the root, and the operations that read and write them.
A path is walked name by name, and each directory on the way has to be there. What a program needs
of these operations is a file system, for which a tree can stand in.
-/

namespace EntityMapping.Output

inductive Entry where
  | directory
  | file (content : ByteArray)

inductive FileFault where
  | notFound
  | alreadyExists
  | notDirectory
  | isDirectory
  | nameTooLong
  | zeroInName
  | notText
  deriving DecidableEq, Repr

namespace FileFault

def message : FileFault → String
  | notFound => "No such file or directory (os error 2)"
  | alreadyExists => "File exists (os error 17)"
  | notDirectory => "Not a directory (os error 20)"
  | isDirectory => "Is a directory (os error 21)"
  | nameTooLong => "File name too long (os error 36)"
  | zeroInName => "file name contained an unexpected NUL byte"
  | notText => "stream did not contain valid UTF-8"

end FileFault

/-- The names that lead from the root to an entry. -/
abbrev Place := List String

/-- The entries below the root, and the place of the working directory. The last entry for a place
counts. -/
structure FileTree where
  entries : List (Place × Entry) := []
  current : Place := []

namespace FileTree

variable (t : FileTree)

def entry? (place : Place) : Option Entry :=
  if place.isEmpty then some .directory else t.entries.lookup place

def put (place : Place) (entry : Entry) : FileTree :=
  { t with entries := (place, entry) :: t.entries.filter (·.1 != place) }

def nameLimit : Nat := 255

def pathLimit : Nat := 4095

def enter (place : Place) : Except FileFault Unit :=
  match t.entry? place with
  | none => .error .notFound
  | some (.file _) => .error .notDirectory
  | some .directory => .ok ()

/-- The place that names lead to from another place. -/
def walk : Place → List String → Except FileFault Place
  | place, [] => .ok place
  | place, name :: rest => do
    t.enter place
    if name = "." then walk place rest
    else if name = ".." then walk place.dropLast rest
    else if nameLimit < name.utf8ByteSize then throw .nameTooLong
    else if (t.entry? (place ++ [name])).isSome then walk (place ++ [name]) rest
    else throw .notFound

def start (p : Path) : Place := if p.absolute then [] else t.current

def resolve (p : Path) : Except FileFault Place := do
  let place ← t.walk (t.start p) p.names
  if p.asDirectory then t.enter place
  return place

def isDirectory (p : Path) : Bool :=
  match t.resolve p with
  | .ok place => (t.enter place).isOk
  | .error _ => false

/-- The path that a text writes, if the system takes it. -/
def path (s : String) : Except FileFault Path :=
  if s.toList.contains '\x00' then .error .zeroInName
  else if pathLimit < s.utf8ByteSize then .error .nameTooLong
  else if s.isEmpty then .error .notFound
  else .ok (Path.parse s)

def readText (s : String) : Except FileFault String := do
  let place ← t.resolve (← path s)
  match t.entry? place with
  | none => throw .notFound
  | some .directory => throw .isDirectory
  | some (.file content) =>
    match String.fromUTF8? content with
    | none => throw .notText
    | some text => return text

/-- The place for a new entry: the directory has to be there, and the name has to be a proper
one. -/
def placeFor? (p : Path) : Except FileFault (Option Place) := do
  let directory ← t.walk (t.start p) p.names.dropLast
  t.enter directory
  match p.names.getLast? with
  | none => return none
  | some name =>
    if name = "." || name = ".." then return none
    else if nameLimit < name.utf8ByteSize then throw .nameTooLong
    else return some (directory ++ [name])

def writeText (s text : String) : Except FileFault FileTree := do
  let p ← path s
  match ← t.placeFor? p with
  | none => throw .isDirectory
  | some place =>
    match t.entry? place with
    | some .directory => throw .isDirectory
    | some (.file _) => if p.asDirectory then throw .notDirectory
    | none => if p.asDirectory then throw .isDirectory
    return t.put place (.file text.toUTF8)

def createDirectory (p : Path) : Except FileFault FileTree := do
  match ← t.placeFor? p with
  | none => throw .alreadyExists
  | some place =>
    if (t.entry? place).isSome then throw .alreadyExists
    return t.put place .directory

/-- A fault in making a directory, which is none if the directory is there. -/
def excuse (p : Path) (fault : FileFault) : Except FileFault FileTree :=
  if t.isDirectory p then .ok t else .error fault

/-- Make the first of the directories, after those above it where they are missing. -/
def createFirst : List Path → Except FileFault FileTree
  | [] => .ok t
  | p :: outer =>
    match t.createDirectory p with
    | .ok created => .ok created
    | .error .notFound => do
      let above ← createFirst outer
      match above.createDirectory p with
      | .ok created => .ok created
      | .error fault => above.excuse p fault
    | .error fault => t.excuse p fault

def createDirectories (s : String) : Except FileFault FileTree := do
  let p ← path s
  t.createFirst (p :: p.ancestors)

end FileTree

/-- The operations on files that a program is made of, each of which may end with a fault. -/
structure FileSystem (m : Type → Type) where
  readText (path : String) : ExceptT FileFault m String
  createDirectories (path : String) : ExceptT FileFault m Unit
  writeText (path text : String) : ExceptT FileFault m Unit

namespace FileTree

/-- A change to the tree, which stays as it was if the change fails. -/
def update (change : FileTree → Except FileFault FileTree) :
    ExceptT FileFault (StateM FileTree) Unit :=
  fun t =>
    match change t with
    | .ok after => (.ok (), after)
    | .error fault => (.error fault, t)

def fileSystem : FileSystem (StateM FileTree) where
  readText path := fun t => (t.readText path, t)
  createDirectories path := update (·.createDirectories path)
  writeText path text := update (·.writeText path text)

end FileTree

end EntityMapping.Output
