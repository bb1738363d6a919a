import AcceleratorTrace.Database
import AcceleratorTrace.FileSet

/-!
# Files

A tree of directories and files with a working directory in it.  Paths lead
through the tree from the top or from the working directory, name by name.
-/

namespace AcceleratorTrace

/-- Why a file operation fails. -/
inductive FileFault where
  | notFound
  | alreadyExists
  | notDirectory
  | isDirectory
  | nameTooLong
  | nulInName
  /-- Any other error of the system, in its words. -/
  | system (text : String)
  deriving DecidableEq, Repr

def FileFault.message : FileFault → String
  | .notFound => "No such file or directory (os error 2)"
  | .alreadyExists => "File exists (os error 17)"
  | .notDirectory => "Not a directory (os error 20)"
  | .isDirectory => "Is a directory (os error 21)"
  | .nameTooLong => "File name too long (os error 36)"
  | .nulInName => "file name contained an unexpected NUL byte"
  | .system text => text

/-- A place in the tree: the names from the top down. -/
abbrev Location := List FileName

namespace FileName

/-- The greatest length of a name. -/
def lengthLimit : Nat := 255

def isTooLong (name : FileName) : Bool := lengthLimit < name.length

end FileName

/-- What stands at a place. -/
inductive FileNode where
  | file (content : List UInt8)
  /-- A regular file that cannot be read. -/
  | unreadable (fault : FileFault)
  | database (database : Database)
  /-- What is committed to a database and not yet in it. -/
  | log (committed : Database)
  | directory
  /-- A link or anything else that is not a regular file. -/
  | other
  deriving DecidableEq, Repr

/-- How someone has a database open. -/
inductive Hold where
  /-- With the write lock of the file. -/
  | reserved
  /-- With the log, to which something may be committed since it was opened. -/
  | reader (committed : Bool)
  /-- With the log and its write lock. -/
  | writer
  deriving DecidableEq, Repr

/-- Directories and files.  Every node stands in a directory, and no place has
two nodes. -/
structure FileTree where
  /-- Where relative paths start. -/
  workingDirectory : Location := []
  nodes : List (Location × FileNode) := []
  /-- Who has a database open; a file that is written over stays open. -/
  holds : List (Location × Hold) := []
  deriving DecidableEq, Repr

namespace FileTree

/-- What stands at a place; the top is a directory. -/
def node? (tree : FileTree) (location : Location) : Option FileNode :=
  if location.isEmpty then some .directory
  else (tree.nodes.find? fun entry => entry.1 == location).map Prod.snd

/-- Puts a node at a place. -/
def put (tree : FileTree) (location : Location) (node : FileNode) : FileTree :=
  if tree.nodes.any fun entry => entry.1 == location then
    { tree with
      nodes := tree.nodes.map fun entry => if entry.1 == location then (location, node) else entry }
  else { tree with nodes := tree.nodes ++ [(location, node)] }

/-- Removes a place and everything below it. -/
def erase (tree : FileTree) (location : Location) : FileTree :=
  { tree with
    nodes := tree.nodes.filter fun entry => !location.isPrefixOf entry.1
    holds := tree.holds.filter fun entry => !location.isPrefixOf entry.1 }

/-- The greatest length of a path in bytes. -/
def pathLimit : Nat := 4095

/-- Refuses what cannot be a path. -/
def checkPath (path : FilePath) : Except FileFault Unit :=
  if path.bytes.contains 0 then .error .nulInName
  else if path.bytes.isEmpty then .error .notFound
  else if pathLimit < path.bytes.length then .error .nameTooLong
  else .ok ()

/-- Where a path starts. -/
def start (tree : FileTree) (path : FilePath) : Location :=
  if path.isAbsolute then [] else tree.workingDirectory

/-- Requires a directory. -/
def requireDirectory (tree : FileTree) (location : Location) : Except FileFault Unit :=
  match tree.node? location with
  | none => .error .notFound
  | some .directory => .ok ()
  | some _ => .error .notDirectory

/-- The place of a name in a directory, and of `..` the directory above. -/
def enter (location : Location) (name : FileName) : Except FileFault Location :=
  if name.isIdle then .ok location
  else if name.isParent then .ok location.dropLast
  else if name.isTooLong then .error .nameTooLong
  else .ok (location ++ [name])

/-- Walks from a place along names; every place on the way has to be a
directory. -/
def walk (tree : FileTree) : Location → List FileName → Except FileFault Location
  | location, [] => .ok location
  | location, name :: rest =>
      match tree.requireDirectory location with
      | .error fault => .error fault
      | .ok () =>
          match enter location name with
          | .error fault => .error fault
          | .ok next => walk tree next rest

/-- The place that a path leads to.  Nothing need stand there, but what stands
before a slash has to be a directory. -/
def locate (tree : FileTree) (path : FilePath) : Except FileFault Location :=
  match checkPath path with
  | .error fault => .error fault
  | .ok () => tree.walk (tree.start path) path.segments

/-- Whether a path leads to a directory. -/
def isDirectory (tree : FileTree) (path : FilePath) : Bool :=
  match tree.locate path with
  | .error _ => false
  | .ok location => tree.node? location == some .directory

/-- The content of a file. -/
def read (tree : FileTree) (path : FilePath) : Except FileFault (List UInt8) :=
  match tree.locate path with
  | .error fault => .error fault
  | .ok location =>
      match tree.node? location with
      | some (.file content) => .ok content
      | some (.unreadable fault) => .error fault
      | some (.database database) => .ok database.bytes
      | some (.log _) => .ok []
      | some .directory => .error .isDirectory
      | some .other | none => .error .notFound

/-- How an entry of a directory is listed. -/
def kindOf : FileNode → EntryKind
  | .file _ | .unreadable _ | .database _ | .log _ => .file
  | .directory => .directory
  | .other => .other

/-- The entry that a node is in a directory, if it stands directly in it. -/
def entryIn? (location : Location) (entry : Location × FileNode) : Option DirectoryEntry :=
  match location.isPrefixOf? entry.1 with
  | some [name] => some ⟨name, kindOf entry.2⟩
  | _ => none

/-- The entries of a directory. -/
def list (tree : FileTree) (path : FilePath) : Except FileFault (List DirectoryEntry) :=
  match tree.locate path with
  | .error fault => .error fault
  | .ok location =>
      match tree.requireDirectory location with
      | .error fault => .error fault
      | .ok () => .ok (tree.nodes.filterMap (entryIn? location))

/-- The names of a path up to its last one, and the last one.  Slashes at the end
do not count; a path of slashes has no last name. -/
def splitLast? (path : FilePath) : Option (List FileName × FileName) :=
  match path.segments.reverse.dropWhile List.isEmpty with
  | [] => none
  | last :: above => some (above.reverse, last)

/-- Creates a directory in one that is there. -/
def makeDirectory (tree : FileTree) (path : FilePath) : Except FileFault FileTree := do
  checkPath path
  match splitLast? path with
  | none => .error .alreadyExists
  | some (above, last) =>
      let parent ← tree.walk (tree.start path) above
      tree.requireDirectory parent
      if last.isIdle || last.isParent then .error .alreadyExists
      else
        let location ← enter parent last
        match tree.node? location with
        | some _ => .error .alreadyExists
        | none => return tree.put location .directory

/-- Creates the first of the given directories, where each of the others is the
one above; those above are created only if one is missing.  The tree left
behind has all that was created, also when something fails later on. -/
def makeFirst : FileTree → List String → Except FileFault Unit × FileTree
  | tree, [] => (.ok (), tree)
  | tree, path :: above =>
      if path == "" then (.ok (), tree)
      else
        let settle (tree : FileTree) : Except FileFault FileTree → Except FileFault Unit × FileTree
          | .ok made => (.ok (), made)
          | .error fault => if tree.isDirectory path then (.ok (), tree) else (.error fault, tree)
        match tree.makeDirectory path with
        | .error .notFound =>
            match makeFirst tree above with
            | (.error fault, made) => (.error fault, made)
            | (.ok (), made) => settle made (made.makeDirectory path)
        | outcome => settle tree outcome

/-- Creates a directory and those above it, as far as they are missing. -/
def makeDirectories (tree : FileTree) (path : String) : Except FileFault Unit × FileTree :=
  tree.makeFirst (Path.ancestors path)

/-- Creates the directory above a path. -/
def makeParent (tree : FileTree) (path : String) : Except FileFault Unit × FileTree :=
  match Path.parent? path with
  | none => (.ok (), tree)
  | some parent => tree.makeDirectories parent

/-- Puts a file at a path, and the directories above it. -/
def writeFile (tree : FileTree) (path : String) (content : List UInt8) :
    Except FileFault FileTree :=
  match tree.makeParent path with
  | (.error fault, _) => .error fault
  | (.ok (), tree) =>
      match tree.locate path with
      | .error fault => .error fault
      | .ok location =>
          match tree.node? location with
          | some .directory => .error .isDirectory
          | _ => .ok (tree.put location (.file content))

/-- Removes what stands at a path. -/
def remove (tree : FileTree) (path : FilePath) : FileTree :=
  match tree.locate path with
  | .error _ => tree
  | .ok location => tree.erase location

/-- A tree with only the directory at an absolute path, where one then works. -/
def workingAt (path : String) : FileTree :=
  let tree := (makeDirectories {} path).2
  { tree with workingDirectory := (tree.locate path).toOption.getD [] }

end FileTree

end AcceleratorTrace
