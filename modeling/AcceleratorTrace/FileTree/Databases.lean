import AcceleratorTrace.FileTree.DatabaseName
import AcceleratorTrace.FileTree.SideFiles

/-!
# Databases in a file tree

The path of a database is simplified before the file is looked up: `..` takes
back the name before it, as a text, and every place named on the way is looked
at.
-/

namespace AcceleratorTrace

namespace FileTree

/-- The greatest length of the simplified path of a database and its journal. -/
def databasePathLimit : Nat := 512

/-- The length of the absolute path of a place. -/
def locationLength (location : Location) : Nat :=
  location.foldr (fun name total => name.length + 1 + total) 0

/-- The next place on a simplified path.  Where something stands it has to be a
directory; where nothing stands there may be any name. -/
def enterDatabase? (tree : FileTree) (location : Location) (name : FileName) : Option Location :=
  if name.isIdle then some location
  else if name.isParent then some location.dropLast
  else
    let next := location ++ [name]
    if databasePathLimit ≤ locationLength next then none
    else
      match tree.node? location with
      | none => some next
      | some .directory => if name.isTooLong then none else some next
      | some _ => none

/-- The place of a database, unless its path is too long or leads through
something that is not a directory. -/
def databaseLocation? (tree : FileTree) (path : FilePath) : Option Location := do
  let location ← path.segments.foldlM tree.enterDatabase? (tree.start path)
  if databasePathLimit < locationLength location + SideFile.journal.suffix.length then none
  else some location

/-- The byte of a path where its first NUL stands. -/
def nulPosition? (path : FilePath) : Option Nat :=
  path.bytes.findIdx? (· == 0)

/-- Whether a file can be opened or created at a place. -/
def canOpen (tree : FileTree) (location : Location) : Bool :=
  match tree.node? location with
  | some .directory | some .other | some (.unreadable _) => false
  | some _ => true
  | none => tree.node? location.dropLast == some .directory

/-- The place of the database that a name leads to. -/
def databasePlace (tree : FileTree) (name : String) : Except DatabaseFault Location :=
  match nulPosition? name, DatabaseName.path name with
  | some position, _ => .error (.nulAt position)
  | none, .error (.authority text) => .error (.foreignAuthority text)
  | none, .error .notText => .error .cannotOpen
  | none, .ok path =>
      match tree.databaseLocation? path with
      | none => .error .cannotOpen
      | some location => if tree.canOpen location then .ok location else .error .cannotOpen

/-- Creates an empty file where nothing stands. -/
def touch (tree : FileTree) (location : Location) : FileTree :=
  match tree.node? location with
  | none => tree.put location (.file [])
  | some _ => tree

/-- Whether the journal of the database at a place can have its name. -/
def hasRoomForJournal (location : Location) : Bool :=
  !FileName.isTooLong (location.getLast?.getD [] ++ SideFile.journal.suffix)

/-- Whether a change of a database without a log can have its journal. -/
def hasJournal (tree : FileTree) (location : Location) : Bool :=
  hasRoomForJournal location && !tree.sideIsDirectory location .journal

/-- What keeps a transaction on a database that was looked into from beginning. -/
def hindrance? (tree : FileTree) (location : Location) (logged : Bool) : Option DatabaseFault :=
  if logged then
    if tree.sideIsDirectory location .index then some .readOnly
    else if tree.isHeldAs location .writer then some .locked
    else none
  else if tree.isHeld location then some .locked
  else if tree.hasJournal location then none
  else some .cannotOpenBeside

/-- Puts back a database that was changed: into its log if that is open, else into
the file, which takes its journal away. -/
def commit (tree : FileTree) (location : Location) (changed : Attached) : FileTree :=
  if changed.logged then
    tree.put (SideFile.log.beside location) (.log changed.database)
  else (tree.dropSide location .journal).put location (.database changed.database)

end FileTree

end AcceleratorTrace
