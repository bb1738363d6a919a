import AcceleratorTrace.FileTree

/-!
# Files next to a database

A database works with files next to it that are named after it: a journal, from
which a change is taken back, a log of what is committed and not yet in the
database, and the index of that log.  Who looks at a database first settles what
others have left there, and the last one to close it moves the log into the
database and takes it away.
-/

namespace AcceleratorTrace

/-- A file next to a database. -/
inductive SideFile where
  | journal
  | log
  | index
  deriving DecidableEq, Repr

namespace SideFile

/-- What follows the name of the database. -/
def suffix : SideFile → FileName
  | .journal => FileName.ofString "-journal"
  | .log => FileName.ofString "-wal"
  | .index => FileName.ofString "-shm"

/-- The place next to a database. -/
def beside (side : SideFile) (location : Location) : Location :=
  location.dropLast ++ [location.getLast?.getD [] ++ side.suffix]

end SideFile

/-- The database that a file holds, if it can be one.  A file of one byte counts
as empty. -/
def FileNode.database? : FileNode → Option Database
  | .database content => some content
  | .file [] | .file [_] => some {}
  | _ => none

/-- A database that was looked into. -/
structure Attached where
  database : Database
  /-- Whether its log is open. -/
  logged : Bool
  deriving DecidableEq, Repr

namespace FileTree

/-- Notes that someone has a database open. -/
def hold (tree : FileTree) (location : Location) (hold : Hold) : FileTree :=
  { tree with holds := (location, hold) :: tree.holds }

/-- Notes that someone who had a database open no longer has. -/
def release (tree : FileTree) (location : Location) (hold : Hold) : FileTree :=
  { tree with holds := tree.holds.erase (location, hold) }

/-- Whether someone has a database open. -/
def isHeld (tree : FileTree) (location : Location) : Bool :=
  tree.holds.any fun entry => entry.1 == location

/-- Whether someone has a database open in a certain way. -/
def isHeldAs (tree : FileTree) (location : Location) (hold : Hold) : Bool :=
  tree.holds.contains (location, hold)

/-- What stands next to a database. -/
def side? (tree : FileTree) (location : Location) (side : SideFile) : Option FileNode :=
  tree.node? (side.beside location)

/-- Whether something stands next to a database; an empty file does not count. -/
def hasSide (tree : FileTree) (location : Location) (side : SideFile) : Bool :=
  match tree.side? location side with
  | none | some (.file []) => false
  | some _ => true

/-- Whether a directory stands next to a database in place of a file. -/
def sideIsDirectory (tree : FileTree) (location : Location) (side : SideFile) : Bool :=
  tree.side? location side == some .directory

/-- Removes a file next to a database. -/
def dropSide (tree : FileTree) (location : Location) (side : SideFile) : FileTree :=
  if tree.sideIsDirectory location side then tree else tree.erase (side.beside location)

/-- Creates a file next to a database, unless something stands there. -/
def makeSide (tree : FileTree) (location : Location) (side : SideFile) : FileTree :=
  match tree.side? location side with
  | none => tree.put (side.beside location) (.file [])
  | some _ => tree

/-- The database at a place, if what stands there can be one. -/
def database? (tree : FileTree) (location : Location) : Option Database :=
  (tree.node? location).bind FileNode.database?

/-- What is committed and not yet in the database. -/
def committed? (tree : FileTree) (location : Location) : Option Database :=
  match tree.side? location .log with
  | some (.log database) => some database
  | _ => none

/-- Whether nothing was ever written to the file at a place. -/
def isBlank (tree : FileTree) (location : Location) : Bool :=
  (tree.database? location).any Database.isBlank

/-- Settles a journal that was left behind.  A database without content has no
use for it; a journal that starts with a zero is finished; any other one is
played back, which needs the database for itself. -/
def settleJournal (tree : FileTree) (location : Location) : Except DatabaseFault FileTree :=
  if !tree.hasSide location .journal || tree.isHeldAs location .reserved then .ok tree
  else if tree.isBlank location then .ok (tree.dropSide location .journal)
  else
    match tree.side? location .journal with
    | some .directory => .error .unusableBeside
    | some (.file (0 :: _)) => .ok tree
    | _ => if tree.isHeld location then .error .locked else .ok (tree.dropSide location .journal)

/-- Settles a log that was left behind, and says whether it stays.  A database
without content has no use for it. -/
def settleLog (tree : FileTree) (location : Location) : Except DatabaseFault (Bool × FileTree) :=
  if !tree.hasSide location .log then .ok (false, tree)
  else if !tree.isBlank location then .ok (true, tree)
  else if tree.sideIsDirectory location .log then .error .unusableBeside
  else .ok (false, tree.dropSide location .log)

/-- Makes the index of a log anew. -/
def makeIndex (tree : FileTree) (location : Location) : FileTree :=
  (tree.dropSide location .index).makeSide location .index

/-- Whether the index of a log that someone else writes to was written over. -/
def hasLostIndex (tree : FileTree) (location : Location) : Bool :=
  tree.isHeldAs location .writer && tree.hasSide location .index

/-- Whether a log to which something is committed was taken away or written
over. -/
def hasLostLog (tree : FileTree) (location : Location) : Bool :=
  tree.isHeldAs location (.reader true) && (tree.committed? location).isNone

/-- Opens the log and its index, which is made anew unless someone else writes to
the log. -/
def openLog (tree : FileTree) (location : Location) : Except DatabaseFault FileTree :=
  if tree.sideIsDirectory location .log then .error .cannotOpenBeside
  else if tree.hasLostIndex location then .error .lostIndex
  else if tree.hasLostLog location then .error .unusableBeside
  else
    let tree := tree.makeSide location .log
    .ok (if tree.isHeldAs location .writer then tree else tree.makeIndex location)

/-- Moves what is committed into the database. -/
def checkpoint (tree : FileTree) (location : Location) : FileTree :=
  match tree.committed? location with
  | some database => tree.put location (.database database)
  | none => tree

/-- Closes a database, with its log if that was open.  The last one to do so takes
the log and its index away, unless the index cannot be written. -/
def detach (tree : FileTree) (location : Location) (logged : Bool) : FileTree :=
  if !logged || tree.isHeld location || tree.sideIsDirectory location .index then tree
  else ((tree.checkpoint location).dropSide location .log).dropSide location .index

/-- Looks into the database at a place. -/
def attach (tree : FileTree) (location : Location) : Except DatabaseFault Attached × FileTree :=
  match tree.settleJournal location with
  | .error fault => (.error fault, tree)
  | .ok tree =>
      match tree.settleLog location with
      | .error fault => (.error fault, tree)
      | .ok (present, tree) =>
          let found? := (tree.committed? location).or (tree.database? location)
          if present || found?.any Database.prepared then
            match tree.openLog location with
            | .error fault => (.error fault, tree)
            | .ok tree =>
                match found? with
                | none => (.error .notDatabase, tree.detach location true)
                | some database => (.ok ⟨database, true⟩, tree)
          else
            match found? with
            | none => (.error .notDatabase, tree)
            | some database => (.ok ⟨database, false⟩, tree)

end FileTree

end AcceleratorTrace
