import AcceleratorTrace.Sink

/-!
# Database files

A database file is held by what is stored in it, together with whether it was
set up before.
-/

namespace AcceleratorTrace

/-- A database file. -/
structure Database where
  store : Store := {}
  /-- Whether an opening has set the file up. -/
  prepared : Bool := false
  deriving DecidableEq, Repr

/-- Whether nothing was ever written to the file. -/
def Database.isBlank (database : Database) : Bool :=
  !database.prepared && database.store == {}

/-- The bytes of the file: a page to start with and one for each table.  Only those
that name the format and its version are kept, and all others count as zeros. -/
def Database.bytes (database : Database) : List UInt8 :=
  if database.isBlank then []
  else
    let version : UInt8 := if database.prepared then 2 else 1
    let header := "SQLite format 3\x00".toUTF8.toList ++ [16, 0, version, version]
    header ++ List.replicate (4096 * (1 + database.store.tableCount) - header.length) 0

/-- Why a path leads to no database that can be used. -/
inductive DatabaseFault where
  /-- The path has a NUL, at this byte. -/
  | nulAt (position : Nat)
  /-- The path is a URI with this authority. -/
  | foreignAuthority (authority : String)
  | cannotOpen
  | notDatabase
  /-- A file next to the database cannot be opened. -/
  | cannotOpenBeside
  /-- A file next to the database can be opened and not be used. -/
  | unusableBeside
  /-- What is left of the database makes no sense. -/
  | malformed
  /-- Someone else holds the database. -/
  | locked
  /-- The index of a log that someone else writes to is lost. -/
  | lostIndex
  /-- The database can only be read. -/
  | readOnly
  deriving DecidableEq, Repr

namespace DatabaseFault

def message (path : String) : DatabaseFault → String
  | .nulAt position => s!"nul byte found in provided data at position: {position}"
  | .foreignAuthority authority => s!"invalid uri authority: {authority}"
  | .cannotOpen => s!"unable to open database file: {path}"
  | .notDatabase => "file is not a database"
  | .cannotOpenBeside => "unable to open database file"
  | .unusableBeside => "disk I/O error"
  | .malformed => "database disk image is malformed"
  | .locked => "database is locked"
  | .lostIndex => "locking protocol"
  | .readOnly => "attempt to write a readonly database"

/-- The fault of a transaction that cannot begin.  Locks are given back. -/
def fault (path : String) (reason : DatabaseFault) : Fault :=
  if reason = .locked then .transient (reason.message path)
  else .permanent (reason.message path)

/-- A transaction fails at its first step, if there is a reason to. -/
def faults (path : String) (reason : Option DatabaseFault) : Faults := fun _ step =>
  if step = 0 then reason.map (fault path) else none

end DatabaseFault

end AcceleratorTrace
