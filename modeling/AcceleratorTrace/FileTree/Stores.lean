import AcceleratorTrace.FileTree.Databases

/-!
# Stores in a file tree

A store is opened at a path, written by a sink, and closed.  A sink looks into the
database when it first needs to, and from then on has the log open.
-/

namespace AcceleratorTrace

/-- What is known of a database while its log is open. -/
structure Known where
  database : Database
  /-- Whether it comes from the log. -/
  committed : Bool
  deriving DecidableEq, Repr

/-- An open store. -/
structure Connection where
  path : String
  location : Location
  /-- What was read or written last, once the log is open. -/
  known : Option Known := none
  deriving DecidableEq, Repr

namespace FileTree

/-- Notes what is known of a store whose log is open. -/
def note (tree : FileTree) (connection : Connection) (known : Known) : Connection × FileTree :=
  let location := connection.location
  let tree := match connection.known with
    | some before => tree.release location (.reader before.committed)
    | none => tree
  ({ connection with known := some known }, tree.hold location (.reader known.committed))

/-- The store at a path, if there is a file that is a database, and the tree that
is left after looking at it. -/
def inspectStore (tree : FileTree) (path : String) : Option Store × FileTree :=
  match tree.databasePlace path with
  | .error _ => (none, tree)
  | .ok location =>
      match tree.node? location with
      | none => (none, tree)
      | some _ =>
          match tree.attach location with
          | (.error _, tree) => (none, tree)
          | (.ok attached, tree) =>
              (some attached.database.store, tree.detach location attached.logged)

/-- The longest wait for a lock in milliseconds. -/
def waitLimit : Nat := Nat.pow 2 31 - 1

/-- Sets up a database that was looked into without a log.  That needs the
database for itself. -/
def prepare (tree : FileTree) (location : Location) (database : Database) :
    Except DatabaseFault FileTree :=
  if tree.isHeld location then .error .locked
  else if tree.hasJournal location then
    .ok (tree.commit location ⟨{ database with prepared := true }, false⟩)
  else .error .cannotOpenBeside

/-- Opens the store at a path: creates the directories above it and the file if
needed, and sets the file up.  The tree left behind has all that was created,
also when the opening fails later on. -/
def openStore (tree : FileTree) (path : String) (waitMs : Nat) :
    Except StoreError Connection × FileTree :=
  match tree.makeParent path with
  | (.error fault, made) =>
      (.error (.directoryFailed ((Path.parent? path).getD "") fault.message), made)
  | (.ok (), made) =>
      let failed (fault : DatabaseFault) : StoreError := .openFailed path (fault.message path)
      match made.databasePlace path with
      | .error fault => (.error (failed fault), made)
      | .ok location =>
          let made := made.touch location
          if waitLimit < waitMs then (.error .outOfRange, made)
          else
            match made.attach location with
            | (.error fault, tree) => (.error (failed fault), tree)
            | (.ok attached, tree) =>
                if attached.logged then
                  let (connection, tree) := tree.note { path, location }
                    ⟨attached.database, (tree.committed? location).isSome⟩
                  (.ok connection, tree)
                else
                  match tree.prepare location attached.database with
                  | .error fault => (.error (failed fault), tree)
                  | .ok tree => (.ok { path, location }, tree)

/-- Closes a store. -/
def closeStore (tree : FileTree) (connection : Connection) : FileTree :=
  match connection.known with
  | none => tree
  | some known =>
      let location := connection.location
      (tree.release location (.reader known.committed)).detach location true

/-- What a store whose log is open holds now.  Before anything is in the log, the
file has to be there. -/
def current (tree : FileTree) (location : Location) (known : Known) :
    Except DatabaseFault Known :=
  if tree.hasLostIndex location then .error .lostIndex
  else
    match tree.committed? location with
    | some database => .ok ⟨database, true⟩
    | none => if !known.committed && tree.isBlank location then .error .malformed else .ok known

/-- Looks into an open store before a transaction, and opens its log if it has
one. -/
def enterStore (tree : FileTree) (connection : Connection) :
    Except DatabaseFault Attached × Connection × FileTree :=
  let location := connection.location
  match connection.known with
  | some known =>
      match tree.current location known with
      | .error fault => (.error fault, connection, tree)
      | .ok known => (.ok ⟨known.database, true⟩, tree.note connection known)
  | none =>
      match tree.attach location with
      | (.error fault, tree) => (.error fault, connection, tree)
      | (.ok attached, tree) =>
          if attached.logged then
            (.ok attached, tree.note connection
              ⟨attached.database, (tree.committed? location).isSome⟩)
          else (.ok attached, connection, tree)

/-- Puts back a store that was changed.  A log that was written over is lost. -/
def leaveStore (tree : FileTree) (connection : Connection) (changed : Database) :
    Connection × FileTree :=
  let location := connection.location
  match connection.known with
  | none => (connection, tree.commit location ⟨changed, false⟩)
  | some known =>
      let tree :=
        if known.committed && (tree.committed? location).isNone then tree
        else tree.commit location ⟨changed, true⟩
      tree.note connection ⟨changed, true⟩

/-- Lets a sink write to an open store. -/
def writeStore {α : Type} (tree : FileTree) (connection : Connection)
    (action : Faults → Store → WriteOutcome α) :
    WriteOutcome α × Connection × FileTree :=
  match tree.enterStore connection with
  | (.error fault, connection, tree) =>
      (action (DatabaseFault.faults connection.path (some fault)) {}, connection, tree)
  | (.ok attached, connection, tree) =>
      let reason := tree.hindrance? connection.location attached.logged
      let outcome := action (DatabaseFault.faults connection.path reason) attached.database.store
      if outcome.store = attached.database.store then (outcome, connection, tree)
      else (outcome, tree.leaveStore connection { attached.database with store := outcome.store })

end FileTree

end AcceleratorTrace
