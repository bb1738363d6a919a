import AcceleratorTrace.FileTree.Databases

/-!
# Others at a store

Who is no sink may hold the write lock of a store, or change the store in a
transaction of its own.
-/

namespace AcceleratorTrace

/-- A write lock that someone else holds. -/
structure StoreLock where
  location : Location
  /-- Whether it is a lock of the log. -/
  logged : Bool
  /-- Whether it came with a journal, since it begins the first change. -/
  journaled : Bool
  deriving DecidableEq, Repr

/-- How the holder of a lock has the database open. -/
def StoreLock.kind (lock : StoreLock) : Hold := if lock.logged then .writer else .reserved

namespace FileTree

/-- Looks into the database at a path, creating it if needed. -/
def reach? (tree : FileTree) (path : String) : Option (Location × Attached) × FileTree :=
  let (_, made) := tree.makeParent path
  match made.databasePlace path with
  | .error _ => (none, made)
  | .ok location =>
      match (made.touch location).attach location with
      | (.error _, tree) => (none, tree)
      | (.ok attached, tree) => (some (location, attached), tree)

/-- Takes the write lock of the store at a path. -/
def lockStore (tree : FileTree) (path : String) : Option StoreLock × FileTree :=
  match tree.reach? path with
  | (none, tree) => (none, tree)
  | (some (location, attached), tree) =>
      match tree.hindrance? location attached.logged with
      | some _ => (none, tree.detach location attached.logged)
      | none =>
          let lock : StoreLock := ⟨location, attached.logged, attached.database.isBlank⟩
          let tree := if lock.journaled then tree.makeSide location .journal else tree
          (some lock, tree.hold location lock.kind)

/-- Gives a write lock back.  If the file was taken away, its log stays. -/
def unlockStore (tree : FileTree) (lock : StoreLock) : FileTree :=
  let tree := if lock.journaled then tree.dropSide lock.location .journal else tree
  if tree.isHeldAs lock.location lock.kind then
    (tree.release lock.location lock.kind).detach lock.location lock.logged
  else tree

/-- Changes the store at a path in a transaction of its own. -/
def changeStore (tree : FileTree) (path : String) (change : Store → Store) : FileTree :=
  match tree.reach? path with
  | (none, tree) => tree
  | (some (location, attached), tree) =>
      let tree := match tree.hindrance? location attached.logged with
        | some _ => tree
        | none =>
            let database := { attached.database with store := change attached.database.store }
            tree.commit location ⟨database, attached.logged⟩
      tree.detach location attached.logged

end FileTree

end AcceleratorTrace
