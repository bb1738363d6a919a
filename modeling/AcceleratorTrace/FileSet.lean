import AcceleratorTrace.Log
import AcceleratorTrace.Path
import AcceleratorTrace.SliceName

/-!
# The files of an engine

The slices of a run directory are grouped by engine.  Each group is ordered by
device and then by slice number, which is the order in which the records were
written on each device.
-/

namespace AcceleratorTrace

/-- One file of an engine. -/
structure SliceFile where
  path : FilePath
  device : UInt32
  slice : UInt32
  deriving DecidableEq, Repr

/-- The order of files: by device, then by slice number. -/
def SliceFile.before (first second : SliceFile) : Bool :=
  first.device < second.device || (first.device == second.device && first.slice ≤ second.slice)

/-- Sorts files by device and slice; files with equal numbers keep their order. -/
def sortFiles (files : List SliceFile) : List SliceFile :=
  files.mergeSort SliceFile.before

/-- What the last component of a path says, if it is text and a slice name. -/
def FilePath.sliceName? (path : FilePath) : Option SliceName := do
  let name ← path.fileName?
  let text ← textOfBytes? name
  SliceName.parse? text

/-- The file of a path at a position in a list of paths.  A path without a slice
name counts as device 0 and takes its position as the slice. -/
def SliceFile.ofPath (path : FilePath) (position : Nat) : SliceFile :=
  match path.sliceName? with
  | some name => ⟨path, name.device, name.slice⟩
  | none => ⟨path, 0, UInt32.ofNat position⟩

/-- The files of explicitly given paths, in reading order. -/
def filesOfPaths (paths : List FilePath) : List SliceFile :=
  sortFiles (paths.zipIdx.map fun (path, position) => SliceFile.ofPath path position)

inductive EntryKind where
  | file
  | directory
  /-- A link or anything else that is not a regular file. -/
  | other
  deriving DecidableEq, Repr

/-- An entry of a directory.  Names are bytes and need not be text. -/
structure DirectoryEntry where
  name : FileName
  kind : EntryKind
  deriving DecidableEq, Repr

namespace DirectoryEntry

/-- The name as text, if it is valid UTF-8. -/
def text? (entry : DirectoryEntry) : Option String :=
  textOfBytes? entry.name

/-- The name of a regular file with a name that is text. -/
def fileText? (entry : DirectoryEntry) : Option String :=
  match entry.kind with
  | .file => entry.text?
  | _ => none

/-- The slice file that the entry is, with its engine. -/
def sliceFile? (directory : String) (entry : DirectoryEntry) : Option (Engine × SliceFile) := do
  let text ← entry.fileText?
  let name ← SliceName.parse? text
  return (name.engine, ⟨Path.join directory text, name.device, name.slice⟩)

/-- The log line for a regular file that is no slice. -/
def skipLine? (entry : DirectoryEntry) : Option LogLine := do
  let text ← entry.fileText?
  if (SliceName.parse? text).isSome then none else some (.debug s!"skipping {text}")

end DirectoryEntry

/-- The files of each engine that has any, in engine order. -/
abbrev FileSets := List (Engine × List SliceFile)

/-- Groups the slice files among the entries of a directory. -/
def groupSlices (directory : String) (entries : List DirectoryEntry) : FileSets :=
  let found := entries.filterMap (DirectoryEntry.sliceFile? directory)
  Engine.all.filterMap fun engine =>
    match (found.filter fun file => file.1 == engine).map Prod.snd with
    | [] => none
    | files => some (engine, sortFiles files)

/-- The given file sets in engine order. -/
def FileSets.inOrder (sets : FileSets) : FileSets :=
  Engine.all.filterMap fun engine => sets.find? fun set => set.1 == engine

/-- The log lines for files that are no slices. -/
def skippedLog (entries : List DirectoryEntry) : List LogLine :=
  entries.filterMap DirectoryEntry.skipLine?

end AcceleratorTrace
