import AcceleratorTrace.CommandLine
import AcceleratorTrace.Script

/-!
# The program

Loads the run directory, runs the command line program on it, and prints what
that gives.  The store is left as a script of the statements that build it.
-/

namespace AcceleratorTrace

/-- What the system says about an operation that failed. -/
def systemFault : IO.Error → FileFault
  | .noFileOrDirectory .. => .notFound
  | .alreadyExists _ code text | .interrupted _ code text
  | .invalidArgument _ code text | .permissionDenied _ code text
  | .resourceExhausted _ code text | .inappropriateType _ code text | .noSuchThing _ code text
  | .otherError code text | .resourceBusy code text | .resourceVanished code text
  | .unsupportedOperation code text | .hardwareFault code text
  | .unsatisfiedConstraints code text | .illegalOperation code text | .protocolError code text
  | .timeExpired code text => .system s!"{text} (os error {code})"
  | .unexpectedEof => .system "unexpected end of file"
  | .userError text => .system text

/-- What an entry of a directory is.  A file that cannot be read is still one. -/
def loadNode (entry : IO.FS.DirEntry) : IO FileNode := do
  try
    match (← entry.path.symlinkMetadata).type with
    | .file => return .file (← IO.FS.readBinFile entry.path).toList
    | .dir => return .directory
    | _ => return .other
  catch error => return .unreadable (systemFault error)

/-- Adds an entry of a directory to the tree. -/
def loadEntry (directory : Location) (tree : FileTree) (entry : IO.FS.DirEntry) :
    IO FileTree :=
  return tree.put (directory ++ [FileName.ofString entry.fileName]) (← loadNode entry)

/-- A tree with the working directory and the files directly in a directory; a
directory that cannot be read is not in it. -/
def loadTree (directory : String) : IO FileTree := do
  let working := FileTree.workingAt (← IO.FS.realPath ".").toString
  try
    let entries ← (← IO.FS.realPath directory).readDir
    let tree := (working.makeDirectories directory).2
    match tree.locate directory with
    | .error _ => return working
    | .ok location => entries.foldlM (loadEntry location) tree
  catch _ => return working

/-- Writes the store of a finished run next to its place. -/
def saveScript (tree : FileTree) (runDirectory : String) : IO Unit := do
  let path := Config.storePath {} runDirectory
  match (tree.inspectStore path).1 with
  | none => return
  | some store =>
      IO.FS.createDirAll ((Path.parent? path).getD runDirectory)
      IO.FS.writeFile (path ++ ".sql") store.script

/-- Loads what the arguments name, runs the program and prints its outcome. -/
def runProgram (arguments : List String) : IO UInt32 := do
  let directory? := (Request.parse arguments).toOption.map Request.runDirectory
  let tree ← match directory? with
    | some directory => loadTree directory
    | none => pure {}
  let outcome := CommandLine.execute arguments tree
  IO.print outcome.output
  for line in outcome.log do
    IO.eprintln line.render
  if let some line := outcome.errorLine? then IO.eprintln line
  match directory?, outcome.exitCode with
  | some directory, 0 => saveScript outcome.tree directory
  | _, _ => pure ()
  return UInt32.ofNat outcome.exitCode

end AcceleratorTrace

def main (arguments : List String) : IO UInt32 := AcceleratorTrace.runProgram arguments
