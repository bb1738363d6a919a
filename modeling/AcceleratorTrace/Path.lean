import AcceleratorTrace.Text.Utf8

/-!
# Paths

A path has components between slashes.  Empty components and `.` stand for
nothing, and a path that starts with a slash is absolute.  Where files are looked
up, paths and names are bytes; those that the program makes up itself are texts.
-/

namespace AcceleratorTrace

/-- A name in a directory, as bytes. -/
abbrev FileName := List UInt8

namespace FileName

def ofString (text : String) : FileName := text.toUTF8.data.toList

/-- Whether a name stands for the directory it is in. -/
def isIdle (name : FileName) : Bool := name == [] || name == [0x2e]

/-- Whether a name stands for the directory above. -/
def isParent (name : FileName) : Bool := name == [0x2e, 0x2e]

end FileName

/-- A path as bytes. -/
structure FilePath where
  bytes : List UInt8
  deriving DecidableEq, Repr

namespace FilePath

def ofString (text : String) : FilePath := ⟨text.toUTF8.data.toList⟩

instance : Coe String FilePath := ⟨ofString⟩

instance : ToString FilePath := ⟨fun path => shownBytes path.bytes⟩

def slash : UInt8 := 0x2f

/-- The names between slashes, unchanged. -/
def segments (path : FilePath) : List FileName := path.bytes.splitOn slash

def isAbsolute (path : FilePath) : Bool := path.bytes.head? == some slash

/-- The last component, unless the path ends in a root or in `..`. -/
def fileName? (path : FilePath) : Option FileName :=
  ((path.segments.filter fun name => !name.isIdle).getLast?).filter fun name => !name.isParent

end FilePath

namespace Path

/-- The text between slashes, unchanged. -/
def segments (path : String) : List String := path.splitOn "/"

/-- Whether a segment stands for the directory it is in. -/
def isIdle (segment : String) : Bool := segment == "" || segment == "."

def isAbsolute (path : String) : Bool := path.startsWith "/"

/-- A name inside a directory.  An absolute name replaces the directory. -/
def join (base name : String) : String :=
  if isAbsolute name || base == "" then name
  else if base.endsWith "/" then base ++ name
  else base ++ "/" ++ name

/-- Drops the segments at the end that stand for nothing; the first segment
stays. -/
def dropIdle : List String → List String
  | [] => []
  | [first] => [first]
  | first :: rest =>
      match dropIdle rest with
      | [] => [first]
      | last => if last.all isIdle then [first] else first :: last

/-- The path without its last component; a root and the empty path have no
parent. -/
def parent? (path : String) : Option String :=
  let kept := dropIdle (segments path)
  match kept with
  | [] | [""] => none
  | [_] => some ""
  | _ =>
      match dropIdle kept.dropLast with
      | [""] => some "/"
      | above => some ("/".intercalate above)

/-- A path and the paths above it, each the parent of the one before.  At most
`count` are given. -/
def ancestorsUpTo : (count : Nat) → String → List String
  | 0, _ => []
  | count + 1, path =>
      match parent? path with
      | none => [path]
      | some above => path :: ancestorsUpTo count above

/-- A path and all paths above it; a parent has fewer segments, down to the
empty path. -/
def ancestors (path : String) : List String :=
  ancestorsUpTo ((segments path).length + 1) path

end Path

end AcceleratorTrace
