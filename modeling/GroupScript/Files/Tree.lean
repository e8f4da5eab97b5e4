import GroupScript.Files.Path

/-!
# File trees

A file tree lists files and empty directories below a working directory.  A path is followed segment by segment:
every segment but the last must lead to a directory, a single dot stays, and two dots go up.  Segments and whole
paths have a greatest size.  Nothing is known of what lies outside of the working directory.
-/

namespace GroupScript

/-- What a file tree lists. -/
inductive FileEntry
  /-- A file; its contents are missing if they are not text. -/
  | file (contents : Option String)
  | directory
  deriving DecidableEq, Inhabited

/-- Files and directories by the segments of their paths from the working directory. -/
structure FileTree where
  entries : List (List String × FileEntry) := []
  deriving Inhabited

/-- A place that a path leads to. -/
inductive FilePlace
  | inside (segments : List String)
  | outside
  deriving DecidableEq, Inhabited

namespace FileTree

/-- The segments of a path. -/
def segmentsOf (path : String) : List String :=
  Text.partsAt '/' path

/-- Adds a file, or an empty directory if the path ends in a slash. -/
def add (tree : FileTree) (path : String) (contents : Option String) : FileTree :=
  let segments := segmentsOf path
  if segments.getLast? == some "" then
    ⟨tree.entries ++ [(segments.dropLast, .directory)]⟩
  else ⟨tree.entries ++ [(segments, .file contents)]⟩

/-- Whether something is listed below a directory. -/
def isAbove (segments other : List String) : Bool :=
  segments.isPrefixOf other

/-- What a place is.  A directory need not be listed if something below it is. -/
def entry? (tree : FileTree) : FilePlace → Option FileEntry
  | .outside => some .directory
  | .inside segments =>
      match tree.entries.find? (·.1 == segments) with
      | some (_, entry) => some entry
      | none =>
          if segments.isEmpty || tree.entries.any (isAbove segments ·.1) then some .directory
          else none

/-- The greatest size of a segment in bytes. -/
def maxSegment : Nat := 255

/-- The greatest size of a path in bytes. -/
def maxPath : Nat := 4095

/-- The place that one segment leads to. -/
def enter (place : FilePlace) (segment : String) : Except ReadFault FilePlace :=
  if segment.isEmpty || segment == "." then .ok place
  else if maxSegment < segment.utf8ByteSize then .error .tooLong
  else
    match place, segment with
    | .outside, ".." => .ok .outside
    | .inside segments, ".." =>
        .ok (if segments.isEmpty then .outside else .inside segments.dropLast)
    | .outside, _ => .error .absent
    | .inside segments, segment => .ok (.inside (segments ++ [segment]))

/-- Follows the segments of a path and gives what stands at its end. -/
def follow (tree : FileTree) : FilePlace → List String → Except ReadFault FileEntry
  | place, segments =>
      match tree.entry? place, segments with
      | none, _ => .error .absent
      | some entry, [] => .ok entry
      | some (.file _), _ :: _ => .error .throughFile
      | some .directory, segment :: rest => do
          let next ← enter place segment
          tree.follow next rest
termination_by _ segments => segments.length

/-- Where following a path starts. -/
def start (path : String) : FilePlace :=
  if Text.startsWith ['/'] path.toList then .outside else .inside []

/-- Reads the file at a path. -/
def read (tree : FileTree) : Files := fun path =>
  if path.toList.contains '\x00' then .error .nulInPath
  else if path.isEmpty then .error .absent
  else if maxPath < path.utf8ByteSize then .error .tooLong
  else
    match tree.follow (start path) (segmentsOf path) with
    | .ok (.file (some contents)) => .ok contents
    | .ok (.file none) => .error .notText
    | .ok .directory => .error .directory
    | .error fault => .error fault

end FileTree

end GroupScript
