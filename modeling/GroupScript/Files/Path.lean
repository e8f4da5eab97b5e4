import GroupScript.Error
import GroupScript.Text.Pieces

/-!
# File paths

Paths are texts whose segments are divided by slashes.  What a path leads to is asked of a function that reads
files, so that nothing here depends on where the files are.
-/

namespace GroupScript

/-- Reads the file at a path. -/
abbrev Files := String → Except ReadFault String

/-- Whether a path leads to a file, readable as text or not. -/
def Files.isFile (files : Files) (path : String) : Bool :=
  match files path with
  | .ok _ | .error .notText | .error .denied => true
  | .error _ => false

/-- The contents of a file. -/
def Files.read (files : Files) (path : String) : Except Error String :=
  (files path).mapError fun fault => .io (.unreadable path fault)

/-- The path of a name in a directory.  A name that begins with a slash stands for itself. -/
def joinPath (directory name : String) : String :=
  if Text.startsWith ['/'] name.toList || directory.isEmpty then name
  else if directory.toList.getLast? == some '/' then directory ++ name
  else directory ++ "/" ++ name

/-- The name of the file of a module. -/
def moduleFileName (name extension : String) : String :=
  name ++ "." ++ extension

/-- The first file of a module in a list of directories. -/
def Files.moduleFile? (files : Files) (directories : List String) (name extension : String) :
    Option String :=
  (directories.map (joinPath · (moduleFileName name extension))).find? files.isFile

end GroupScript
