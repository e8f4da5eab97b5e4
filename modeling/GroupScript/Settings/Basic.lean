import GroupScript.Error
import GroupScript.Settings.Document

/-!
# Settings

The settings of a session, with their defaults, and the form in which they are written down.  A settings
document is an object with any of the fields, each at most once, or an array of the fields in their order,
which may end early.  Fields that are not known are ignored.
-/

namespace GroupScript

/-- The settings of a session. -/
structure Settings where
  /-- The directories in which modules are looked for, in order. -/
  path : List String := ["."]
  /-- The extension of module files. -/
  extension : String := "tdl"
  /-- Whether statements are read from standard input after all files have run. -/
  interactive : Bool := false
  prompt : String := "tdl> "
  continuationPrompt : String := "... "
  /-- How deep procedure calls may nest. -/
  maxDepth : Nat := 100
  deriving Inhabited, DecidableEq

namespace Settings

/-- The names of the fields, in the order in which an array gives them. -/
def fieldNames : List String :=
  ["path", "extension", "interactive", "prompt", "continuation_prompt", "max_depth"]

/-- The string that a document denotes. -/
def string? : Document → Option String
  | .string value => value
  | _ => none

/-- The list of strings that a document denotes. -/
def strings? : Document → Option (List String)
  | .array items => items.mapM string?
  | _ => none

/-- Settings with one field given by a document. -/
def withField (settings : Settings) (name : String) (value : Document) : Option Settings :=
  match name, value with
  | "path", value => (strings? value).map fun path => { settings with path }
  | "extension", value => (string? value).map fun extension => { settings with extension }
  | "interactive", .bool interactive => some { settings with interactive }
  | "prompt", value => (string? value).map fun prompt => { settings with prompt }
  | "continuation_prompt", value =>
      (string? value).map fun continuationPrompt => { settings with continuationPrompt }
  | "max_depth", .natural maxDepth => some { settings with maxDepth }
  | _, _ => none

/-- Takes over the fields of an object.  The list holds the names already seen. -/
def withFields (seen : List String) :
    Settings → List (Option String × Document) → Option Settings
  | settings, [] => some settings
  | _, (none, _) :: _ => none
  | settings, (some name, value) :: fields =>
      if fieldNames.contains name then
        if seen.contains name then none
        else do
          let settings ← settings.withField name value
          withFields (name :: seen) settings fields
      else withFields seen settings fields

/-- Takes over the items of an array, each for the field whose turn it is. -/
def withItems : Settings → List String → List Document → Option Settings
  | settings, _, [] => some settings
  | settings, name :: names, value :: values => do
      let settings ← settings.withField name value
      withItems settings names values
  | _, [], _ :: _ => none

/-- The settings that a document gives. -/
def ofDocument? : Document → Option Settings
  | .object fields => withFields [] {} fields
  | .array items => withItems {} fieldNames items
  | _ => none

end Settings

/-- The error that a document gives: an object with one field, named for the class, that holds the cause
in words. -/
def Error.ofDocument? : Document → Option Error
  | .object [(some name, .string (some text))] => do
      let kind ← ErrorClass.named? name
      return Error.ofText kind text
  | _ => none

end GroupScript
