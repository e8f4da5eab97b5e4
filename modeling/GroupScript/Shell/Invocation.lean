/-!
# Invocations

What the shell is asked to do: files to run, a command, directories with modules, and whether statements are read from
standard input afterwards.
-/

namespace GroupScript

/-- What the shell is asked to do. -/
structure Invocation where
  files : List String := []
  command : Option String := none
  directories : List String := []
  interactive : Bool := false
  deriving DecidableEq, Repr, Inhabited

end GroupScript
