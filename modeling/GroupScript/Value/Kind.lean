/-!
# Kinds of values

Every value has a kind, which diagnostics name and which the language reports as the type of the value.
-/

namespace GroupScript

/-- The kinds of values. -/
inductive Kind
  | none
  | bool
  | int
  | float
  | string
  | list
  | group
  | procedure
  | native
  | defined
  deriving DecidableEq, Repr, Inhabited

/-- The name of a kind, as the language spells it. -/
def Kind.name : Kind → String
  | .none => "None"
  | .bool => "bool"
  | .int => "int"
  | .float => "float"
  | .string => "string"
  | .list => "list"
  | .group => "group"
  | .procedure => "procedure"
  | .native => "builtin"
  | .defined => "defvar"

end GroupScript
