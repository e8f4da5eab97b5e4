import GroupScript.Expr.Code

/-!
# Statements

The statements of the language in compiled form.
-/

namespace GroupScript

/-- The left side of an assignment: a name, which may be dotted, and the groups of indices after it. -/
structure Target where
  name : String
  path : List (List Code)
  deriving Inhabited

/-- One module of an import statement.  Either the module itself is bound, under its own or another name,
or the listed members are copied. -/
structure Import where
  source : String
  localName? : Option String
  members? : Option (List String)
  deriving Inhabited, DecidableEq

/-- The header of a procedure: its name, its parameters, and the defaults of its keyword parameters. -/
structure Signature where
  name : String
  params : List String
  defaults : List (String × Code)
  deriving Inhabited

/-- A statement. -/
inductive Statement
  /-- Evaluates an expression; a command is a call written without parentheses. -/
  | evaluate (code : Code) (command : Bool)
  | assign (target : Target) (value : Code)
  /-- Binds a name to an expression that is evaluated at every reading. -/
  | define (name : String) (code : Code)
  | procedure (signature : Signature) (doc : Option String) (body : List Statement)
  /-- Runs the body of the first branch whose condition is true. -/
  | choose (branches : List (Code × List Statement))
  /-- Runs a body as long as a condition is true. -/
  | loop (condition : Code) (body : List Statement)
  /-- Runs a body for each item of a value. -/
  | iterate (name : String) (items : Code) (body : List Statement)
  /-- Runs a body and, if it fails, another one. -/
  | attempt (body handler : List Statement)
  | delete (names : List String)
  | print (items : Option Code)
  /-- Ends the running procedure with the values given. -/
  | leave (values : Option Code)
  | breakLoop
  | continueLoop
  | importModules (items : List Import)
  deriving Inhabited

/-- What running a statement asks of the statements around it. -/
inductive Signal
  | normal
  | continueLoop
  | breakLoop
  | leave (value : Value)
  deriving Inhabited

end GroupScript
