import GroupScript.Builtin.Numbers
import GroupScript.Builtin.Texts
import GroupScript.Interpreter.Environment
import GroupScript.Workspace.Listing

/-!
# Running builtin functions

What each builtin function does, except for loading a module again, which runs statements.  The functions on groups
read and change the workspace, and a template is filled by the program around the language; all others only look at the
store.
-/

namespace GroupScript.Builtin

/-- The documentation of a builtin function. -/
def doc : Builtin → String
  | .len =>
      "len(X) - Returns number of items in list, characters in string, or members of group X"
  | .range =>
      "range(STOP), range(START, STOP), range(START, STOP, STEP) - Returns list of integers from START up to but excluding STOP"
  | .min => "min(LIST) or min(A, B, ...) - Returns smallest value"
  | .max => "max(LIST) or max(A, B, ...) - Returns largest value"
  | .sum => "sum(LIST) or sum(LIST, START) - Returns START (default 0) plus all items of LIST"
  | .str => "str(X) - Returns X converted to its display string"
  | .repr => "repr(X) - Returns X converted to a string, quoting strings"
  | .join =>
      "join(SEP, LIST) - Returns a new string by concatenating each item of LIST coerced into string, separated by SEP."
  | .split => "split(SEP, STR) - Returns a list separating string STR by SEP."
  | .format =>
      "format(FORMAT, ARG1, ..., ARGN) - Returns a new string by templating each \x7b\x7d in FORMAT with arguments coerced into strings."
  | .int => "int(X) - Returns X converted to an integer. Floats are truncated."
  | .float => "float(X) - Returns X converted to a floating point number"
  | .type => "type(X) - Returns name of type of X"
  | .isGroup => "isgroup(X) - Returns True if X is a group"
  | .callable => "callable(X) - Returns True if X is a procedure or builtin"
  | .abs => "abs(X) - Returns absolute value of number X"
  | .help =>
      "help(X) - Returns docstring for procedure or builtin X, or for the one named by string X"
  | .group => "group() - Returns a new empty group"
  | .names => "names(GROUP) - Returns sorted names defined in GROUP, or in current scope"
  | .subgroups =>
      "subgroups(GROUP) - Returns sorted names of groups within GROUP, or within current scope"
  | .showGroup => "show_group(NAME) - Prints members of group NAME, or of the top level group"
  | .delGroup => "del_group(NAME) - Deletes group NAME. Protected groups are kept"
  | .reload => "reload(NAME) - Imports module NAME again, replacing the loaded module"
  | .sqrt => "sqrt(X) - Returns square root of X"
  | .exp => "exp(X) - Returns e raised to power X"
  | .log => "log(X) - Returns natural logarithm of X"
  | .log10 => "log10(X) - Returns base 10 logarithm of X"
  | .sin => "sin(X) - Returns sine of X radians"
  | .cos => "cos(X) - Returns cosine of X radians"
  | .tan => "tan(X) - Returns tangent of X radians"
  | .floor => "floor(X) - Returns largest integer not greater than X"
  | .ceil => "ceil(X) - Returns smallest integer not less than X"
  | .pow => "pow(X, Y) - Returns X raised to power Y"

/-- The value of a result, or its error. -/
def ofValue (result : Except Error Value) : Access Value :=
  match result with
  | .ok value => return value
  | .error error => throw error

/-- The group that an optional argument gives or names; without it, the local group. -/
def argumentGroup (function : Builtin) (scope : Scope) : List Value → Access GroupId
  | [] => return scope.localGroup
  | [.group id] => return id
  | [.string name] => Workspace.resolveGroup scope name
  | _ => throw (.unexpectedArguments (.groupArgument function.name))

/-- A list of strings as a value. -/
def ofStrings (items : List String) : Value :=
  .list (items.map .string)

/-- Makes a new group. -/
def runGroup : List Value → Access Value
  | [] => do
      let (id, workspace) := (← get).newGroup {}
      set workspace
      return .group id
  | arguments => ofValue (wrongCount .group 0 arguments)

/-- Shows the members of a group. -/
def runShowGroup (scope : Scope) : List Value → Access Value
  | [] => do
      Workspace.showGroup scope none
      return .nil
  | [.string name] => do
      Workspace.showGroup scope (some name)
      return .nil
  | _ => throw (.unexpectedArguments .showGroupArgument)

/-- Deletes a group. -/
def runDelGroup (scope : Scope) : List Value → Access Value
  | [argument] => do
      match argument.asString with
      | .ok name => do
          Workspace.deleteGroup scope name
          return .nil
      | .error error => throw error
  | arguments => ofValue (wrongCount .delGroup 1 arguments)

/-- The value that help is asked for: the argument, or what it names. -/
def helpTarget (scope : Scope) : List Value → Access Value
  | [.string name] => Workspace.resolve scope name
  | [value] => return value
  | arguments => throw (.unexpectedArguments (.helpCount arguments.length))

/-- What is shown for a procedure that has no documentation. -/
def missingDoc : String := "<missing documentation>"

/-- The documentation of a procedure or a native function. -/
def runHelp (environment : Environment) (scope : Scope) (arguments : List Value) : Access Value := do
  match ← helpTarget scope arguments with
  | .procedure id => return .string (((← get).store.procedure id).doc.getD missingDoc)
  | .native (.builtin function) => return .string function.doc
  | .native (.host name) => return .string (environment.functionDoc name)
  | value => throw (.unexpectedArguments (.helpKind value.kind))

/-- Runs a builtin function that does not change anything, or gives nothing if the function is not of that kind. -/
def runPure? (store : Store) (function : Builtin) (arguments : List Value) :
    Option (Except Error Value) :=
  match function with
  | .len => some (runLen store arguments)
  | .range => some (runRange arguments)
  | .min => some (runExtreme store .min .lt arguments)
  | .max => some (runExtreme store .max .gt arguments)
  | .sum => some (runSum store arguments)
  | .str => some (runStr store arguments)
  | .repr => some (runRepr store arguments)
  | .join => some (runJoin store arguments)
  | .split => some (runSplit arguments)
  | .int => some (runInt arguments)
  | .float => some (runFloat arguments)
  | .type => some (runType arguments)
  | .isGroup => some (runIsGroup arguments)
  | .callable => some (runCallable arguments)
  | .abs => some (runAbs arguments)
  | .sqrt => some (runReal .sqrt (fun x => !(x < 0.0)) (fun x => .float x.sqrt) arguments)
  | .exp => some (runReal .exp (fun _ => true) (fun x => .float x.exp) arguments)
  | .log => some (runReal .log (fun x => !(x ≤ 0.0)) (fun x => .float x.log) arguments)
  | .log10 => some (runReal .log10 (fun x => !(x ≤ 0.0)) (fun x => .float x.log10) arguments)
  | .sin => some (runReal .sin (fun _ => true) (fun x => .float x.sin) arguments)
  | .cos => some (runReal .cos (fun _ => true) (fun x => .float x.cos) arguments)
  | .tan => some (runReal .tan (fun _ => true) (fun x => .float x.tan) arguments)
  | .floor => some (runReal .floor (fun _ => true) (fun x => .int x.floor.toInt64) arguments)
  | .ceil => some (runReal .ceil (fun _ => true) (fun x => .int x.ceil.toInt64) arguments)
  | .pow => some (runPow store arguments)
  | .format | .help | .group | .names | .subgroups | .showGroup | .delGroup | .reload => none

/-- Runs a builtin function that works on the workspace or asks what surrounds the interpreter. -/
def runAccess (environment : Environment) (scope : Scope) (function : Builtin)
    (arguments : List Value) : Access Value := do
  match function with
  | .format => ofValue (runFormat environment.fill (← get).store arguments)
  | .help => runHelp environment scope arguments
  | .group => runGroup arguments
  | .names =>
      let id ← argumentGroup .names scope arguments
      return ofStrings ((← get).group id).names
  | .subgroups =>
      let id ← argumentGroup .subgroups scope arguments
      return ofStrings ((← get).group id).subgroupNames
  | .showGroup => runShowGroup scope arguments
  | .delGroup => runDelGroup scope arguments
  | _ => return .nil

/-- Runs a builtin function other than `reload`. -/
def run (environment : Environment) (scope : Scope) (function : Builtin)
    (arguments : List Value) : Access Value := do
  match function.runPure? (← get).store arguments with
  | some result => ofValue result
  | none => function.runAccess environment scope arguments

end GroupScript.Builtin

namespace GroupScript

/-- The circle number. -/
def circleNumber : Float := 3.14159265358979323846

/-- The base of the natural logarithm. -/
def naturalBase : Float := 2.71828182845904523536

/-- The version that scripts can read. -/
def versionText : String := "0.1.0"

/-- The builtin functions of the general group. -/
def generalBuiltins : List Builtin :=
  [.len, .range, .min, .max, .sum, .str, .repr, .join, .split, .format, .int, .float, .type,
    .isGroup, .callable, .abs, .help, .group, .names, .subgroups, .showGroup, .delGroup, .reload]

/-- The builtin functions of the group for mathematics. -/
def mathBuiltins : List Builtin :=
  [.sqrt, .exp, .log, .log10, .sin, .cos, .tan, .floor, .ceil, .pow]

/-- A group with builtin functions bound under their names. -/
def Group.withBuiltins (group : Group) (functions : List Builtin) : Group :=
  functions.foldl (fun group function =>
    group.set function.name (.native (.builtin function))) group

/-- Changes one of the core groups. -/
def Workspace.modifyCore (workspace : Workspace) (name : String) (change : Group → Group) :
    Workspace :=
  match workspace.coreGroup? name with
  | some id => workspace.modifyGroup id change
  | none => workspace

/-- A workspace with the builtin functions and constants in its core groups. -/
def Workspace.standard : Workspace :=
  ((Workspace.empty.modifyCore "_sys" (·.setConstant "version" (.string versionText))).modifyCore
    "_builtin" (·.withBuiltins generalBuiltins)).modifyCore "_math" fun group =>
      ((group.setConstant "pi" (.float circleNumber)).setConstant "e"
        (.float naturalBase)).withBuiltins mathBuiltins

end GroupScript
