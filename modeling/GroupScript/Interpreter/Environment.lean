import GroupScript.Files.Path
import GroupScript.Workspace.Basic

/-!
# What surrounds the interpreter

The program around the language offers files, functions and whole modules, makes up the names of procedure calls, and
fills templates.  None of this changes while scripts run, and nothing is assumed of it here.

A function of the surrounding program is a program that asks the interpreter for one thing after another and goes on
with the answers.  A module of the surrounding program is any group: one that is there already, or a new one.
-/

namespace GroupScript

/-- A program of the surroundings, by the first thing that it asks for and how it goes on. -/
inductive HostProgram
  /-- Ends with a value or an error. -/
  | done (result : Except Error Value)
  /-- Looks at the scope it was called from and at the workspace. -/
  | look (next : Scope → Workspace → HostProgram)
  /-- Resolves a name. -/
  | resolve (name : String) (next : Except Error Value → HostProgram)
  /-- Makes a new group. -/
  | newGroup (group : Group) (next : GroupId → HostProgram)
  /-- Makes a new procedure. -/
  | newProcedure (procedure : Procedure) (next : ProcedureId → HostProgram)
  /-- Makes a new defined variable. -/
  | newDefinition (code : Code) (next : DefinitionId → HostProgram)
  /-- Changes a group in any way. -/
  | change (group : GroupId) (change : Group → Group) (next : HostProgram)
  /-- Writes text. -/
  | write (text : String) (next : HostProgram)
  /-- Adds an entry to the log. -/
  | log (entry : LogEntry) (next : HostProgram)
  /-- Evaluates code, such as a call. -/
  | evaluate (code : Code) (next : Except Error Value → HostProgram)
  /-- Imports a module, which may be loaded anew. -/
  | importModule (name : String) (reload : Bool) (next : Except Error GroupId → HostProgram)

namespace HostProgram

instance : Inhabited HostProgram := ⟨.done (.ok .nil)⟩

/-- The code that calls a value with arguments. -/
def callCode (function : Value) (arguments : List Value) (keywords : List (String × Value)) : Code :=
  { instrs := .push function :: arguments.map .push ++ keywords.map (fun item => .push item.2) ++
      [.call arguments.length (keywords.map Prod.fst)]
    source := "" }

/-- Calls a value. -/
def call (function : Value) (arguments : List Value) (next : Except Error Value → HostProgram) : HostProgram :=
  .evaluate (callCode function arguments []) next

end HostProgram

/-- A function of the surrounding program. -/
structure HostFunction where
  doc : String
  run : List Value → HostProgram
  deriving Inhabited

/-- A module that the surrounding program provides in answer to a request: a group of the store, which may have
grown. -/
structure Supply (earlier : Store) where
  group : GroupId
  store : Store
  kept : earlier.Extends store
  present : group < store.groups.size

/-- The surroundings of an interpreter. -/
structure Environment where
  files : Files := fun _ => .error .absent
  /-- The functions that native values refer to by name. -/
  function? : String → Option HostFunction := fun _ => none
  /-- The module of a name, if the surrounding program provides one. -/
  load : String → (workspace : Workspace) → Except Error (Option (Supply workspace.store)) := fun _ _ => .ok none
  /-- What tells the name of a procedure call from those of other calls, by the number of the call. -/
  callId : Nat → String := toString
  /-- Fills a template with texts. -/
  fill : List Char → List (List Char) → List Char := fun template _ => template
  /-- How deep procedure calls and readings of defined variables may nest. -/
  maxDepth : Nat := 100
  deriving Inhabited

namespace Environment

/-- The documentation of a function of the surrounding program. -/
def functionDoc (environment : Environment) (name : String) : String :=
  ((environment.function? name).map HostFunction.doc).getD ""

/-- The name under which the group of a call hangs in the root. -/
def callName (environment : Environment) (procedure : String) (number : Nat) : String :=
  reservedStart ++ procedure ++ "_" ++ environment.callId number

end Environment

end GroupScript
