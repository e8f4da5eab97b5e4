import GroupScript.Interpreter.Basic

/-!
# Importing modules

A module is a file that runs once in a group of its own, or a group that the surrounding program provides.  Files go
first.  A module that is loaded is kept and used again, unless it is to be loaded anew.
-/

namespace GroupScript

/-- Compiles the next statement of an input. -/
def compileNext (scope : Scope) (input : Input) : Action (Option Statement × Input) :=
  fun workspace =>
    match Compile.next scope ⟨input, workspace⟩ with
    | .ok statement desk => .ok (statement, desk.input) desk.workspace
    | .error halt desk => .error halt desk.workspace

namespace Interpreter

/-- Runs the statements of an input up to its end.  The number bounds how many there are. -/
def runInput (inner : Interpreter) (scope : Scope) : Nat → Input → Action Unit
  | 0, _ => throw .exhausted
  | bound + 1, input => do
      let (next, input) ← compileNext scope input
      match next with
      | none => return
      | some statement =>
          match ← inner.execute statement scope with
          | .leave _ => modify (·.warn "ignoring return outside of procedure")
          | _ => pure ()
          inner.runInput scope bound input

/-- Runs the text of a file in a new group. -/
def runModule (inner : Interpreter) (path text : String) : Action GroupId := do
  let group ← Action.newGroup {}
  let scope ← Action.isolatedScope group
  let input := ({} : Input).pushText text.toList path
  inner.runInput scope (input.unread + 1) input
  return group

/-- Carries out an action that loads a module, and logs its failure. -/
def loggingFailure {α : Type} (name : String) (action : Action α) : Action α := do
  match ← action.caught with
  | .ok value => return value
  | .error error => do
      modify (·.logError ("failed to load module " ++ name ++ " - " ++ error.message))
      fail error

/-- Loads a module from a file or from the surrounding program. -/
def findModule (environment : Environment) (inner : Interpreter) (name : String) :
    Action LoadedModule := do
  let workspace ← get
  match environment.files.moduleFile? workspace.path name workspace.extension with
  | some path =>
      let text ← ofResult (environment.files.read path)
      return ⟨← loggingFailure name (inner.runModule path text), false⟩
  | none =>
      match ← ofResult (environment.load name workspace) with
      | some supply =>
          set { workspace with store := supply.store }
          return ⟨supply.group, true⟩
      | none => fail (.moduleNotFound name)

/-- Loads a module and registers it. -/
def loadModule (environment : Environment) (inner : Interpreter) (name : String) :
    Action GroupId := do
  let loaded ← inner.findModule environment name
  modify (·.register name loaded)
  return loaded.group

/-- Copies members of a module into the module group of a scope. -/
def copyMembers (scope : Scope) (source : String) (group : GroupId) : List String → Action Unit
  | [] => return
  | name :: rest => do
      match ((← get).group group).get? name with
      | some value => do
          modify (·.setMember scope.moduleGroup name value)
          copyMembers scope source group rest
      | none => fail (.unresolvedSymbol (.missingImport name source))

/-- The group of a module: the one that is registered, unless the module is to be loaded anew. -/
def moduleFor (environment : Environment) (inner : Interpreter) (source : String) (reload : Bool) :
    Action GroupId := do
  let workspace ← get
  match if reload then none else workspace.moduleGroup? source with
  | some group => return group
  | none => inner.loadModule environment source

/-- Binds a module in the module group of a scope, or copies members of it. -/
def bindImport (scope : Scope) (item : Import) (group : GroupId) : Action GroupId := do
  match item.members? with
  | none =>
      modify (·.setMember scope.moduleGroup (item.localName?.getD item.source) (.group group))
  | some names => copyMembers scope item.source group names
  return group

/-- Imports a module. -/
def importModule (environment : Environment) (inner : Interpreter) (scope : Scope)
    (item : Import) (reload : Bool) : Action GroupId := do
  let group ← inner.moduleFor environment item.source reload
  bindImport scope item group

end Interpreter

end GroupScript
