import GroupScript.Interpreter.Modules

/-!
# Names and calls

A procedure runs in a group of its own, which hangs in the root under a reserved name while the call lasts.  A
failure inside a procedure is reported and ends the call without a value.
-/

namespace GroupScript

/-- The bindings of the keyword parameters: the defaults, each replaced by the argument of its name, and after
them the arguments that no default belongs to. -/
def keywordBindings (defaults given : List (String × Value)) : List (String × Value) :=
  given.foldl (fun bindings item => Dictionary.replace item.1 item.2 bindings) defaults

/-- A group with names bound in order. -/
def Group.setAll (group : Group) (bindings : List (String × Value)) : Group :=
  bindings.foldl (fun group item => group.set item.1 item.2) group

/-- The group in which a call of a procedure runs. -/
def Procedure.callGroup (procedure : Procedure) (arguments : List Value)
    (keywords : List (String × Value)) : Group :=
  ({} : Group).setAll
    (procedure.params.zip arguments ++ keywordBindings procedure.defaults keywords)

/-- A list of one value stands for that value. -/
def unwrapSingle : Value → Value
  | .list [value] => value
  | value => value

namespace Interpreter

/-- Hangs the group of a call in the root and gives its name and its scope.  Whatever the root had under that name is
lost. -/
def enterCall (environment : Environment) (procedure : Procedure) (group : Group) : Action (String × Scope) := do
  let id ← Action.newGroup group
  let name ← modifyGet fun workspace =>
    let name := environment.callName procedure.name workspace.calls
    (name, { workspace.setMember workspace.root name (.group id) with calls := workspace.calls + 1 })
  return (name, ← Action.isolatedScope id)

/-- Takes the group of a call off the root. -/
def leaveCall (name : String) : Action Unit :=
  modify fun workspace => workspace.modifyGroup workspace.root (·.remove name)

/-- The value of a call whose body has run. -/
def callResult (procedure : Procedure) : Except Error Signal → Action Value
  | .ok (.leave value) => return unwrapSingle value
  | .ok .normal => return .nil
  | .ok signal => do
      modify fun workspace => workspace.warn ("ignoring " ++ workspace.store.signalText signal ++
        " outside of loop in " ++ procedure.name)
      return .nil
  | .error error => do
      modify fun workspace =>
        (workspace.logError ("error in procedure " ++ procedure.name ++ " - " ++
          error.message)).write
            ("Error in procedure " ++ procedure.name ++ ": " ++ error.message ++ "\n")
      return .nil

/-- Calls a procedure. -/
def callProcedure (environment : Environment) (inner : Interpreter) (procedure : Procedure)
    (arguments : List Value) (keywords : List (String × Value)) : Action Value := do
  if arguments.length ≠ procedure.params.length then
    fail (.unexpectedArguments
      (.wrongPositional procedure.name procedure.params.length arguments.length))
  if environment.maxDepth ≤ (← get).depth then
    fail (.evaluationFailure (.callDepth procedure.name))
  let (name, scope) ← enterCall environment procedure (procedure.callGroup arguments keywords)
  let outcome ← (inner.block scope procedure.body).deeper.caught
  let value ← callResult procedure outcome
  leaveCall name
  return value

/-- Changes a group. -/
def changeGroup (group : GroupId) (change : Group → Group) : Action Unit :=
  modify (·.modifyGroup group change)

/-- Carries out a program of the surroundings in a scope, by ways to evaluate code, to import modules and to change
groups. -/
def fulfilBy (evaluate : Code → Action Value) (imports : Import → Bool → Action GroupId)
    (changes : GroupId → (Group → Group) → Action Unit) (scope : Scope) : HostProgram → Action Value
  | .done result => ofResult result
  | .look next => do
      let workspace ← get
      fulfilBy evaluate imports changes scope (next scope workspace)
  | .resolve name next => do
      let found ← (Action.ofAccess (Workspace.resolve scope name)).caught
      fulfilBy evaluate imports changes scope (next found)
  | .newGroup group next => do
      let id ← Action.newGroup group
      fulfilBy evaluate imports changes scope (next id)
  | .newProcedure procedure next => do
      let id ← Action.newProcedure procedure
      fulfilBy evaluate imports changes scope (next id)
  | .newDefinition code next => do
      let id ← Action.newDefinition code
      fulfilBy evaluate imports changes scope (next id)
  | .change group change next => do
      changes group change
      fulfilBy evaluate imports changes scope next
  | .write text next => do
      modify (·.write text)
      fulfilBy evaluate imports changes scope next
  | .log entry next => do
      modify fun workspace => { workspace with log := workspace.log.push entry }
      fulfilBy evaluate imports changes scope next
  | .evaluate code next => do
      let result ← (evaluate code).caught
      fulfilBy evaluate imports changes scope (next result)
  | .importModule name reload next => do
      let result ← (imports ⟨name, none, none⟩ reload).caught
      fulfilBy evaluate imports changes scope (next result)

/-- Carries out a program of the surroundings. -/
def fulfil (environment : Environment) (inner : Interpreter) (scope : Scope) : HostProgram → Action Value :=
  fulfilBy (inner.evaluate · scope) (inner.importModule environment scope) changeGroup scope

/-- Loads a module again, by a way to import modules. -/
def reloadBy (imports : Import → Bool → Action GroupId) : List Value → Action Value
  | [argument] => do
      let name ← ofResult argument.asString
      return .group (← imports ⟨name, none, none⟩ true)
  | arguments => ofResult (Builtin.wrongCount .reload 1 arguments)

/-- Calls a native function, by ways to import modules and to carry out programs of the surroundings. -/
def callNativeBy (environment : Environment) (imports : Import → Bool → Action GroupId)
    (fulfils : HostProgram → Action Value) (scope : Scope) (function : Native) (arguments : List Value) :
    Action Value := do
  match function with
  | .builtin .reload => reloadBy imports arguments
  | .builtin function => Action.ofAccess (function.run environment scope arguments)
  | .host name =>
      match environment.function? name with
      | some function => fulfils (function.run arguments)
      | none => fail (.invalidTarget (.notCallable .native))

/-- Calls a native function. -/
def callNative (environment : Environment) (inner : Interpreter) (scope : Scope) : Native → List Value → Action Value :=
  callNativeBy environment (inner.importModule environment scope) (inner.fulfil environment scope) scope

/-- Calls a value, by a way to call native functions. -/
def callBy (environment : Environment) (inner : Interpreter) (native : Native → List Value → Action Value)
    (function : Value) (arguments : List Value) (keywords : List (String × Value)) : Action Value := do
  match function with
  | .procedure id =>
      let procedure := (← get).store.procedure id
      inner.callProcedure environment procedure arguments keywords
  | .native function =>
      if keywords.isEmpty then native function arguments
      else fail (.unexpectedArguments (.keywordsRefused function.name))
  | value => fail (.invalidTarget (.notCallable value.kind))

/-- Calls a value. -/
def call (environment : Environment) (inner : Interpreter) (scope : Scope) :
    Value → List Value → List (String × Value) → Action Value :=
  inner.callBy environment (inner.callNative environment scope)

/-- The value of a name; the code of a defined variable is evaluated. -/
def lookup (environment : Environment) (inner : Interpreter) (scope : Scope) (name : String) :
    Action Value := do
  match ← Action.ofAccess (Workspace.resolve scope name) with
  | .defined id =>
      if environment.maxDepth ≤ (← get).depth then
        fail (.evaluationFailure (.readDepth name))
      let code := (← get).store.definition id
      (inner.evaluate code scope).deeper
  | value => return value

/-- What the stack machine asks of a scope. -/
def host (environment : Environment) (inner : Interpreter) (scope : Scope) : Host Workspace where
  lookup := inner.lookup environment scope
  call := inner.call environment scope
  store := Workspace.store

end Interpreter

end GroupScript
