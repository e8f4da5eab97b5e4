import GroupScript.Interpreter.Call

/-!
# Running statements

Each kind of statement is run by a function over an interpreter for what is nested inside it.  The interpreter itself
is built from them in levels: at each level one more layer of nesting can be run, and with no level left a run is cut
off.  More levels never change a run that came to its end.
-/

namespace GroupScript

namespace Interpreter

/-- What a loop does after one run of its body: the signal of the loop, or nothing if it goes on. -/
def afterBody : Signal → Option Signal
  | .breakLoop => some .normal
  | .leave value => some (.leave value)
  | .normal | .continueLoop => none

/-- Repeats a body while a condition is true, at most as often as the number says. -/
def repeatWhile (condition : Action Value) (body : Action Signal) : Nat → Action Signal
  | 0 => throw .exhausted
  | bound + 1 => do
      if (← condition).isTrue then
        match afterBody (← body) with
        | some signal => return signal
        | none => repeatWhile condition body bound
      else return .normal

/-- Binds the variable of a loop. -/
def bindItem (scope : Scope) (name : String) (item : Value) : Action Unit := do
  Action.ofAccess (Workspace.requireAssignable ⟨scope.localGroup, name⟩ name)
  modify (·.setMember scope.localGroup name item)

/-- Runs a body for each item of a list. -/
def repeatFor (scope : Scope) (name : String) (body : Action Signal) : List Value → Action Signal
  | [] => return .normal
  | item :: rest => do
      bindItem scope name item
      match afterBody (← body) with
      | some signal => return signal
      | none => repeatFor scope name body rest

/-- The items that a loop runs through: those of a list, the characters of a text, or the names of a group. -/
def iterable (store : Store) : Value → Except Error (List Value)
  | .list items => .ok items
  | .string text => .ok (text.toList.map fun c => .string (String.ofList [c]))
  | .group id => .ok ((store.group id).names.map .string)
  | value => .error (.invalidTarget (.notIterable value.kind))

/-- The items that a value is printed as. -/
def printItems : Value → List Value
  | .list items => items
  | value => [value]

/-- The line that prints values. -/
def printLine (store : Store) (items : List Value) : String :=
  String.ofList (Text.joinWith [' '] (items.map store.chars) ++ ['\n'])

/-- Evaluates several expressions in order. -/
def evaluateAll (evaluate : Code → Action Value) : List Code → Action (List Value)
  | [] => return []
  | code :: rest => do
      let value ← evaluate code
      return value :: (← evaluateAll evaluate rest)

/-- Evaluates the defaults of a procedure in order. -/
def evaluateDefaults (evaluate : Code → Action Value) :
    List (String × Code) → Action (List (String × Value))
  | [] => return []
  | (name, code) :: rest => do
      let value ← evaluate code
      return (name, value) :: (← evaluateDefaults evaluate rest)

/-- Puts a value into a slot, or into the list that the slot holds if there are indices. -/
def assignInto (slot : Slot) (name : String) (indices : List Value) (value : Value) :
    Action Unit := do
  if indices.isEmpty then modify (·.setMember slot.group slot.name value)
  else
    match ((← get).group slot.group).get? slot.name with
    | none => fail (Error.unbound slot.name)
    | some (.defined _) => fail (.invalidTarget (.definedAssigned name))
    | some stored => do
        let stored ← ofResult (Value.replaceAt value indices stored)
        modify (·.setMember slot.group slot.name stored)

/-- Assigns a value to a target: first the indices are evaluated, then the value, then the target is resolved. -/
def assign (evaluate : Code → Action Value) (scope : Scope) (target : Target) (code : Code) :
    Action Unit := do
  let indices ← evaluateAll evaluate target.path.flatten
  let value ← evaluate code
  let slot ← Action.ofAccess (Workspace.bindingSlot scope target.name none)
  Action.ofAccess (Workspace.requireAssignable slot target.name)
  assignInto slot target.name indices value

/-- Defines a variable whose expression is evaluated at every reading. -/
def define (scope : Scope) (name : String) (code : Code) : Action Unit := do
  let id ← Action.newDefinition code
  Action.ofAccess (Workspace.bind scope name (.defined id) none)

/-- Defines a procedure. -/
def defineProcedure (evaluate : Code → Action Value) (scope : Scope) (signature : Signature)
    (doc : Option String) (body : List Statement) : Action Unit := do
  let defaults ← evaluateDefaults evaluate signature.defaults
  let procedure : Procedure := ⟨signature.name, signature.params, defaults, doc, body⟩
  let id ← Action.newProcedure procedure
  Action.ofAccess (Workspace.bind scope signature.name (.procedure id) none)

/-- Runs the body of the first branch whose condition is true. -/
def choose (evaluate : Code → Action Value) (block : List Statement → Action Signal) :
    List (Code × List Statement) → Action Signal
  | [] => return .normal
  | (condition, body) :: rest => do
      if (← evaluate condition).isTrue then block body else choose evaluate block rest

/-- Deletes names in order. -/
def deleteAll (scope : Scope) : List String → Action Unit
  | [] => return
  | name :: rest => do
      Action.ofAccess (Workspace.delete scope name)
      deleteAll scope rest

/-- Imports modules in order, by a way to import one. -/
def importAllBy (imports : Import → Bool → Action GroupId) : List Import → Action Unit
  | [] => return
  | item :: rest => do
      let _ ← imports item false
      importAllBy imports rest

/-- Imports modules in order. -/
def importAll (environment : Environment) (inner : Interpreter) (scope : Scope) : List Import → Action Unit :=
  importAllBy (inner.importModule environment scope)

/-- The value of an expression that may be missing. -/
def optional (evaluate : Code → Action Value) : Option Code → Action (Option Value)
  | none => return none
  | some code => return some (← evaluate code)

/-- Evaluates code over an interpreter for what is nested inside. -/
def evaluateWith (environment : Environment) (inner : Interpreter) (code : Code) (scope : Scope) :
    Action Value :=
  (inner.host environment scope).run code

/-- Runs a statement by ways to evaluate code, to run blocks and to import modules.  The number bounds how often a loop
repeats. -/
def executeBy (evaluate : Code → Action Value) (block : List Statement → Action Signal)
    (imports : List Import → Action Unit) (bound : Nat) (statement : Statement) (scope : Scope) : Action Signal := do
  match statement with
  | .evaluate code _ =>
      let _ ← evaluate code
      return .normal
  | .assign target code =>
      assign evaluate scope target code
      return .normal
  | .define name code =>
      define scope name code
      return .normal
  | .procedure signature doc body =>
      defineProcedure evaluate scope signature doc body
      return .normal
  | .choose branches => choose evaluate block branches
  | .loop condition body => repeatWhile (evaluate condition) (block body) bound
  | .iterate name items body =>
      let value ← evaluate items
      let items ← ofResult (iterable (← get).store value)
      repeatFor scope name (block body) items
  | .attempt body handler =>
      match ← (block body).caught with
      | .ok signal => return signal
      | .error _ => block handler
  | .delete names =>
      deleteAll scope names
      return .normal
  | .print items =>
      let value ← optional evaluate items
      let items := (value.map printItems).getD []
      modify fun workspace => workspace.write (printLine workspace.store items)
      return .normal
  | .leave values => return .leave ((← optional evaluate values).getD .nil)
  | .breakLoop => return .breakLoop
  | .continueLoop => return .continueLoop
  | .importModules items =>
      imports items
      return .normal

/-- Runs a statement over an interpreter for what is nested inside. -/
def executeWith (environment : Environment) (inner : Interpreter) (bound : Nat)
    (statement : Statement) (scope : Scope) : Action Signal :=
  executeBy (fun code => inner.evaluateWith environment code scope) (inner.block scope)
    (inner.importAll environment scope) bound statement scope

/-- The interpreter with a number of levels. -/
def ofLevels (environment : Environment) : Nat → Interpreter
  | 0 => spent
  | levels + 1 =>
      { execute := fun statement scope =>
          (ofLevels environment levels).executeWith environment levels statement scope
        evaluate := fun code scope =>
          (ofLevels environment levels).evaluateWith environment code scope }

end Interpreter

end GroupScript
