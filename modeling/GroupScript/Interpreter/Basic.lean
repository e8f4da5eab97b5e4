import GroupScript.Builtin.Run
import GroupScript.Expr.Machine
import GroupScript.Interpreter.Environment
import GroupScript.Statement.Compile

/-!
# Actions of the interpreter

Statements and expressions call each other without end, so the functions that run them are written over an
interpreter for what is nested inside.  Here are the steps that they share.
-/

namespace GroupScript

/-- A step of the interpreter. -/
abbrev Action := Run Workspace

/-- Runs what is nested in a statement or an expression. -/
structure Interpreter where
  execute : Statement → Scope → Action Signal
  evaluate : Code → Scope → Action Value

/-- The interpreter that is cut off at once. -/
def Interpreter.spent : Interpreter where
  execute := fun _ _ => throw .exhausted
  evaluate := fun _ _ => throw .exhausted

namespace Action

/-- Carries out a computation on the workspace. -/
def ofAccess {α : Type} (access : Access α) : Action α := fun workspace =>
  match access workspace with
  | .ok value workspace => .ok value workspace
  | .error error workspace => .error (.failure error) workspace

/-- Carries out an action and gives its error as a value. -/
def caught {α : Type} (action : Action α) : Action (Except Error α) := fun workspace =>
  match action workspace with
  | .ok value workspace => .ok (.ok value) workspace
  | .error (.failure error) workspace => .ok (.error error) workspace
  | .error .exhausted workspace => .error .exhausted workspace

/-- Counts an action as one level of nesting, which ends in any case. -/
def deeper {α : Type} (action : Action α) : Action α := fun workspace =>
  match action { workspace with depth := workspace.depth + 1 } with
  | .ok value workspace => .ok value { workspace with depth := workspace.depth - 1 }
  | .error halt workspace => .error halt { workspace with depth := workspace.depth - 1 }

/-- Makes a new group. -/
def newGroup (group : Group) : Action GroupId :=
  modifyGet fun workspace => workspace.newGroup group

/-- Makes a new procedure. -/
def newProcedure (procedure : Procedure) : Action ProcedureId :=
  modifyGet fun workspace =>
    let (id, store) := workspace.store.newProcedure procedure
    (id, { workspace with store })

/-- Makes a new defined variable. -/
def newDefinition (code : Code) : Action DefinitionId :=
  modifyGet fun workspace =>
    let (id, store) := workspace.store.newDefinition code
    (id, { workspace with store })

/-- Makes a new scope on a group, in which imports are bound like all other names. -/
def isolatedScope (group : GroupId) : Action Scope :=
  modifyGet fun workspace => workspace.isolatedScope group

end Action

/-- Runs statements until one gives a signal other than the normal one. -/
def Interpreter.block (inner : Interpreter) (scope : Scope) : List Statement → Action Signal
  | [] => return .normal
  | statement :: rest => do
      match ← inner.execute statement scope with
      | .normal => inner.block scope rest
      | signal => return signal

end GroupScript
