import GroupScript.Interpreter.Statements

/-!
# Sessions

A session runs statements in the root group, one after the other, from texts, files and a reader of lines.  It is the
way in which programs use the language.
-/

namespace GroupScript

/-- A session: the workspace, the scope of its statements, and the input that is still to be run. -/
structure Session where
  workspace : Workspace
  scope : Scope
  input : Input
  settings : Settings
  deriving Inhabited

/-- The file name of texts that are run directly. -/
def textFile : String := "<string>"

namespace Session

/-- A new session. -/
def start (settings : Settings) : Session :=
  let workspace := { Workspace.standard with path := settings.path }.setExtension settings.extension
  let (scope, workspace) := workspace.isolatedScope workspace.root
  let input : Input :=
    { prompt := settings.prompt, continuationPrompt := settings.continuationPrompt }
  { workspace, scope, input, settings }

/-- Carries out an action on the workspace. -/
def act {α : Type} (action : Action α) : Run Session α := fun session =>
  match action session.workspace with
  | .ok value workspace => .ok value { session with workspace }
  | .error halt workspace => .error halt { session with workspace }

/-- Compiles the next statement of the input, or gives nothing at its end. -/
def compileNext : Run Session (Option Statement) := fun session =>
  match Compile.next session.scope ⟨session.input, session.workspace⟩ with
  | .ok statement desk => .ok statement { session with input := desk.input, workspace := desk.workspace }
  | .error halt desk => .error halt { session with input := desk.input, workspace := desk.workspace }

/-- Forgets the input that is still to be run. -/
def clearInput : Run Session Unit :=
  modify fun session => { session with input := session.input.clear }

/-- Runs a statement.  An expression gives its value, unless it is a command. -/
def execute (interpreter : Interpreter) (statement : Statement) : Run Session (Option Value) := do
  let scope := (← get).scope
  match statement with
  | .evaluate code false => return some (← act (interpreter.evaluate code scope))
  | statement =>
      match ← act (interpreter.execute statement scope) with
      | .normal => return none
      | signal => do
          act (modify fun workspace => workspace.warn ("ignoring " ++
            workspace.store.signalText signal ++ " outside of loop or procedure"))
          return none

/-- Runs a computation and forgets the input if it halts. -/
def clearingOnHalt {α : Type} (action : Run Session α) : Run Session α := fun session =>
  match action session with
  | .ok value session => .ok value session
  | .error halt session => .error halt { session with input := session.input.clear }

/-- Runs the statements of the input up to its end and gives the last value.  The number bounds how many there
are. -/
def runStatements (interpreter : Interpreter) : Nat → Option Value → Run Session (Option Value)
  | 0, _ => throw .exhausted
  | bound + 1, last => do
      match ← compileNext with
      | none => return last
      | some statement =>
          let value ← execute interpreter statement
          runStatements interpreter bound (value <|> last)

/-- Runs the input up to its end.  A failure ends the run, and the rest of the input is forgotten. -/
def run (interpreter : Interpreter) : Run Session (Option Value) := do
  let bound := (← get).input.unread + 1
  clearingOnHalt (runStatements interpreter bound none)

/-- Runs a text under a file name. -/
def evalAs (interpreter : Interpreter) (file text : String) : Run Session (Option Value) := do
  modify fun session => { session with input := session.input.pushText text.toList file }
  run interpreter

/-- Runs a text. -/
def eval (interpreter : Interpreter) (text : String) : Run Session (Option Value) :=
  evalAs interpreter textFile text

/-- Runs a file. -/
def runFile (interpreter : Interpreter) (files : Files) (path : String) :
    Run Session (Option Value) := do
  evalAs interpreter path (← ofResult (files.read path))

/-- Reads statements from a reader once the input runs out. -/
def setReader (reader : Reader) : Run Session Unit :=
  modify fun session => { session with input := { session.input with reader := some reader } }

/-- Runs the next statement of the input, whatever becomes of it; a failure forgets the input.  At the end of input
there is nothing to run. -/
def answerNext (interpreter : Interpreter) : Run Session (Option (Except Error (Option Value))) :=
  fun session =>
    let action : Run Session (Option (Option Value)) := do
      match ← compileNext with
      | none => return none
      | some statement => return some (← execute interpreter statement)
    match clearingOnHalt action session with
    | .ok none session => .ok none session
    | .ok (some value) session => .ok (some (.ok value)) session
    | .error (.failure error) session => .ok (some (.error error)) session
    | .error .exhausted session => .error .exhausted session

/-- Runs statements up to the end of input and gives the outcome of each.  A failing statement does not end the
run. The number bounds how many there are, and the list holds the outcomes so far, the last one first. -/
def answers (interpreter : Interpreter) :
    Nat → List (Except Error (Option Value)) → Run Session (List (Except Error (Option Value)))
  | 0, _ => throw .exhausted
  | bound + 1, done => do
      match ← answerNext interpreter with
      | none => return done.reverse
      | some answer => answers interpreter bound (answer :: done)

/-- Imports a module into the scope of the session. -/
def importModule (environment : Environment) (interpreter : Interpreter) (item : Import)
    (reload : Bool) : Run Session GroupId := do
  let scope := (← get).scope
  act (interpreter.importModule environment scope item reload)

/-- Calls the value of a name. -/
def call (environment : Environment) (interpreter : Interpreter) (name : String)
    (arguments : List Value) (keywords : List (String × Value)) : Run Session Value := do
  let scope := (← get).scope
  let function ← act (Action.ofAccess (Workspace.resolve scope name))
  act (interpreter.call environment scope function arguments keywords)

end Session

end GroupScript
