import GroupScript.Session
import GroupScript.Shell.Toolkit
import GroupScript.Source.Brackets

/-!
# The shell

The shell runs files, then a command, and then the statements of standard input, all in one session.  A failing file
or command ends it; a failing statement of standard input is reported, and the next one runs.
-/

namespace GroupScript

/-- What the shell finds around it. -/
structure Surroundings where
  files : Files
  /-- The path of the settings document, which need not exist. -/
  settingsFile : Option String
  /-- Directories with modules, divided by colons. -/
  searchPath : Option String
  /-- The text of standard input. -/
  standardInput : String

/-- What a run of the shell leaves behind. -/
structure Transcript where
  output : String := ""
  errors : String := ""
  code : Nat := 0
  deriving DecidableEq, Repr, Inhabited

/-- A failure of the shell: what it was about to do, and why that failed. -/
structure ShellFailure where
  context : String
  cause : String
  deriving DecidableEq, Repr, Inhabited

/-- A text whose lines are set in. -/
def setIn (text : String) : String :=
  Text.joinStrings "\n" ((Text.partsAt '\n' text).map ("    " ++ ·))

/-- The report of a failure. -/
def ShellFailure.report (failure : ShellFailure) : String :=
  "Error: " ++ failure.context ++ "\n\nCaused by:\n" ++ setIn failure.cause ++ "\n"

/-- A step of the shell. -/
abbrev Shell := EStateM ShellFailure Session

namespace Shell

/-- The wording of the reason why a computation ended without a value. -/
def haltText : Halt → String
  | .failure error => error.message
  | .exhausted => "the run was cut off"

/-- A step of a session, with what it is done for. -/
def inContext {α : Type} (context : String) (action : Run Session α) : Shell α := fun session =>
  match action session with
  | .ok value session => .ok value session
  | .error halt session => .error ⟨context, haltText halt⟩ session

/-- Prints a value on a line of its own, if there is one. -/
def printValue (session : Session) : Option Value → Session
  | none | some .nil => session
  | some value =>
      let workspace := session.workspace
      { session with workspace := workspace.write (workspace.store.text value ++ "\n") }

/-- Runs files in order. -/
def runFiles (interpreter : Interpreter) (files : Files) : List String → Shell Unit
  | [] => return
  | file :: rest => do
      let _ ← inContext ("Failed to run " ++ file) (Session.runFile interpreter files file)
      runFiles interpreter files rest

/-- Runs a command and prints its value. -/
def runCommand (interpreter : Interpreter) : Option String → Shell Unit
  | none => return
  | some command => do
      let value ← inContext "Failed to run command" (Session.eval interpreter command)
      modify (printValue · value)

/-- The objection to a line that is typed.  The brackets of a line that starts a statement, under the primary prompt,
are checked. -/
def objection? (prompt asked : String) (line : List Char) : Option String :=
  if asked = prompt then (Source.bracketFault? line).map fun fault => " - " ++ fault.text else none

/-- Takes what the reader has reported since the last time. -/
def takeNotices : Run Session String :=
  modifyGet fun session =>
    (String.join session.input.notices.toList, { session with input := { session.input with notices := #[] } })

/-- Runs the statements of a reader, prints their values, and gives the reports of failures.  The number bounds how
many statements there are. -/
def dialogue (interpreter : Interpreter) : Nat → String → Run Session String
  | 0, _ => throw .exhausted
  | bound + 1, errors => do
      let answer ← Session.answerNext interpreter
      let errors := errors ++ (← takeNotices)
      match answer with
      | none => return errors
      | some (.ok value) => do
          modify (printValue · value)
          dialogue interpreter bound errors
      | some (.error error) => dialogue interpreter bound (errors ++ error.message ++ "\n")

/-- Runs the statements of standard input. -/
def interact (toolkit : Toolkit) (interpreter : Interpreter) (standardInput : String) : Shell String := do
  let prompt := (← get).settings.prompt
  inContext "Failed to read statements" do
    Session.setReader (toolkit.typing (objection? prompt) standardInput)
    dialogue interpreter ((← get).input.unread + 1) ""

/-- The settings of the settings document, if it exists. -/
def storedSettings (toolkit : Toolkit) (surroundings : Surroundings) : Except ShellFailure Settings :=
  match surroundings.settingsFile with
  | none => .ok {}
  | some path =>
      if surroundings.files.isFile path then
        match surroundings.files path with
        | .error fault => .error ⟨"Failed to read " ++ path, fault.text⟩
        | .ok text =>
            match (toolkit.document text.toList).bind Settings.ofDocument? with
            | some settings => .ok settings
            | none => .error ⟨"Failed to parse " ++ path, "invalid settings"⟩
      else .ok {}

/-- The settings of a run.  Directories of the command line go first, then those around the shell, then the stored
ones. -/
def settings (toolkit : Toolkit) (invocation : Invocation) (surroundings : Surroundings) :
    Except ShellFailure Settings := do
  let stored ← storedSettings toolkit surroundings
  let around := (surroundings.searchPath.map (Text.partsAt ':')).getD []
  return { stored with
    path := invocation.directories ++ around ++ stored.path
    interactive := invocation.interactive || stored.interactive }

/-- Carries out an invocation in a session and gives the reports of failures. -/
def carryOut (toolkit : Toolkit) (invocation : Invocation) (surroundings : Surroundings) (interpreter : Interpreter) :
    Shell String := do
  runFiles interpreter surroundings.files invocation.files
  runCommand interpreter invocation.command
  let interactive := (← get).settings.interactive
  if interactive || (invocation.files.isEmpty && invocation.command.isNone) then
    interact toolkit interpreter surroundings.standardInput
  else return ""

/-- Runs an invocation with a number of interpreter levels. -/
def run (toolkit : Toolkit) (levels : Nat) (invocation : Invocation) (surroundings : Surroundings) : Transcript :=
  match settings toolkit invocation surroundings with
  | .error failure => { errors := failure.report, code := 1 }
  | .ok settings =>
      let environment : Environment :=
        { files := surroundings.files
          callId := toolkit.callId
          fill := toolkit.fill
          maxDepth := settings.maxDepth }
      let interpreter := Interpreter.ofLevels environment levels
      match carryOut toolkit invocation surroundings interpreter (Session.start settings) with
      | .ok errors session => { output := session.workspace.output, errors }
      | .error failure session =>
          { output := session.workspace.output, errors := failure.report, code := 1 }

/-- What a run leaves behind whose arguments cannot be understood. -/
def refusal (fault : String) : Transcript :=
  { errors := "error: " ++ fault ++ "\n", code := 2 }

/-- Runs the shell with arguments. -/
def runArguments (toolkit : Toolkit) (levels : Nat) (arguments : List String) (surroundings : Surroundings) :
    Transcript :=
  match toolkit.invocation arguments with
  | .ok invocation => run toolkit levels invocation surroundings
  | .error fault => refusal fault

end Shell

end GroupScript
