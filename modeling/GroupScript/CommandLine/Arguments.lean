import GroupScript.Shell.Invocation
import GroupScript.Text.Pieces

/-!
# Arguments

The arguments of the command line.  Short options can be written together, and the value of an option is the rest of its
argument or the next one.
-/

namespace GroupScript.CommandLine

/-- Why arguments cannot be understood. -/
inductive ArgumentFault
  | unknown (argument : String)
  | missingValue (option : String)
  | unexpectedValue (option : String)
  | repeated (option : String)
  deriving DecidableEq, Repr

/-- The wording of a fault in the arguments. -/
def ArgumentFault.text : ArgumentFault → String
  | unknown argument => "unexpected argument '" ++ argument ++ "' found"
  | missingValue option => "a value is required for '" ++ option ++ "' but none was supplied"
  | unexpectedValue option => "unexpected value for '" ++ option ++ "' found"
  | repeated option => "the argument '" ++ option ++ "' cannot be used multiple times"

/-- The options. -/
inductive CommandOption
  | command
  | path
  | interactive
  deriving DecidableEq, Repr

namespace CommandOption

/-- The long name of an option. -/
def name : CommandOption → String
  | command => "--command"
  | path => "--path"
  | interactive => "--interactive"

/-- The option of a letter. -/
def ofLetter? : Char → Option CommandOption
  | 'c' => some command
  | 'p' => some path
  | 'i' => some interactive
  | _ => none

/-- The option of a long name. -/
def ofName? (text : List Char) : Option CommandOption :=
  [command, path, interactive].find? fun option => option.name.toList == text

end CommandOption

namespace Arguments

/-- Takes over an option that has a value, or the flag. -/
def give (invocation : Invocation) (option : CommandOption) (value : String) :
    Except ArgumentFault Invocation :=
  match option with
  | .command =>
      if invocation.command.isSome then .error (.repeated option.name)
      else .ok { invocation with command := some value }
  | .path => .ok { invocation with directories := invocation.directories ++ [value] }
  | .interactive =>
      if invocation.interactive then .error (.repeated option.name)
      else .ok { invocation with interactive := true }

/-- What one argument asks for: an invocation that is complete so far, or one that needs a value for an option. -/
inductive Progress
  | complete (invocation : Invocation)
  | waiting (invocation : Invocation) (option : CommandOption)

/-- Takes over options given by letters. -/
def letters (invocation : Invocation) : List Char → Except ArgumentFault Progress
  | [] => .ok (.complete invocation)
  | c :: rest => do
      match CommandOption.ofLetter? c, rest with
      | none, _ => throw (.unknown (String.ofList ['-', c]))
      | some .interactive, rest => letters (← give invocation .interactive "") rest
      | some option, [] => return .waiting invocation option
      | some option, '=' :: value => return .complete (← give invocation option (String.ofList value))
      | some option, value => return .complete (← give invocation option (String.ofList value))

/-- Takes over an option given by its long name, with a value after an equals sign if there is one. -/
def long (invocation : Invocation) (argument : List Char) : Except ArgumentFault Progress := do
  let word := argument.takeWhile (· != '=')
  let value := argument.dropWhile (· != '=')
  match CommandOption.ofName? word, value with
  | none, _ => throw (.unknown (String.ofList word))
  | some .interactive, [] => return .complete (← give invocation .interactive "")
  | some .interactive, _ :: _ => throw (.unexpectedValue CommandOption.interactive.name)
  | some option, [] => return .waiting invocation option
  | some option, _ :: value => return .complete (← give invocation option (String.ofList value))

/-- Whether an argument is an option rather than a value. -/
def isOption (argument : List Char) : Bool :=
  Text.startsWith ['-'] argument && argument != ['-']

/-- Takes over one argument. -/
def one (invocation : Invocation) (argument : String) : Except ArgumentFault Progress :=
  let chars := argument.toList
  if Text.startsWith ['-', '-'] chars then long invocation chars
  else if isOption chars then letters invocation (chars.drop 1)
  else .ok (.complete { invocation with files := invocation.files ++ [argument] })

/-- Takes over arguments in order.  After two hyphens all arguments are files. -/
def arguments : Progress → List String → Except ArgumentFault Invocation
  | .complete invocation, [] => .ok invocation
  | .waiting _ option, [] => .error (.missingValue option.name)
  | .complete invocation, argument :: rest =>
      if argument = "--" then .ok { invocation with files := invocation.files ++ rest }
      else do arguments (← one invocation argument) rest
  | .waiting invocation option, argument :: rest =>
      if isOption argument.toList then .error (.missingValue option.name)
      else do arguments (.complete (← give invocation option argument)) rest

/-- The invocation that arguments describe, or what is wrong with them. -/
def ofArguments (list : List String) : Except String Invocation :=
  (arguments (.complete {}) list).mapError ArgumentFault.text

end Arguments

end GroupScript.CommandLine
