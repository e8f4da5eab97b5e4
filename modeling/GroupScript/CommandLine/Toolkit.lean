import GroupScript.CommandLine.Arguments
import GroupScript.CommandLine.Editor
import GroupScript.CommandLine.Json
import GroupScript.CommandLine.Template
import GroupScript.Shell.Toolkit
import GroupScript.Text.Quoted

/-!
# The toolkit of the command line
-/

namespace GroupScript.CommandLine

/-- A number in eight hexadecimal digits, or more if it is large. -/
def callId (number : Nat) : String :=
  let digits := Text.hexDigits number
  String.ofList (List.replicate (8 - digits.length) '0' ++ digits)

/-- What the command line gives the shell. -/
def toolkit : Toolkit where
  invocation := Arguments.ofArguments
  document := Json.ofText?
  typing := fun objection? standardInput =>
    { lines := Text.endedLines standardInput.toList, rule := typedRule objection? }
  callId := callId
  fill := fill

end GroupScript.CommandLine
