import GroupScript.Settings.Document
import GroupScript.Shell.Invocation
import GroupScript.Source.Input

/-!
# Toolkits

What the shell takes from elsewhere: how the arguments of the command line and documents are understood, how lines are
typed, and what the interpreter asks of its surroundings.
-/

namespace GroupScript

/-- What the shell takes from elsewhere. -/
structure Toolkit where
  /-- Understands arguments, or says what is wrong with them. -/
  invocation : List String → Except String Invocation
  document : List Char → Option Document
  /-- Reads lines that are typed on standard input.  Lines to which there is an objection under their prompt are
  reported and not given. -/
  typing : (objection? : String → List Char → Option String) → (standardInput : String) → Reader
  /-- What tells the names of procedure calls apart. -/
  callId : Nat → String
  /-- Fills a template with texts. -/
  fill : List Char → List (List Char) → List Char

end GroupScript
