import GroupScript.Builtin.Lists

/-!
# Builtin functions on texts

Texts of values, joining and splitting, and templates that are filled with the texts of arguments.
-/

namespace GroupScript.Builtin

/-- The plain text of a value. -/
def runStr (store : Store) : List Value → Except Error Value
  | [value] => .ok (.string (store.text value))
  | arguments => wrongCount .str 1 arguments

/-- The quoted text of a value. -/
def runRepr (store : Store) : List Value → Except Error Value
  | [value] => .ok (.string (store.quoted value))
  | arguments => wrongCount .repr 1 arguments

/-- The texts of the items of a list with a separator between each two. -/
def runJoin (store : Store) : List Value → Except Error Value
  | [.string separator, .list items] =>
      .ok (.string (String.ofList
        (Text.joinWith separator.toList (items.map store.chars))))
  | _ => .error (.unexpectedArguments .joinArguments)

/-- The parts of a text between the occurrences of a separator. -/
def splitText (separator text : String) : List Value :=
  (Text.pieces separator.toList text.toList).map fun piece => .string (String.ofList piece)

/-- The parts of a text between the occurrences of a separator. -/
def runSplit : List Value → Except Error Value
  | [.string separator, .string text] =>
      if separator.isEmpty then .error (.unexpectedArguments .splitArguments)
      else .ok (.list (splitText separator text))
  | _ => .error (.unexpectedArguments .splitArguments)

/-- A template filled with the texts of values, in the way given. -/
def runFormat (fill : List Char → List (List Char) → List Char) (store : Store) : List Value → Except Error Value
  | [] => .error (.unexpectedArguments .formatMissing)
  | template :: arguments => do
      let text ← template.asString
      return .string (String.ofList (fill text.toList (arguments.map store.chars)))

end GroupScript.Builtin
