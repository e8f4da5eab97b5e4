import GroupScript.Store.Basic

/-!
# Values as texts

A value has three written forms.  The plain form is what `print` writes.  The quoted form differs from it
for strings only, which it puts in quotes; items of a list are in quoted form.  The detailed form names the
kind of each value and is used in diagnostics.
-/

namespace GroupScript

/-- The number of hexadecimal digits in the identity of a group. -/
def identityWidth : Nat := 12

/-- The identity of a group in hexadecimal digits of fixed width. -/
def identityText (id : GroupId) : String :=
  let digits := Text.hexDigits id
  "0x" ++ String.ofList (List.replicate (identityWidth - digits.length) '0' ++ digits)

namespace Store

/-- A group as a text: the number of its members and its identity. -/
def groupText (store : Store) (id : GroupId) : String :=
  "<Group: " ++ toString (store.group id).size ++ " items, id=" ++ identityText id ++ ">"

/-- A procedure as a text: its name and its positional parameters. -/
def procedureText (store : Store) (id : ProcedureId) : String :=
  let procedure := store.procedure id
  "<procedure " ++ procedure.name ++ "(" ++ Text.joinStrings ", " procedure.params ++ ")>"

mutual

/-- The plain form of a value. -/
def chars (store : Store) : Value → List Char
  | .nil => "None".toList
  | .bool value => if value then "True".toList else "False".toList
  | .int value => Decimal.integerText value.toInt
  | .float value => Decimal.floatValueText value
  | .string text => text.toList
  | .list items => '[' :: (Text.joinWith [',', ' '] (itemChars store items) ++ [']'])
  | .group id => (store.groupText id).toList
  | .procedure id => (store.procedureText id).toList
  | .native function => ("<builtin " ++ function.name ++ ">").toList
  | .defined id => ("<defvar " ++ (store.definition id).source ++ ">").toList

/-- The quoted forms of the items of a list. -/
def itemChars (store : Store) : List Value → List (List Char)
  | [] => []
  | .string text :: items => Text.singleQuoted text.toList :: itemChars store items
  | item :: items => chars store item :: itemChars store items

end

/-- The quoted form of a value. -/
def quotedChars (store : Store) : Value → List Char
  | .string text => Text.singleQuoted text.toList
  | value => store.chars value

/-- The plain form of a value, as a string. -/
def text (store : Store) (value : Value) : String :=
  String.ofList (store.chars value)

/-- The quoted form of a value, as a string. -/
def quoted (store : Store) (value : Value) : String :=
  String.ofList (store.quotedChars value)

mutual

/-- The detailed form of a value. -/
def detailedChars (store : Store) : Value → List Char
  | .nil => "Nil".toList
  | .bool value => if value then "Bool(true)".toList else "Bool(false)".toList
  | .int value => "Int(".toList ++ Decimal.integerText value.toInt ++ [')']
  | .float value => "Float(".toList ++ Decimal.floatText value ++ [')']
  | .string text => "String(".toList ++ Text.doubleQuoted text.toList ++ [')']
  | .list items =>
      "List([".toList ++ Text.joinWith [',', ' '] (detailedItems store items) ++ [']', ')']
  | .group id => (store.groupText id).toList
  | .procedure id => (store.procedureText id).toList
  | .native function => ("<builtin " ++ function.name ++ ">").toList
  | .defined id => ("<defvar " ++ (store.definition id).source ++ ">").toList

/-- The detailed forms of the items of a list. -/
def detailedItems (store : Store) : List Value → List (List Char)
  | [] => []
  | item :: items => detailedChars store item :: detailedItems store items

end

/-- The detailed form of a value, as a string. -/
def detailed (store : Store) (value : Value) : String :=
  String.ofList (store.detailedChars value)

/-- A signal in diagnostics. -/
def signalText (store : Store) : Signal → String
  | .normal => "Normal"
  | .continueLoop => "Continue"
  | .breakLoop => "Break"
  | .leave value => "Return(" ++ store.detailed value ++ ")"

end Store

end GroupScript
