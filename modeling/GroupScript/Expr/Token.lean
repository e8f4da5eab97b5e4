import GroupScript.Decimal.Shortest
import GroupScript.Text.Quoted

/-!
# Tokens

The words, numbers, texts and marks that an expression is made of.
-/

namespace GroupScript

/-- A token of an expression. -/
inductive Token
  | none
  | bool (value : Bool)
  | int (value : Int64)
  | float (value : Float)
  | string (text : String)
  | name (text : String)
  | parenLeft
  | parenRight
  | bracketLeft
  | bracketRight
  | comma
  | dot
  | assign
  | plus
  | minus
  | star
  | starStar
  | slash
  | slashSlash
  | percent
  | eqEq
  | notEq
  | lt
  | le
  | gt
  | ge
  | and
  | or
  | not
  | isIn

/-- A token as diagnostics show it: texts in double quotes, all others as they are written. -/
def Token.text : Token → String
  | .none => "None"
  | .bool value => if value then "True" else "False"
  | .int value => String.ofList (Decimal.integerText value.toInt)
  | .float value => String.ofList (Decimal.floatText value)
  | .string text => String.ofList (Text.doubleQuoted text.toList)
  | .name text => text
  | .parenLeft => "("
  | .parenRight => ")"
  | .bracketLeft => "["
  | .bracketRight => "]"
  | .comma => ","
  | .dot => "."
  | .assign => "="
  | .plus => "+"
  | .minus => "-"
  | .star => "*"
  | .starStar => "**"
  | .slash => "/"
  | .slashSlash => "//"
  | .percent => "%"
  | .eqEq => "=="
  | .notEq => "!="
  | .lt => "<"
  | .le => "<="
  | .gt => ">"
  | .ge => ">="
  | .and => "and"
  | .or => "or"
  | .not => "not"
  | .isIn => "in"

end GroupScript
