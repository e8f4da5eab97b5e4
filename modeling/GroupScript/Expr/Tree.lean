import GroupScript.Value.Basic

/-!
# Expression trees

The tree that an expression text denotes.  A dotted name is one leaf; parentheses leave no trace unless
they write a list.
-/

namespace GroupScript

/-- An argument of a call, given by position or by keyword. -/
inductive Argument (α : Type)
  | positional (value : α)
  | keyword (name : String) (value : α)

/-- An expression. -/
inductive Expr
  | const (value : Value)
  | name (text : String)
  | list (items : List Expr)
  | index (target : Expr) (indices : List Expr)
  | call (function : Expr) (arguments : List (Argument Expr))
  | unary (op : UnaryOp) (operand : Expr)
  | binary (op : BinaryOp) (left right : Expr)
  | and (left right : Expr)
  | or (left right : Expr)
  deriving Inhabited

/-- Whether an argument is given by keyword. -/
def Argument.isKeyword {α : Type} : Argument α → Bool
  | .positional _ => false
  | .keyword _ _ => true

end GroupScript
