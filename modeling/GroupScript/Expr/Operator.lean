/-!
# Operators

The unary and binary operators of expressions.  The short-circuit operators `and` and `or` are not among
them, because they decide whether their right side is evaluated at all.
-/

namespace GroupScript

/-- The operators with one operand. -/
inductive UnaryOp
  | neg
  | pos
  | not
  deriving DecidableEq, Repr, Inhabited

/-- The operators with two operands, both of which are always evaluated. -/
inductive BinaryOp
  | add
  | sub
  | mul
  | div
  | floorDiv
  | mod
  | pow
  | eq
  | ne
  | lt
  | le
  | gt
  | ge
  | isIn
  | notIn
  deriving DecidableEq, Repr, Inhabited

/-- The name of a unary operator in diagnostics. -/
def UnaryOp.name : UnaryOp → String
  | .neg => "Neg"
  | .pos => "Pos"
  | .not => "Not"

/-- The name of a binary operator in diagnostics. -/
def BinaryOp.name : BinaryOp → String
  | .add => "Add"
  | .sub => "Sub"
  | .mul => "Mul"
  | .div => "Div"
  | .floorDiv => "FloorDiv"
  | .mod => "Mod"
  | .pow => "Pow"
  | .eq => "Eq"
  | .ne => "Ne"
  | .lt => "Lt"
  | .le => "Le"
  | .gt => "Gt"
  | .ge => "Ge"
  | .isIn => "In"
  | .notIn => "NotIn"

/-- Every unary operator. -/
def UnaryOp.all : List UnaryOp := [.neg, .pos, .not]

/-- Every binary operator. -/
def BinaryOp.all : List BinaryOp :=
  [.add, .sub, .mul, .div, .floorDiv, .mod, .pow, .eq, .ne, .lt, .le, .gt, .ge, .isIn, .notIn]

/-- The unary operator of a given name. -/
def UnaryOp.named? (name : String) : Option UnaryOp :=
  all.find? fun op => op.name == name

/-- The binary operator of a given name. -/
def BinaryOp.named? (name : String) : Option BinaryOp :=
  all.find? fun op => op.name == name

end GroupScript
