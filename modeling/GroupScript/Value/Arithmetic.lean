import GroupScript.Value.Order

/-!
# Arithmetic

Whole numbers have sixty-four bits.  Every operation on them gives the exact mathematical result or fails;
nothing ever wraps around.  Division of whole numbers gives a floating-point number, the floor quotient and
the remainder give whole ones.  Operations that involve a floating-point number or a truth value are carried
out in floating point.
-/

namespace GroupScript.Value

/-- The greatest length of a list or text that repetition or a range may build. -/
def maxLength : Nat := Nat.pow 2 24

/-- A whole number as a value, if it fits in sixty-four bits. -/
def checked (n : Int) : Except EvaluationFault Value :=
  match Decimal.integer? n with
  | some value => .ok (.int value)
  | none => .error .integerOverflow

/-- The greatest exponent of a power of whole numbers. -/
def maxExponent : Int := Int.pow 2 32 - 1

/-- The product of two words, if it fits in sixty-four bits. -/
def multiply? (a b : Int64) : Option Int64 :=
  Decimal.integer? (a.toInt * b.toInt)

/-- Multiplies a product by a base if the exponent is odd. -/
def timesOdd? (product base : Int64) (exponent : Nat) : Option Int64 :=
  if exponent % 2 = 1 then multiply? product base else some product

/-- Multiplies a product by a power of a base, unless some number on the way does not fit.  The base is squared for every
binary digit of the exponent but the last, and multiplied to the product where the digit is one. -/
def timesPower? (product base : Int64) (exponent : Nat) : Option Int64 :=
  if exponent = 0 then some product
  else
    match timesOdd? product base exponent with
    | none => none
    | some product =>
        if exponent = 1 then some product
        else
          match multiply? base base with
          | none => none
          | some square => timesPower? product square (exponent / 2)
termination_by exponent

/-- The power of a whole number. -/
def power (base : Int64) (exponent : Nat) : Except EvaluationFault Value :=
  match timesPower? 1 base exponent with
  | some word => .ok (.int word)
  | none => .error .integerOverflow

/-- The quotient rounded down. -/
def floorQuotient (a b : Float) : Float :=
  (a / b).floor

/-- Arithmetic on floating-point numbers. -/
def floatArith (op : BinaryOp) (a b : Float) : Except EvaluationFault Value :=
  match op with
  | .add => .ok (.float (a + b))
  | .sub => .ok (.float (a - b))
  | .mul => .ok (.float (a * b))
  | .div => if b == 0.0 then .error .divisionByZero else .ok (.float (a / b))
  | .floorDiv => if b == 0.0 then .error .divisionByZero else .ok (.float (floorQuotient a b))
  | .mod =>
      if b == 0.0 then .error .divisionByZero else .ok (.float (a - b * floorQuotient a b))
  | .pow => .ok (.float (a.pow b))
  | op => .error (.badOperands op .float .float)

/-- Whether just one of two numbers is negative. -/
def oppose (a b : Int64) : Bool :=
  decide (a < 0) != decide (b < 0)

/-- The quotient of whole numbers rounded down.  The truncated quotient is one more if it is not exact and the signs
differ. -/
def floorDivide (a b : Int64) : Int64 :=
  if a % b != 0 && oppose a b then a / b - 1 else a / b

/-- The remainder of whole numbers that goes with the quotient rounded down: the divisor is added to a remainder of
the other sign. -/
def floorRemainder (a b : Int64) : Int64 :=
  if a % b != 0 && oppose (a % b) b then a % b + b else a % b

/-- Division of whole numbers, by a rule for those of which there is a truncated quotient. -/
def divide (rule : Int64 → Int64 → Int64) (a b : Int64) : Except EvaluationFault Value :=
  if b = 0 then .error .divisionByZero
  else if a = Int64.minValue ∧ b = -1 then .error .integerOverflow
  else .ok (.int (rule a b))

/-- Arithmetic on whole numbers. -/
def intArith (op : BinaryOp) (a b : Int64) : Except EvaluationFault Value :=
  match op with
  | .add => checked (a.toInt + b.toInt)
  | .sub => checked (a.toInt - b.toInt)
  | .mul => checked (a.toInt * b.toInt)
  | .floorDiv => divide floorDivide a b
  | .mod => divide floorRemainder a b
  | .pow =>
      if b.toInt < 0 then .ok (.float (a.toFloat.pow b.toFloat))
      else if b.toInt ≤ maxExponent then power a b.toInt.toNat
      else .error .integerOverflow
  | op => floatArith op a.toFloat b.toFloat

/-- How often a sequence of some length is repeated: a negative count means never, and the result must not be
too long. -/
def repeatCount (length : Nat) (times : Int64) : Except EvaluationFault Nat :=
  let count := times.toInt.toNat
  if length * count ≤ maxLength then .ok count else .error (.repeatedTooLong count)

/-- Appends a text a number of times to another. -/
def appendTimes (text : String) : Nat → String → String
  | 0, result => result
  | count + 1, result => appendTimes text count (result ++ text)

/-- A text repeated; nothing repeated is nothing. -/
def repeatText (text : String) (times : Int64) : Except EvaluationFault Value := do
  let count ← repeatCount text.utf8ByteSize times
  return .string (if text.isEmpty then "" else appendTimes text count "")

/-- A list repeated; nothing repeated is nothing. -/
def repeatList (items : List Value) (times : Int64) : Except EvaluationFault Value := do
  let count ← repeatCount items.length times
  return .list (if items.isEmpty then [] else (List.replicate count items).flatten)

/-- The operators on two numbers, of which at least one is not whole. -/
def mixedArith (op : BinaryOp) (a b : Value) : Except EvaluationFault Value :=
  match a.toFloat?, b.toFloat? with
  | some x, some y => floatArith op x y
  | _, _ => .error (.badOperands op a.kind b.kind)

/-- The operators that are neither comparisons nor tests for membership. -/
def arith (op : BinaryOp) (a b : Value) : Except EvaluationFault Value :=
  match op, a, b with
  | .add, .string x, .string y => .ok (.string (x ++ y))
  | .add, .list x, .list y => .ok (.list (x ++ y))
  | .mul, .string x, .int n => repeatText x n
  | .mul, .int n, .string x => repeatText x n
  | .mul, .list x, .int n => repeatList x n
  | .mul, .int n, .list x => repeatList x n
  | op, .int x, .int y => intArith op x y
  | op, a, b => mixedArith op a b

/-- The unary operators. -/
def unary (op : UnaryOp) (operand : Value) : Except EvaluationFault Value :=
  match op, operand with
  | .not, operand => .ok (.bool (!operand.isTrue))
  | .neg, .int n => checked (-n.toInt)
  | .neg, .float x => .ok (.float (-x))
  | .pos, .int n => .ok (.int n)
  | .pos, .float x => .ok (.float x)
  | _, operand => .error (.badOperand operand.kind)

end GroupScript.Value
