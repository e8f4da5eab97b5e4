import GroupScript.Text.Order
import GroupScript.Value.Basic

/-!
# Equality and order of values

The language compares whole and floating-point numbers by what they denote, and lists item by item.  Only
numbers with numbers, strings with strings and lists with lists have an order.
-/

namespace GroupScript.Value

mutual

/-- Whether two values are equal for the language. -/
def equals : Value → Value → Bool
  | .list a, .list b => equalItems a b
  | .int a, .float b => a.toFloat == b
  | .float a, .int b => a == b.toFloat
  | a, b => same a b

/-- Whether two lists are equal item by item. -/
def equalItems : List Value → List Value → Bool
  | [], [] => true
  | a :: first, b :: second => equals a b && equalItems first second
  | _, _ => false

end

/-- Compares two floating-point numbers, unless one is not a number. -/
def compareFloats (a b : Float) : Except EvaluationFault Ordering :=
  if a < b then .ok .lt
  else if b < a then .ok .gt
  else if a == b then .ok .eq
  else .error .notANumberCompared

/-- Compares two values that are not both lists. -/
def compareLeaves (a b : Value) : Except EvaluationFault Ordering :=
  match a, b with
  | .int x, .int y => .ok (compare x.toInt y.toInt)
  | .string x, .string y => .ok (Text.compareStrings x y)
  | a, b =>
      match a.toFloat?, b.toFloat? with
      | some x, some y => compareFloats x y
      | _, _ => .error (.notComparable a.kind b.kind)

mutual

/-- Compares two values. -/
def order : Value → Value → Except EvaluationFault Ordering
  | .list a, .list b => orderItems a b
  | a, b => compareLeaves a b

/-- Compares two lists by their first items that differ; a list that starts another comes before it. -/
def orderItems : List Value → List Value → Except EvaluationFault Ordering
  | [], [] => .ok .eq
  | [], _ :: _ => .ok .lt
  | _ :: _, [] => .ok .gt
  | a :: first, b :: second => do
      match ← order a b with
      | .eq => orderItems first second
      | other => return other

end

end GroupScript.Value
