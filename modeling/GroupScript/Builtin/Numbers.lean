import GroupScript.Builtin.Lists
import GroupScript.Decimal.Read

/-!
# Builtin functions on numbers and kinds

Conversions between kinds of values, tests of kinds, and the functions of analysis.
-/

namespace GroupScript.Builtin

/-- A floating-point number without its fraction. -/
def truncate (x : Float) : Float :=
  if x < 0.0 then x.ceil else x.floor

/-- A value as a whole number; a fraction is dropped. -/
def toInteger : Value → Except EvaluationFault Int64
  | .int n => .ok n
  | .bool b => .ok (Value.ofTruth b)
  | .float x => if x.isFinite then .ok (truncate x).toInt64 else .error (.noInteger .float)
  | .string text =>
      match Decimal.readInteger? (Text.trim text.toList) with
      | some n => .ok n
      | none => .error (.badIntegerLiteral text)
  | value => .error (.noInteger value.kind)

/-- A value as a floating-point number. -/
def toFloat : Value → Except EvaluationFault Float
  | .string text =>
      match Decimal.readFloat? (Text.trim text.toList) with
      | some x => .ok x
      | none => .error (.badFloatLiteral text)
  | value =>
      match value.toFloat? with
      | some x => .ok x
      | none => .error (.noFloat value.kind)

/-- The conversion to whole numbers. -/
def runInt : List Value → Except Error Value
  | [value] => (toInteger value).mapError .evaluationFailure |>.map .int
  | arguments => wrongCount .int 1 arguments

/-- The conversion to floating-point numbers. -/
def runFloat : List Value → Except Error Value
  | [value] => (toFloat value).mapError .evaluationFailure |>.map .float
  | arguments => wrongCount .float 1 arguments

/-- The name of the kind of a value. -/
def runType : List Value → Except Error Value
  | [value] => .ok (.string value.kind.name)
  | arguments => wrongCount .type 1 arguments

/-- Whether a value is a group. -/
def runIsGroup : List Value → Except Error Value
  | [value] => .ok (.bool (value.kind == .group))
  | arguments => wrongCount .isGroup 1 arguments

/-- Whether a value can be called. -/
def runCallable : List Value → Except Error Value
  | [value] => .ok (.bool value.isCallable)
  | arguments => wrongCount .callable 1 arguments

/-- The absolute value of a number. -/
def runAbs : List Value → Except Error Value
  | [.int n] => (Value.checked n.toInt.natAbs).mapError .evaluationFailure
  | [value] => do return .float (← value.asFloat).abs
  | arguments => wrongCount .abs 1 arguments

/-- A function of one number that is defined where a test holds. -/
def runReal (function : Builtin) (defined : Float → Bool) (compute : Float → Value) :
    List Value → Except Error Value
  | [value] => do
      let x ← value.asFloat
      if defined x then return compute x else throw (.evaluationFailure .mathDomain)
  | arguments => wrongCount function 1 arguments

/-- The power of two values. -/
def runPow (store : Store) : List Value → Except Error Value
  | [base, exponent] => (store.binary .pow base exponent).mapError .evaluationFailure
  | arguments => wrongCount .pow 2 arguments

end GroupScript.Builtin
