import GroupScript.Store.Access

/-!
# Builtin functions on lists

The length of a value, ranges of whole numbers, and the least, the greatest and the sum of several values.
-/

namespace GroupScript.Builtin

/-- The fault of a call with a wrong number of arguments. -/
def wrongCount {α : Type} (function : Builtin) (expected : Nat) (arguments : List Value) :
    Except Error α :=
  .error (.unexpectedArguments (.wrongCount function.name expected arguments.length))

/-- A natural number as a value. -/
def countValue (n : Nat) : Value :=
  .int (Int64.ofNat n)

/-- The number of items of a list, characters of a text, or members of a group. -/
def runLen (store : Store) : List Value → Except Error Value
  | [.list items] => .ok (countValue items.length)
  | [.string text] => .ok (countValue text.toList.length)
  | [.group id] => .ok (countValue (store.group id).size)
  | [value] => .error (.unexpectedArguments (.noLength value.kind))
  | arguments => wrongCount .len 1 arguments

/-- Whether a number comes before the end of a range, in the direction of its step. -/
def beforeStop (stop step n : Int64) : Bool :=
  (0 < step && n < stop) || (step < 0 && stop < n)

/-- The number of steps from the start of a range to its end; it is not positive if the range is empty. -/
def rangeSpan (start stop step : Int) : Int :=
  (stop - start + step - step.sign).tdiv step

/-- How far a number is from the end of a range, or zero if it does not come before the end. -/
def distanceToStop (stop step n : Int64) : Nat :=
  if 0 < step then (stop.toInt - n.toInt).toNat else (n.toInt - stop.toInt).toNat

theorem distanceToStop_lt {stop step n next : Int64} (before : beforeStop stop step n = true)
    (added : Decimal.integer? (n.toInt + step.toInt) = some next) :
    distanceToStop stop step next < distanceToStop stop step n := by
  have exact := Decimal.toInt_of_integer? added
  simp only [beforeStop, Bool.or_eq_true, Bool.and_eq_true, decide_eq_true_eq, Int64.lt_iff_toInt_lt,
    Int64.toInt_zero] at before
  simp only [distanceToStop, Int64.lt_iff_toInt_lt, Int64.toInt_zero]
  split <;> omega

/-- Collects the numbers of a range from some number on, up to its end or to the last one of sixty-four bits.  The
list holds the numbers so far, the last one first. -/
def rangeItems (stop step n : Int64) (done : List Value) : List Value :=
  if _before : beforeStop stop step n then
    match _added : Decimal.integer? (n.toInt + step.toInt) with
    | some next => rangeItems stop step next (.int n :: done)
    | none => (Value.int n :: done).reverse
  else done.reverse
termination_by distanceToStop stop step n
decreasing_by exact distanceToStop_lt _before _added

/-- The range from a start up to a stop, which does not belong to it. -/
def rangeOf (start stop step : Int64) : Except Error Value :=
  if step = 0 then .error (.unexpectedArguments .rangeStepZero)
  else
    let span := rangeSpan start.toInt stop.toInt step.toInt
    if Value.maxLength < span.toNat then .error (.evaluationFailure (.rangeTooLong span))
    else .ok (.list (rangeItems stop step start []))

/-- A range of whole numbers, by its stop, its start and stop, or its start, stop and step. -/
def runRange : List Value → Except Error Value
  | [stop] => do rangeOf 0 (← stop.asInteger) 1
  | [start, stop] => do rangeOf (← start.asInteger) (← stop.asInteger) 1
  | [start, stop, step] => do rangeOf (← start.asInteger) (← stop.asInteger) (← step.asInteger)
  | _ => .error (.unexpectedArguments .rangeArguments)

/-- The values to choose from: the items of a single list, or the arguments themselves. -/
def operands : List Value → List Value
  | [.list items] => items
  | arguments => arguments

/-- Goes through values and keeps the one that stands in a relation to the best one before it. -/
def extreme (store : Store) (op : BinaryOp) : Value → List Value → Except Error Value
  | best, [] => .ok best
  | best, item :: rest => do
      let better ← (store.binary op item best).mapError .evaluationFailure
      extreme store op (if better.isTrue then item else best) rest

/-- The first of the least values, or of the greatest. -/
def runExtreme (store : Store) (function : Builtin) (op : BinaryOp) (arguments : List Value) :
    Except Error Value :=
  match operands arguments with
  | [] => .error (.unexpectedArguments (.noOperands function.name))
  | first :: rest => extreme store op first rest

/-- Adds values to a start, from left to right. -/
def sumFrom (store : Store) : Value → List Value → Except Error Value
  | total, [] => .ok total
  | total, item :: rest => do
      let total ← (store.binary .add total item).mapError .evaluationFailure
      sumFrom store total rest

/-- The sum of a list. -/
def runSum (store : Store) : List Value → Except Error Value
  | [.list items] => sumFrom store (.int 0) items
  | [.list items, start] => sumFrom store start items
  | _ => .error (.unexpectedArguments .sumArguments)

end GroupScript.Builtin
