import GroupScript.Store.Access

/-!
# The stack machine

The machine runs code against a host, which gives the values of names and carries out calls.  A host has a
state of its own, and each of its answers can fail.  Besides failing, a computation can be cut off because it
was given too few steps; the two outcomes are kept apart.
-/

namespace GroupScript

/-- Why a computation ends without a value. -/
inductive Halt
  /-- The computation failed with an error of the language. -/
  | failure (error : Error)
  /-- The computation was cut off; it says nothing about the program. -/
  | exhausted

/-- A computation with a state that can halt. -/
abbrev Run (σ : Type) : Type → Type := EStateM Halt σ

/-- Fails with an error of the language. -/
def fail {σ α : Type} (error : Error) : Run σ α :=
  throw (.failure error)

/-- The value of a result, or its error. -/
def ofResult {σ α : Type} : Except Error α → Run σ α
  | .ok value => pure value
  | .error error => fail error

/-- What the machine asks of its surroundings. -/
structure Host (σ : Type) where
  /-- The value of a name, which may be dotted. -/
  lookup : String → Run σ Value
  /-- The result of calling a value with positional and keyword arguments. -/
  call : Value → List Value → List (String × Value) → Run σ Value
  /-- The store in which groups are found. -/
  store : σ → Store

namespace Host

variable {σ : Type}

/-- Takes one value off the stack. -/
def pop : List Value → Run σ (Value × List Value)
  | value :: stack => pure (value, stack)
  | [] => fail (.evaluationFailure .stackEmpty)

/-- Takes a number of values off the stack; they come in the order in which they were put there. -/
def popMany (count : Nat) (stack : List Value) : Run σ (List Value × List Value) :=
  if stack.length < count then fail (.evaluationFailure (.stackShort count))
  else pure ((stack.take count).reverse, stack.drop count)

/-- The value that finished code leaves on the stack. -/
def finish (source : String) : List Value → Run σ Value
  | [] => fail (.evaluationFailure .stackEmpty)
  | [value] => pure value
  | _ :: rest => fail (.evaluationFailure (.stackLeft source rest.length))

/-- The result of an operator. -/
def ofOperator (result : Except EvaluationFault Value) : Run σ Value :=
  ofResult (result.mapError .evaluationFailure)

/-- Carries out one instruction that does not skip others: the new stack. -/
def step (host : Host σ) (instr : Instr) (stack : List Value) : Run σ (List Value) := do
  match instr with
  | .push value => return value :: stack
  | .load name => return (← host.lookup name) :: stack
  | .makeList count =>
      let (items, stack) ← popMany count stack
      return .list items :: stack
  | .index count =>
      let (indices, stack) ← popMany count stack
      let (target, stack) ← pop stack
      let store := host.store (← get)
      return (← ofResult (store.elementAt target indices)) :: stack
  | .call positional keywords =>
      let (keywordValues, stack) ← popMany keywords.length stack
      let (arguments, stack) ← popMany positional stack
      let (function, stack) ← pop stack
      return (← host.call function arguments (keywords.zip keywordValues)) :: stack
  | .unary op =>
      let (operand, stack) ← pop stack
      return (← ofOperator (Value.unary op operand)) :: stack
  | .binary op =>
      let (right, stack) ← pop stack
      let (left, stack) ← pop stack
      let store := host.store (← get)
      return (← ofOperator (store.binary op left right)) :: stack
  | .skipIfFalse _ | .skipIfTrue _ => return stack

/-- Runs code on a stack.  The first number counts the instructions still to be passed over. -/
def exec (host : Host σ) (source : String) : Nat → List Instr → List Value → Run σ Value
  | _, [], stack => finish source stack
  | skipped + 1, _ :: rest, stack => exec host source skipped rest stack
  | 0, .skipIfFalse count :: rest, stack => do
      let (top, below) ← pop stack
      if top.isTrue then exec host source 0 rest below else exec host source count rest stack
  | 0, .skipIfTrue count :: rest, stack => do
      let (top, below) ← pop stack
      if top.isTrue then exec host source count rest stack else exec host source 0 rest below
  | 0, instr :: rest, stack => do
      let stack ← step host instr stack
      exec host source 0 rest stack

/-- The value of compiled code. -/
def run (host : Host σ) (code : Code) : Run σ Value :=
  exec host code.source 0 code.instrs []

end Host

end GroupScript
