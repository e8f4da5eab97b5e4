import GroupScript.Proofs.Evaluation

/-!
# Callbacks and faults of the stack machine

A host can record the requests it gets, which makes the order of the callbacks visible.  The stack machine has three
faults of its own, for a stack that is empty, too short, or not used up in the end; this file shows that none of them
comes from running compiled code, so that a run can only end with one if the host itself answers with it.
-/

namespace GroupScript

/-- A request of the machine to its host. -/
inductive Callback
  | lookup (name : String)
  | call (function : Value) (positional : List Value) (keywords : List (String × Value))

/-- Carries out a request and appends it to a record, whether or not it succeeds. -/
def recorded {σ α : Type} (callback : Callback) (action : Run σ α) : Run (σ × List Callback) α :=
  fun (state, record) =>
    match action state with
    | .ok value after => .ok value (after, record ++ [callback])
    | .error halt after => .error halt (after, record ++ [callback])

/-- The host that answers like another one and records all requests. -/
def Host.recording {σ : Type} (host : Host σ) : Host (σ × List Callback) where
  lookup name := recorded (.lookup name) (host.lookup name)
  call function positional keywords :=
    recorded (.call function positional keywords) (host.call function positional keywords)
  store state := host.store state.1

/-- The faults by which the machine reports that its stack does not fit the code. -/
def EvaluationFault.isStackFault : EvaluationFault → Bool
  | .stackEmpty | .stackShort _ | .stackLeft _ _ => true
  | _ => false

/-- Whether a computation was halted by a fault of the stack. -/
def Halt.isStackFault : Halt → Bool
  | .failure (.evaluationFailure fault) => fault.isStackFault
  | _ => false

/-- A callback of the host halted with the given reason and left the given state. -/
def Host.Answers {σ : Type} (host : Host σ) (halt : Halt) (after : σ) : Prop :=
  (∃ name before, host.lookup name before = .error halt after) ∨
    ∃ function positional keywords before,
      host.call function positional keywords before = .error halt after

/-- A result is not a fault of the stack. -/
def OffStack {α : Type} (result : Except EvaluationFault α) : Prop :=
  ∀ fault, result = .error fault → fault.isStackFault = false

namespace OffStack

variable {α β : Type}

theorem ok (value : α) : OffStack (.ok value) := by
  intro fault equal
  cases equal

theorem error {fault : EvaluationFault} (other : fault.isStackFault = false) :
    OffStack (.error fault : Except EvaluationFault α) := by
  intro fault equal
  cases equal
  exact other

theorem bind {result : Except EvaluationFault α} {next : α → Except EvaluationFault β}
    (first : OffStack result) (second : ∀ value, OffStack (next value)) :
    OffStack (result >>= next) := by
  cases result with
  | ok value => exact second value
  | error fault => exact error (first fault rfl)

theorem ite {condition : Prop} [Decidable condition] {first second : Except EvaluationFault α}
    (whenTrue : OffStack first) (whenFalse : OffStack second) :
    OffStack (if condition then first else second) := by
  split
  · exact whenTrue
  · exact whenFalse

end OffStack

namespace Value

theorem offStack_checked (n : Int) : OffStack (checked n) := by
  unfold checked
  split
  · exact .ok _
  · exact .error rfl

theorem offStack_unary (op : UnaryOp) (operand : Value) : OffStack (unary op operand) := by
  unfold unary
  split
  · exact .ok _
  · exact offStack_checked _
  · exact .ok _
  · exact .ok _
  · exact .ok _
  · exact .error rfl

theorem offStack_compareFloats (a b : Float) : OffStack (compareFloats a b) :=
  .ite (.ok _) (.ite (.ok _) (.ite (.ok _) (.error rfl)))

theorem offStack_compareLeaves (a b : Value) : OffStack (compareLeaves a b) := by
  unfold compareLeaves
  split
  · exact .ok _
  · exact .ok _
  · split
    · exact offStack_compareFloats _ _
    · exact .error rfl

mutual

theorem offStack_order (a b : Value) : OffStack (order a b) := by
  unfold order
  split
  · exact offStack_orderItems _ _
  · exact offStack_compareLeaves _ _

theorem offStack_orderItems (a b : List Value) : OffStack (orderItems a b) := by
  unfold orderItems
  split
  · exact .ok _
  · exact .ok _
  · exact .ok _
  · refine (offStack_order _ _).bind fun result => ?_
    split
    · exact offStack_orderItems _ _
    · exact .ok _

end

theorem offStack_power (base : Int64) (exponent : Nat) : OffStack (power base exponent) := by
  unfold power
  split
  · exact .ok _
  · exact .error rfl

theorem offStack_floatArith (op : BinaryOp) (a b : Float) : OffStack (floatArith op a b) := by
  unfold floatArith
  split
  · exact .ok _
  · exact .ok _
  · exact .ok _
  · exact .ite (.error rfl) (.ok _)
  · exact .ite (.error rfl) (.ok _)
  · exact .ite (.error rfl) (.ok _)
  · exact .ok _
  · exact .error rfl

theorem offStack_divide (rule : Int64 → Int64 → Int64) (a b : Int64) : OffStack (divide rule a b) :=
  .ite (.error rfl) (.ite (.error rfl) (.ok _))

theorem offStack_intArith (op : BinaryOp) (a b : Int64) : OffStack (intArith op a b) := by
  unfold intArith
  split
  · exact offStack_checked _
  · exact offStack_checked _
  · exact offStack_checked _
  · exact offStack_divide _ _ _
  · exact offStack_divide _ _ _
  · exact .ite (.ok _) (.ite (offStack_power _ _) (.error rfl))
  · exact offStack_floatArith _ _ _

theorem offStack_repeatCount (length : Nat) (times : Int64) :
    OffStack (repeatCount length times) :=
  .ite (.ok _) (.error rfl)

theorem offStack_arith (op : BinaryOp) (a b : Value) : OffStack (arith op a b) := by
  have texts (text : String) (times : Int64) : OffStack (repeatText text times) :=
    (offStack_repeatCount _ _).bind fun _ => .ok _
  have lists (items : List Value) (times : Int64) : OffStack (repeatList items times) :=
    (offStack_repeatCount _ _).bind fun _ => .ok _
  unfold arith
  split
  · exact .ok _
  · exact .ok _
  · exact texts _ _
  · exact texts _ _
  · exact lists _ _
  · exact lists _ _
  · exact offStack_intArith _ _ _
  · unfold mixedArith
    split
    · exact offStack_floatArith _ _ _
    · exact .error rfl

end Value

namespace Store

theorem offStack_holds (store : Store) (container item : Value) :
    OffStack (store.holds container item) := by
  unfold holds
  split
  · exact .ok _
  · exact .ok _
  · exact .ok _
  · exact .error rfl

theorem offStack_binary (store : Store) (op : BinaryOp) (a b : Value) :
    OffStack (store.binary op a b) := by
  unfold binary
  split
  · exact .ok _
  · exact .ok _
  · exact (Value.offStack_order a b).bind fun _ => .ok _
  · exact (Value.offStack_order a b).bind fun _ => .ok _
  · exact (Value.offStack_order a b).bind fun _ => .ok _
  · exact (Value.offStack_order a b).bind fun _ => .ok _
  · exact (store.offStack_holds b a).bind fun _ => .ok _
  · exact (store.offStack_holds b a).bind fun _ => .ok _
  · exact Value.offStack_arith _ a b

theorem notStackFault_position {length : Nat} {index : Value} {error : Error}
    (failed : position length index = .error error) : (Halt.failure error).isStackFault = false := by
  cases index with
  | int i =>
      simp only [position] at failed
      generalize (if i.toInt < 0 then i.toInt + length else i.toInt) = place at failed
      split at failed
      · cases failed
      · cases failed
        rfl
  | _ =>
      cases failed
      rfl

/-- Taking what stands at a position fails only if the position does. -/
theorem notStackFault_atPosition {length : Nat} {index : Value} {pick : Nat → Value} {error : Error}
    (failed : (position length index >>= fun place => pure (pick place)) = .error error) :
    (Halt.failure error).isStackFault = false := by
  cases found : position length index with
  | ok place =>
      rw [found] at failed
      cases failed
  | error fault =>
      rw [found] at failed
      cases failed
      exact notStackFault_position found

theorem notStackFault_element {store : Store} {target index : Value} {error : Error}
    (failed : store.element target index = .error error) :
    (Halt.failure error).isStackFault = false := by
  unfold element at failed
  split at failed
  · exact notStackFault_atPosition failed
  · exact notStackFault_atPosition failed
  · rename_i id
    cases index with
    | string name =>
        simp only [Value.asString, Bind.bind, Except.bind] at failed
        split at failed
        · cases failed
        · cases failed
          rfl
    | _ =>
        cases failed
        rfl
  · cases failed
    rfl

theorem notStackFault_foldlM_element {store : Store} {target : Value} {indices : List Value}
    {error : Error} (failed : indices.foldlM store.element target = .error error) :
    (Halt.failure error).isStackFault = false := by
  induction indices generalizing target with
  | nil => cases failed
  | cons index indices ih =>
      rw [List.foldlM_cons] at failed
      cases next : store.element target index with
      | ok value =>
          rw [next] at failed
          exact ih failed
      | error fault =>
          rw [next] at failed
          cases failed
          exact notStackFault_element next

end Store

namespace Host

variable {σ : Type} (host : Host σ)

/-- A stack fault in the end is an answer of the host. -/
def OnlyAnswered (halt : Halt) (after : σ) : Prop :=
  halt.isStackFault = true → host.Answers halt after

theorem haltsOnly_lookup (name : String) : HaltsOnly (host.lookup name) host.OnlyAnswered :=
  fun before _ _ halted _ => Or.inl ⟨name, before, halted⟩

theorem haltsOnly_call (function : Value) (positional : List Value)
    (keywords : List (String × Value)) :
    HaltsOnly (host.call function positional keywords) host.OnlyAnswered :=
  fun before _ _ halted _ => Or.inr ⟨function, positional, keywords, before, halted⟩

theorem haltsOnly_ofOperator {result : Except EvaluationFault Value} (offStack : OffStack result) :
    HaltsOnly (ofOperator result) host.OnlyAnswered := by
  refine HaltsOnly.ofResult fun error failed state stackFault => ?_
  cases result with
  | ok value => cases failed
  | error fault =>
      cases failed
      rw [Halt.isStackFault, offStack fault rfl] at stackFault
      cases stackFault

mutual

theorem haltsOnly_evaluate (expr : Expr) : HaltsOnly (host.evaluate expr) host.OnlyAnswered := by
  cases expr with
  | const value => exact .pure value _
  | name text => exact host.haltsOnly_lookup text
  | list items =>
      exact (haltsOnly_evaluateAll items).bind fun values => .pure _ _
  | index target indices =>
      refine (haltsOnly_evaluate target).bind fun target => ?_
      refine (haltsOnly_evaluateAll indices).bind fun indices => ?_
      refine (HaltsOnly.get _).bind fun state => ?_
      refine HaltsOnly.ofResult fun error failed after stackFault => ?_
      rw [Store.notStackFault_foldlM_element failed] at stackFault
      cases stackFault
  | call function arguments =>
      refine (haltsOnly_evaluate function).bind fun function => ?_
      refine (haltsOnly_evaluatePositional arguments).bind fun positional => ?_
      refine (haltsOnly_evaluateKeywords arguments).bind fun keywords => ?_
      exact host.haltsOnly_call function positional keywords
  | unary op operand =>
      refine (haltsOnly_evaluate operand).bind fun operand => ?_
      exact host.haltsOnly_ofOperator (Value.offStack_unary op operand)
  | binary op left right =>
      refine (haltsOnly_evaluate left).bind fun left => ?_
      refine (haltsOnly_evaluate right).bind fun right => ?_
      refine (HaltsOnly.get _).bind fun state => ?_
      exact host.haltsOnly_ofOperator (Store.offStack_binary _ op left right)
  | and left right =>
      refine (haltsOnly_evaluate left).bind fun left => ?_
      split
      · exact haltsOnly_evaluate right
      · exact .pure _ _
  | or left right =>
      refine (haltsOnly_evaluate left).bind fun left => ?_
      split
      · exact .pure _ _
      · exact haltsOnly_evaluate right

theorem haltsOnly_evaluateAll (items : List Expr) :
    HaltsOnly (host.evaluateAll items) host.OnlyAnswered := by
  cases items with
  | nil => exact .pure _ _
  | cons item items =>
      refine (haltsOnly_evaluate item).bind fun value => ?_
      exact (haltsOnly_evaluateAll items).bind fun values => .pure _ _

theorem haltsOnly_evaluatePositional (arguments : List (Argument Expr)) :
    HaltsOnly (host.evaluatePositional arguments) host.OnlyAnswered := by
  cases arguments with
  | nil => exact .pure _ _
  | cons argument arguments =>
      cases argument with
      | positional item =>
          refine (haltsOnly_evaluate item).bind fun value => ?_
          exact (haltsOnly_evaluatePositional arguments).bind fun values => .pure _ _
      | keyword key item => exact haltsOnly_evaluatePositional arguments

theorem haltsOnly_evaluateKeywords (arguments : List (Argument Expr)) :
    HaltsOnly (host.evaluateKeywords arguments) host.OnlyAnswered := by
  cases arguments with
  | nil => exact .pure _ _
  | cons argument arguments =>
      cases argument with
      | positional item => exact haltsOnly_evaluateKeywords arguments
      | keyword key item =>
          refine (haltsOnly_evaluate item).bind fun value => ?_
          exact (haltsOnly_evaluateKeywords arguments).bind fun values => .pure _ _

end

/-- Running compiled code and evaluating its tree are the same computation against every host: from each state they
give the same value or failure and leave the same state, and a host that keeps a record gets the same requests in the
same order.  A stack fault never comes from the machine, only from an answer of the host. -/
theorem run_agrees_with_tree {expr : Expr} {source : List Char} {code : Code}
    (compiled : expr.code source = .ok code) :
    (∀ before, host.run code before = host.evaluate expr before) ∧
      (∀ before record,
        host.recording.run code (before, record) =
          host.recording.evaluate expr (before, record)) ∧
      ∀ before halt after,
        host.run code before = .error halt after → halt.isStackFault = true →
          host.Answers halt after := by
  refine ⟨fun before => ?_, fun before record => ?_, fun before halt after halted stackFault => ?_⟩
  · rw [host.run_eq_evaluate compiled]
  · rw [host.recording.run_eq_evaluate compiled]
  · rw [host.run_eq_evaluate compiled] at halted
    exact host.haltsOnly_evaluate expr halted stackFault

/-- A host that counts its answers, knows a few names, and refuses all calls. -/
def refusing : Host Nat where
  lookup name := fun count =>
    match name with
    | "zero" => .ok (.int 0) (count + 1)
    | "one" => .ok (.int 1) (count + 1)
    | "pair" => .ok (.list [.nil, .string "second"]) (count + 1)
    | _ => .ok (.string name) (count + 1)
  call _ _ _ := fun count => .error (.failure (.unexpectedArguments (.notString .none))) (count + 1)
  store _ := {}

/-- The tree of `f(zero and x, key=pair[one or x])`. -/
def shortCircuitCall : Expr :=
  .call (.name "f")
    [.positional (.and (.name "zero") (.name "x")),
      .keyword "key" (.index (.name "pair") [.or (.name "one") (.name "x")])]

/-- The code of that tree. -/
def shortCircuitCode : Code :=
  ⟨[.load "f", .load "zero", .skipIfFalse 1, .load "x", .load "pair", .load "one", .skipIfTrue 1,
    .load "x", .index 1, .call 1 ["key"]], ""⟩

theorem run_agrees_with_tree_shortCircuitCall :
    shortCircuitCall.code [] = .ok shortCircuitCode ∧
      refusing.recording.run shortCircuitCode (0, []) =
        refusing.recording.evaluate shortCircuitCall (0, []) ∧
      refusing.recording.evaluate shortCircuitCall (0, []) =
        .error (.failure (.unexpectedArguments (.notString .none)))
          (5, [.lookup "f", .lookup "zero", .lookup "pair", .lookup "one",
            .call (.string "f") [.int 0] [("key", .string "second")]]) :=
  have agrees := @run_agrees_with_tree Nat refusing shortCircuitCall [] shortCircuitCode rfl
  ⟨rfl, agrees.2.1 0 [], rfl⟩

end Host

end GroupScript
