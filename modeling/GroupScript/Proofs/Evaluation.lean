import GroupScript.Proofs.Outcome

/-!
# Evaluating a tree directly

The value of an expression can be found by going through its tree, without instructions and without a stack.  This file
defines that evaluation and proves that the stack machine agrees with it on all compiled code: against every host,
from every state of the host, with the same value or failure, the same callbacks in the same order, and the same
state in the end.  In particular the machine never runs into a stack that does not fit its code.
-/

namespace GroupScript

namespace Host

variable {σ : Type}

mutual

/-- The value of an expression against a host.  Operands are evaluated from left to right, and the right side of a
short-circuit operator only if the left side does not decide. -/
def evaluate (host : Host σ) : Expr → Run σ Value
  | .const value => pure value
  | .name text => host.lookup text
  | .list items => do
      let values ← host.evaluateAll items
      return .list values
  | .index target indices => do
      let target ← host.evaluate target
      let indices ← host.evaluateAll indices
      let store := host.store (← get)
      ofResult (indices.foldlM store.element target)
  | .call function arguments => do
      let function ← host.evaluate function
      let positional ← host.evaluatePositional arguments
      let keywords ← host.evaluateKeywords arguments
      host.call function positional keywords
  | .unary op operand => do
      let operand ← host.evaluate operand
      ofOperator (Value.unary op operand)
  | .binary op left right => do
      let left ← host.evaluate left
      let right ← host.evaluate right
      let store := host.store (← get)
      ofOperator (store.binary op left right)
  | .and left right => do
      let left ← host.evaluate left
      if left.isTrue then host.evaluate right else return left
  | .or left right => do
      let left ← host.evaluate left
      if left.isTrue then return left else host.evaluate right

/-- The values of several expressions, evaluated from left to right. -/
def evaluateAll (host : Host σ) : List Expr → Run σ (List Value)
  | [] => pure []
  | item :: items => do
      let value ← host.evaluate item
      let values ← host.evaluateAll items
      return value :: values

/-- The values of the positional arguments of a call. -/
def evaluatePositional (host : Host σ) : List (Argument Expr) → Run σ (List Value)
  | [] => pure []
  | .positional item :: arguments => do
      let value ← host.evaluate item
      let values ← host.evaluatePositional arguments
      return value :: values
  | .keyword _ _ :: arguments => host.evaluatePositional arguments

/-- The names and values of the keyword arguments of a call. -/
def evaluateKeywords (host : Host σ) : List (Argument Expr) → Run σ (List (String × Value))
  | [] => pure []
  | .positional _ :: arguments => host.evaluateKeywords arguments
  | .keyword key item :: arguments => do
      let value ← host.evaluate item
      let values ← host.evaluateKeywords arguments
      return (key, value) :: values

end

end Host

/-- The number of positional arguments. -/
def positionalCount : List (Argument Expr) → Nat
  | [] => 0
  | .positional _ :: arguments => positionalCount arguments + 1
  | .keyword _ _ :: arguments => positionalCount arguments

/-- The names of the keyword arguments. -/
def keywordNames : List (Argument Expr) → List String
  | [] => []
  | .positional _ :: arguments => keywordNames arguments
  | .keyword key _ :: arguments => key :: keywordNames arguments

/-- Whether an instruction decides if others are passed over. -/
def Instr.skips : Instr → Bool
  | .skipIfFalse _ | .skipIfTrue _ => true
  | _ => false

namespace Expr

/-- Once a keyword argument has been seen, code exists only if all further arguments are keyword arguments. -/
theorem isKeyword_of_instrsOfArguments {positional : Nat} {keywords : List String}
    {arguments : List (Argument Expr)} {result : List Instr × Nat × List String}
    (compiled : instrsOfArguments positional keywords arguments = .ok result)
    (seen : keywords ≠ []) : ∀ argument ∈ arguments, argument.isKeyword = true := by
  induction arguments generalizing keywords result with
  | nil =>
      intro argument member
      cases member
  | cons argument arguments ih =>
      cases argument with
      | positional item =>
          rw [instrsOfArguments, if_neg (by simpa using seen)] at compiled
          cases compiled
      | keyword key item =>
          rw [instrsOfArguments] at compiled
          split at compiled
          · cases compiled
          · obtain ⟨first, -, compiled⟩ := except_bind_eq_ok.mp compiled
            obtain ⟨others, compiledRest, -⟩ := except_bind_eq_ok.mp compiled
            intro argument member
            rcases List.mem_cons.mp member with rfl | later
            · rfl
            · exact ih compiledRest (by simp) argument later

/-- The call instruction counts the positional arguments and lists the names of the keyword arguments. -/
theorem counts_of_instrsOfArguments {positional : Nat} {keywords : List String}
    {arguments : List (Argument Expr)} {result : List Instr × Nat × List String}
    (compiled : instrsOfArguments positional keywords arguments = .ok result) :
    result.2 = (positional + positionalCount arguments, keywords ++ keywordNames arguments) := by
  induction arguments generalizing positional keywords result with
  | nil =>
      cases compiled
      simp [positionalCount, keywordNames]
  | cons argument arguments ih =>
      cases argument with
      | positional item =>
          rw [instrsOfArguments] at compiled
          split at compiled
          · obtain ⟨first, -, compiled⟩ := except_bind_eq_ok.mp compiled
            obtain ⟨others, compiledRest, finished⟩ := except_bind_eq_ok.mp compiled
            cases finished
            have counts := ih compiledRest
            simp only [Prod.ext_iff] at counts ⊢
            simp only [counts, positionalCount, keywordNames]
            exact ⟨by omega, trivial⟩
          · cases compiled
      | keyword key item =>
          rw [instrsOfArguments] at compiled
          split at compiled
          · cases compiled
          · obtain ⟨first, -, compiled⟩ := except_bind_eq_ok.mp compiled
            obtain ⟨others, compiledRest, finished⟩ := except_bind_eq_ok.mp compiled
            cases finished
            have counts := ih compiledRest
            simp only [Prod.ext_iff] at counts ⊢
            simp [counts, positionalCount, keywordNames]

end Expr

namespace Store

/-- Following a path of indices is indexing once for each of them. -/
theorem elementAt_eq_foldlM (store : Store) (target : Value) (indices : List Value) :
    store.elementAt target indices = indices.foldlM store.element target := by
  induction indices generalizing target with
  | nil => rfl
  | cons index indices ih =>
      rw [elementAt, List.foldlM_cons]
      exact congrArg _ (funext ih)

end Store

namespace Host

variable {σ : Type} (host : Host σ) (source : String)

theorem popMany_reverse_append (values stack : List Value) :
    popMany (σ := σ) values.length (values.reverse ++ stack) = pure (values, stack) := by
  have enough : ¬ (values.reverse ++ stack).length < values.length := by
    simp
  have taken : (values.reverse ++ stack).take values.length = values.reverse := by
    rw [List.take_append_of_le_length (by simp)]
    exact List.take_of_length_le (by simp)
  have dropped : (values.reverse ++ stack).drop values.length = stack := by
    rw [List.drop_append_of_le_length (by simp), List.drop_eq_nil_of_le (by simp), List.nil_append]
  rw [popMany, if_neg enough, taken, dropped, List.reverse_reverse]

theorem exec_pass (passed rest : List Instr) (stack : List Value) :
    host.exec source passed.length (passed ++ rest) stack = host.exec source 0 rest stack := by
  induction passed with
  | nil => rfl
  | cons instr passed ih => exact ih

theorem gives_evaluateAll (items : List Expr) :
    Gives (host.evaluateAll items) fun values => values.length = items.length := by
  induction items with
  | nil => exact Gives.pure rfl
  | cons item items ih =>
      rw [evaluateAll]
      refine (Gives.trivial _).bind fun value _ => ih.bind fun values count => Gives.pure ?_
      rw [List.length_cons, List.length_cons, count]

theorem gives_evaluatePositional (arguments : List (Argument Expr)) :
    Gives (host.evaluatePositional arguments) fun values =>
      values.length = positionalCount arguments := by
  induction arguments with
  | nil => exact Gives.pure rfl
  | cons argument arguments ih =>
      cases argument with
      | positional item =>
          rw [evaluatePositional]
          refine (Gives.trivial _).bind fun value _ => ih.bind fun values count => Gives.pure ?_
          rw [List.length_cons, count, positionalCount]
      | keyword key item => exact ih

theorem gives_evaluateKeywords (arguments : List (Argument Expr)) :
    Gives (host.evaluateKeywords arguments) fun values =>
      values.map Prod.fst = keywordNames arguments := by
  induction arguments with
  | nil => exact Gives.pure rfl
  | cons argument arguments ih =>
      cases argument with
      | positional item => exact ih
      | keyword key item =>
          rw [evaluateKeywords]
          refine (Gives.trivial _).bind fun value _ => ih.bind fun values names => Gives.pure ?_
          rw [List.map_cons, names, keywordNames]

theorem evaluatePositional_eq_nil {arguments : List (Argument Expr)}
    (keywordsOnly : ∀ argument ∈ arguments, argument.isKeyword = true) :
    host.evaluatePositional arguments = pure [] := by
  induction arguments with
  | nil => rfl
  | cons argument arguments ih =>
      cases argument with
      | positional item =>
          have contradiction := keywordsOnly (.positional item) List.mem_cons_self
          cases contradiction
      | keyword key item =>
          exact ih fun argument member => keywordsOnly argument (List.mem_cons_of_mem _ member)

/-! ### One instruction on a stack that fits it -/

theorem exec_of_not_skips {instr : Instr} (plain : instr.skips = false) (rest : List Instr)
    (stack : List Value) :
    host.exec source 0 (instr :: rest) stack =
      host.step instr stack >>= fun stack => host.exec source 0 rest stack := by
  cases instr with
  | skipIfFalse count => cases plain
  | skipIfTrue count => cases plain
  | _ => rfl

theorem exec_push (value : Value) (rest : List Instr) (stack : List Value) :
    host.exec source 0 (.push value :: rest) stack = host.exec source 0 rest (value :: stack) := by
  rw [host.exec_of_not_skips source rfl]
  exact pure_bind (value :: stack) _

theorem exec_load (name : String) (rest : List Instr) (stack : List Value) :
    host.exec source 0 (.load name :: rest) stack =
      host.lookup name >>= fun value => host.exec source 0 rest (value :: stack) := by
  rw [host.exec_of_not_skips source rfl]
  simp only [step, bind_assoc, pure_bind]

theorem exec_makeList (values : List Value) (rest : List Instr) (stack : List Value) :
    host.exec source 0 (.makeList values.length :: rest) (values.reverse ++ stack) =
      host.exec source 0 rest (.list values :: stack) := by
  rw [host.exec_of_not_skips source rfl]
  simp only [step, popMany_reverse_append, pure_bind]

theorem exec_index (target : Value) (indices : List Value) (rest : List Instr)
    (stack : List Value) :
    host.exec source 0 (.index indices.length :: rest) (indices.reverse ++ target :: stack) =
      (do
        let store := host.store (← get)
        let value ← ofResult (indices.foldlM store.element target)
        host.exec source 0 rest (value :: stack)) := by
  rw [host.exec_of_not_skips source rfl]
  simp only [step, popMany_reverse_append, pop, Store.elementAt_eq_foldlM, bind_assoc, pure_bind]

theorem exec_call (function : Value) (positional : List Value) (keywords : List (String × Value))
    (rest : List Instr) (stack : List Value) :
    host.exec source 0 (.call positional.length (keywords.map Prod.fst) :: rest)
        ((keywords.map Prod.snd).reverse ++ (positional.reverse ++ function :: stack)) =
      host.call function positional keywords >>= fun value =>
        host.exec source 0 rest (value :: stack) := by
  have popKeywords := popMany_reverse_append (σ := σ) (keywords.map Prod.snd)
    (positional.reverse ++ function :: stack)
  have paired : (keywords.map Prod.fst).zip (keywords.map Prod.snd) = keywords :=
    (List.zip_of_prod rfl rfl).symm
  rw [List.length_map] at popKeywords
  rw [host.exec_of_not_skips source rfl]
  simp only [step, List.length_map, popKeywords, popMany_reverse_append, pop, paired, bind_assoc,
    pure_bind]

theorem exec_unary (op : UnaryOp) (operand : Value) (rest : List Instr) (stack : List Value) :
    host.exec source 0 (.unary op :: rest) (operand :: stack) =
      ofOperator (Value.unary op operand) >>= fun value =>
        host.exec source 0 rest (value :: stack) := by
  rw [host.exec_of_not_skips source rfl]
  simp only [step, pop, bind_assoc, pure_bind]

theorem exec_binary (op : BinaryOp) (left right : Value) (rest : List Instr)
    (stack : List Value) :
    host.exec source 0 (.binary op :: rest) (right :: left :: stack) =
      (do
        let store := host.store (← get)
        let value ← ofOperator (store.binary op left right)
        host.exec source 0 rest (value :: stack)) := by
  rw [host.exec_of_not_skips source rfl]
  simp only [step, pop, bind_assoc, pure_bind]

theorem exec_skipIfFalse (count : Nat) (top : Value) (rest : List Instr) (stack : List Value) :
    host.exec source 0 (.skipIfFalse count :: rest) (top :: stack) =
      if top.isTrue then host.exec source 0 rest stack
      else host.exec source count rest (top :: stack) := by
  rw [exec]
  exact pure_bind (top, stack) _

theorem exec_skipIfTrue (count : Nat) (top : Value) (rest : List Instr) (stack : List Value) :
    host.exec source 0 (.skipIfTrue count :: rest) (top :: stack) =
      if top.isTrue then host.exec source count rest (top :: stack)
      else host.exec source 0 rest stack := by
  rw [exec]
  exact pure_bind (top, stack) _

/-! ### The code of a tree -/

mutual

/-- The code of an expression leaves the value of the expression on top of the stack, whatever stands below and
whatever code follows. -/
theorem exec_instrs (expr : Expr) {code : List Instr} (compiled : expr.instrs = .ok code)
    (rest : List Instr) (stack : List Value) :
    host.exec source 0 (code ++ rest) stack =
      host.evaluate expr >>= fun value => host.exec source 0 rest (value :: stack) := by
  cases expr with
  | const value =>
      cases compiled
      rw [evaluate, pure_bind]
      exact host.exec_push source value rest stack
  | name text =>
      cases compiled
      rw [evaluate]
      exact host.exec_load source text rest stack
  | list items =>
      rw [Expr.instrs] at compiled
      obtain ⟨first, compiledItems, finished⟩ := except_bind_eq_ok.mp compiled
      cases finished
      rw [List.append_assoc, exec_instrsOfAll items compiledItems, evaluate, bind_assoc]
      refine (host.gives_evaluateAll items).bind_congr fun values count => ?_
      rw [pure_bind, ← count]
      exact host.exec_makeList source values rest stack
  | index target indices =>
      rw [Expr.instrs] at compiled
      obtain ⟨first, compiledTarget, compiled⟩ := except_bind_eq_ok.mp compiled
      obtain ⟨second, compiledIndices, finished⟩ := except_bind_eq_ok.mp compiled
      cases finished
      rw [List.append_assoc, List.append_assoc, exec_instrs target compiledTarget, evaluate,
        bind_assoc]
      refine bind_congr fun target => ?_
      rw [exec_instrsOfAll indices compiledIndices, bind_assoc]
      refine (host.gives_evaluateAll indices).bind_congr fun values count => ?_
      rw [← count]
      refine (host.exec_index source target values rest stack).trans ?_
      simp only [bind_assoc]
  | call function arguments =>
      rw [Expr.instrs] at compiled
      obtain ⟨first, compiledFunction, compiled⟩ := except_bind_eq_ok.mp compiled
      obtain ⟨⟨second, total, names⟩, compiledArguments, finished⟩ :=
        except_bind_eq_ok.mp compiled
      cases finished
      have counts := Expr.counts_of_instrsOfArguments compiledArguments
      rw [Nat.zero_add, List.nil_append, Prod.mk.injEq] at counts
      obtain ⟨rfl, rfl⟩ := counts
      rw [List.append_assoc, List.append_assoc, exec_instrs function compiledFunction, evaluate,
        bind_assoc]
      refine bind_congr fun function => ?_
      rw [exec_instrsOfArguments arguments compiledArguments, bind_assoc]
      refine (host.gives_evaluatePositional arguments).bind_congr fun positional count => ?_
      rw [bind_assoc]
      refine (host.gives_evaluateKeywords arguments).bind_congr fun keywords names => ?_
      rw [← count, ← names]
      exact host.exec_call source function positional keywords rest stack
  | unary op operand =>
      rw [Expr.instrs] at compiled
      obtain ⟨first, compiledOperand, finished⟩ := except_bind_eq_ok.mp compiled
      cases finished
      rw [List.append_assoc, exec_instrs operand compiledOperand, evaluate, bind_assoc]
      exact bind_congr fun operand => host.exec_unary source op operand rest stack
  | binary op left right =>
      rw [Expr.instrs] at compiled
      obtain ⟨first, compiledLeft, compiled⟩ := except_bind_eq_ok.mp compiled
      obtain ⟨second, compiledRight, finished⟩ := except_bind_eq_ok.mp compiled
      cases finished
      rw [List.append_assoc, List.append_assoc, exec_instrs left compiledLeft, evaluate,
        bind_assoc]
      refine bind_congr fun left => ?_
      rw [exec_instrs right compiledRight, bind_assoc]
      refine bind_congr fun right => ?_
      refine (host.exec_binary source op left right rest stack).trans ?_
      simp only [bind_assoc]
  | and left right =>
      rw [Expr.instrs] at compiled
      obtain ⟨second, compiledRight, compiled⟩ := except_bind_eq_ok.mp compiled
      obtain ⟨first, compiledLeft, finished⟩ := except_bind_eq_ok.mp compiled
      cases finished
      rw [List.append_assoc, exec_instrs left compiledLeft, evaluate, bind_assoc]
      refine bind_congr fun left => ?_
      rw [List.cons_append, exec_skipIfFalse]
      -- The skipping instruction lands right after the code of the right side.
      split
      · exact exec_instrs right compiledRight rest stack
      · rw [exec_pass, pure_bind]
  | or left right =>
      rw [Expr.instrs] at compiled
      obtain ⟨second, compiledRight, compiled⟩ := except_bind_eq_ok.mp compiled
      obtain ⟨first, compiledLeft, finished⟩ := except_bind_eq_ok.mp compiled
      cases finished
      rw [List.append_assoc, exec_instrs left compiledLeft, evaluate, bind_assoc]
      refine bind_congr fun left => ?_
      rw [List.cons_append, exec_skipIfTrue]
      split
      · rw [exec_pass, pure_bind]
      · exact exec_instrs right compiledRight rest stack

/-- The code of several expressions leaves their values on the stack, the last one on top. -/
theorem exec_instrsOfAll (items : List Expr) {code : List Instr}
    (compiled : Expr.instrsOfAll items = .ok code) (rest : List Instr) (stack : List Value) :
    host.exec source 0 (code ++ rest) stack =
      host.evaluateAll items >>= fun values =>
        host.exec source 0 rest (values.reverse ++ stack) := by
  cases items with
  | nil =>
      cases compiled
      rw [evaluateAll, pure_bind]
      rfl
  | cons item items =>
      rw [Expr.instrsOfAll] at compiled
      obtain ⟨first, compiledItem, compiled⟩ := except_bind_eq_ok.mp compiled
      obtain ⟨second, compiledItems, finished⟩ := except_bind_eq_ok.mp compiled
      cases finished
      rw [List.append_assoc, exec_instrs item compiledItem, evaluateAll, bind_assoc]
      refine bind_congr fun value => ?_
      rw [exec_instrsOfAll items compiledItems, bind_assoc]
      refine bind_congr fun values => ?_
      rw [pure_bind, List.reverse_cons, List.append_assoc, List.singleton_append]

/-- The code of the arguments of a call leaves the positional values on the stack and the keyword values above
them. -/
theorem exec_instrsOfArguments (arguments : List (Argument Expr)) {positional : Nat}
    {keywords : List String} {result : List Instr × Nat × List String}
    (compiled : Expr.instrsOfArguments positional keywords arguments = .ok result)
    (rest : List Instr) (stack : List Value) :
    host.exec source 0 (result.1 ++ rest) stack =
      host.evaluatePositional arguments >>= fun values =>
        host.evaluateKeywords arguments >>= fun named =>
          host.exec source 0 rest ((named.map Prod.snd).reverse ++ (values.reverse ++ stack)) := by
  cases arguments with
  | nil =>
      cases compiled
      rw [evaluatePositional, evaluateKeywords, pure_bind, pure_bind]
      rfl
  | cons argument arguments =>
      cases argument with
      | positional item =>
          rw [Expr.instrsOfArguments] at compiled
          split at compiled
          · obtain ⟨first, compiledItem, compiled⟩ := except_bind_eq_ok.mp compiled
            obtain ⟨⟨second, total, names⟩, compiledRest, finished⟩ :=
              except_bind_eq_ok.mp compiled
            cases finished
            rw [List.append_assoc, exec_instrs item compiledItem, evaluatePositional,
              evaluateKeywords, bind_assoc]
            refine bind_congr fun value => ?_
            rw [exec_instrsOfArguments arguments compiledRest, bind_assoc]
            refine bind_congr fun values => ?_
            rw [pure_bind, List.reverse_cons, List.append_assoc, List.singleton_append]
          · cases compiled
      | keyword key item =>
          rw [Expr.instrsOfArguments] at compiled
          split at compiled
          · cases compiled
          · obtain ⟨first, compiledItem, compiled⟩ := except_bind_eq_ok.mp compiled
            obtain ⟨⟨second, total, names⟩, compiledRest, finished⟩ :=
              except_bind_eq_ok.mp compiled
            cases finished
            -- No positional argument is left, so the order of the two evaluations does not matter.
            have noPositional := host.evaluatePositional_eq_nil
              (Expr.isKeyword_of_instrsOfArguments compiledRest (by simp))
            rw [List.append_assoc, exec_instrs item compiledItem, evaluatePositional,
              evaluateKeywords, noPositional, pure_bind, bind_assoc]
            refine bind_congr fun value => ?_
            rw [exec_instrsOfArguments arguments compiledRest, noPositional, pure_bind, bind_assoc]
            refine bind_congr fun named => ?_
            rw [pure_bind, List.map_cons, List.reverse_cons, List.append_assoc,
              List.singleton_append]
            rfl

end

theorem run_eq_evaluate {expr : Expr} {source : List Char} {code : Code}
    (compiled : expr.code source = .ok code) : host.run code = host.evaluate expr := by
  rw [Expr.code] at compiled
  obtain ⟨instrs, compiledExpr, finished⟩ := except_bind_eq_ok.mp compiled
  cases finished
  have executed := host.exec_instrs (String.ofList (Text.trim source)) expr compiledExpr [] []
  rw [List.append_nil] at executed
  calc
    host.run ⟨instrs, String.ofList (Text.trim source)⟩ =
        host.evaluate expr >>= fun value =>
          host.exec (String.ofList (Text.trim source)) 0 [] [value] := executed
    _ = host.evaluate expr >>= pure := rfl
    _ = host.evaluate expr := bind_pure (host.evaluate expr)

end Host

end GroupScript
