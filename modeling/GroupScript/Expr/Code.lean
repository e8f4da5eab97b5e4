import GroupScript.Expr.Tree
import GroupScript.Text.Blank

/-!
# Stack code

An expression is compiled to a list of instructions for a stack machine.  The two skipping instructions
carry the number of instructions they pass over, so code can be placed after other code without change.
-/

namespace GroupScript

/-- An instruction of the stack machine. -/
inductive Instr
  /-- Puts a constant on the stack. -/
  | push (value : Value)
  /-- Puts the value of a name on the stack. -/
  | load (name : String)
  /-- Takes a number of values off the stack and puts back the list of them. -/
  | makeList (count : Nat)
  /-- Takes a number of indices and a target off the stack and puts back the element. -/
  | index (count : Nat)
  /-- Takes keyword values, positional values and a function off the stack and puts back the result. -/
  | call (positional : Nat) (keywords : List String)
  | unary (op : UnaryOp)
  | binary (op : BinaryOp)
  /-- Passes over instructions if the top of the stack is false, otherwise takes it off. -/
  | skipIfFalse (count : Nat)
  /-- Passes over instructions if the top of the stack is true, otherwise takes it off. -/
  | skipIfTrue (count : Nat)
  deriving Inhabited

/-- Compiled code together with the text it was compiled from. -/
structure Code where
  instrs : List Instr
  source : String
  deriving Inhabited

namespace Expr

mutual

/-- The code of an expression: it leaves the value of the expression on the stack.  The right side of a
short-circuit operator is compiled first, because the code of the left side has to skip it. -/
def instrs : Expr → Except SyntaxFault (List Instr)
  | const value => .ok [.push value]
  | name text => .ok [.load text]
  | list items => do
      let code ← instrsOfAll items
      return code ++ [.makeList items.length]
  | index target indices => do
      let code ← instrs target
      let rest ← instrsOfAll indices
      return code ++ rest ++ [.index indices.length]
  | call function arguments => do
      let code ← instrs function
      let (rest, positional, keywords) ← instrsOfArguments 0 [] arguments
      return code ++ rest ++ [.call positional keywords]
  | unary op operand => do
      let code ← instrs operand
      return code ++ [.unary op]
  | binary op left right => do
      let first ← instrs left
      let second ← instrs right
      return first ++ second ++ [.binary op]
  | and left right => do
      let second ← instrs right
      let first ← instrs left
      return first ++ .skipIfFalse second.length :: second
  | or left right => do
      let second ← instrs right
      let first ← instrs left
      return first ++ .skipIfTrue second.length :: second

/-- The code of several expressions, one after the other. -/
def instrsOfAll : List Expr → Except SyntaxFault (List Instr)
  | [] => .ok []
  | item :: items => do
      let first ← instrs item
      let rest ← instrsOfAll items
      return first ++ rest

/-- The code of the arguments of a call, with the number of positional ones and the names of the keyword
ones.  The first two arguments of this function count and list those already seen. -/
def instrsOfArguments (positional : Nat) (keywords : List String) :
    List (Argument Expr) → Except SyntaxFault (List Instr × Nat × List String)
  | [] => .ok ([], positional, keywords)
  | .positional value :: arguments =>
      if keywords.isEmpty then do
        let first ← instrs value
        let (rest, total, names) ← instrsOfArguments (positional + 1) keywords arguments
        return (first ++ rest, total, names)
      else .error .positionalAfterKeyword
  | .keyword key value :: arguments =>
      if keywords.contains key then .error (.repeatedKeyword key)
      else do
        let first ← instrs value
        let (rest, total, names) ← instrsOfArguments positional (keywords ++ [key]) arguments
        return (first ++ rest, total, names)

end

/-- Compiles an expression; the source is kept without the blanks around it. -/
def code (expr : Expr) (source : List Char) : Except SyntaxFault Code := do
  let instrs ← expr.instrs
  return ⟨instrs, String.ofList (Text.trim source)⟩

end Expr

namespace Code

/-- The name that the code reads, if reading one name is all it does. -/
def asName? (code : Code) : Option String :=
  match code.instrs with
  | [.load name] => some name
  | _ => none

/-- The text that the code denotes, if it is a single literal text. -/
def asLiteral? (code : Code) : Option String :=
  match code.instrs with
  | [.push (.string text)] => some text
  | _ => none

end Code

end GroupScript
