import GroupScript.Statement.Parts
import GroupScript.Workspace.Resolve

/-!
# Compiling statements

Statements are compiled one at a time, just before they run: a name followed by arguments is a call if the name
is bound to something that can be called, so the workspace is consulted.  A block statement takes in the lines up to
its end.

Compiling a line may compile further ones, so the functions here take a bound on the nesting and the number of
statements.  The bound is computed from the text that is left and is never reached.
-/

namespace GroupScript

/-- What compiling works on: the lines not read yet and the workspace. -/
structure Desk where
  input : Input
  workspace : Workspace
  deriving Inhabited

/-- A step of compilation. -/
abbrev Compile := Run Desk

namespace Compile

/-- Takes the next logical line. -/
def nextLine : Compile (Option LogicalLine) :=
  modifyGet fun desk =>
    let (line, input) := desk.input.next
    (line, { desk with input })

/-- Consults the workspace about the value of a name. -/
def valueOf? (scope : Scope) (name : String) : Compile (Option Value) :=
  modifyGet fun desk =>
    match Workspace.resolve scope name desk.workspace with
    | .ok value workspace => (some value, { desk with workspace })
    | .error _ workspace => (none, { desk with workspace })

/-- Compiles inside a block, which ends in any case. -/
def inBlock {α : Type} (action : Compile α) : Compile α := fun desk =>
  match action { desk with input := desk.input.enterBlock } with
  | .ok value desk => .ok value { desk with input := desk.input.leaveBlock }
  | .error halt desk => .error halt { desk with input := desk.input.leaveBlock }

/-- The compiler of the statements inside a statement. -/
abbrev Inner := LogicalLine → Compile Statement

/-- Compiles a text that stands after a header on the same line. -/
def inline (inner : Inner) (line : LogicalLine) (text : List Char) : Compile Statement :=
  inner (LogicalLine.ofText text line.number line.file)

/-- Compiles the text after a keyword that continues a block, which may be empty. -/
def leading (inner : Inner) (line : LogicalLine) (text : List Char) : Compile (List Statement) := do
  if text.isEmpty then return [] else return [← inline inner line text]

/-- Compiles statements up to a line that begins with one of the terminators, and gives that line.  The list holds the
statements so far, the last one first. -/
def blockBody (inner : Inner) (opener : LogicalLine) (terminators : List String) :
    Nat → List Statement → Compile (List Statement × LogicalLine)
  | 0, _ => throw .exhausted
  | bound + 1, done => do
      match ← nextLine with
      | none =>
          ofResult (malformed opener
            (.missingTerminator (Text.joinStrings " or " terminators)))
      | some line =>
          if terminators.contains line.key then return (done.reverse, line)
          else
            let statement ← inner line
            blockBody inner opener terminators bound (statement :: done)

/-- Compiles the statements of a block. -/
def block (bound : Nat) (inner : Inner) (opener : LogicalLine) (terminators : List String) :
    Compile (List Statement × LogicalLine) :=
  inBlock (blockBody inner opener terminators bound [])

/-- Compiles the body of a statement: the text after its header, or a block. -/
def body (bound : Nat) (inner : Inner) (line : LogicalLine) (tail : List Char)
    (terminator : String) : Compile (List Statement) := do
  if tail.isEmpty then
    let (statements, last) ← block bound inner line [terminator]
    ofResult last.requireEnd
    return statements
  else return [← inline inner line tail]

/-- The words that continue or end a conditional statement. -/
def conditionalWords : List String := ["elif", "else", "endif"]

/-- The code of the condition of an `else`. -/
def always : Code := ⟨[.push (.bool true)], "True"⟩

/-- Compiles the branches of a conditional statement, starting inside the branch with a given condition and first
statements.  The last list holds the branches so far, the last one first. -/
def branches (bound : Nat) (inner : Inner) (opener : LogicalLine) :
    Nat → Code → List Statement → Bool → List (Code × List Statement) → Compile Statement
  | 0, _, _, _, _ => throw .exhausted
  | more + 1, condition, first, seenElse, done => do
      let (rest, last) ← block bound inner opener conditionalWords
      let done := (condition, first ++ rest) :: done
      if last.key == "endif" then
        ofResult last.requireEnd
        return .choose done.reverse
      else if seenElse then ofResult (malformed last (.afterElse last.key))
      else if last.key == "elif" then
        let (head, tail) ← ofResult (last.header last.rest)
        let condition ← ofResult (last.condition head)
        let first ← leading inner last tail
        branches bound inner opener more condition first false done
      else
        let tail ← ofResult (last.bareHeader last.rest)
        let first ← leading inner last tail
        branches bound inner opener more always first true done

/-- Compiles a conditional statement. -/
def conditional (bound : Nat) (inner : Inner) (line : LogicalLine) (rest : List Char) :
    Compile Statement := do
  let (head, tail) ← ofResult (line.header rest)
  let condition ← ofResult (line.condition head)
  if tail.isEmpty then branches bound inner line bound condition [] false []
  else return .choose [(condition, [← inline inner line tail])]

/-- Compiles a loop with a condition. -/
def whileLoop (bound : Nat) (inner : Inner) (line : LogicalLine) (rest : List Char) :
    Compile Statement := do
  let (head, tail) ← ofResult (line.header rest)
  let condition ← ofResult (line.condition head)
  return .loop condition (← body bound inner line tail "endwhile")

/-- The variable of a loop over items. -/
def loopVariable (line : LogicalLine) (text : List Char) : PartResult String :=
  match (LogicalLine.readName? text).filter LogicalLine.isSimpleName with
  | some name => .ok name
  | none => malformed line .loopVariable

/-- Compiles a loop over items. -/
def forLoop (bound : Nat) (inner : Inner) (line : LogicalLine) (rest : List Char) :
    Compile Statement := do
  let (head, tail) ← ofResult (line.header rest)
  match Source.findWord ['i', 'n'] head with
  | none => ofResult (malformed line .expectedIn)
  | some position =>
      let name ← ofResult (loopVariable line (head.take position))
      let items ← ofResult (line.condition (head.drop (position + 2)))
      return .iterate name items (← body bound inner line tail "endfor")

/-- Compiles a statement that handles failure. -/
def attempt (bound : Nat) (inner : Inner) (line : LogicalLine) (rest : List Char) :
    Compile Statement := do
  let tail ← ofResult (line.bareHeader rest)
  if tail.isEmpty then
    let (statements, last) ← block bound inner line ["except", "endtry"]
    if last.key == "endtry" then
      ofResult last.requireEnd
      return .attempt statements []
    else
      let tail ← ofResult (last.bareHeader last.rest)
      let first ← leading inner last tail
      let (rest, last) ← block bound inner line ["endtry"]
      ofResult last.requireEnd
      return .attempt statements (first ++ rest)
  else ofResult (malformed line .tryRequiresBlock)

/-- The body of a procedure written on one line: an expression is what the procedure returns. -/
def oneLineBody : Statement → List Statement
  | .evaluate code false =>
      if code.asLiteral?.isNone then [.leave (some code)] else [.evaluate code false]
  | statement => [statement]

/-- Compiles the body of a procedure. -/
def procedureBody (bound : Nat) (inner : Inner) (line : LogicalLine) (tail : List Char) :
    Compile (List Statement) := do
  if tail.isEmpty then body bound inner line [] "enddef"
  else return oneLineBody (← inline inner line tail)

/-- Compiles the definition of a procedure or of a variable. -/
def definition (bound : Nat) (inner : Inner) (line : LogicalLine) (rest : List Char) :
    Compile Statement := do
  match Source.findTopLevel ':' rest with
  | none => ofResult (line.definition rest)
  | some position =>
      let signature ← ofResult (line.signature (Text.trim (rest.take position)))
      let statements ←
        procedureBody bound inner line (Text.trim (rest.drop (position + 1)))
      let (doc, statements) := LogicalLine.splitDocumentation statements
      return .procedure signature doc statements

/-- The marks that keep the first word of a statement from being a command. -/
def commandStops : List Char := ['(', ',', '=', '[', '\'', '"']

/-- The operators after which a word is an operand and not a command. -/
def operatorMarks : List Char := ['=', '[', '.', '+', '-', '*', '/', '%', '<', '>', '!']

/-- The words after which a word is an operand and not a command. -/
def operatorWords : List String := ["and", "or", "in", "not", "if"]

/-- The text of the call that a command stands for: a word that can be called, followed by arguments without
parentheses. -/
def commandCall? (scope : Scope) (text : List Char) : Compile (Option (List Char)) := do
  let word := text.takeWhile (!Text.isBlank ·)
  if word.any commandStops.contains then return none
  else
    match ← valueOf? scope (String.ofList word) with
    | none => return none
    | some value =>
        let rest := Text.trim (text.drop word.length)
        if !value.isCallable || LogicalLine.startsWithOneOf operatorMarks rest ||
            operatorWords.any (fun word => Source.findWord word.toList rest == some 0) then
          return none
        else return some (word ++ '(' :: (rest ++ [')']))

/-- Compiles a command, an assignment or an expression. -/
def simple (scope : Scope) (line : LogicalLine) : Compile Statement := do
  match ← commandCall? scope line.text with
  | some call =>
      match Code.ofText call with
      | .ok code => return .evaluate code true
      | .error fault => ofResult (malformed line (.invalidCommand fault))
  | none =>
      match Source.findAssign line.text with
      | none => return .evaluate (← ofResult (codeOf line.text)) false
      | some position =>
          let value := Text.trim (line.text.drop (position + 1))
          if value.isEmpty then ofResult (malformed line .missingValue)
          else
            let target ← ofResult (line.target (Text.trim (line.text.take position)))
            return .assign target (← ofResult (codeOf value))

/-- The words that only have a meaning inside the statement they belong to. -/
def blockWords : List String :=
  ["elif", "else", "endif", "endwhile", "endfor", "enddef", "except", "endtry"]

/-- Compiles a statement that consists of a keyword alone. -/
def bare (line : LogicalLine) (rest : List Char) (statement : Statement) : Compile Statement :=
  if rest.isEmpty then return statement else ofResult (malformed line (.textAfter line.key))

/-- Compiles a line, given the compiler of the statements inside it. -/
def lineWith (bound : Nat) (inner : Inner) (scope : Scope) (line : LogicalLine) :
    Compile Statement := do
  let rest := line.rest
  match line.key with
  | "if" => conditional bound inner line rest
  | "while" => whileLoop bound inner line rest
  | "for" => forLoop bound inner line rest
  | "try" => attempt bound inner line rest
  | "def" => definition bound inner line rest
  | "del" => return .delete (← ofResult (line.namesToDelete rest))
  | "print" => return .print (← ofResult (LogicalLine.argumentList rest))
  | "return" => return .leave (← ofResult (LogicalLine.argumentList rest))
  | "break" => bare line rest .breakLoop
  | "continue" => bare line rest .continueLoop
  | key =>
      if (key == "import" || key == "from") && line.isImport rest then
        ofResult (line.importStatement rest)
      else if blockWords.contains key && LogicalLine.isKeywordUse rest then
        ofResult (malformed line (.outsideBlock key))
      else simple scope line

/-- Compiles a line; the number bounds the nesting and the number of statements. -/
def line (scope : Scope) : Nat → LogicalLine → Compile Statement
  | 0, _ => throw .exhausted
  | bound + 1, text => lineWith bound (line scope bound) scope text

/-- The words that begin a statement with statements inside. -/
def openingWords : List String := ["if", "while", "for", "try", "def"]

/-- A bound on the nesting and the number of statements in the statement that begins with a line.  A statement
that cannot hold others needs next to none. -/
def boundOf (text : LogicalLine) (input : Input) : Nat :=
  if openingWords.contains text.key then text.text.length + input.unread + 2 else 2

/-- Compiles the next statement, or gives nothing at the end of input. -/
def next (scope : Scope) : Compile (Option Statement) := do
  match ← nextLine with
  | none => return none
  | some text =>
      let bound := boundOf text (← get).input
      return some (← line scope bound text)

end Compile

end GroupScript
