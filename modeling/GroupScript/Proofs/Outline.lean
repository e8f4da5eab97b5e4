import GroupScript.Proofs.WholeLine
import GroupScript.Statement.Compile

/-!
# Outlines of programs

An outline is the tree of a program in block form: simple statements, each on a line of its own, and blocks around
them.  It has lines, with a header before and a terminator after each block, and it stands for a statement that has the
same nesting and whose simple parts are compiled as each of them is alone.
-/

namespace GroupScript

mutual

/-- A statement in block form. -/
inductive Outline
  | simple (text : List Char)
  | conditional (condition : List Char) (body : List Outline) (more : Alternatives)
  | whileLoop (condition : List Char) (body : List Outline)
  | forLoop (name items : List Char) (body : List Outline)
  | attempt (body : List Outline)
  | attemptExcept (body handler : List Outline)
  | procedure (head : List Char) (body : List Outline)

/-- What follows the first branch of a conditional statement. -/
inductive Alternatives
  | done
  | otherwise (body : List Outline)
  | elseIf (condition : List Char) (body : List Outline) (more : Alternatives)

end

/-- The head of a loop over items. -/
def loopHead (name items : List Char) : List Char :=
  name ++ ' ' :: 'i' :: 'n' :: ' ' :: items

mutual

/-- The lines of a statement in block form. -/
def Outline.lines : Outline → List (List Char)
  | .simple text => [text]
  | .conditional condition body more =>
      headerLine "if".toList condition :: (linesOfAll body ++ more.lines)
  | .whileLoop condition body =>
      headerLine "while".toList condition :: (linesOfAll body ++ ["endwhile".toList])
  | .forLoop name items body =>
      headerLine "for".toList (loopHead name items) :: (linesOfAll body ++ ["endfor".toList])
  | .attempt body => "try:".toList :: (linesOfAll body ++ ["endtry".toList])
  | .attemptExcept body handler =>
      "try:".toList ::
        (linesOfAll body ++ "except:".toList :: (linesOfAll handler ++ ["endtry".toList]))
  | .procedure head body =>
      headerLine "def".toList head :: (linesOfAll body ++ ["enddef".toList])

/-- The lines of several statements. -/
def linesOfAll : List Outline → List (List Char)
  | [] => []
  | first :: others => first.lines ++ linesOfAll others

/-- The lines of the further branches of a conditional statement, up to its end. -/
def Alternatives.lines : Alternatives → List (List Char)
  | .done => ["endif".toList]
  | .otherwise body => "else:".toList :: (linesOfAll body ++ ["endif".toList])
  | .elseIf condition body more =>
      headerLine "elif".toList condition :: (linesOfAll body ++ more.lines)

end

/-- Whether a line holds a simple statement: a whole one whose first word neither begins a block nor belongs to one. -/
def isSimpleLine (text : List Char) : Bool :=
  let statement := Text.trim text
  !statement.isEmpty && Source.isWhole statement && !Compile.openingWords.contains (keyOf statement) &&
    !Compile.blockWords.contains (keyOf statement)

/-- The words of expressions that are no names. -/
def expressionWords : List String :=
  ["True", "False", "None", "and", "or", "not", "in"]

/-- Whether a text is a bare name. -/
def isBareName (text : List Char) : Bool :=
  LogicalLine.isIdentifier text && !expressionWords.contains (String.ofList text)

section Meaning

variable (scope : Scope) (workspace : Workspace)

/-- The statement that a line compiles to when it is all there is. -/
def aloneStatement? (text : List Char) : Option Statement :=
  match Compile.next scope ⟨{ queue := [⟨text, 1, ""⟩] }, workspace⟩ with
  | .ok statement _ => statement
  | .error _ _ => none

mutual

/-- The statement that an outline stands for, if each of its parts is what it should be. -/
def Outline.statement? : Outline → Option Statement
  | .simple text => if isSimpleLine text then aloneStatement? scope workspace text else none
  | .conditional condition body more => do
      let code ← (codeOf condition).toOption
      let first ← statementsOfAll? body
      let others ← more.branches?
      return .choose ((code, first) :: others)
  | .whileLoop condition body => do
      let code ← (codeOf condition).toOption
      return .loop code (← statementsOfAll? body)
  | .forLoop name items body =>
      if isBareName name then do
        let code ← (codeOf items).toOption
        return .iterate (String.ofList name) code (← statementsOfAll? body)
      else none
  | .attempt body => do
      return .attempt (← statementsOfAll? body) []
  | .attemptExcept body handler => do
      return .attempt (← statementsOfAll? body) (← statementsOfAll? handler)
  | .procedure head body => do
      let signature ← (LogicalLine.signature default head).toOption
      let (doc, statements) := LogicalLine.splitDocumentation (← statementsOfAll? body)
      return .procedure signature doc statements

/-- The statements that several outlines stand for. -/
def statementsOfAll? : List Outline → Option (List Statement)
  | [] => some []
  | first :: others => do
      let statement ← first.statement?
      return statement :: (← statementsOfAll? others)

/-- The further branches that a conditional statement has. -/
def Alternatives.branches? : Alternatives → Option (List (Code × List Statement))
  | .done => some []
  | .otherwise body => do
      return [(Compile.always, ← statementsOfAll? body)]
  | .elseIf condition body more => do
      let code ← (codeOf condition).toOption
      let first ← statementsOfAll? body
      return (code, first) :: (← more.branches?)

end

end Meaning

end GroupScript
