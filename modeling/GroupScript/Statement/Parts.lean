import GroupScript.Expr.Machine
import GroupScript.Expr.Parser
import GroupScript.Source.Input

/-!
# Parts of statements

The pieces of a statement that are read from its text alone: the header of a block, lists of arguments and names,
the target of an assignment, the header of a procedure, and imports.
-/

namespace GroupScript

/-- The result of reading a part of a statement. -/
abbrev PartResult := Except Error

/-- The fault of a statement at the place of its line. -/
def malformed {α : Type} (line : LogicalLine) (fault : StatementFault) : PartResult α :=
  .error (.malformedStatement (.found fault line.place))

/-- The result of reading an expression, or its fault as an error. -/
def ofSyntax {α : Type} (result : Except SyntaxFault α) : PartResult α :=
  result.mapError .invalidExpression

/-- The code of an expression text. -/
def codeOf (text : List Char) : PartResult Code :=
  ofSyntax (Code.ofText text)

namespace LogicalLine

/-- Splits the rest of a block header at its colon into the head and the text after it. -/
def header (line : LogicalLine) (rest : List Char) : PartResult (List Char × List Char) :=
  match Source.findTopLevel ':' rest with
  | some position =>
      .ok (Text.trim (rest.take position), Text.trim (rest.drop (position + 1)))
  | none => malformed line .expectedColon

/-- The text after a keyword that takes no condition; a colon may stand between them. -/
def bareHeader (line : LogicalLine) (rest : List Char) : PartResult (List Char) :=
  match rest with
  | ':' :: tail => .ok (Text.trim tail)
  | [] => .ok []
  | _ => malformed line (.textAfter line.key)

/-- Checks that nothing but a colon follows the keyword that ends a block. -/
def requireEnd (line : LogicalLine) : PartResult Unit :=
  match line.rest with
  | [] => .ok ()
  | [':'] => .ok ()
  | _ => malformed line (.textAfter line.key)

/-- The code of a condition. -/
def condition (line : LogicalLine) (text : List Char) : PartResult Code :=
  if text.isEmpty then malformed line .missingCondition else codeOf text

/-- A text put in square brackets, as a list of expressions is. -/
def bracketed (text : List Char) : List Char :=
  '[' :: (text ++ [']'])

/-- The code of a list of arguments, which may be empty and may be enclosed in brackets. -/
def argumentList (rest : List Char) : PartResult (Option Code) :=
  let inner := Source.stripEnclosing rest
  if Text.isAllBlank inner then .ok none else some <$> codeOf (bracketed inner)

/-- The name that an expression is. -/
def nameOf? : Expr → Option String
  | .name text => some text
  | _ => none

/-- The names to delete. -/
def namesToDelete (line : LogicalLine) (rest : List Char) : PartResult (List String) := do
  let inner := Source.stripEnclosing rest
  if Text.isAllBlank inner then malformed line .nothingToDelete
  else
    match ← ofSyntax (Expr.ofText (bracketed inner)) with
    | .list items =>
        match items.mapM nameOf? with
        | some names => return names
        | none => malformed line .onlyNamesDeleted
    | _ => malformed line .invalidDeletion

/-- The name that an expression text is, if it is nothing but a name. -/
def readName? (text : List Char) : Option String :=
  match Code.ofText text with
  | .ok code => code.asName?
  | .error _ => none

/-- The definition of a variable by an expression. -/
def definition (line : LogicalLine) (rest : List Char) : PartResult Statement :=
  match Source.findAssign rest with
  | none => malformed line .expectedColonOrAssign
  | some position =>
      match readName? (Text.trim (rest.take position)) with
      | none => malformed line .invalidDefinedName
      | some name => do
          let value := Text.trim (rest.drop (position + 1))
          if value.isEmpty then malformed line .missingExpression
          else return .define name (← codeOf value)

/-- The target of an assignment that an expression is, if it is one: a name followed by indices.  The fault of an outer
group of indices counts before the fault of an inner one. -/
def targetOf? (source : List Char) : Expr → Option (Except SyntaxFault Target)
  | .name text => some (.ok ⟨text, []⟩)
  | .index base indices =>
      (targetOf? source base).map fun inner => do
        let codes ← indices.mapM fun index => index.code source
        let target ← inner
        return { target with path := target.path ++ [codes] }
  | _ => none

/-- The target of an assignment. -/
def target (line : LogicalLine) (text : List Char) : PartResult Target :=
  match Expr.ofText text with
  | .error _ => malformed line .invalidTarget
  | .ok expr =>
      match targetOf? text expr with
      | none => malformed line .invalidTarget
      | some result => ofSyntax result

/-- Whether a name has no dots. -/
def isSimpleName (name : String) : Bool :=
  !name.toList.contains '.'

/-- Reads the parameters of a procedure: names, and after them names with defaults. -/
def parameters (line : LogicalLine) (head : List Char) :
    List String → List (String × Code) → List (Argument Expr) →
      PartResult (List String × List (String × Code))
  | params, defaults, [] => .ok (params, defaults)
  | params, defaults, .positional (.name param) :: rest =>
      if isSimpleName param then
        if defaults.isEmpty then parameters line head (params ++ [param]) defaults rest
        else malformed line (.parameterAfterKeyword param)
      else malformed line .invalidParameter
  | params, defaults, .keyword key value :: rest => do
      let code ← ofSyntax (value.code head)
      parameters line head params (defaults ++ [(key, code)]) rest
  | _, _, .positional _ :: _ => malformed line .invalidParameter

/-- The signature that a procedure header denotes. -/
def signature (line : LogicalLine) (head : List Char) : PartResult Signature := do
  match Expr.ofText head with
  | .error fault => malformed line (.badHeader fault)
  | .ok (.call (.name name) arguments) => do
      let (params, defaults) ← parameters line head [] [] arguments
      return ⟨name, params, defaults⟩
  | .ok (.call _ _) => malformed line .invalidName
  | .ok (.name name) => return ⟨name, [], []⟩
  | .ok _ => malformed line .invalidHeader

/-- The documentation that a literal text gives: its lines without the blanks around them. -/
def documentation (text : String) : String :=
  String.ofList (Text.joinWith ['\n'] ((Text.lines (Text.trim text.toList)).map Text.trim))

/-- Splits the documentation off a procedure body that begins with a literal text. -/
def splitDocumentation : List Statement → Option String × List Statement
  | .evaluate code command :: body =>
      match code.asLiteral? with
      | some text => (some (documentation text), body)
      | none => (none, .evaluate code command :: body)
  | body => (none, body)

/-- Whether a text is a name that does not begin with a digit. -/
def isIdentifier (text : List Char) : Bool :=
  !text.isEmpty && !text.head?.any Decimal.isDigit && text.all Text.isNameChar

/-- Whether a text starts like the continuation of an expression that begins with a keyword. -/
def startsWithOneOf (marks : List Char) (text : List Char) : Bool :=
  text.head?.any marks.contains

/-- Whether a statement that begins with the keyword of an import is one. -/
def isImport (line : LogicalLine) (rest : List Char) : Bool :=
  !rest.isEmpty && !startsWithOneOf ['=', '[', '.', '('] rest &&
    (line.key == "import" || (Source.findWord "import".toList rest).isSome)

/-- Whether a keyword of a block is used as such, and not as a name. -/
def isKeywordUse (rest : List Char) : Bool :=
  !startsWithOneOf ['=', '[', '.', '('] rest

/-- One module of an import statement. -/
def importItem? (text : List Char) : Option Import :=
  match Text.words text with
  | [source] => if isIdentifier source then some ⟨String.ofList source, none, none⟩ else none
  | [source, word, name] =>
      if word = ['a', 's'] ∧ isIdentifier source ∧ isIdentifier name then
        some ⟨String.ofList source, some (String.ofList name), none⟩
      else none
  | _ => none

/-- The import of some members of a module. -/
def memberImport? (rest : List Char) : Option Import := do
  let position ← Source.findWord "import".toList rest
  let source := Text.trim (rest.take position)
  let listed := Source.stripEnclosing (rest.drop (position + "import".length))
  let members := (Text.pieces [','] listed).map Text.trim
  if isIdentifier source && members.all isIdentifier then
    some ⟨String.ofList source, none, some (members.map String.ofList)⟩
  else none

/-- An import statement. -/
def importStatement (line : LogicalLine) (rest : List Char) : PartResult Statement :=
  let items? :=
    if line.key == "from" then (memberImport? rest).map fun item => [item]
    else (Text.pieces [','] rest).mapM importItem?
  match items? with
  | some items => .ok (.importModules items)
  | none => malformed line .invalidImport

end LogicalLine

end GroupScript
