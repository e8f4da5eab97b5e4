import GroupScript.Expr.Operator
import GroupScript.Expr.Token
import GroupScript.Value.Kind

/-!
# Errors

An error has one of eight classes and a cause within its class.  Causes carry the data they are about;
their wording is given once, by the functions called `text`.  Every class also has a cause `stated` with a
free text, for errors that a host program raises or hands in.
-/

namespace GroupScript

/-- Why a text is not an expression. -/
inductive SyntaxFault
  | badFloat (digits : String)
  | badInteger (digits : String)
  | unclosedString
  | unterminatedEscape
  | unexpectedCharacter (c : Char)
  | emptyExpression
  | unexpectedToken (token : Token)
  | trailingToken (token : Token) (source : String)
  | unexpectedEnd
  | expected (wanted : Token) (found : Option Token)
  | emptyIndex
  | missingMember (name : String)
  | positionalAfterKeyword
  | repeatedKeyword (name : String)
  | stated (text : String)

/-- The wording of a syntax fault. -/
def SyntaxFault.text : SyntaxFault → String
  | badFloat digits => "Unable to parse float - " ++ digits
  | badInteger digits => "Unable to parse integer - " ++ digits
  | unclosedString => "Expected closing string quotation"
  | unterminatedEscape => "Unterminated escape sequence"
  | unexpectedCharacter c => "Unexpected character - " ++ c.toString
  | emptyExpression => "empty expression"
  | unexpectedToken token => "unexpected token '" ++ token.text ++ "'"
  | trailingToken token source => "unexpected token '" ++ token.text ++ "' in '" ++ source ++ "'"
  | unexpectedEnd => "unexpected end of expression"
  | expected wanted (some token) =>
      "expected '" ++ wanted.text ++ "' - found '" ++ token.text ++ "'"
  | expected wanted Option.none => "expected '" ++ wanted.text ++ "' - found end of expression"
  | emptyIndex => "empty index"
  | missingMember name => "expected member name after '" ++ name ++ ".'"
  | positionalAfterKeyword => "positional argument follows keyword argument"
  | repeatedKeyword name => "keyword argument repeated - " ++ name
  | stated text => text

/-- Where a statement stands: its file, the number of its first line, and its text. -/
structure Place where
  file : String
  line : Nat
  text : String
  deriving DecidableEq, Repr, Inhabited

/-- Why a text is not a statement. -/
inductive StatementFault
  | textAfter (key : String)
  | outsideBlock (key : String)
  | missingTerminator (terminators : String)
  | afterElse (key : String)
  | expectedColon
  | expectedIn
  | loopVariable
  | missingCondition
  | tryRequiresBlock
  | badHeader (fault : SyntaxFault)
  | invalidName
  | invalidHeader
  | parameterAfterKeyword (parameter : String)
  | invalidParameter
  | invalidCommand (fault : SyntaxFault)
  | missingValue
  | invalidTarget
  | nothingToDelete
  | onlyNamesDeleted
  | invalidDeletion
  | expectedColonOrAssign
  | invalidDefinedName
  | missingExpression
  | invalidImport

/-- What a message about an unreadable expression begins with. -/
def invalidExpressionLabel : String := "Invalid expression - "

/-- The wording of a statement fault. -/
def StatementFault.text : StatementFault → String
  | textAfter key => "unexpected text after " ++ key
  | outsideBlock key => "'" ++ key ++ "' outside of block"
  | missingTerminator terminators => "missing " ++ terminators ++ " before end of input"
  | afterElse key => "'" ++ key ++ "' after else"
  | expectedColon => "expected ':'"
  | expectedIn => "expected 'in'"
  | loopVariable => "loop variable must be a single name"
  | missingCondition => "missing condition"
  | tryRequiresBlock => "try requires a block"
  | badHeader fault => "invalid procedure header - " ++ invalidExpressionLabel ++ fault.text
  | invalidName => "invalid procedure name"
  | invalidHeader => "invalid procedure header"
  | parameterAfterKeyword parameter => "parameter " ++ parameter ++ " follows keyword parameter"
  | invalidParameter => "invalid parameter"
  | invalidCommand fault => "invalid command - " ++ invalidExpressionLabel ++ fault.text
  | missingValue => "missing value in assignment"
  | invalidTarget => "invalid assignment target"
  | nothingToDelete => "nothing to delete"
  | onlyNamesDeleted => "only names can be deleted"
  | invalidDeletion => "invalid del statement"
  | expectedColonOrAssign => "expected ':' or '='"
  | invalidDefinedName => "invalid name for defined variable"
  | missingExpression => "missing expression"
  | invalidImport => "invalid import statement"

/-- Why a name cannot be bound, deleted or used as the target of an operation. -/
inductive TargetFault
  | indexNotInteger (kind : Kind)
  | notIndexable (kind : Kind)
  | notAssignableInto (kind : Kind)
  | cannotCreate (name parent : String)
  | notGroup (name : String) (kind : Kind)
  | invalidName (name : String)
  | cannotBind (name first : String) (kind : Kind)
  | constantAssigned (name : String)
  | constantDeleted (name : String)
  | groupDeleted (name : String)
  | definedAssigned (name : String)
  | notCallable (kind : Kind)
  | notIterable (kind : Kind)
  | stated (text : String)

/-- The wording of a target fault. -/
def TargetFault.text : TargetFault → String
  | indexNotInteger kind => "index must be an integer - got " ++ kind.name
  | notIndexable kind => "cannot index " ++ kind.name
  | notAssignableInto kind => "cannot assign into element of " ++ kind.name
  | cannotCreate name parent => "cannot create '" ++ name ++ "' - '" ++ parent ++ "' is not a group"
  | notGroup name kind => "'" ++ name ++ "' is not a group - got " ++ kind.name
  | invalidName name => "invalid name '" ++ name ++ "'"
  | cannotBind name first kind => "cannot bind '" ++ name ++ "' - '" ++ first ++ "' is " ++ kind.name
  | constantAssigned name => "cannot re-assign value of constant " ++ name
  | constantDeleted name => "cannot delete constant " ++ name
  | groupDeleted name => "'" ++ name ++ "' is a group - use del_group"
  | definedAssigned name => "cannot assign into defined variable " ++ name
  | notCallable kind => kind.name ++ " is not callable"
  | notIterable kind => "cannot iterate over " ++ kind.name
  | stated text => text

/-- Why a call does not accept its arguments. -/
inductive ArgumentFault
  | notString (kind : Kind)
  | notInteger (kind : Kind)
  | notNumber (kind : Kind)
  | wrongCount (name : String) (expected given : Nat)
  | wrongPositional (name : String) (expected given : Nat)
  | keywordsRefused (name : String)
  | noLength (kind : Kind)
  | rangeArguments
  | rangeStepZero
  | noOperands (name : String)
  | sumArguments
  | joinArguments
  | splitArguments
  | formatMissing
  | groupArgument (name : String)
  | showGroupArgument
  | helpCount (given : Nat)
  | helpKind (kind : Kind)
  | stated (text : String)

/-- The wording of an argument fault. -/
def ArgumentFault.text : ArgumentFault → String
  | notString kind => "expected string - got " ++ kind.name
  | notInteger kind => "expected integer - got " ++ kind.name
  | notNumber kind => "expected number - got " ++ kind.name
  | wrongCount name expected given =>
      name ++ " expects " ++ toString expected ++ " argument" ++ (if expected = 1 then "" else "s") ++
        " - got " ++ toString given
  | wrongPositional name expected given =>
      name ++ " takes " ++ toString expected ++ " positional arguments - got " ++ toString given
  | keywordsRefused name => name ++ " does not take keyword arguments"
  | noLength kind => "len expects list, string, or group - got " ++ kind.name
  | rangeArguments => "range expects 1 to 3 integer arguments"
  | rangeStepZero => "range step must not be zero"
  | noOperands name => name ++ " expects at least one value"
  | sumArguments => "sum expects a list and optional start value"
  | joinArguments => "join expects SEP string and LIST as arguments"
  | splitArguments => "split expects non-empty SEP and STR as arguments"
  | formatMissing => "First argument should be format string"
  | groupArgument name => name ++ " expects an optional group or group name"
  | showGroupArgument => "show_group expects an optional group name"
  | helpCount given =>
      "help expects one callable object as argument - got " ++ toString given ++ " arguments"
  | helpKind kind => "help expects one callable object as argument - got " ++ kind.name
  | stated text => text

/-- Why an evaluation has no value. -/
inductive EvaluationFault
  | stackEmpty
  | stackShort (wanted : Nat)
  | stackLeft (source : String) (count : Nat)
  | indexOutOfRange (index : Int) (length : Nat)
  | integerOverflow
  | divisionByZero
  | badOperand (kind : Kind)
  | badOperands (op : BinaryOp) (left right : Kind)
  | repeatedTooLong (times : Nat)
  | notComparable (left right : Kind)
  | notANumberCompared
  | noMembership (kind : Kind)
  | callDepth (name : String)
  | readDepth (name : String)
  | rangeTooLong (span : Int)
  | mathDomain
  | badIntegerLiteral (text : String)
  | badFloatLiteral (text : String)
  | noInteger (kind : Kind)
  | noFloat (kind : Kind)
  | stated (text : String)

/-- The wording of an evaluation fault. -/
def EvaluationFault.text : EvaluationFault → String
  | stackEmpty => "expression stack is empty"
  | stackShort wanted => "expected " ++ toString wanted ++ " values on expression stack"
  | stackLeft source count =>
      "expression '" ++ source ++ "' left " ++ toString count ++ " values on stack"
  | indexOutOfRange index length =>
      "index " ++ String.ofList (Decimal.integerText index) ++ " out of range for length " ++
        toString length
  | integerOverflow => "integer overflow"
  | divisionByZero => "division by zero"
  | badOperand kind => "bad operand type for unary operator - " ++ kind.name
  | badOperands op left right =>
      "unsupported operand types for " ++ op.name ++ " - " ++ left.name ++ " and " ++ right.name
  | repeatedTooLong times => "sequence repeated " ++ toString times ++ " times is too long"
  | notComparable left right => "cannot compare " ++ left.name ++ " and " ++ right.name
  | notANumberCompared => "cannot compare NaN"
  | noMembership kind => "'in' is not supported for " ++ kind.name
  | callDepth name => "maximum call depth exceeded in " ++ name
  | readDepth name => "maximum depth exceeded evaluating " ++ name
  | rangeTooLong span =>
      "range of " ++ String.ofList (Decimal.integerText span) ++ " items is too long"
  | mathDomain => "math domain error"
  | badIntegerLiteral text => "invalid literal for int - '" ++ text ++ "'"
  | badFloatLiteral text => "invalid literal for float - '" ++ text ++ "'"
  | noInteger kind => "cannot convert " ++ kind.name ++ " to int"
  | noFloat kind => "cannot convert " ++ kind.name ++ " to float"
  | stated text => text

/-- Why a name does not lead to a value. -/
inductive NameFault
  | unbound (name : String)
  | missingImport (member module : String)
  deriving DecidableEq

/-- The wording of a name fault. -/
def NameFault.text : NameFault → String
  | unbound name => name
  | missingImport member module => member ++ " in module " ++ module

/-- Why a file cannot be read. -/
inductive ReadFault
  | absent
  | directory
  | throughFile
  | notText
  | nulInPath
  | tooLong
  | denied
  deriving DecidableEq

/-- The operating system's wording of a read fault. -/
def ReadFault.text : ReadFault → String
  | absent => "No such file or directory (os error 2)"
  | directory => "Is a directory (os error 21)"
  | throughFile => "Not a directory (os error 20)"
  | notText => "stream did not contain valid UTF-8"
  | nulInPath => "file name contained an unexpected NUL byte"
  | tooLong => "File name too long (os error 36)"
  | denied => "Permission denied (os error 13)"

/-- Why input or output failed. -/
inductive IoFault
  | unreadable (path : String) (fault : ReadFault)
  | stated (text : String)

/-- The wording of an input or output fault. -/
def IoFault.text : IoFault → String
  | unreadable path fault => path ++ " - " ++ fault.text
  | stated text => text

/-- Why a statement is malformed, with its place if the statement was read from input. -/
inductive MalformedFault
  | found (fault : StatementFault) (place : Place)
  | stated (text : String)

/-- The wording of a malformed statement. -/
def MalformedFault.text : MalformedFault → String
  | found fault place =>
      fault.text ++ " at " ++ place.file ++ ":" ++ toString place.line ++ " - '" ++ place.text ++ "'"
  | stated text => text

/-- The classes of errors. -/
inductive ErrorClass
  | malformedStatement
  | invalidExpression
  | unresolvedSymbol
  | invalidTarget
  | unexpectedArguments
  | evaluationFailure
  | moduleNotFound
  | io
  deriving DecidableEq, Repr, Inhabited

/-- Every class of errors. -/
def ErrorClass.all : List ErrorClass :=
  [.malformedStatement, .invalidExpression, .unresolvedSymbol, .invalidTarget,
    .unexpectedArguments, .evaluationFailure, .moduleNotFound, .io]

/-- The name of an error class in the exchange format of errors. -/
def ErrorClass.name : ErrorClass → String
  | .malformedStatement => "MalformedStatement"
  | .invalidExpression => "InvalidExpression"
  | .unresolvedSymbol => "UnresolvedSymbol"
  | .invalidTarget => "InvalidTarget"
  | .unexpectedArguments => "UnexpectedArguments"
  | .evaluationFailure => "EvaluationFailure"
  | .moduleNotFound => "ModuleNotFound"
  | .io => "Io"

/-- The words that a message of this class begins with. -/
def ErrorClass.label : ErrorClass → String
  | .malformedStatement => "Malformed statement - "
  | .invalidExpression => invalidExpressionLabel
  | .unresolvedSymbol => "Unresolved symbol - "
  | .invalidTarget => "Invalid target - "
  | .unexpectedArguments => "Unexpected arguments - "
  | .evaluationFailure => "Evaluation failure - "
  | .moduleNotFound => "Module not found - "
  | .io => "IO error - "

/-- The class of a given name. -/
def ErrorClass.named? (name : String) : Option ErrorClass :=
  all.find? fun kind => kind.name == name

/-- An error: its class and its cause within the class. -/
inductive Error
  | malformedStatement (fault : MalformedFault)
  | invalidExpression (fault : SyntaxFault)
  | unresolvedSymbol (fault : NameFault)
  | invalidTarget (fault : TargetFault)
  | unexpectedArguments (fault : ArgumentFault)
  | evaluationFailure (fault : EvaluationFault)
  | moduleNotFound (name : String)
  | io (fault : IoFault)

/-- The class of an error. -/
def Error.kind : Error → ErrorClass
  | .malformedStatement _ => .malformedStatement
  | .invalidExpression _ => .invalidExpression
  | .unresolvedSymbol _ => .unresolvedSymbol
  | .invalidTarget _ => .invalidTarget
  | .unexpectedArguments _ => .unexpectedArguments
  | .evaluationFailure _ => .evaluationFailure
  | .moduleNotFound _ => .moduleNotFound
  | .io _ => .io

/-- The cause of an error in words, without its class. -/
def Error.text : Error → String
  | .malformedStatement fault => fault.text
  | .invalidExpression fault => fault.text
  | .unresolvedSymbol fault => fault.text
  | .invalidTarget fault => fault.text
  | .unexpectedArguments fault => fault.text
  | .evaluationFailure fault => fault.text
  | .moduleNotFound name => name
  | .io fault => fault.text

/-- The whole message of an error. -/
def Error.message (error : Error) : String :=
  error.kind.label ++ error.text

/-- The error of a given class whose cause is stated in words. -/
def Error.ofText : ErrorClass → String → Error
  | .malformedStatement, text => .malformedStatement (.stated text)
  | .invalidExpression, text => .invalidExpression (.stated text)
  | .unresolvedSymbol, text => .unresolvedSymbol (.unbound text)
  | .invalidTarget, text => .invalidTarget (.stated text)
  | .unexpectedArguments, text => .unexpectedArguments (.stated text)
  | .evaluationFailure, text => .evaluationFailure (.stated text)
  | .moduleNotFound, text => .moduleNotFound text
  | .io, text => .io (.stated text)

/-- The error of a name that is bound nowhere. -/
def Error.unbound (name : String) : Error :=
  .unresolvedSymbol (.unbound name)

end GroupScript
