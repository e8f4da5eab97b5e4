import GroupScript.Error

/-!
# Values

The values of the language.  Groups, procedures and defined variables have an identity: two of them are the
same only if they were made by the same act.  A value refers to them by a number under which they are kept
in the store; all other values are compared by what they hold.
-/

namespace GroupScript

/-- The number under which a group is kept. -/
abbrev GroupId := Nat

/-- The number under which a procedure is kept. -/
abbrev ProcedureId := Nat

/-- The number under which a defined variable is kept. -/
abbrev DefinitionId := Nat

/-- The functions that the language itself provides. -/
inductive Builtin
  | len
  | range
  | min
  | max
  | sum
  | str
  | repr
  | join
  | split
  | format
  | int
  | float
  | type
  | isGroup
  | callable
  | abs
  | help
  | group
  | names
  | subgroups
  | showGroup
  | delGroup
  | reload
  | sqrt
  | exp
  | log
  | log10
  | sin
  | cos
  | tan
  | floor
  | ceil
  | pow
  deriving DecidableEq, Repr, Inhabited

/-- A function that is not written in the language: one of its own, or one of the program around it. -/
inductive Native
  | builtin (function : Builtin)
  | host (name : String)
  deriving DecidableEq, Repr, Inhabited

/-- The name of a builtin function. -/
def Builtin.name : Builtin → String
  | .len => "len"
  | .range => "range"
  | .min => "min"
  | .max => "max"
  | .sum => "sum"
  | .str => "str"
  | .repr => "repr"
  | .join => "join"
  | .split => "split"
  | .format => "format"
  | .int => "int"
  | .float => "float"
  | .type => "type"
  | .isGroup => "isgroup"
  | .callable => "callable"
  | .abs => "abs"
  | .help => "help"
  | .group => "group"
  | .names => "names"
  | .subgroups => "subgroups"
  | .showGroup => "show_group"
  | .delGroup => "del_group"
  | .reload => "reload"
  | .sqrt => "sqrt"
  | .exp => "exp"
  | .log => "log"
  | .log10 => "log10"
  | .sin => "sin"
  | .cos => "cos"
  | .tan => "tan"
  | .floor => "floor"
  | .ceil => "ceil"
  | .pow => "pow"

/-- The name of a native function. -/
def Native.name : Native → String
  | .builtin function => function.name
  | .host name => name

/-- A value of the language. -/
inductive Value
  | nil
  | bool (value : Bool)
  | int (value : Int64)
  | float (value : Float)
  | string (text : String)
  | list (items : List Value)
  | group (id : GroupId)
  | procedure (id : ProcedureId)
  | native (function : Native)
  | defined (id : DefinitionId)
  deriving Inhabited

namespace Value

/-- The kind of a value. -/
def kind : Value → Kind
  | nil => .none
  | bool _ => .bool
  | int _ => .int
  | float _ => .float
  | string _ => .string
  | list _ => .list
  | group _ => .group
  | procedure _ => .procedure
  | native _ => .native
  | defined _ => .defined

/-- Whether a value counts as true.  Nothing, zero, and empty texts and lists count as false. -/
def isTrue : Value → Bool
  | nil => false
  | bool value => value
  | int value => value != 0
  | float value => value != 0.0
  | string text => !text.isEmpty
  | list items => !items.isEmpty
  | _ => true

/-- Whether a value can be called. -/
def isCallable : Value → Bool
  | procedure _ => true
  | native _ => true
  | _ => false

/-- The text of a string value. -/
def asString : Value → Except Error String
  | string text => .ok text
  | value => .error (.unexpectedArguments (.notString value.kind))

/-- A truth value as a number. -/
def ofTruth (value : Bool) : Int64 :=
  if value then 1 else 0

/-- A value as a whole number: truth values count as zero and one, and floating-point numbers without a
fraction are taken to the nearest number of sixty-four bits. -/
def asInteger : Value → Except Error Int64
  | int value => .ok value
  | bool value => .ok (ofTruth value)
  | float value =>
      if Decimal.isWhole value then .ok value.toInt64
      else .error (.unexpectedArguments (.notInteger .float))
  | value => .error (.unexpectedArguments (.notInteger value.kind))

/-- A number or truth value as a floating-point number. -/
def toFloat? : Value → Option Float
  | int value => some value.toFloat
  | float value => some value
  | bool value => some (ofTruth value).toFloat
  | _ => none

/-- A value as a floating-point number. -/
def asFloat (value : Value) : Except Error Float :=
  match value.toFloat? with
  | some x => .ok x
  | none => .error (.unexpectedArguments (.notNumber value.kind))

mutual

/-- Whether two values are the same: of one kind, and equal in what they hold or in identity. -/
def same : Value → Value → Bool
  | nil, nil => true
  | bool a, bool b => a == b
  | int a, int b => a == b
  | float a, float b => a == b
  | string a, string b => a == b
  | list a, list b => sameItems a b
  | group a, group b => a == b
  | procedure a, procedure b => a == b
  | native a, native b => a.name == b.name
  | defined a, defined b => a == b
  | _, _ => false

/-- Whether two lists have the same items in the same order. -/
def sameItems : List Value → List Value → Bool
  | [], [] => true
  | a :: first, b :: second => same a b && sameItems first second
  | _, _ => false

end

end Value

end GroupScript
