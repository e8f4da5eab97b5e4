import Mathlib
import GroupScript.Expr.Parser

/-!
# The grammar of expressions

The tokens of an expression are derived by a stratified grammar, one nonterminal for each level of binding strength.
Chains of operators are derived from the left, so the tree of a chain leans to the left.  The grammar says which
tokens are an expression and which tree they have; it says nothing about how to find the tree.
-/

namespace GroupScript.Expr

/-- The marks that join two operands at each level. -/
inductive Joins : ChainLevel → List Token → Joint → Prop
  | or : Joins .or [.or] .or
  | and : Joins .and [.and] .and
  | eq : Joins .comparison [.eqEq] (.binary .eq)
  | ne : Joins .comparison [.notEq] (.binary .ne)
  | lt : Joins .comparison [.lt] (.binary .lt)
  | le : Joins .comparison [.le] (.binary .le)
  | gt : Joins .comparison [.gt] (.binary .gt)
  | ge : Joins .comparison [.ge] (.binary .ge)
  | isIn : Joins .comparison [.isIn] (.binary .isIn)
  | notIn : Joins .comparison [.not, .isIn] (.binary .notIn)
  | add : Joins .arith [.plus] (.binary .add)
  | sub : Joins .arith [.minus] (.binary .sub)
  | mul : Joins .term [.star] (.binary .mul)
  | div : Joins .term [.slash] (.binary .div)
  | floorDiv : Joins .term [.slashSlash] (.binary .floorDiv)
  | mod : Joins .term [.percent] (.binary .mod)

/-- The next stronger level: an expression of it is also one of the weaker level. -/
inductive Stronger : Level → Level → Prop
  | or : Stronger (.chain .or) (.chain .and)
  | and : Stronger (.chain .and) .not
  | not : Stronger .not (.chain .comparison)
  | comparison : Stronger (.chain .comparison) (.chain .arith)
  | arith : Stronger (.chain .arith) (.chain .term)
  | term : Stronger (.chain .term) .sign
  | sign : Stronger .sign .power
  | power : Stronger .power .suffix
  | suffix : Stronger .suffix .primary

/-- The operators that stand before an operand of their own level. -/
inductive Signs : Level → Token → UnaryOp → Prop
  | not : Signs .not .not .not
  | neg : Signs .sign .minus .neg
  | pos : Signs .sign .plus .pos

/-- The tokens that are constants. -/
inductive Constant : Token → Value → Prop
  | none : Constant .none .nil
  | bool (value : Bool) : Constant (.bool value) (.bool value)
  | int (value : Int64) : Constant (.int value) (.int value)
  | float (value : Float) : Constant (.float value) (.float value)
  | string (text : String) : Constant (.string text) (.string text)

/-- Names with dots between them, which make up one name. -/
inductive DottedName : List Token → String → Prop
  | single (text : String) : DottedName [.name text] text
  | member {tokens : List Token} {text : String} (path : DottedName tokens text)
      (member : String) : DottedName (tokens ++ [.dot, .name member]) (text ++ "." ++ member)

mutual

/-- Tokens that are an expression of a level, with its tree. -/
inductive Derives : Level → List Token → Expr → Prop
  | stronger {weak strong : Level} {tokens : List Token} {expr : Expr}
      (next : Stronger weak strong) (derived : Derives strong tokens expr) :
      Derives weak tokens expr
  | joined {level : ChainLevel} {operand : Level} {first marks second : List Token}
      {joint : Joint} {left right : Expr} (joins : Joins level marks joint)
      (next : Stronger (.chain level) operand) (derivedLeft : Derives (.chain level) first left)
      (derivedRight : Derives operand second right) :
      Derives (.chain level) (first ++ (marks ++ second)) (joint.apply left right)
  | signed {level : Level} {sign : Token} {op : UnaryOp} {tokens : List Token} {operand : Expr}
      (signs : Signs level sign op) (derived : Derives level tokens operand) :
      Derives level (sign :: tokens) (.unary op operand)
  | raised {first second : List Token} {base exponent : Expr}
      (derivedBase : Derives .suffix first base)
      (derivedExponent : Derives .sign second exponent) :
      Derives .power (first ++ .starStar :: second) (.binary .pow base exponent)
  | called {first inside : List Token} {function : Expr} {arguments : List (Argument Expr)}
      (derivedFunction : Derives .suffix first function)
      (derivedArguments : DerivesArguments inside arguments) :
      Derives .suffix (first ++ .parenLeft :: (inside ++ [.parenRight])) (.call function arguments)
  | indexed {first inside : List Token} {target : Expr} {indices : List Expr}
      (derivedTarget : Derives .suffix first target)
      (derivedIndices : DerivesItems inside indices) (nonempty : indices ≠ []) :
      Derives .suffix (first ++ .bracketLeft :: (inside ++ [.bracketRight])) (.index target indices)
  | const {token : Token} {value : Value} (constant : Constant token value) :
      Derives .primary [token] (.const value)
  | name {tokens : List Token} {text : String} (dotted : DottedName tokens text) :
      Derives .primary tokens (.name text)
  | list {inside : List Token} {items : List Expr} (derivedItems : DerivesItems inside items) :
      Derives .primary (.bracketLeft :: (inside ++ [.bracketRight])) (.list items)
  | emptyList : Derives .primary [.parenLeft, .parenRight] (.list [])
  | enclosed {inside : List Token} {expr : Expr} (derived : Derives .whole inside expr) :
      Derives .primary (.parenLeft :: (inside ++ [.parenRight])) expr
  | tuple {first inside : List Token} {item : Expr} {items : List Expr}
      (derivedFirst : Derives .whole first item) (derivedItems : DerivesItems inside items) :
      Derives .primary (.parenLeft :: (first ++ .comma :: (inside ++ [.parenRight])))
        (.list (item :: items))

/-- Tokens that are expressions with commas between them; a comma may follow the last one. -/
inductive DerivesItems : List Token → List Expr → Prop
  | nil : DerivesItems [] []
  | last {tokens : List Token} {item : Expr} (derived : Derives .whole tokens item) :
      DerivesItems tokens [item]
  | more {first others : List Token} {item : Expr} {items : List Expr}
      (derived : Derives .whole first item) (derivedMore : DerivesItems others items) :
      DerivesItems (first ++ .comma :: others) (item :: items)

/-- Tokens that are keyword arguments with commas between them; a comma may follow the last one. -/
inductive DerivesKeywords : List Token → List (Argument Expr) → Prop
  | nil : DerivesKeywords [] []
  | last {tokens : List Token} {value : Expr} (key : String)
      (derived : Derives .whole tokens value) :
      DerivesKeywords (.name key :: .assign :: tokens) [.keyword key value]
  | more {first others : List Token} {value : Expr} {arguments : List (Argument Expr)}
      (key : String) (derived : Derives .whole first value)
      (derivedMore : DerivesKeywords others arguments) :
      DerivesKeywords (.name key :: .assign :: (first ++ .comma :: others))
        (.keyword key value :: arguments)

/-- Tokens that are positional arguments followed by keyword arguments, with commas between them; a comma may
follow the last one. -/
inductive DerivesArguments : List Token → List (Argument Expr) → Prop
  | keywords {tokens : List Token} {arguments : List (Argument Expr)}
      (derived : DerivesKeywords tokens arguments) : DerivesArguments tokens arguments
  | last {tokens : List Token} {value : Expr} (derived : Derives .whole tokens value) :
      DerivesArguments tokens [.positional value]
  | more {first others : List Token} {value : Expr} {arguments : List (Argument Expr)}
      (derived : Derives .whole first value) (derivedMore : DerivesArguments others arguments) :
      DerivesArguments (first ++ .comma :: others) (.positional value :: arguments)

end

end GroupScript.Expr
