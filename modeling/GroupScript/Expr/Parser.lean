import GroupScript.Expr.Code
import GroupScript.Expr.Lexer

/-!
# Reading expressions

Expressions are read by levels of binding strength.  At five levels operands are chained by operators that
associate to the left; `not` and the signs stand before an operand of their own level; a power binds more
tightly than a sign before its base and less tightly than a sign before its exponent; calls and indices
follow a primary expression.  Every reading step returns the tokens that are left together with the fact
that some were used, which is why reading ends.
-/

namespace GroupScript.Expr

/-- The levels at which operands are chained by joints that associate to the left. -/
inductive ChainLevel
  | or
  | and
  | comparison
  | arith
  | term
  deriving DecidableEq, Repr, Inhabited

/-- The levels of binding strength. -/
inductive Level
  | chain (level : ChainLevel)
  | not
  | sign
  | power
  | suffix
  | primary
  deriving DecidableEq, Repr, Inhabited

/-- The level of a whole expression, the weakest one. -/
abbrev Level.whole : Level := .chain .or

/-- The level of the operands of a chain. -/
def ChainLevel.operand : ChainLevel → Level
  | .or => .chain .and
  | .and => .not
  | .comparison => .chain .arith
  | .arith => .chain .term
  | .term => .sign

/-- The place of a level, counted from the strongest one. -/
def Level.rank : Level → Nat
  | .chain .or => 10
  | .chain .and => 9
  | .not => 8
  | .chain .comparison => 7
  | .chain .arith => 6
  | .chain .term => 5
  | .sign => 4
  | .power => 3
  | .suffix => 2
  | .primary => 1

theorem Level.rank_le (level : Level) : level.rank ≤ 10 := by
  cases level with
  | chain level => cases level <;> decide
  | _ => decide

theorem ChainLevel.rank_operand (level : ChainLevel) :
    level.operand.rank < (Level.chain level).rank := by
  cases level <;> decide

/-- What joins two operands of a chain. -/
inductive Joint
  | or
  | and
  | binary (op : BinaryOp)
  deriving DecidableEq, Repr, Inhabited

/-- The expression of two operands and what joins them. -/
def Joint.apply : Joint → Expr → Expr → Expr
  | .or, left, right => .or left right
  | .and, left, right => .and left right
  | .binary op, left, right => .binary op left right

/-- The joint of a level at the start of some tokens, with the tokens after it. -/
def ChainLevel.joint? : ChainLevel → List Token → Option (Joint × List Token)
  | .or, .or :: rest => some (.or, rest)
  | .and, .and :: rest => some (.and, rest)
  | .comparison, .eqEq :: rest => some (.binary .eq, rest)
  | .comparison, .notEq :: rest => some (.binary .ne, rest)
  | .comparison, .lt :: rest => some (.binary .lt, rest)
  | .comparison, .le :: rest => some (.binary .le, rest)
  | .comparison, .gt :: rest => some (.binary .gt, rest)
  | .comparison, .ge :: rest => some (.binary .ge, rest)
  | .comparison, .isIn :: rest => some (.binary .isIn, rest)
  | .comparison, .not :: .isIn :: rest => some (.binary .notIn, rest)
  | .arith, .plus :: rest => some (.binary .add, rest)
  | .arith, .minus :: rest => some (.binary .sub, rest)
  | .term, .star :: rest => some (.binary .mul, rest)
  | .term, .slash :: rest => some (.binary .div, rest)
  | .term, .slashSlash :: rest => some (.binary .floorDiv, rest)
  | .term, .percent :: rest => some (.binary .mod, rest)
  | _, _ => none

theorem ChainLevel.length_of_joint? {level : ChainLevel} {tokens rest : List Token} {joint : Joint}
    (found : level.joint? tokens = some (joint, rest)) : rest.length < tokens.length := by
  unfold joint? at found
  split at found <;> grind

/-- The two kinds of brackets that expressions use. -/
inductive Bracket
  | round
  | square
  deriving DecidableEq, Repr, Inhabited

/-- The token that closes a bracket. -/
def Bracket.closer : Bracket → Token
  | .round => .parenRight
  | .square => .bracketRight

/-- The tokens after the closing token of a bracket, if they start with it. -/
def Bracket.closed? : Bracket → List Token → Option (List Token)
  | .round, .parenRight :: rest => some rest
  | .square, .bracketRight :: rest => some rest
  | _, _ => none

theorem Bracket.length_of_closed? {bracket : Bracket} {tokens rest : List Token}
    (found : bracket.closed? tokens = some rest) : rest.length < tokens.length := by
  unfold closed? at found
  split at found <;> grind

/-- The tokens left after reading, fewer than there were. -/
abbrev Rest (tokens : List Token) : Type :=
  { rest : List Token // rest.length < tokens.length }

/-- The fault of finding something else than an expected token. -/
def unexpected (wanted : Token) (tokens : List Token) : SyntaxFault :=
  .expected wanted tokens.head?

/-- Reads the closing token of a bracket. -/
def readCloser (bracket : Bracket) (tokens : List Token) : Except SyntaxFault (Rest tokens) :=
  match found : bracket.closed? tokens with
  | some rest => .ok ⟨rest, Bracket.length_of_closed? found⟩
  | none => .error (unexpected bracket.closer tokens)

/-- Reads the members that follow a name after dots, and gives the whole dotted name. -/
def readMembers (text : String) : (tokens : List Token) →
    Except SyntaxFault (String × { rest : List Token // rest.length ≤ tokens.length })
  | .dot :: .name member :: rest => do
      let (whole, ⟨left, fewer⟩) ← readMembers (text ++ "." ++ member) rest
      return (whole, ⟨left, by simp only [List.length_cons]; omega⟩)
  | .dot :: _ => .error (.missingMember text)
  | tokens => .ok (text, ⟨tokens, Nat.le_refl _⟩)

mutual

/-- Reads an expression of a level. -/
def readAt (level : Level) (tokens : List Token) : Except SyntaxFault (Expr × Rest tokens) :=
  match level, tokens with
  | .chain level, tokens => do
      let (first, ⟨rest, fewer⟩) ← readAt level.operand tokens
      let (whole, ⟨left, fewest⟩) ← readChain level first rest
      return (whole, ⟨left, by omega⟩)
  | .not, .not :: rest => do
      let (operand, ⟨left, fewer⟩) ← readAt .not rest
      return (.unary .not operand, ⟨left, by simp only [List.length_cons]; omega⟩)
  | .not, tokens => readAt (.chain .comparison) tokens
  | .sign, .minus :: rest => do
      let (operand, ⟨left, fewer⟩) ← readAt .sign rest
      return (.unary .neg operand, ⟨left, by simp only [List.length_cons]; omega⟩)
  | .sign, .plus :: rest => do
      let (operand, ⟨left, fewer⟩) ← readAt .sign rest
      return (.unary .pos operand, ⟨left, by simp only [List.length_cons]; omega⟩)
  | .sign, tokens => readAt .power tokens
  | .power, tokens => do
      let (base, ⟨rest, fewer⟩) ← readAt .suffix tokens
      match rest, fewer with
      | .starStar :: rest, fewer => do
          let (exponent, ⟨left, fewest⟩) ← readAt .sign rest
          return (.binary .pow base exponent, ⟨left, by simp only [List.length_cons] at fewer; omega⟩)
      | rest, fewer => return (base, ⟨rest, fewer⟩)
  | .suffix, tokens => do
      let (base, ⟨rest, fewer⟩) ← readAt .primary tokens
      let (whole, ⟨left, fewest⟩) ← readSuffixes base rest
      return (whole, ⟨left, by omega⟩)
  | .primary, [] => .error .unexpectedEnd
  | .primary, .none :: rest => .ok (.const .nil, ⟨rest, by simp⟩)
  | .primary, .bool value :: rest => .ok (.const (.bool value), ⟨rest, by simp⟩)
  | .primary, .int value :: rest => .ok (.const (.int value), ⟨rest, by simp⟩)
  | .primary, .float value :: rest => .ok (.const (.float value), ⟨rest, by simp⟩)
  | .primary, .string text :: rest => .ok (.const (.string text), ⟨rest, by simp⟩)
  | .primary, .name text :: rest => do
      let (whole, ⟨left, fewer⟩) ← readMembers text rest
      return (.name whole, ⟨left, by simp only [List.length_cons]; omega⟩)
  | .primary, .bracketLeft :: rest => do
      let (items, ⟨left, fewer⟩) ← readItems .square rest
      return (.list items, ⟨left, by simp only [List.length_cons]; omega⟩)
  | .primary, .parenLeft :: .parenRight :: rest =>
      .ok (.list [], ⟨rest, by simp only [List.length_cons]; omega⟩)
  | .primary, .parenLeft :: rest => do
      let (first, ⟨afterFirst, fewer⟩) ← readAt .whole rest
      match afterFirst, fewer with
      | .parenRight :: left, fewer =>
          return (first, ⟨left, by simp only [List.length_cons] at fewer ⊢; omega⟩)
      | .comma :: more, fewer => do
          let (items, ⟨left, fewest⟩) ← readItems .round more
          return (.list (first :: items),
            ⟨left, by simp only [List.length_cons] at fewer ⊢; omega⟩)
      | other, _ => .error (unexpected .comma other)
  | .primary, token :: _ => .error (.unexpectedToken token)
termination_by 16 * tokens.length + level.rank
decreasing_by all_goals grind [ChainLevel.rank_operand, Level.rank_le, Level.rank]

/-- Reads the joints and operands that follow the first operand of a chain. -/
def readChain (level : ChainLevel) (first : Expr) (tokens : List Token) :
    Except SyntaxFault (Expr × { rest : List Token // rest.length ≤ tokens.length }) :=
  match found : level.joint? tokens with
  | none => .ok (first, ⟨tokens, Nat.le_refl _⟩)
  | some (joint, rest) => do
      have fewer := ChainLevel.length_of_joint? found
      let (second, ⟨afterSecond, fewest⟩) ← readAt level.operand rest
      let (whole, ⟨left, least⟩) ← readChain level (joint.apply first second) afterSecond
      return (whole, ⟨left, by omega⟩)
termination_by 16 * tokens.length
decreasing_by all_goals grind [ChainLevel.rank_operand, Level.rank_le, Level.rank]

/-- Reads the calls and indices that follow an expression. -/
def readSuffixes (base : Expr) (tokens : List Token) :
    Except SyntaxFault (Expr × { rest : List Token // rest.length ≤ tokens.length }) :=
  match tokens with
  | .parenLeft :: rest => do
      let (arguments, ⟨afterArguments, fewer⟩) ← readArguments false rest
      let (whole, ⟨left, fewest⟩) ← readSuffixes (.call base arguments) afterArguments
      return (whole, ⟨left, by simp only [List.length_cons]; omega⟩)
  | .bracketLeft :: rest => do
      let (indices, ⟨afterIndices, fewer⟩) ← readItems .square rest
      if indices.isEmpty then .error .emptyIndex
      else do
        let (whole, ⟨left, fewest⟩) ← readSuffixes (.index base indices) afterIndices
        return (whole, ⟨left, by simp only [List.length_cons]; omega⟩)
  | tokens => .ok (base, ⟨tokens, Nat.le_refl _⟩)
termination_by 16 * tokens.length
decreasing_by all_goals grind [ChainLevel.rank_operand, Level.rank_le, Level.rank]

/-- Reads expressions between commas up to the closing token of a bracket; the last comma may be followed
by the closing token. -/
def readItems (bracket : Bracket) (tokens : List Token) :
    Except SyntaxFault (List Expr × Rest tokens) :=
  match found : bracket.closed? tokens with
  | some rest => .ok ([], ⟨rest, Bracket.length_of_closed? found⟩)
  | none => do
      let (item, ⟨rest, fewer⟩) ← readAt .whole tokens
      match rest, fewer with
      | .comma :: rest, fewer => do
          let (items, ⟨left, fewest⟩) ← readItems bracket rest
          return (item :: items, ⟨left, by simp only [List.length_cons] at fewer; omega⟩)
      | rest, fewer => do
          let ⟨left, fewest⟩ ← readCloser bracket rest
          return ([item], ⟨left, by omega⟩)
termination_by 16 * tokens.length + 11
decreasing_by all_goals grind [ChainLevel.rank_operand, Level.rank_le, Level.rank]

/-- Reads the arguments of a call up to the closing parenthesis.  After a keyword argument only further
keyword arguments may come. -/
def readArguments (afterKeyword : Bool) (tokens : List Token) :
    Except SyntaxFault (List (Argument Expr) × Rest tokens) :=
  match tokens with
  | .parenRight :: rest => .ok ([], ⟨rest, by simp⟩)
  | .name key :: .assign :: rest => do
      let (value, ⟨left, fewer⟩) ← readAt .whole rest
      let (arguments, ⟨left, fewest⟩) ← readMoreArguments true left
      return (.keyword key value :: arguments, ⟨left, by simp only [List.length_cons]; omega⟩)
  | tokens =>
      if afterKeyword then .error .positionalAfterKeyword
      else do
        let (value, ⟨left, fewer⟩) ← readAt .whole tokens
        let (arguments, ⟨left, fewest⟩) ← readMoreArguments false left
        return (.positional value :: arguments, ⟨left, by omega⟩)
termination_by 16 * tokens.length + 11
decreasing_by all_goals grind [ChainLevel.rank_operand, Level.rank_le, Level.rank]

/-- Reads what follows an argument: a comma and further arguments, or the closing parenthesis. -/
def readMoreArguments (afterKeyword : Bool) (tokens : List Token) :
    Except SyntaxFault (List (Argument Expr) × Rest tokens) :=
  match tokens with
  | .comma :: rest => do
      let (arguments, ⟨left, fewer⟩) ← readArguments afterKeyword rest
      return (arguments, ⟨left, by simp only [List.length_cons]; omega⟩)
  | tokens => do
      let left ← readCloser .round tokens
      return ([], left)
termination_by 16 * tokens.length
decreasing_by all_goals grind [ChainLevel.rank_operand, Level.rank_le, Level.rank]

end

/-- The expression that a list of tokens denotes.  The source is only named in the fault of tokens that
are left over. -/
def ofTokens (tokens : List Token) (source : List Char) : Except SyntaxFault Expr := do
  if tokens.isEmpty then .error .emptyExpression
  else do
    let (expr, ⟨rest, _⟩) ← readAt .whole tokens
    match rest with
    | [] => return expr
    | token :: _ => .error (.trailingToken token (String.ofList source))

/-- The expression that a text denotes. -/
def ofText (text : List Char) : Except SyntaxFault Expr := do
  let tokens ← Token.ofText text
  ofTokens tokens text

end GroupScript.Expr

namespace GroupScript.Code

/-- The code of the expression that a text denotes. -/
def ofText (text : List Char) : Except SyntaxFault Code := do
  let expr ← Expr.ofText text
  expr.code text

end GroupScript.Code
