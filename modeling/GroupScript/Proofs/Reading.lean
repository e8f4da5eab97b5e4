import GroupScript.Proofs.Grammar
import GroupScript.Proofs.Outcome

/-!
# The steps of reading

Reading an expression is described by relations between the tokens before and after.  Each function of the reader has
one equivalence that says what its readings are, in terms of the readings it makes; nothing after this file opens the
functions themselves.
-/

namespace GroupScript.Expr

/-- Reading at a level gives an expression and leaves some tokens. -/
def ReadsAt (level : Level) (tokens : List Token) (expr : Expr) (left : List Token) : Prop :=
  ∃ fewer, readAt level tokens = .ok (expr, ⟨left, fewer⟩)

/-- Reading the rest of a chain after its first operand gives the whole and leaves some tokens. -/
def ReadsChain (level : ChainLevel) (first : Expr) (tokens : List Token) (whole : Expr)
    (left : List Token) : Prop :=
  ∃ fewer, readChain level first tokens = .ok (whole, ⟨left, fewer⟩)

/-- Reading the calls and indices after an expression gives the whole and leaves some tokens. -/
def ReadsSuffixes (base : Expr) (tokens : List Token) (whole : Expr) (left : List Token) : Prop :=
  ∃ fewer, readSuffixes base tokens = .ok (whole, ⟨left, fewer⟩)

/-- Reading items up to the end of a bracket gives them and leaves some tokens. -/
def ReadsItems (bracket : Bracket) (tokens : List Token) (items : List Expr)
    (left : List Token) : Prop :=
  ∃ fewer, readItems bracket tokens = .ok (items, ⟨left, fewer⟩)

/-- Reading arguments up to the closing parenthesis gives them and leaves some tokens. -/
def ReadsArguments (afterKeyword : Bool) (tokens : List Token) (arguments : List (Argument Expr))
    (left : List Token) : Prop :=
  ∃ fewer, readArguments afterKeyword tokens = .ok (arguments, ⟨left, fewer⟩)

/-- Reading on after an argument gives the further arguments and leaves some tokens. -/
def ReadsMoreArguments (afterKeyword : Bool) (tokens : List Token)
    (arguments : List (Argument Expr)) (left : List Token) : Prop :=
  ∃ fewer, readMoreArguments afterKeyword tokens = .ok (arguments, ⟨left, fewer⟩)

/-- Reading the members after a name gives the whole name and leaves some tokens. -/
def ReadsMembers (text : String) (tokens : List Token) (whole : String)
    (left : List Token) : Prop :=
  ∃ fewer, readMembers text tokens = .ok (whole, ⟨left, fewer⟩)

/-! ### Marks and brackets -/

theorem Joins.joint?_eq_some {level : ChainLevel} {marks : List Token} {joint : Joint}
    (joins : Joins level marks joint) (rest : List Token) :
    level.joint? (marks ++ rest) = some (joint, rest) := by
  cases joins <;> rfl

theorem joint?_eq_some_iff {level : ChainLevel} {tokens rest : List Token} {joint : Joint} :
    level.joint? tokens = some (joint, rest) ↔
      ∃ marks, Joins level marks joint ∧ tokens = marks ++ rest := by
  constructor
  · intro found
    unfold ChainLevel.joint? at found
    split at found <;> cases found
    · exact ⟨_, .or, rfl⟩
    · exact ⟨_, .and, rfl⟩
    · exact ⟨_, .eq, rfl⟩
    · exact ⟨_, .ne, rfl⟩
    · exact ⟨_, .lt, rfl⟩
    · exact ⟨_, .le, rfl⟩
    · exact ⟨_, .gt, rfl⟩
    · exact ⟨_, .ge, rfl⟩
    · exact ⟨_, .isIn, rfl⟩
    · exact ⟨_, .notIn, rfl⟩
    · exact ⟨_, .add, rfl⟩
    · exact ⟨_, .sub, rfl⟩
    · exact ⟨_, .mul, rfl⟩
    · exact ⟨_, .div, rfl⟩
    · exact ⟨_, .floorDiv, rfl⟩
    · exact ⟨_, .mod, rfl⟩
  · rintro ⟨marks, joins, rfl⟩
    exact joins.joint?_eq_some rest

theorem closed?_eq_some_iff {bracket : Bracket} {tokens rest : List Token} :
    bracket.closed? tokens = some rest ↔ tokens = bracket.closer :: rest := by
  constructor
  · intro found
    unfold Bracket.closed? at found
    split at found <;> cases found
    · rfl
    · rfl
  · rintro rfl
    cases bracket <;> rfl

theorem readCloser_eq_ok_iff {bracket : Bracket} {tokens left : List Token} {fewer} :
    readCloser bracket tokens = .ok ⟨left, fewer⟩ ↔ bracket.closed? tokens = some left := by
  unfold readCloser
  constructor
  · intro read
    split at read
    · cases read
      assumption
    · cases read
  · intro found
    split
    · rename_i rest found'
      rw [found] at found'
      cases found'
      rfl
    · rename_i notFound
      rw [found] at notFound
      cases notFound

/-! ### Levels with operators -/

theorem readsAt_chain {level : ChainLevel} {tokens left : List Token} {whole : Expr} :
    ReadsAt (.chain level) tokens whole left ↔
      ∃ first rest, ReadsAt level.operand tokens first rest ∧
        ReadsChain level first rest whole left := by
  unfold ReadsAt
  rw [readAt]
  constructor
  · rintro ⟨fewer, read⟩
    obtain ⟨⟨first, rest, fewerRest⟩, readFirst, read⟩ := except_bind_eq_ok.mp read
    obtain ⟨⟨second, after, fewerAfter⟩, readMore, finished⟩ := except_bind_eq_ok.mp read
    cases finished
    exact ⟨first, rest, ⟨fewerRest, readFirst⟩, fewerAfter, readMore⟩
  · rintro ⟨first, rest, ⟨fewerRest, readFirst⟩, fewerAfter, readMore⟩
    exact ⟨by omega, except_bind_eq_ok.mpr
      ⟨_, readFirst, except_bind_eq_ok.mpr ⟨_, readMore, rfl⟩⟩⟩

theorem readsChain_iff {level : ChainLevel} {first whole : Expr} {tokens left : List Token} :
    ReadsChain level first tokens whole left ↔
      (level.joint? tokens = none ∧ whole = first ∧ left = tokens) ∨
        ∃ joint rest second after, level.joint? tokens = some (joint, rest) ∧
          ReadsAt level.operand rest second after ∧
          ReadsChain level (joint.apply first second) after whole left := by
  unfold ReadsChain
  rw [readChain]
  constructor
  · rintro ⟨fewer, read⟩
    split at read
    · rename_i notFound
      cases read
      exact Or.inl ⟨notFound, rfl, rfl⟩
    · rename_i joint rest found
      obtain ⟨⟨second, after, fewerAfter⟩, readSecond, read⟩ := except_bind_eq_ok.mp read
      obtain ⟨⟨third, last, fewerLast⟩, readMore, finished⟩ := except_bind_eq_ok.mp read
      cases finished
      exact Or.inr ⟨joint, rest, second, after, found, ⟨fewerAfter, readSecond⟩,
        fewerLast, readMore⟩
  · rintro (⟨notFound, rfl, rfl⟩ |
      ⟨joint, rest, second, after, found, ⟨fewerAfter, readSecond⟩, fewerLast, readMore⟩)
    · refine ⟨Nat.le_refl _, ?_⟩
      split
      · rfl
      · rename_i found
        rw [notFound] at found
        cases found
    · have fewerRest := ChainLevel.length_of_joint? found
      refine ⟨by omega, ?_⟩
      split
      · rename_i notFound
        rw [found] at notFound
        cases notFound
      · rename_i found'
        rw [found] at found'
        cases found'
        exact except_bind_eq_ok.mpr
          ⟨_, readSecond, except_bind_eq_ok.mpr ⟨_, readMore, rfl⟩⟩

theorem readsAt_signed {level : Level} {sign : Token} {op : UnaryOp} (signs : Signs level sign op)
    {tokens left : List Token} {whole : Expr} :
    ReadsAt level (sign :: tokens) whole left ↔
      ∃ operand, ReadsAt level tokens operand left ∧ whole = .unary op operand := by
  unfold ReadsAt
  constructor
  · rintro ⟨fewer, read⟩
    cases signs
    all_goals
      rw [readAt] at read
      obtain ⟨⟨first, rest, fewerRest⟩, readFirst, finished⟩ := except_bind_eq_ok.mp read
      cases finished
      exact ⟨first, ⟨fewerRest, readFirst⟩, rfl⟩
  · rintro ⟨operand, ⟨fewerRest, readOperand⟩, rfl⟩
    refine ⟨by simp only [List.length_cons]; omega, ?_⟩
    cases signs
    all_goals
      rw [readAt]
      exact except_bind_eq_ok.mpr ⟨_, readOperand, rfl⟩

theorem readsAt_not_of_ne {tokens left : List Token} {expr : Expr}
    (other : tokens.head? ≠ some .not) :
    ReadsAt .not tokens expr left ↔ ReadsAt (.chain .comparison) tokens expr left := by
  have same : readAt .not tokens = readAt (.chain .comparison) tokens := by
    generalize chained : readAt (.chain .comparison) tokens = result
    rw [readAt]
    · exact chained
    · rintro rest rfl
      exact other rfl
  unfold ReadsAt
  rw [same]

theorem readsAt_sign_of_ne {tokens left : List Token} {expr : Expr}
    (notMinus : tokens.head? ≠ some .minus) (notPlus : tokens.head? ≠ some .plus) :
    ReadsAt .sign tokens expr left ↔ ReadsAt .power tokens expr left := by
  unfold ReadsAt
  rw [readAt]
  · rintro rest rfl
    exact notMinus rfl
  · rintro rest rfl
    exact notPlus rfl

theorem readsAt_power {tokens left : List Token} {whole : Expr} :
    ReadsAt .power tokens whole left ↔
      ∃ base rest, ReadsAt .suffix tokens base rest ∧
        ((∃ more exponent, rest = .starStar :: more ∧ ReadsAt .sign more exponent left ∧
            whole = .binary .pow base exponent) ∨
          rest.head? ≠ some .starStar ∧ whole = base ∧ left = rest) := by
  unfold ReadsAt
  rw [readAt]
  constructor
  · rintro ⟨fewer, read⟩
    obtain ⟨⟨base, rest, fewerRest⟩, readBase, read⟩ := except_bind_eq_ok.mp read
    refine ⟨base, rest, ⟨fewerRest, readBase⟩, ?_⟩
    simp only at read
    split at read
    · obtain ⟨⟨exponent, after, fewerAfter⟩, readExponent, finished⟩ := except_bind_eq_ok.mp read
      cases finished
      exact Or.inl ⟨_, exponent, rfl, ⟨fewerAfter, readExponent⟩, rfl⟩
    · rename_i other
      cases read
      refine Or.inr ⟨fun starts => ?_, rfl, rfl⟩
      obtain ⟨more, rfl⟩ := List.head?_eq_some_iff.mp starts
      exact other more fewerRest rfl HEq.rfl
  · rintro ⟨base, rest, ⟨fewerRest, readBase⟩, second⟩
    rcases second with ⟨more, exponent, rfl, ⟨fewerAfter, readExponent⟩, rfl⟩ | ⟨other, rfl, rfl⟩
    · refine ⟨by simp only [List.length_cons] at fewerRest; omega, ?_⟩
      exact except_bind_eq_ok.mpr ⟨_, readBase, except_bind_eq_ok.mpr ⟨_, readExponent, rfl⟩⟩
    · refine ⟨fewerRest, except_bind_eq_ok.mpr ⟨_, readBase, ?_⟩⟩
      simp only
      split
      · exact absurd rfl other
      · rfl

/-! ### Calls, indices and primary expressions -/

theorem readsAt_suffix {tokens left : List Token} {whole : Expr} :
    ReadsAt .suffix tokens whole left ↔
      ∃ base rest, ReadsAt .primary tokens base rest ∧ ReadsSuffixes base rest whole left := by
  unfold ReadsAt
  rw [readAt]
  constructor
  · rintro ⟨fewer, read⟩
    obtain ⟨⟨base, rest, fewerRest⟩, readBase, read⟩ := except_bind_eq_ok.mp read
    obtain ⟨⟨second, after, fewerAfter⟩, readMore, finished⟩ := except_bind_eq_ok.mp read
    cases finished
    exact ⟨base, rest, ⟨fewerRest, readBase⟩, fewerAfter, readMore⟩
  · rintro ⟨base, rest, ⟨fewerRest, readBase⟩, fewerAfter, readMore⟩
    exact ⟨by omega, except_bind_eq_ok.mpr
      ⟨_, readBase, except_bind_eq_ok.mpr ⟨_, readMore, rfl⟩⟩⟩

theorem readsSuffixes_iff {base whole : Expr} {tokens left : List Token} :
    ReadsSuffixes base tokens whole left ↔
      (∃ rest arguments after, tokens = .parenLeft :: rest ∧
          ReadsArguments false rest arguments after ∧
          ReadsSuffixes (.call base arguments) after whole left) ∨
        (∃ rest indices after, tokens = .bracketLeft :: rest ∧
          ReadsItems .square rest indices after ∧ indices ≠ [] ∧
          ReadsSuffixes (.index base indices) after whole left) ∨
        tokens.head? ≠ some .parenLeft ∧ tokens.head? ≠ some .bracketLeft ∧ whole = base ∧
          left = tokens := by
  unfold ReadsSuffixes
  constructor
  · rintro ⟨fewer, read⟩
    unfold readSuffixes at read
    split at read
    · obtain ⟨⟨arguments, after, fewerAfter⟩, readArguments, read⟩ := except_bind_eq_ok.mp read
      obtain ⟨⟨second, last, fewerLast⟩, readMore, finished⟩ := except_bind_eq_ok.mp read
      cases finished
      exact Or.inl ⟨_, arguments, after, rfl, ⟨fewerAfter, readArguments⟩, fewerLast, readMore⟩
    · obtain ⟨⟨indices, after, fewerAfter⟩, readIndices, read⟩ := except_bind_eq_ok.mp read
      simp only at read
      split at read
      · cases read
      · rename_i nonempty
        obtain ⟨⟨second, last, fewerLast⟩, readMore, finished⟩ := except_bind_eq_ok.mp read
        cases finished
        exact Or.inr (Or.inl ⟨_, indices, after, rfl, ⟨fewerAfter, readIndices⟩,
          by simpa using nonempty, fewerLast, readMore⟩)
    · rename_i notParen notBracket
      cases read
      refine Or.inr (Or.inr ⟨fun starts => ?_, fun starts => ?_, rfl, rfl⟩)
      · obtain ⟨more, rfl⟩ := List.head?_eq_some_iff.mp starts
        exact notParen more rfl
      · obtain ⟨more, rfl⟩ := List.head?_eq_some_iff.mp starts
        exact notBracket more rfl
  · rintro (⟨rest, arguments, after, rfl, ⟨fewerAfter, readArguments⟩, fewerLast, readMore⟩ |
      ⟨rest, indices, after, rfl, ⟨fewerAfter, readIndices⟩, nonempty, fewerLast, readMore⟩ |
      ⟨notParen, notBracket, rfl, rfl⟩)
    · refine ⟨by simp only [List.length_cons]; omega, ?_⟩
      rw [readSuffixes]
      exact except_bind_eq_ok.mpr
        ⟨_, readArguments, except_bind_eq_ok.mpr ⟨_, readMore, rfl⟩⟩
    · refine ⟨by simp only [List.length_cons]; omega, ?_⟩
      rw [readSuffixes]
      refine except_bind_eq_ok.mpr ⟨_, readIndices, ?_⟩
      simp only
      rw [if_neg (by simpa using nonempty)]
      exact except_bind_eq_ok.mpr ⟨_, readMore, rfl⟩
    · refine ⟨Nat.le_refl _, ?_⟩
      rw [readSuffixes]
      · rintro rest rfl
        exact notParen rfl
      · rintro rest rfl
        exact notBracket rfl

theorem readsAt_parenLeft {tokens left : List Token} {expr : Expr} :
    ReadsAt .primary (.parenLeft :: tokens) expr left ↔
      (tokens = .parenRight :: left ∧ expr = .list []) ∨
        tokens.head? ≠ some .parenRight ∧ ∃ first after, ReadsAt .whole tokens first after ∧
          ((after = .parenRight :: left ∧ expr = first) ∨
            ∃ more items, after = .comma :: more ∧ ReadsItems .round more items left ∧
              expr = .list (first :: items)) := by
  unfold ReadsAt
  by_cases closes : ∃ rest, tokens = .parenRight :: rest
  · obtain ⟨rest, rfl⟩ := closes
    constructor
    · rintro ⟨fewer, read⟩
      rw [readAt] at read
      cases read
      exact Or.inl ⟨rfl, rfl⟩
    · rintro (⟨equal, rfl⟩ | ⟨notCloser, -⟩)
      · cases equal
        exact ⟨by simp only [List.length_cons]; omega, by rw [readAt]⟩
      · exact absurd rfl notCloser
  · have notCloser : ∀ rest, tokens = .parenRight :: rest → False := fun rest equal =>
      closes ⟨rest, equal⟩
    constructor
    · rintro ⟨fewer, read⟩
      rw [readAt] at read
      · obtain ⟨⟨first, after, fewerAfter⟩, readFirst, read⟩ := except_bind_eq_ok.mp read
        refine Or.inr ⟨fun starts => closes (List.head?_eq_some_iff.mp starts), first, after,
          ⟨fewerAfter, readFirst⟩, ?_⟩
        simp only at read
        split at read
        · cases read
          exact Or.inl ⟨rfl, rfl⟩
        · obtain ⟨⟨items, last, fewerLast⟩, readMore, finished⟩ := except_bind_eq_ok.mp read
          cases finished
          exact Or.inr ⟨_, items, rfl, ⟨fewerLast, readMore⟩, rfl⟩
        · cases read
      · exact notCloser
    · rintro (⟨equal, -⟩ | ⟨-, first, after, ⟨fewerAfter, readFirst⟩, second⟩)
      · exact absurd ⟨left, equal⟩ closes
      · rcases second with ⟨rfl, rfl⟩ | ⟨more, items, rfl, ⟨fewerLast, readMore⟩, rfl⟩
        · simp only [List.length_cons] at fewerAfter
          refine ⟨by simp only [List.length_cons]; omega, ?_⟩
          rw [readAt]
          · exact except_bind_eq_ok.mpr ⟨_, readFirst, rfl⟩
          · exact notCloser
        · simp only [List.length_cons] at fewerAfter
          refine ⟨by simp only [List.length_cons]; omega, ?_⟩
          rw [readAt]
          · exact except_bind_eq_ok.mpr
              ⟨_, readFirst, except_bind_eq_ok.mpr ⟨_, readMore, rfl⟩⟩
          · exact notCloser

theorem readsAt_constant {token : Token} {value : Value} (constant : Constant token value)
    {tokens left : List Token} {expr : Expr} :
    ReadsAt .primary (token :: tokens) expr left ↔ expr = .const value ∧ left = tokens := by
  have read : readAt .primary (token :: tokens) = .ok (.const value, ⟨tokens, by simp⟩) := by
    cases constant <;> rw [readAt]
  unfold ReadsAt
  rw [read]
  constructor
  · rintro ⟨fewer, equal⟩
    cases equal
    exact ⟨rfl, rfl⟩
  · rintro ⟨rfl, rfl⟩
    exact ⟨by simp, rfl⟩

theorem readsAt_name {text : String} {tokens left : List Token} {expr : Expr} :
    ReadsAt .primary (.name text :: tokens) expr left ↔
      ∃ whole, ReadsMembers text tokens whole left ∧ expr = .name whole := by
  unfold ReadsAt
  rw [readAt]
  constructor
  · rintro ⟨fewer, read⟩
    obtain ⟨⟨whole, after, fewerAfter⟩, readMore, finished⟩ := except_bind_eq_ok.mp read
    cases finished
    exact ⟨whole, ⟨fewerAfter, readMore⟩, rfl⟩
  · rintro ⟨whole, ⟨fewerAfter, readMore⟩, rfl⟩
    refine ⟨by simp only [List.length_cons]; omega, ?_⟩
    exact except_bind_eq_ok.mpr ⟨_, readMore, rfl⟩

theorem readsAt_bracketLeft {tokens left : List Token} {expr : Expr} :
    ReadsAt .primary (.bracketLeft :: tokens) expr left ↔
      ∃ items, ReadsItems .square tokens items left ∧ expr = .list items := by
  unfold ReadsAt
  rw [readAt]
  constructor
  · rintro ⟨fewer, read⟩
    obtain ⟨⟨items, after, fewerAfter⟩, readMore, finished⟩ := except_bind_eq_ok.mp read
    cases finished
    exact ⟨items, ⟨fewerAfter, readMore⟩, rfl⟩
  · rintro ⟨items, ⟨fewerAfter, readMore⟩, rfl⟩
    refine ⟨by simp only [List.length_cons]; omega, ?_⟩
    exact except_bind_eq_ok.mpr ⟨_, readMore, rfl⟩

/-- A primary expression begins with a constant, a name or an opening bracket. -/
theorem first_of_readsAt_primary {tokens left : List Token} {expr : Expr}
    (reads : ReadsAt .primary tokens expr left) :
    ∃ token rest, tokens = token :: rest ∧
      ((∃ value, Constant token value) ∨ (∃ text, token = .name text) ∨ token = .bracketLeft ∨
        token = .parenLeft) := by
  obtain ⟨fewer, read⟩ := reads
  cases tokens with
  | nil =>
      rw [readAt] at read
      cases read
  | cons token rest =>
      refine ⟨token, rest, rfl, ?_⟩
      cases token with
      | none => exact Or.inl ⟨_, .none⟩
      | bool value => exact Or.inl ⟨_, .bool value⟩
      | int value => exact Or.inl ⟨_, .int value⟩
      | float value => exact Or.inl ⟨_, .float value⟩
      | string text => exact Or.inl ⟨_, .string text⟩
      | name text => exact Or.inr (Or.inl ⟨text, rfl⟩)
      | bracketLeft => exact Or.inr (Or.inr (Or.inl rfl))
      | parenLeft => exact Or.inr (Or.inr (Or.inr rfl))
      | _ =>
          simp only [readAt] at read
          cases read

/-! ### Lists of items and arguments -/

theorem readsItems_iff {bracket : Bracket} {tokens left : List Token} {items : List Expr} :
    ReadsItems bracket tokens items left ↔
      (bracket.closed? tokens = some left ∧ items = []) ∨
        bracket.closed? tokens = none ∧
          ∃ item rest, ReadsAt .whole tokens item rest ∧
            ((∃ more others, rest = .comma :: more ∧ ReadsItems bracket more others left ∧
                items = item :: others) ∨
              rest.head? ≠ some .comma ∧ bracket.closed? rest = some left ∧ items = [item]) := by
  unfold ReadsItems
  rw [readItems]
  constructor
  · rintro ⟨fewer, read⟩
    split at read
    · rename_i found
      cases read
      exact Or.inl ⟨found, rfl⟩
    · rename_i notFound
      obtain ⟨⟨item, rest, fewerRest⟩, readItem, read⟩ := except_bind_eq_ok.mp read
      refine Or.inr ⟨notFound, item, rest, ⟨fewerRest, readItem⟩, ?_⟩
      simp only at read
      split at read
      · obtain ⟨⟨others, after, fewerAfter⟩, readOthers, finished⟩ := except_bind_eq_ok.mp read
        cases finished
        exact Or.inl ⟨_, others, rfl, ⟨fewerAfter, readOthers⟩, rfl⟩
      · rename_i other
        obtain ⟨⟨after, fewerAfter⟩, closed, finished⟩ := except_bind_eq_ok.mp read
        cases finished
        refine Or.inr ⟨fun starts => ?_, readCloser_eq_ok_iff.mp closed, rfl⟩
        obtain ⟨more, rfl⟩ := List.head?_eq_some_iff.mp starts
        exact other more fewerRest rfl HEq.rfl
  · rintro (⟨found, rfl⟩ | ⟨notFound, item, rest, ⟨fewerRest, readItem⟩, second⟩)
    · refine ⟨Bracket.length_of_closed? found, ?_⟩
      split
      · rename_i found'
        rw [found] at found'
        cases found'
        rfl
      · rename_i notFound
        rw [found] at notFound
        cases notFound
    · have fewer : left.length < tokens.length := by
        rcases second with ⟨more, others, rfl, ⟨fewerAfter, -⟩, -⟩ | ⟨-, closed, -⟩
        · simp only [List.length_cons] at fewerRest
          omega
        · have := Bracket.length_of_closed? closed
          omega
      refine ⟨fewer, ?_⟩
      split
      · rename_i found
        rw [notFound] at found
        cases found
      · refine except_bind_eq_ok.mpr ⟨_, readItem, ?_⟩
        rcases second with ⟨more, others, rfl, ⟨fewerAfter, readOthers⟩, rfl⟩ | ⟨other, closed, rfl⟩
        · exact except_bind_eq_ok.mpr ⟨_, readOthers, rfl⟩
        · simp only
          split
          · exact absurd rfl other
          · exact except_bind_eq_ok.mpr
              ⟨⟨left, Bracket.length_of_closed? closed⟩, readCloser_eq_ok_iff.mpr closed, rfl⟩

theorem readsArguments_iff {afterKeyword : Bool} {tokens left : List Token}
    {arguments : List (Argument Expr)} :
    ReadsArguments afterKeyword tokens arguments left ↔
      (tokens = .parenRight :: left ∧ arguments = []) ∨
        (∃ key rest value after others, tokens = .name key :: .assign :: rest ∧
          ReadsAt .whole rest value after ∧ ReadsMoreArguments true after others left ∧
          arguments = .keyword key value :: others) ∨
        tokens.head? ≠ some .parenRight ∧
          (∀ key rest, tokens ≠ .name key :: .assign :: rest) ∧ afterKeyword = false ∧
          ∃ value after others, ReadsAt .whole tokens value after ∧
            ReadsMoreArguments false after others left ∧
            arguments = .positional value :: others := by
  unfold ReadsArguments
  constructor
  · rintro ⟨fewer, read⟩
    unfold readArguments at read
    split at read
    · cases read
      exact Or.inl ⟨rfl, rfl⟩
    · obtain ⟨⟨value, after, fewerAfter⟩, readValue, read⟩ := except_bind_eq_ok.mp read
      obtain ⟨⟨others, last, fewerLast⟩, readOthers, finished⟩ := except_bind_eq_ok.mp read
      cases finished
      exact Or.inr (Or.inl ⟨_, _, value, after, others, rfl, ⟨fewerAfter, readValue⟩,
        ⟨fewerLast, readOthers⟩, rfl⟩)
    · rename_i notCloser notKeyword
      split at read
      · cases read
      · rename_i positional
        obtain ⟨⟨value, after, fewerAfter⟩, readValue, read⟩ := except_bind_eq_ok.mp read
        obtain ⟨⟨others, last, fewerLast⟩, readOthers, finished⟩ := except_bind_eq_ok.mp read
        cases finished
        refine Or.inr (Or.inr ⟨fun starts => ?_, notKeyword, by simpa using positional,
          value, after, others, ⟨fewerAfter, readValue⟩, ⟨fewerLast, readOthers⟩, rfl⟩)
        obtain ⟨more, rfl⟩ := List.head?_eq_some_iff.mp starts
        exact notCloser more rfl
  · rintro (⟨rfl, rfl⟩ |
      ⟨key, rest, value, after, others, rfl, ⟨fewerAfter, readValue⟩, ⟨fewerLast, readOthers⟩,
        rfl⟩ |
      ⟨notCloser, notKeyword, rfl, value, after, others, ⟨fewerAfter, readValue⟩,
        ⟨fewerLast, readOthers⟩, rfl⟩)
    · exact ⟨by simp, by rw [readArguments]⟩
    · refine ⟨by simp only [List.length_cons]; omega, ?_⟩
      rw [readArguments]
      exact except_bind_eq_ok.mpr ⟨_, readValue, except_bind_eq_ok.mpr ⟨_, readOthers, rfl⟩⟩
    · refine ⟨by omega, ?_⟩
      rw [readArguments]
      · exact except_bind_eq_ok.mpr ⟨_, readValue, except_bind_eq_ok.mpr ⟨_, readOthers, rfl⟩⟩
      · rintro rest rfl
        exact notCloser rfl
      · exact notKeyword

theorem readsMoreArguments_iff {afterKeyword : Bool} {tokens left : List Token}
    {arguments : List (Argument Expr)} :
    ReadsMoreArguments afterKeyword tokens arguments left ↔
      (∃ rest, tokens = .comma :: rest ∧ ReadsArguments afterKeyword rest arguments left) ∨
        tokens = .parenRight :: left ∧ arguments = [] := by
  unfold ReadsMoreArguments
  constructor
  · rintro ⟨fewer, read⟩
    unfold readMoreArguments at read
    split at read
    · obtain ⟨⟨others, after, fewerAfter⟩, readOthers, finished⟩ := except_bind_eq_ok.mp read
      cases finished
      exact Or.inl ⟨_, rfl, fewerAfter, readOthers⟩
    · obtain ⟨⟨after, fewerAfter⟩, closed, finished⟩ := except_bind_eq_ok.mp read
      cases finished
      exact Or.inr ⟨closed?_eq_some_iff.mp (readCloser_eq_ok_iff.mp closed), rfl⟩
  · rintro (⟨rest, rfl, fewerAfter, readOthers⟩ | ⟨rfl, rfl⟩)
    · refine ⟨by simp only [List.length_cons]; omega, ?_⟩
      rw [readMoreArguments]
      exact except_bind_eq_ok.mpr ⟨_, readOthers, rfl⟩
    · refine ⟨by simp, ?_⟩
      rw [readMoreArguments]
      · rfl
      · rintro rest equal
        cases equal

theorem readsMembers_iff {text whole : String} {tokens left : List Token} :
    ReadsMembers text tokens whole left ↔
      (∃ member rest, tokens = .dot :: .name member :: rest ∧
          ReadsMembers (text ++ "." ++ member) rest whole left) ∨
        tokens.head? ≠ some .dot ∧ whole = text ∧ left = tokens := by
  unfold ReadsMembers
  constructor
  · rintro ⟨fewer, read⟩
    unfold readMembers at read
    split at read
    · obtain ⟨⟨second, after, fewerAfter⟩, readMore, finished⟩ := except_bind_eq_ok.mp read
      cases finished
      exact Or.inl ⟨_, _, rfl, fewerAfter, readMore⟩
    · cases read
    · rename_i notDot
      cases read
      refine Or.inr ⟨fun starts => ?_, rfl, rfl⟩
      obtain ⟨more, rfl⟩ := List.head?_eq_some_iff.mp starts
      exact notDot more rfl
  · rintro (⟨member, rest, rfl, fewerAfter, readMore⟩ | ⟨notDot, rfl, rfl⟩)
    · refine ⟨by simp only [List.length_cons]; omega, ?_⟩
      rw [readMembers]
      exact except_bind_eq_ok.mpr ⟨_, readMore, rfl⟩
    · refine ⟨Nat.le_refl _, ?_⟩
      rw [readMembers]
      · rintro member rest rfl
        exact notDot rfl
      · rintro rest rfl
        exact notDot rfl

end GroupScript.Expr
