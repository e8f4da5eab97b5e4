import GroupScript.Proofs.GrammarSoundness

/-!
# Everything that is derived is read

Reading is greedy: it goes on as long as the next tokens can belong to the expression.  A derivation is therefore read
back in front of tokens at which its level stops.  Chains and suffixes are derived from the left but read from left to
right, so for them the statement is that reading the derived tokens comes down to going on with the tree built so far.

Together with soundness this gives the main result: the reader accepts exactly the tokens that the grammar derives, and
returns the tree of the derivation.
-/

namespace GroupScript.Expr

theorem Stronger.rank_lt {weak strong : Level} (next : Stronger weak strong) :
    strong.rank < weak.rank := by
  cases next <;> decide

/-! ### The first token of a derivation -/

/-- Whether an expression of a level can begin with a token. -/
def opens (level : Level) : Token → Bool
  | .none | .bool _ | .int _ | .float _ | .string _ | .name _ | .bracketLeft | .parenLeft => true
  | .minus | .plus => decide (Level.sign.rank ≤ level.rank)
  | .not => decide (Level.not.rank ≤ level.rank)
  | _ => false

theorem opens_mono {weak strong : Level} (ranks : strong.rank ≤ weak.rank) {token : Token}
    (opened : opens strong token = true) : opens weak token = true := by
  cases token with
  | minus | plus | not =>
      simp only [opens, decide_eq_true_eq] at opened ⊢
      omega
  | none | bool | int | float | string | name | bracketLeft | parenLeft => rfl
  | _ => cases opened

/-- Reading the members after the first name of a dotted name comes down to going on with the whole of it. -/
theorem DottedName.readsMembers {tokens : List Token} {text : String}
    (dotted : DottedName tokens text) :
    ∃ name others, tokens = .name name :: others ∧
      ∀ {rest whole left}, ReadsMembers text rest whole left →
        ReadsMembers name (others ++ rest) whole left := by
  induction dotted with
  | single text => exact ⟨text, [], rfl, id⟩
  | member path member ih =>
      obtain ⟨name, others, rfl, members⟩ := ih
      refine ⟨name, others ++ [.dot, .name member], rfl, fun reads => ?_⟩
      rw [List.append_assoc]
      exact members (readsMembers_iff.mpr (Or.inl ⟨member, _, rfl, reads⟩))

theorem Derives.first {level : Level} {tokens : List Token} {expr : Expr} :
    Derives level tokens expr → ∃ token rest, tokens = token :: rest ∧ opens level token = true
  | .stronger next derived => by
      obtain ⟨token, rest, rfl, opened⟩ := derived.first
      exact ⟨token, rest, rfl, opens_mono (Nat.le_of_lt next.rank_lt) opened⟩
  | .joined _ _ derivedLeft _ => by
      obtain ⟨token, rest, rfl, opened⟩ := derivedLeft.first
      exact ⟨token, _, rfl, opened⟩
  | .signed signs _ => by
      cases signs <;> exact ⟨_, _, rfl, rfl⟩
  | .raised derivedBase _ => by
      obtain ⟨token, rest, rfl, opened⟩ := derivedBase.first
      exact ⟨token, _, rfl, opens_mono (by decide) opened⟩
  | .called derivedFunction _ => by
      obtain ⟨token, rest, rfl, opened⟩ := derivedFunction.first
      exact ⟨token, _, rfl, opened⟩
  | .indexed derivedTarget _ _ => by
      obtain ⟨token, rest, rfl, opened⟩ := derivedTarget.first
      exact ⟨token, _, rfl, opened⟩
  | .const constant => by
      cases constant <;> exact ⟨_, _, rfl, rfl⟩
  | .name dotted => by
      obtain ⟨name, others, rfl, -⟩ := dotted.readsMembers
      exact ⟨_, _, rfl, rfl⟩
  | .list _ => ⟨_, _, rfl, rfl⟩
  | .emptyList => ⟨_, _, rfl, rfl⟩
  | .enclosed _ => ⟨_, _, rfl, rfl⟩
  | .tuple _ _ => ⟨_, _, rfl, rfl⟩

/-- A derivation does not begin with a token that its level cannot begin with. -/
theorem Derives.head?_ne {level : Level} {tokens : List Token} {expr : Expr}
    (derived : Derives level tokens expr) (rest : List Token) {token : Token}
    (closed : opens level token = false) : (tokens ++ rest).head? ≠ some token := by
  obtain ⟨first, others, rfl, opened⟩ := derived.first
  intro equal
  cases equal
  rw [closed] at opened
  cases opened

/-! ### Where reading stops -/

/-- No reading at a level goes on with the given tokens. -/
structure Stops (level : Level) (rest : List Token) : Prop where
  dot : rest.head? ≠ some .dot
  paren : Level.suffix.rank ≤ level.rank → rest.head? ≠ some .parenLeft
  bracket : Level.suffix.rank ≤ level.rank → rest.head? ≠ some .bracketLeft
  power : Level.power.rank ≤ level.rank → rest.head? ≠ some .starStar
  joint : ∀ chain, (Level.chain chain).rank ≤ level.rank → chain.joint? rest = none

theorem Stops.mono {weak strong : Level} {rest : List Token} (stops : Stops weak rest)
    (ranks : strong.rank ≤ weak.rank) : Stops strong rest where
  dot := stops.dot
  paren reached := stops.paren (Nat.le_trans reached ranks)
  bracket reached := stops.bracket (Nat.le_trans reached ranks)
  power reached := stops.power (Nat.le_trans reached ranks)
  joint chain reached := stops.joint chain (Nat.le_trans reached ranks)

theorem stops_nil (level : Level) : Stops level [] := by
  constructor <;> try simp
  intro chain
  cases chain <;> simp [ChainLevel.joint?]

/-- The tokens at which every expression ends. -/
def ends : Token → Bool
  | .comma | .assign | .parenRight | .bracketRight => true
  | _ => false

theorem stops_of_ends (level : Level) {token : Token} (ended : ends token = true)
    (rest : List Token) : Stops level (token :: rest) := by
  cases token with
  | comma | assign | parenRight | bracketRight =>
      constructor <;> try simp
      intro chain
      cases chain <;> simp [ChainLevel.joint?]
  | _ => cases ended

theorem ends_closer (bracket : Bracket) : ends bracket.closer = true := by
  cases bracket <;> rfl

/-- The marks of a level do not go on with one of its operands. -/
theorem Joins.stops {level : ChainLevel} {marks : List Token} {joint : Joint}
    (joins : Joins level marks joint) (rest : List Token) :
    Stops level.operand (marks ++ rest) := by
  cases joins
  all_goals
    constructor <;> try simp
    intro chain
    cases chain <;> simp [ChainLevel.joint?, ChainLevel.operand, Level.rank]

/-! ### Reading a derivation -/

/-- Reading at a level goes through the given tokens and has built the given tree after them. -/
def ReadsThrough (level : Level) (tokens : List Token) (expr : Expr) : Prop :=
  match level with
  | .chain chain => ∀ ⦃rest whole left⦄, Stops chain.operand rest →
      ReadsChain chain expr rest whole left → ReadsAt (.chain chain) (tokens ++ rest) whole left
  | .suffix => ∀ ⦃rest whole left⦄, Stops .primary rest →
      ReadsSuffixes expr rest whole left → ReadsAt .suffix (tokens ++ rest) whole left
  | level => ∀ ⦃rest⦄, Stops level rest → ReadsAt level (tokens ++ rest) expr rest

/-- Reading goes through some items up to the end of any bracket. -/
def ReadsThroughItems (tokens : List Token) (items : List Expr) : Prop :=
  ∀ bracket left, ReadsItems bracket (tokens ++ bracket.closer :: left) items left

/-- Reading goes through some arguments up to the closing parenthesis. -/
def ReadsThroughArguments (afterKeyword : Bool) (tokens : List Token)
    (arguments : List (Argument Expr)) : Prop :=
  ∀ left, ReadsArguments afterKeyword (tokens ++ .parenRight :: left) arguments left

/-- Where reading stops, it has gone through exactly the given tokens. -/
theorem ReadsThrough.reads {level : Level} {tokens rest : List Token} {expr : Expr}
    (through : ReadsThrough level tokens expr) (stops : Stops level rest) :
    ReadsAt level (tokens ++ rest) expr rest := by
  cases level with
  | chain chain =>
      have ranks := ChainLevel.rank_operand chain
      refine through (stops.mono (Nat.le_of_lt ranks)) (readsChain_iff.mpr (Or.inl ⟨?_, rfl, rfl⟩))
      exact stops.joint chain (Nat.le_refl _)
  | suffix =>
      refine through (stops.mono (by decide)) (readsSuffixes_iff.mpr (Or.inr (Or.inr ?_)))
      exact ⟨stops.paren (Nat.le_refl _), stops.bracket (Nat.le_refl _), rfl, rfl⟩
  | not => exact through stops
  | sign => exact through stops
  | power => exact through stops
  | primary => exact through stops

namespace ReadsThrough

theorem stronger {weak strong : Level} {tokens : List Token} {expr : Expr}
    (next : Stronger weak strong) (derived : Derives strong tokens expr)
    (through : ReadsThrough strong tokens expr) : ReadsThrough weak tokens expr := by
  cases next with
  | or | and | comparison | arith | term =>
      intro rest whole left stops readsMore
      exact readsAt_chain.mpr ⟨expr, rest, through.reads stops, readsMore⟩
  | not =>
      intro rest stops
      rw [readsAt_not_of_ne (derived.head?_ne rest rfl)]
      exact through.reads (stops.mono (by decide))
  | sign =>
      intro rest stops
      rw [readsAt_sign_of_ne (derived.head?_ne rest rfl) (derived.head?_ne rest rfl)]
      exact through.reads (stops.mono (by decide))
  | power =>
      intro rest stops
      exact readsAt_power.mpr ⟨expr, rest, through.reads (stops.mono (by decide)),
        Or.inr ⟨stops.power (Nat.le_refl _), rfl, rfl⟩⟩
  | suffix =>
      intro rest whole left stops readsMore
      exact readsAt_suffix.mpr ⟨expr, rest, through.reads stops, readsMore⟩

theorem joined {level : ChainLevel} {operand : Level} {first marks second : List Token}
    {joint : Joint} {left right : Expr} (joins : Joins level marks joint)
    (next : Stronger (.chain level) operand) (throughLeft : ReadsThrough (.chain level) first left)
    (throughRight : ReadsThrough operand second right) :
    ReadsThrough (.chain level) (first ++ (marks ++ second)) (joint.apply left right) := by
  intro rest whole after stops readsMore
  have same : operand = level.operand := by
    cases next <;> rfl
  subst same
  rw [List.append_assoc, List.append_assoc]
  -- The left operand is read up to the marks, and from there on the chain goes on.
  refine throughLeft (joins.stops _) (readsChain_iff.mpr (Or.inr ?_))
  exact ⟨joint, second ++ rest, right, rest, joins.joint?_eq_some _, throughRight.reads stops,
    readsMore⟩

theorem signed {level : Level} {sign : Token} {op : UnaryOp} {tokens : List Token} {operand : Expr}
    (signs : Signs level sign op) (through : ReadsThrough level tokens operand) :
    ReadsThrough level (sign :: tokens) (.unary op operand) := by
  have reads (rest : List Token) (stops : Stops level rest) :
      ReadsAt level (sign :: tokens ++ rest) (.unary op operand) rest :=
    (readsAt_signed signs).mpr ⟨operand, through.reads stops, rfl⟩
  cases signs <;> exact fun {rest} => reads rest

theorem raised {first second : List Token} {base exponent : Expr}
    (throughBase : ReadsThrough .suffix first base)
    (throughExponent : ReadsThrough .sign second exponent) :
    ReadsThrough .power (first ++ .starStar :: second) (.binary .pow base exponent) := by
  intro rest stops
  have stopsBase : Stops .suffix (.starStar :: (second ++ rest)) := by
    constructor <;> try simp [Level.rank]
    intro chain
    cases chain <;> simp
  have stopsExponent : Stops .sign rest :=
    { dot := stops.dot
      paren := fun _ => stops.paren (by decide)
      bracket := fun _ => stops.bracket (by decide)
      power := fun _ => stops.power (by decide)
      joint := fun chain reached => by cases chain <;> simp [Level.rank] at reached }
  rw [List.append_assoc, List.cons_append]
  exact readsAt_power.mpr ⟨base, .starStar :: (second ++ rest), throughBase.reads stopsBase,
    Or.inl ⟨second ++ rest, exponent, rfl, throughExponent.reads stopsExponent, rfl⟩⟩

/-- Reading the suffixes that follow stops a primary expression. -/
theorem stops_suffix {token : Token} (opening : token = .parenLeft ∨ token = .bracketLeft)
    (rest : List Token) : Stops .primary (token :: rest) := by
  rcases opening with rfl | rfl
  all_goals
    constructor <;> try simp [Level.rank]
    intro chain
    cases chain <;> simp

theorem called {first inside : List Token} {function : Expr} {arguments : List (Argument Expr)}
    (throughFunction : ReadsThrough .suffix first function)
    (throughArguments : ReadsThroughArguments false inside arguments) :
    ReadsThrough .suffix (first ++ .parenLeft :: (inside ++ [.parenRight]))
      (.call function arguments) := by
  intro rest whole left stops readsMore
  have readsArguments := throughArguments rest
  simp only [List.append_assoc, List.cons_append, List.nil_append]
  refine throughFunction (stops_suffix (Or.inl rfl) _) (readsSuffixes_iff.mpr (Or.inl ?_))
  exact ⟨_, arguments, rest, rfl, readsArguments, readsMore⟩

theorem indexed {first inside : List Token} {target : Expr} {indices : List Expr}
    (throughTarget : ReadsThrough .suffix first target)
    (throughIndices : ReadsThroughItems inside indices) (nonempty : indices ≠ []) :
    ReadsThrough .suffix (first ++ .bracketLeft :: (inside ++ [.bracketRight]))
      (.index target indices) := by
  intro rest whole left stops readsMore
  have readsIndices := throughIndices .square rest
  simp only [List.append_assoc, List.cons_append, List.nil_append]
  refine throughTarget (stops_suffix (Or.inr rfl) _)
    (readsSuffixes_iff.mpr (Or.inr (Or.inl ?_)))
  exact ⟨_, indices, rest, rfl, readsIndices, nonempty, readsMore⟩

theorem constant {token : Token} {value : Value} (constant : Constant token value) :
    ReadsThrough .primary [token] (.const value) := by
  intro rest _
  exact (readsAt_constant constant).mpr ⟨rfl, rfl⟩

theorem dottedName {tokens : List Token} {text : String} (dotted : DottedName tokens text) :
    ReadsThrough .primary tokens (.name text) := by
  intro rest stops
  obtain ⟨name, others, rfl, members⟩ := dotted.readsMembers
  exact readsAt_name.mpr
    ⟨text, members (readsMembers_iff.mpr (Or.inr ⟨stops.dot, rfl, rfl⟩)), rfl⟩

theorem list {inside : List Token} {items : List Expr}
    (throughItems : ReadsThroughItems inside items) :
    ReadsThrough .primary (.bracketLeft :: (inside ++ [.bracketRight])) (.list items) := by
  intro rest _
  have readsItems := throughItems .square rest
  simp only [List.append_assoc, List.cons_append, List.nil_append]
  exact readsAt_bracketLeft.mpr ⟨items, readsItems, rfl⟩

theorem emptyList : ReadsThrough .primary [.parenLeft, .parenRight] (.list []) := by
  intro rest _
  exact readsAt_parenLeft.mpr (Or.inl ⟨rfl, rfl⟩)

theorem enclosed {inside : List Token} {expr : Expr} (derived : Derives .whole inside expr)
    (through : ReadsThrough .whole inside expr) :
    ReadsThrough .primary (.parenLeft :: (inside ++ [.parenRight])) expr := by
  intro rest _
  simp only [List.append_assoc, List.cons_append, List.nil_append]
  refine readsAt_parenLeft.mpr (Or.inr ⟨derived.head?_ne _ rfl, expr, .parenRight :: rest, ?_, ?_⟩)
  · exact through.reads (stops_of_ends _ rfl rest)
  · exact Or.inl ⟨rfl, rfl⟩

theorem tuple {first inside : List Token} {item : Expr} {items : List Expr}
    (derivedFirst : Derives .whole first item) (throughFirst : ReadsThrough .whole first item)
    (throughItems : ReadsThroughItems inside items) :
    ReadsThrough .primary (.parenLeft :: (first ++ .comma :: (inside ++ [.parenRight])))
      (.list (item :: items)) := by
  intro rest _
  have readsItems := throughItems .round rest
  simp only [List.append_assoc, List.cons_append, List.nil_append]
  refine readsAt_parenLeft.mpr (Or.inr ⟨derivedFirst.head?_ne _ rfl, item,
    .comma :: (inside ++ .parenRight :: rest), ?_, ?_⟩)
  · exact throughFirst.reads (stops_of_ends _ rfl _)
  · exact Or.inr ⟨_, items, rfl, readsItems, rfl⟩

end ReadsThrough

/-! ### Items and arguments -/

theorem Derives.closed?_eq_none {tokens : List Token} {expr : Expr}
    (derived : Derives .whole tokens expr) (bracket : Bracket) (rest : List Token) :
    bracket.closed? (tokens ++ rest) = none := by
  cases found : bracket.closed? (tokens ++ rest) with
  | none => rfl
  | some left =>
      have starts := congrArg List.head? (closed?_eq_some_iff.mp found)
      cases bracket <;> exact absurd starts (derived.head?_ne rest rfl)

namespace ReadsThroughItems

theorem nil : ReadsThroughItems [] [] := by
  intro bracket left
  exact readsItems_iff.mpr (Or.inl ⟨closed?_eq_some_iff.mpr rfl, rfl⟩)

theorem last {tokens : List Token} {item : Expr} (derived : Derives .whole tokens item)
    (through : ReadsThrough .whole tokens item) : ReadsThroughItems tokens [item] := by
  intro bracket left
  have notComma : (bracket.closer :: left).head? ≠ some .comma := by
    cases bracket <;> simp [Bracket.closer]
  refine readsItems_iff.mpr (Or.inr ⟨derived.closed?_eq_none bracket _, item, _,
    through.reads (stops_of_ends _ (ends_closer bracket) left), Or.inr ⟨notComma, ?_, rfl⟩⟩)
  exact closed?_eq_some_iff.mpr rfl

theorem more {first others : List Token} {item : Expr} {items : List Expr}
    (derived : Derives .whole first item) (through : ReadsThrough .whole first item)
    (throughMore : ReadsThroughItems others items) :
    ReadsThroughItems (first ++ .comma :: others) (item :: items) := by
  intro bracket left
  rw [List.append_assoc, List.cons_append]
  exact readsItems_iff.mpr (Or.inr ⟨derived.closed?_eq_none bracket _, item, _,
    through.reads (stops_of_ends _ rfl _), Or.inl ⟨_, items, rfl, throughMore bracket left, rfl⟩⟩)

end ReadsThroughItems

theorem ReadsAt.left_eq {level : Level} {tokens first second : List Token} {left right : Expr}
    (reads : ReadsAt level tokens left first) (readsToo : ReadsAt level tokens right second) :
    first = second := by
  obtain ⟨fewer, read⟩ := reads
  obtain ⟨fewerToo, readToo⟩ := readsToo
  rw [read] at readToo
  cases readToo
  rfl

theorem Derives.of_primary {tokens : List Token} {expr : Expr} (derived : Derives .primary tokens expr) :
    Derives .whole tokens expr :=
  .stronger .or <| .stronger .and <| .stronger .not <| .stronger .comparison <| .stronger .arith <|
    .stronger .term <| .stronger .sign <| .stronger .power <| .stronger .suffix derived

/-- A name alone is a whole expression. -/
theorem derives_name (key : String) : Derives .whole [.name key] (.name key) :=
  .of_primary (.name (.single key))

/-- A name in front of an assignment sign is read as a name and nothing more. -/
theorem readsAt_name_assign (key : String) (rest : List Token) :
    ReadsAt .whole (.name key :: .assign :: rest) (.name key) (.assign :: rest) := by
  have climb {weak strong : Level} (next : Stronger weak strong)
      (found : Derives strong [.name key] (.name key) ∧
        ReadsThrough strong [.name key] (.name key)) :
      Derives weak [.name key] (.name key) ∧ ReadsThrough weak [.name key] (.name key) :=
    ⟨.stronger next found.1, found.2.stronger next found.1⟩
  have found := climb .or <| climb .and <| climb .not <| climb .comparison <| climb .arith <|
    climb .term <| climb .sign <| climb .power <| climb .suffix
      ⟨.name (.single key), ReadsThrough.dottedName (.single key)⟩
  exact ReadsThrough.reads found.2 (stops_of_ends _ rfl rest)

namespace ReadsThroughArguments

theorem nil (afterKeyword : Bool) : ReadsThroughArguments afterKeyword [] [] := by
  intro left
  exact readsArguments_iff.mpr (Or.inl ⟨rfl, rfl⟩)

/-- A value is followed by the closing parenthesis. -/
theorem readsMore_nil (afterKeyword : Bool) (left : List Token) :
    ReadsMoreArguments afterKeyword (.parenRight :: left) [] left :=
  readsMoreArguments_iff.mpr (Or.inr ⟨rfl, rfl⟩)

/-- A value is followed by a comma and further arguments. -/
theorem readsMore {afterKeyword : Bool} {tokens : List Token} {arguments : List (Argument Expr)}
    (through : ReadsThroughArguments afterKeyword tokens arguments) (left : List Token) :
    ReadsMoreArguments afterKeyword (.comma :: (tokens ++ .parenRight :: left)) arguments left :=
  readsMoreArguments_iff.mpr (Or.inl ⟨_, rfl, through left⟩)

theorem keyword {afterKeyword : Bool} {tokens rest left : List Token} {value : Expr}
    {arguments : List (Argument Expr)} {token : Token} (key : String)
    (through : ReadsThrough .whole tokens value) (ended : ends token = true)
    (readsMore : ReadsMoreArguments true (token :: rest) arguments left) :
    ReadsArguments afterKeyword (.name key :: .assign :: (tokens ++ token :: rest))
      (.keyword key value :: arguments) left :=
  readsArguments_iff.mpr (Or.inr (Or.inl ⟨key, _, value, _, arguments, rfl,
    through.reads (stops_of_ends _ ended rest), readsMore, rfl⟩))

theorem positional {tokens rest left : List Token} {value : Expr}
    {arguments : List (Argument Expr)} {token : Token} (derived : Derives .whole tokens value)
    (through : ReadsThrough .whole tokens value) (ended : ends token = true)
    (notAssign : token ≠ .assign)
    (readsMore : ReadsMoreArguments false (token :: rest) arguments left) :
    ReadsArguments false (tokens ++ token :: rest) (.positional value :: arguments) left := by
  have readsValue := through.reads (stops_of_ends _ ended rest)
  have notKeyword : ∀ key more, tokens ++ token :: rest ≠ .name key :: .assign :: more := by
    intro key more equal
    rw [equal] at readsValue
    cases readsValue.left_eq (readsAt_name_assign key more)
    exact notAssign rfl
  exact readsArguments_iff.mpr (Or.inr (Or.inr ⟨derived.head?_ne _ rfl, notKeyword, rfl,
    value, _, arguments, readsValue, readsMore, rfl⟩))

end ReadsThroughArguments

mutual

/-- Reading at the level of a derivation goes through it. -/
theorem Derives.readsThrough {level : Level} {tokens : List Token} {expr : Expr} :
    Derives level tokens expr → ReadsThrough level tokens expr
  | .stronger next derived => derived.readsThrough.stronger next derived
  | .joined joins next derivedLeft derivedRight =>
      ReadsThrough.joined joins next derivedLeft.readsThrough derivedRight.readsThrough
  | .signed signs derived => ReadsThrough.signed signs derived.readsThrough
  | .raised derivedBase derivedExponent =>
      ReadsThrough.raised derivedBase.readsThrough derivedExponent.readsThrough
  | .called derivedFunction derivedArguments =>
      ReadsThrough.called derivedFunction.readsThrough derivedArguments.readsThrough
  | .indexed derivedTarget derivedIndices nonempty =>
      ReadsThrough.indexed derivedTarget.readsThrough derivedIndices.readsThrough nonempty
  | .const constant => ReadsThrough.constant constant
  | .name dotted => ReadsThrough.dottedName dotted
  | .list derivedItems => ReadsThrough.list derivedItems.readsThrough
  | .emptyList => ReadsThrough.emptyList
  | .enclosed derived => ReadsThrough.enclosed derived derived.readsThrough
  | .tuple derivedFirst derivedItems =>
      ReadsThrough.tuple derivedFirst derivedFirst.readsThrough derivedItems.readsThrough

theorem DerivesItems.readsThrough {tokens : List Token} {items : List Expr} :
    DerivesItems tokens items → ReadsThroughItems tokens items
  | .nil => ReadsThroughItems.nil
  | .last derived => ReadsThroughItems.last derived derived.readsThrough
  | .more derived derivedMore =>
      ReadsThroughItems.more derived derived.readsThrough derivedMore.readsThrough

theorem DerivesKeywords.readsThrough {tokens : List Token} {arguments : List (Argument Expr)} :
    DerivesKeywords tokens arguments →
      ∀ afterKeyword, ReadsThroughArguments afterKeyword tokens arguments
  | .nil => ReadsThroughArguments.nil
  | .last key derived => fun _ left =>
      ReadsThroughArguments.keyword key derived.readsThrough rfl
        (ReadsThroughArguments.readsMore_nil true left)
  | .more key derived derivedMore => fun _ left => by
      have readsMore := (derivedMore.readsThrough true).readsMore left
      simpa using ReadsThroughArguments.keyword key derived.readsThrough rfl readsMore

theorem DerivesArguments.readsThrough {tokens : List Token} {arguments : List (Argument Expr)} :
    DerivesArguments tokens arguments → ReadsThroughArguments false tokens arguments
  | .keywords derived => derived.readsThrough false
  | .last derived => fun left =>
      ReadsThroughArguments.positional derived derived.readsThrough rfl (by simp)
        (ReadsThroughArguments.readsMore_nil false left)
  | .more derived derivedMore => fun left => by
      have readsMore := derivedMore.readsThrough.readsMore left
      simpa using
        ReadsThroughArguments.positional derived derived.readsThrough rfl (by simp) readsMore

end

/-- The tokens that the grammar derives as a whole expression are read, with the tree of the derivation. -/
theorem Derives.ofTokens_eq_ok {tokens : List Token} {expr : Expr}
    (derived : Derives .whole tokens expr) (source : List Char) :
    ofTokens tokens source = .ok expr := by
  obtain ⟨token, rest, rfl, -⟩ := derived.first
  have reads := derived.readsThrough.reads (stops_nil _)
  rw [List.append_nil] at reads
  obtain ⟨fewer, read⟩ := reads
  unfold ofTokens
  rw [if_neg (by simp)]
  exact except_bind_eq_ok.mpr ⟨_, read, rfl⟩

/-- The reader accepts exactly the tokens that the grammar derives as a whole expression, and it returns the tree of
the derivation. -/
theorem ofTokens_eq_ok_iff_derives (tokens : List Token) (source : List Char) (expr : Expr) :
    ofTokens tokens source = .ok expr ↔ Derives .whole tokens expr := by
  constructor
  · intro read
    exact derives_of_ofTokens read
  · intro derived
    exact derived.ofTokens_eq_ok source

end GroupScript.Expr
