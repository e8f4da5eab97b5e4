import GroupScript.Proofs.Reading

/-!
# Everything that is read is derived

Whatever the reader accepts at a level, the tokens it has used are derived by the grammar at that level, with the tree
it returns.  The reader's functions call each other, so the statement is made for all of them at once and proved by
induction on the bound that also shows that reading ends: sixteen for each token and the rank of the level.
-/

namespace GroupScript.Expr

theorem ReadsAt.length_lt {level : Level} {tokens left : List Token} {expr : Expr}
    (reads : ReadsAt level tokens expr left) : left.length < tokens.length := by
  obtain ⟨fewer, -⟩ := reads
  exact fewer

theorem ReadsItems.length_lt {bracket : Bracket} {tokens left : List Token} {items : List Expr}
    (reads : ReadsItems bracket tokens items left) : left.length < tokens.length := by
  obtain ⟨fewer, -⟩ := reads
  exact fewer

theorem ReadsArguments.length_lt {afterKeyword : Bool} {tokens left : List Token}
    {arguments : List (Argument Expr)}
    (reads : ReadsArguments afterKeyword tokens arguments left) :
    left.length < tokens.length := by
  obtain ⟨fewer, -⟩ := reads
  exact fewer

theorem stronger_operand (level : ChainLevel) : Stronger (.chain level) level.operand := by
  cases level with
  | or => exact .or
  | and => exact .and
  | comparison => exact .comparison
  | arith => exact .arith
  | term => exact .term

/-- Reading members goes on with a dotted name. -/
theorem DottedName.extend {front tokens left : List Token} {text whole : String}
    (dotted : DottedName front text) (reads : ReadsMembers text tokens whole left) :
    ∃ used, tokens = used ++ left ∧ DottedName (front ++ used) whole := by
  induction count : tokens.length using Nat.strongRecOn generalizing front text tokens with
  | ind bound ih =>
      rcases readsMembers_iff.mp reads with ⟨member, rest, rfl, readsMore⟩ | ⟨-, rfl, rfl⟩
      · subst count
        obtain ⟨used, rfl, longer⟩ := ih rest.length (by simp only [List.length_cons]; omega)
          (dotted.member member) readsMore rfl
        exact ⟨.dot :: .name member :: used, rfl, by simpa using longer⟩
      · exact ⟨[], rfl, by rwa [List.append_nil]⟩

/-- Tokens that are arguments; after a keyword argument they are keyword arguments. -/
def DerivesArgumentsAfter (afterKeyword : Bool) (tokens : List Token)
    (arguments : List (Argument Expr)) : Prop :=
  if afterKeyword then DerivesKeywords tokens arguments else DerivesArguments tokens arguments

theorem derivesArgumentsAfter_of_keywords {afterKeyword : Bool} {tokens : List Token}
    {arguments : List (Argument Expr)} (derived : DerivesKeywords tokens arguments) :
    DerivesArgumentsAfter afterKeyword tokens arguments := by
  cases afterKeyword with
  | false => exact .keywords derived
  | true => exact derived

/-- All readings below a bound are derivations. -/
structure SoundBelow (bound : Nat) : Prop where
  level : ∀ {level tokens expr left}, 16 * tokens.length + level.rank < bound →
    ReadsAt level tokens expr left → ∃ used, tokens = used ++ left ∧ Derives level used expr
  chain : ∀ {level first tokens whole left front}, 16 * tokens.length < bound →
    ReadsChain level first tokens whole left → Derives (.chain level) front first →
      ∃ used, tokens = used ++ left ∧ Derives (.chain level) (front ++ used) whole
  suffixes : ∀ {base tokens whole left front}, 16 * tokens.length < bound →
    ReadsSuffixes base tokens whole left → Derives .suffix front base →
      ∃ used, tokens = used ++ left ∧ Derives .suffix (front ++ used) whole
  items : ∀ {bracket tokens items left}, 16 * tokens.length + 11 < bound →
    ReadsItems bracket tokens items left →
      ∃ used, tokens = used ++ bracket.closer :: left ∧ DerivesItems used items
  arguments : ∀ {afterKeyword tokens arguments left}, 16 * tokens.length + 11 < bound →
    ReadsArguments afterKeyword tokens arguments left →
      ∃ used, tokens = used ++ .parenRight :: left ∧
        DerivesArgumentsAfter afterKeyword used arguments
  moreArguments : ∀ {afterKeyword tokens arguments left}, 16 * tokens.length < bound →
    ReadsMoreArguments afterKeyword tokens arguments left →
      (tokens = .parenRight :: left ∧ arguments = []) ∨
        ∃ used, tokens = .comma :: (used ++ .parenRight :: left) ∧
          DerivesArgumentsAfter afterKeyword used arguments

namespace SoundBelow

variable {bound : Nat} (below : SoundBelow bound)

include below

theorem chain_next {level : ChainLevel} {first whole : Expr} {tokens left front : List Token}
    (small : 16 * tokens.length ≤ bound) (reads : ReadsChain level first tokens whole left)
    (derived : Derives (.chain level) front first) :
    ∃ used, tokens = used ++ left ∧ Derives (.chain level) (front ++ used) whole := by
  rcases readsChain_iff.mp reads with
    ⟨-, rfl, rfl⟩ | ⟨joint, rest, second, after, found, readsSecond, readsMore⟩
  · exact ⟨[], rfl, by rwa [List.append_nil]⟩
  · obtain ⟨marks, joins, rfl⟩ := joint?_eq_some_iff.mp found
    have fewer := ChainLevel.length_of_joint? found
    have rank := Level.rank_le level.operand
    obtain ⟨operand, rfl, derivedSecond⟩ := below.level (by omega) readsSecond
    have extended : Derives (.chain level) (front ++ (marks ++ operand)) (joint.apply first second) :=
      .joined joins (stronger_operand level) derived derivedSecond
    have fewerAfter := readsSecond.length_lt
    obtain ⟨used, rfl, derivedWhole⟩ := below.chain (by omega) readsMore extended
    exact ⟨marks ++ operand ++ used, by simp, by simpa using derivedWhole⟩

theorem suffixes_next {base whole : Expr} {tokens left front : List Token}
    (small : 16 * tokens.length ≤ bound) (reads : ReadsSuffixes base tokens whole left)
    (derived : Derives .suffix front base) :
    ∃ used, tokens = used ++ left ∧ Derives .suffix (front ++ used) whole := by
  rcases readsSuffixes_iff.mp reads with
    ⟨rest, arguments, after, rfl, readsArguments, readsMore⟩ |
    ⟨rest, indices, after, rfl, readsIndices, nonempty, readsMore⟩ | ⟨-, -, rfl, rfl⟩
  · have fewer := readsArguments.length_lt
    simp only [List.length_cons] at small
    obtain ⟨inside, rfl, derivedInside⟩ := below.arguments (by omega) readsArguments
    have extended := Derives.called derived derivedInside
    obtain ⟨used, rfl, derivedWhole⟩ := below.suffixes (by omega) readsMore extended
    exact ⟨.parenLeft :: (inside ++ [.parenRight]) ++ used, by simp, by simpa using derivedWhole⟩
  · have fewer := readsIndices.length_lt
    simp only [List.length_cons] at small
    obtain ⟨inside, rfl, derivedInside⟩ := below.items (by omega) readsIndices
    have extended := Derives.indexed derived derivedInside nonempty
    obtain ⟨used, rfl, derivedWhole⟩ := below.suffixes (by omega) readsMore extended
    exact ⟨.bracketLeft :: (inside ++ [.bracketRight]) ++ used, by simp [Bracket.closer],
      by simpa using derivedWhole⟩
  · exact ⟨[], rfl, by rwa [List.append_nil]⟩

theorem items_next {bracket : Bracket} {tokens left : List Token} {items : List Expr}
    (small : 16 * tokens.length + 11 ≤ bound) (reads : ReadsItems bracket tokens items left) :
    ∃ used, tokens = used ++ bracket.closer :: left ∧ DerivesItems used items := by
  rcases readsItems_iff.mp reads with ⟨closed, rfl⟩ | ⟨-, item, rest, readsItem, second⟩
  · exact ⟨[], closed?_eq_some_iff.mp closed, .nil⟩
  · have fewer := readsItem.length_lt
    have rank := Level.rank_le .whole
    obtain ⟨first, rfl, derivedItem⟩ := below.level (by omega) readsItem
    rcases second with ⟨more, others, rfl, readsOthers, rfl⟩ | ⟨-, closed, rfl⟩
    · simp only [List.length_append, List.length_cons] at small fewer
      obtain ⟨used, rfl, derivedOthers⟩ := below.items (by omega) readsOthers
      exact ⟨first ++ .comma :: used, by simp, .more derivedItem derivedOthers⟩
    · rw [closed?_eq_some_iff.mp closed]
      exact ⟨first, rfl, .last derivedItem⟩

theorem moreArguments_next {afterKeyword : Bool} {tokens left : List Token}
    {arguments : List (Argument Expr)} (small : 16 * tokens.length ≤ bound)
    (reads : ReadsMoreArguments afterKeyword tokens arguments left) :
    (tokens = .parenRight :: left ∧ arguments = []) ∨
      ∃ used, tokens = .comma :: (used ++ .parenRight :: left) ∧
        DerivesArgumentsAfter afterKeyword used arguments := by
  rcases readsMoreArguments_iff.mp reads with ⟨rest, rfl, readsRest⟩ | ⟨rfl, rfl⟩
  · simp only [List.length_cons] at small
    obtain ⟨used, rfl, derived⟩ := below.arguments (by omega) readsRest
    exact Or.inr ⟨used, rfl, derived⟩
  · exact Or.inl ⟨rfl, rfl⟩

theorem arguments_next {afterKeyword : Bool} {tokens left : List Token}
    {arguments : List (Argument Expr)} (small : 16 * tokens.length + 11 ≤ bound)
    (reads : ReadsArguments afterKeyword tokens arguments left) :
    ∃ used, tokens = used ++ .parenRight :: left ∧
      DerivesArgumentsAfter afterKeyword used arguments := by
  have rank := Level.rank_le .whole
  rcases readsArguments_iff.mp reads with
    ⟨rfl, rfl⟩ | ⟨key, rest, value, after, others, rfl, readsValue, readsOthers, rfl⟩ |
    ⟨-, -, rfl, value, after, others, readsValue, readsOthers, rfl⟩
  · exact ⟨[], rfl, derivesArgumentsAfter_of_keywords .nil⟩
  · have fewer := readsValue.length_lt
    simp only [List.length_cons] at small
    obtain ⟨first, rfl, derivedValue⟩ := below.level (by omega) readsValue
    rcases below.moreArguments (by omega) readsOthers with
      ⟨rfl, rfl⟩ | ⟨used, rfl, derivedOthers⟩
    · exact ⟨.name key :: .assign :: first, by simp,
        derivesArgumentsAfter_of_keywords (.last key derivedValue)⟩
    · exact ⟨.name key :: .assign :: (first ++ .comma :: used), by simp,
        derivesArgumentsAfter_of_keywords (.more key derivedValue derivedOthers)⟩
  · have fewer := readsValue.length_lt
    obtain ⟨first, rfl, derivedValue⟩ := below.level (by omega) readsValue
    rcases below.moreArguments (by omega) readsOthers with
      ⟨rfl, rfl⟩ | ⟨used, rfl, derivedOthers⟩
    · exact ⟨first, rfl, DerivesArguments.last derivedValue⟩
    · exact ⟨first ++ .comma :: used, by simp, DerivesArguments.more derivedValue derivedOthers⟩

theorem primary_next {tokens left : List Token} {expr : Expr}
    (small : 16 * tokens.length + 1 ≤ bound) (reads : ReadsAt .primary tokens expr left) :
    ∃ used, tokens = used ++ left ∧ Derives .primary used expr := by
  have rank := Level.rank_le .whole
  obtain ⟨token, rest, rfl, kind⟩ := first_of_readsAt_primary reads
  simp only [List.length_cons] at small
  rcases kind with ⟨value, constant⟩ | ⟨text, rfl⟩ | rfl | rfl
  · obtain ⟨rfl, rfl⟩ := (readsAt_constant constant).mp reads
    exact ⟨[token], rfl, .const constant⟩
  · obtain ⟨whole, readsMembers, rfl⟩ := readsAt_name.mp reads
    obtain ⟨used, rfl, dotted⟩ := (DottedName.single text).extend readsMembers
    exact ⟨_, rfl, .name dotted⟩
  · obtain ⟨items, readsItems, rfl⟩ := readsAt_bracketLeft.mp reads
    obtain ⟨inside, rfl, derived⟩ := below.items (by omega) readsItems
    exact ⟨.bracketLeft :: (inside ++ [.bracketRight]), by simp [Bracket.closer], .list derived⟩
  · rcases readsAt_parenLeft.mp reads with ⟨rfl, rfl⟩ | ⟨-, first, after, readsFirst, second⟩
    · exact ⟨[.parenLeft, .parenRight], rfl, .emptyList⟩
    · have fewer := readsFirst.length_lt
      obtain ⟨inside, rfl, derivedFirst⟩ := below.level (by omega) readsFirst
      rcases second with ⟨rfl, rfl⟩ | ⟨more, items, rfl, readsItems, rfl⟩
      · exact ⟨.parenLeft :: (inside ++ [.parenRight]), by simp, .enclosed derivedFirst⟩
      · simp only [List.length_append, List.length_cons] at small fewer
        obtain ⟨used, rfl, derived⟩ := below.items (by omega) readsItems
        exact ⟨.parenLeft :: (inside ++ .comma :: (used ++ [.parenRight])),
          by simp [Bracket.closer], .tuple derivedFirst derived⟩

/-- A reading that begins with a sign of its level comes from a reading of the operand. -/
theorem signed_next {level : Level} {sign : Token} {op : UnaryOp} (signs : Signs level sign op)
    {tokens left : List Token} {expr : Expr} (small : 16 * (tokens.length + 1) ≤ bound)
    (reads : ReadsAt level (sign :: tokens) expr left) :
    ∃ used, sign :: tokens = used ++ left ∧ Derives level used expr := by
  have rank := Level.rank_le level
  obtain ⟨operand, readsOperand, rfl⟩ := (readsAt_signed signs).mp reads
  obtain ⟨used, rfl, derived⟩ := below.level (by omega) readsOperand
  exact ⟨sign :: used, rfl, .signed signs derived⟩

theorem level_next {level : Level} {tokens left : List Token} {expr : Expr}
    (small : 16 * tokens.length + level.rank ≤ bound) (reads : ReadsAt level tokens expr left) :
    ∃ used, tokens = used ++ left ∧ Derives level used expr := by
  cases level with
  | chain level =>
      have rank := ChainLevel.rank_operand level
      obtain ⟨first, rest, readsFirst, readsMore⟩ := readsAt_chain.mp reads
      have fewer := readsFirst.length_lt
      obtain ⟨front, rfl, derivedFirst⟩ := below.level (by omega) readsFirst
      obtain ⟨used, rfl, derivedWhole⟩ :=
        below.chain (by omega) readsMore (.stronger (stronger_operand level) derivedFirst)
      exact ⟨front ++ used, by simp, derivedWhole⟩
  | not =>
      simp only [Level.rank] at small
      by_cases starts : tokens.head? = some .not
      · obtain ⟨rest, rfl⟩ := List.head?_eq_some_iff.mp starts
        exact below.signed_next .not (by simp only [List.length_cons] at small; omega) reads
      · obtain ⟨used, rfl, derived⟩ :=
          below.level (by simp only [Level.rank]; omega) ((readsAt_not_of_ne starts).mp reads)
        exact ⟨used, rfl, .stronger .not derived⟩
  | sign =>
      simp only [Level.rank] at small
      by_cases startsMinus : tokens.head? = some .minus
      · obtain ⟨rest, rfl⟩ := List.head?_eq_some_iff.mp startsMinus
        exact below.signed_next .neg (by simp only [List.length_cons] at small; omega) reads
      by_cases startsPlus : tokens.head? = some .plus
      · obtain ⟨rest, rfl⟩ := List.head?_eq_some_iff.mp startsPlus
        exact below.signed_next .pos (by simp only [List.length_cons] at small; omega) reads
      · obtain ⟨used, rfl, derived⟩ := below.level (by simp only [Level.rank]; omega)
          ((readsAt_sign_of_ne startsMinus startsPlus).mp reads)
        exact ⟨used, rfl, .stronger .sign derived⟩
  | power =>
      simp only [Level.rank] at small
      obtain ⟨base, rest, readsBase, second⟩ := readsAt_power.mp reads
      have fewer := readsBase.length_lt
      obtain ⟨front, rfl, derivedBase⟩ := below.level (by simp only [Level.rank]; omega) readsBase
      rcases second with ⟨more, exponent, rfl, readsExponent, rfl⟩ | ⟨-, rfl, rfl⟩
      · simp only [List.length_append, List.length_cons] at small fewer
        obtain ⟨used, rfl, derivedExponent⟩ :=
          below.level (by simp only [Level.rank]; omega) readsExponent
        exact ⟨front ++ .starStar :: used, by simp, .raised derivedBase derivedExponent⟩
      · exact ⟨front, rfl, .stronger .power derivedBase⟩
  | suffix =>
      simp only [Level.rank] at small
      obtain ⟨base, rest, readsBase, readsMore⟩ := readsAt_suffix.mp reads
      have fewer := readsBase.length_lt
      obtain ⟨front, rfl, derivedBase⟩ := below.level (by simp only [Level.rank]; omega) readsBase
      obtain ⟨used, rfl, derivedWhole⟩ :=
        below.suffixes (by omega) readsMore (.stronger .suffix derivedBase)
      exact ⟨front ++ used, by simp, derivedWhole⟩
  | primary => exact below.primary_next small reads

theorem next : SoundBelow (bound + 1) where
  level small reads := below.level_next (by omega) reads
  chain small reads derived := below.chain_next (by omega) reads derived
  suffixes small reads derived := below.suffixes_next (by omega) reads derived
  items small reads := below.items_next (by omega) reads
  arguments small reads := below.arguments_next (by omega) reads
  moreArguments small reads := below.moreArguments_next (by omega) reads

end SoundBelow

theorem soundBelow (bound : Nat) : SoundBelow bound := by
  -- The bound is on the number of tokens and, for as many tokens, on the level.
  induction bound with
  | zero => constructor <;> intros <;> omega
  | succ bound ih => exact ih.next

/-- The tokens that a reading uses are derived at its level. -/
theorem ReadsAt.derives {level : Level} {tokens left : List Token} {expr : Expr}
    (reads : ReadsAt level tokens expr left) :
    ∃ used, tokens = used ++ left ∧ Derives level used expr :=
  (soundBelow (16 * tokens.length + level.rank + 1)).level (Nat.lt_succ_self _) reads

/-- The grammar derives what the reader accepts, with the tree that it returns. -/
theorem derives_of_ofTokens {tokens : List Token} {source : List Char} {expr : Expr}
    (read : ofTokens tokens source = .ok expr) : Derives .whole tokens expr := by
  unfold ofTokens at read
  split at read
  · cases read
  · obtain ⟨⟨found, rest, fewer⟩, readWhole, finished⟩ := except_bind_eq_ok.mp read
    cases rest with
    | nil =>
        cases finished
        obtain ⟨used, rfl, derived⟩ := ReadsAt.derives ⟨fewer, readWhole⟩
        rwa [List.append_nil]
    | cons token rest => cases finished

end GroupScript.Expr
