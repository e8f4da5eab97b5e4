import GroupScript.Proofs.GrammarCompleteness
import GroupScript.Proofs.Outline

/-!
# The head of a loop over items

The word between the variable and the items is found where it stands, because a bare name neither holds nor is that
word.  What stands before it is read as the variable.
-/

namespace GroupScript

theorem isBlank_of_isNameChar {c : Char} (nameChar : Text.isNameChar c = true) :
    Text.isBlank c = false := by
  cases blank : Text.isBlank c with
  | false => rfl
  | true =>
      rw [Text.isNameChar_of_isBlank blank] at nameChar
      cases nameChar

theorem not_quoteMark_of_isNameChar {c : Char} (nameChar : Text.isNameChar c = true) :
    ¬ QuoteMark c := by
  rintro (rfl | rfl) <;> cases nameChar

section Word

variable {word rest : List Char}

theorem isIdentifier_iff :
    LogicalLine.isIdentifier word = true ↔
      ∃ c more, word = c :: more ∧ Decimal.isDigit c = false ∧
        ∀ d ∈ word, Text.isNameChar d = true := by
  cases word with
  | nil => simp [LogicalLine.isIdentifier]
  | cons c more => simp [LogicalLine.isIdentifier]

/-- A word with a blank behind it is one token. -/
theorem ofText_word {tokens : List Token} (identifier : LogicalLine.isIdentifier word = true)
    (lexed : Token.ofText rest = .ok tokens) :
    Token.ofText (word ++ ' ' :: rest) = .ok (Token.ofWord word :: tokens) := by
  obtain ⟨c, more, rfl, notDigit, nameChars⟩ := isIdentifier_iff.mp identifier
  have nameChar := nameChars c (by simp)
  have taken : (c :: (more ++ ' ' :: rest)).takeWhile Text.isNameChar = c :: more := by
    rw [← List.cons_append, List.takeWhile_append_of_pos nameChars]
    simp [show Text.isNameChar ' ' = false from rfl]
  have dropped : (c :: (more ++ ' ' :: rest)).dropWhile Text.isNameChar = ' ' :: rest := by
    rw [← List.cons_append, List.dropWhile_append_of_pos nameChars]
    simp [show Text.isNameChar ' ' = false from rfl]
  have read : Token.readToken c (more ++ ' ' :: rest) = .ok (Token.ofWord (c :: more), ' ' :: rest) := by
    rw [Token.readToken, if_neg (not_quoteMark_of_isNameChar nameChar), if_neg (by simp [notDigit]),
      if_pos nameChar, taken, dropped]
  refine (Token.ofText_eq_ok_cons_iff (isBlank_of_isNameChar nameChar)).mpr
    ⟨_, _, tokens, read, ?_, rfl⟩
  rw [Token.ofText_cons_of_isBlank rfl, lexed]

theorem ofWord_of_isBareName (bare : isBareName word = true) :
    Token.ofWord word = .name (String.ofList word) := by
  simp only [isBareName, Bool.and_eq_true, Bool.not_eq_true'] at bare
  obtain ⟨-, other⟩ := bare
  unfold Token.ofWord
  split
  case h_8 => rfl
  all_goals
    rename_i isWord
    rw [isWord] at other
    cases other

end Word

section Loop

variable {name items : List Char}

theorem isIdentifier_of_isBareName (bare : isBareName name = true) :
    LogicalLine.isIdentifier name = true := by
  simp only [isBareName, Bool.and_eq_true] at bare
  exact bare.1

theorem balanced_loopHead (bare : isBareName name = true) (balanced : Balanced items) :
    Balanced (loopHead name items) := by
  obtain ⟨token, tokens, lexed, balance⟩ := balanced.exists_tokens
  have lexedIn : Token.ofText ('i' :: 'n' :: ' ' :: items) = .ok (.isIn :: token :: tokens) :=
    @ofText_word ['i', 'n'] items _ rfl lexed
  refine ⟨_, _, ofText_word (isIdentifier_of_isBareName bare) lexedIn, ?_⟩
  rw [Token.balance_cons, Token.balance_cons, Token.turn_ofWord, balance]
  rfl

theorem trim_loopHead (bare : isBareName name = true) (balanced : Balanced items) :
    Text.trim (loopHead name items) = loopHead name (Text.trimEnd items) := by
  obtain ⟨c, more, rfl, -, nameChars⟩ := isIdentifier_iff.mp (isIdentifier_of_isBareName bare)
  obtain ⟨d, rest, visible, started, -⟩ := Text.exists_trim_eq balanced.trim_ne_nil
  obtain ⟨blanks, -, split⟩ := Text.exists_trimStart_eq items
  rw [started] at split
  have head : Text.trimStart (loopHead (c :: more) items) = loopHead (c :: more) items :=
    Text.trimStart_of_head (isBlank_of_isNameChar (nameChars c (by simp))) _
  rw [Text.trim, head, split, Text.trimEnd_append_of_visible visible]
  have whole := Text.trimEnd_append_of_visible visible (loopHead (c :: more) blanks) rest
  simpa [loopHead] using whole

/-- The test at which the search for a word ends. -/
def wordTest (word : List Char) (visit : Visit) : Bool :=
  visit.depth == 0 &&
    match Text.dropStart? word (visit.char :: visit.after) with
    | none => false
    | some rest => !visit.before.any Text.isNameChar && !rest.head?.any Text.isNameChar

theorem findWord_eq_scan (word text : List Char) :
    Source.findWord word text = (Scanner.scan (wordTest word) 0 none {} text).1 :=
  rfl

/-- Inside a longer name no word is found. -/
theorem scan_wordTest_name {word : List Char} {before : Char} (rest : List Char)
    (nameChar : Text.isNameChar before = true) (nameChars : ∀ c ∈ name, Text.isNameChar c = true) :
    ∃ last, Scanner.scan (wordTest word) 0 (some before) {} (name ++ rest) =
      Scanner.moved name.length (Scanner.scan (wordTest word) 0 (some last) {} rest) := by
  induction name generalizing before with
  | nil => exact ⟨before, by simp⟩
  | cons c name ih =>
      have first := nameChars c (by simp)
      obtain ⟨last, led⟩ := @ih c first fun d member => nameChars d (by simp [member])
      refine ⟨last, ?_⟩
      have missed : wordTest word ⟨some before, c, name ++ rest, 0⟩ = false := by
        simp only [wordTest, Option.any_some, nameChar]
        split <;> simp
      have stepped : Scanner.step {} c (name ++ rest) = ({}, 0) :=
        Scanner.step_plain rfl (Scanner.isPlain_of_isNameChar first) _
      rw [List.cons_append, Scanner.scan]
      simp only [missed, stepped, Bool.and_false, Bool.false_eq_true, if_false, led]
      simp [Scanner.moved, Function.comp_def, Nat.add_assoc]

/-- A bare name is not the word itself and does not begin with it as a word. -/
theorem wordTest_bareName {c : Char} {more : List Char} (bare : isBareName (c :: more) = true)
    (rest : List Char) : wordTest ['i', 'n'] ⟨none, c, more ++ ' ' :: rest, 0⟩ = false := by
  obtain ⟨_, _, -, -, nameChars⟩ := isIdentifier_iff.mp (isIdentifier_of_isBareName bare)
  -- The name may begin with the word's letters, but then a further name character follows them.
  by_cases first : c = 'i'
  · subst first
    match more with
    | [] => rfl
    | d :: more =>
        by_cases second : d = 'n'
        · subst second
          match more with
          | [] => cases bare
          | e :: more =>
              have nameChar := nameChars e (by simp)
              simp [wordTest, Text.dropStart?, nameChar]
        · simp [wordTest, Text.dropStart?, Ne.symm second]
  · simp [wordTest, Text.dropStart?, Ne.symm first]

theorem findWord_loopHead (bare : isBareName name = true) :
    Source.findWord ['i', 'n'] (loopHead name items) = some (name.length + 1) := by
  obtain ⟨c, more, rfl, -, nameChars⟩ := isIdentifier_iff.mp (isIdentifier_of_isBareName bare)
  have nameChar := nameChars c (by simp)
  have missed := wordTest_bareName bare ('i' :: 'n' :: ' ' :: items)
  have stepped : Scanner.step {} c (more ++ ' ' :: 'i' :: 'n' :: ' ' :: items) = ({}, 0) :=
    Scanner.step_plain rfl (Scanner.isPlain_of_isNameChar nameChar) _
  obtain ⟨last, led⟩ := @scan_wordTest_name more ['i', 'n'] c (' ' :: 'i' :: 'n' :: ' ' :: items)
    nameChar fun d member => nameChars d (by simp [member])
  have found : Scanner.scan (wordTest ['i', 'n']) 0 (some last) {} (' ' :: 'i' :: 'n' :: ' ' :: items) =
      (some 1, {}) := rfl
  rw [findWord_eq_scan, loopHead, List.cons_append, Scanner.scan]
  simp only [missed, stepped, Bool.and_false, Bool.false_eq_true, if_false, led, found]
  simp [Scanner.moved, Nat.add_comm]

theorem loopVariable_of_isBareName (bare : isBareName name = true) (line : LogicalLine) :
    Compile.loopVariable line (name ++ [' ']) = .ok (String.ofList name) := by
  have lexed : Token.ofText (name ++ [' ']) = .ok [.name (String.ofList name)] := by
    rw [← ofWord_of_isBareName bare]
    exact ofText_word (isIdentifier_of_isBareName bare) (by rw [Token.ofText])
  have read : Expr.ofText (name ++ [' ']) = .ok (.name (String.ofList name)) :=
    Expr.ofText_eq_ok.mpr ⟨_, lexed, (Expr.derives_name _).ofTokens_eq_ok _⟩
  have named : LogicalLine.readName? (name ++ [' ']) = some (String.ofList name) := by
    have compiled : Code.ofText (name ++ [' ']) =
        .ok ⟨[.load (String.ofList name)], String.ofList (Text.trim (name ++ [' ']))⟩ := by
      rw [Code.ofText, read]
      rfl
    rw [LogicalLine.readName?, compiled]
    rfl
  have simple : LogicalLine.isSimpleName (String.ofList name) = true := by
    obtain ⟨c, more, rfl, -, nameChars⟩ := isIdentifier_iff.mp (isIdentifier_of_isBareName bare)
    simp only [LogicalLine.isSimpleName, String.toList_ofList, Bool.not_eq_true']
    cases holds : (c :: more).contains '.' with
    | false => rfl
    | true => cases nameChars '.' (List.contains_iff_mem.mp holds)
  rw [Compile.loopVariable, named, Option.filter_some, if_pos simple]

end Loop

end GroupScript
