import GroupScript.Proofs.TokenEnds
import GroupScript.Proofs.Evaluation
import GroupScript.Proofs.GrammarCompleteness
import GroupScript.Store.Show

/-!
# The tokens of written values

Truth values, whole numbers, texts and lists of them have a quoted form that consists of tokens again.  Whatever closes
the form may follow it.  Only the least whole number cannot be read, because its sign is a token of its own and its
digits denote a number that is too large.
-/

namespace GroupScript

namespace Decimal

theorem isDigit_digitChar {digit : Nat} (small : digit < 10) :
    isDigit (digitChar digit) = true ∧ digitValue (digitChar digit) = digit := by
  have checked : ∀ digit < 10, isDigit (digitChar digit) = true ∧ digitValue (digitChar digit) = digit := by
    decide
  exact checked digit small

theorem value_concat (text : List Char) (c : Char) : value (text ++ [c]) = 10 * value text + digitValue c := by
  simp [value]

/-- The digits of a number denote it. -/
theorem value_digits (n : Nat) : value (digits n) = n := by
  fun_induction digits n with
  | case1 n small => simp [value, (isDigit_digitChar small).2]
  | case2 n large ih =>
      have small : n % 10 < 10 := Nat.mod_lt n (by decide)
      rw [value_concat, ih, (isDigit_digitChar small).2]
      omega

theorem all_isDigit_digits (n : Nat) : (digits n).all isDigit = true := by
  fun_induction digits n with
  | case1 n small => simp [(isDigit_digitChar small).1]
  | case2 n large ih =>
      have small : n % 10 < 10 := Nat.mod_lt n (by decide)
      simp [ih, (isDigit_digitChar small).1]

theorem digits_ne_nil (n : Nat) : digits n ≠ [] := by
  unfold digits
  split <;> simp

theorem takeSign_of_isDigit {text : List Char} (all : text.all isDigit = true) :
    takeSign text = (false, text) := by
  cases text with
  | nil => rfl
  | cons c text =>
      have digit : isDigit c = true := by simp_all
      unfold takeSign
      split
      · cases ‹_ = _›
        cases digit
      · cases ‹_ = _›
        cases digit
      · rfl

/-- Reading the digits of a number gives the number, if it fits. -/
theorem readInteger?_digits (n : Nat) : readInteger? (digits n) = integer? n := by
  have notEmpty : (digits n).isEmpty = false := by
    simpa using digits_ne_nil n
  simp [readInteger?, takeSign_of_isDigit (all_isDigit_digits n), notEmpty, all_isDigit_digits,
    value_digits]

end Decimal

/-- What may follow a written value: the end of the text, a comma or a closing bracket. -/
def Closes (tail : List Char) : Prop :=
  ∀ c ∈ tail.head?, c = ',' ∨ c = ']'

theorem closes_nil : Closes [] := by
  simp [Closes]

theorem closes_comma (tail : List Char) : Closes (',' :: tail) := by
  simp [Closes]

theorem closes_bracket (tail : List Char) : Closes (']' :: tail) := by
  simp [Closes]

/-- A class of characters to which neither a comma nor a closing bracket belongs. -/
theorem Closes.head?_any {tail : List Char} (closes : Closes tail) {accept : Char → Bool}
    (comma : accept ',' = false) (bracket : accept ']' = false) : tail.head?.any accept = false := by
  cases tail with
  | nil => rfl
  | cons c tail =>
      rcases closes c rfl with rfl | rfl
      · exact comma
      · exact bracket

theorem Closes.unquoted {tail : List Char} (closes : Closes tail) : Unquoted tail := by
  intro c first
  rcases closes c first with rfl | rfl <;> decide

/-- Characters of a class are split off from what does not go on with one. -/
theorem span_append {accept : Char → Bool} {word tail : List Char} (all : word.all accept = true)
    (ended : tail.head?.any accept = false) :
    (word ++ tail).takeWhile accept = word ∧ (word ++ tail).dropWhile accept = tail := by
  have stopped : tail.takeWhile accept = [] ∧ tail.dropWhile accept = tail := by
    cases tail with
    | nil => exact ⟨rfl, rfl⟩
    | cons c tail =>
        have refused : accept c = false := ended
        simp [List.takeWhile, List.dropWhile, refused]
  have accepted := List.all_eq_true.mp all
  rw [List.takeWhile_append_of_pos accepted, List.dropWhile_append_of_pos accepted, stopped.1, stopped.2]
  simp

namespace Token

variable {tail : List Char}

theorem readNumber_digits (n : Nat) (closes : Closes tail) :
    (∀ value, Decimal.integer? n = some value →
      readNumber (Decimal.digits n ++ tail) = .ok (.int value, tail)) ∧
    (Decimal.integer? n = Option.none →
      readNumber (Decimal.digits n ++ tail) = .error (.badInteger (String.ofList (Decimal.digits n)))) := by
  have taken : takeDigits (Decimal.digits n ++ tail) = (Decimal.digits n, tail) := by
    obtain ⟨first, rest⟩ := span_append (Decimal.all_isDigit_digits n) (closes.head?_any rfl rfl)
    rw [takeDigits, first, rest]
  have whole : takeFraction tail = ([], tail) ∧ takeExponent tail = ([], tail) := by
    cases tail with
    | nil => exact ⟨rfl, rfl⟩
    | cons c tail =>
        rcases closes c rfl with rfl | rfl
        · exact ⟨rfl, rfl⟩
        · exact ⟨rfl, rfl⟩
  constructor
  · intro value fits
    simp [readNumber, taken, whole, Decimal.readInteger?_digits, fits]
  · intro large
    simp [readNumber, taken, whole, Decimal.readInteger?_digits, large]

theorem readString_singleQuoted (content text : List Char) :
    readString '\'' false content (text.flatMap Text.singleQuotedChar ++ '\'' :: tail) =
      .ok (content.reverse ++ text, tail) := by
  induction text generalizing content with
  | nil => simp [readString]
  | cons c text ih =>
      rw [List.flatMap_cons, List.append_assoc]
      by_cases backslash : c = '\\'
      · subst backslash
        simp [Text.singleQuotedChar, readString, ih, escapedChar]
      · by_cases quote : c = '\''
        · subst quote
          simp [Text.singleQuotedChar, readString, ih, escapedChar]
        · by_cases lineFeed : c = '\n'
          · subst lineFeed
            simp [Text.singleQuotedChar, readString, ih, escapedChar]
          · simp [Text.singleQuotedChar, readString, backslash, quote, lineFeed, ih]

/-- A text in quotes is read back, unless a further quote follows it. -/
theorem readQuoted_singleQuoted (text : List Char) (unquoted : Unquoted tail) :
    readQuoted '\'' (text.flatMap Text.singleQuotedChar ++ '\'' :: tail) =
      .ok (.string (String.ofList text), tail) := by
  have single : startsWithTwo '\'' (text.flatMap Text.singleQuotedChar ++ '\'' :: tail) = false := by
    cases text with
    | nil =>
        cases tail with
        | nil => rfl
        | cons c tail =>
            have other : c ≠ '\'' := fun same => unquoted_cons.mp unquoted (.inl same)
            simp [startsWithTwo, other]
    | cons c text =>
        have first : ∃ d more, Text.singleQuotedChar c = d :: more ∧ d ≠ '\'' := by
          unfold Text.singleQuotedChar
          split
          · exact ⟨_, _, rfl, by decide⟩
          · split
            · exact ⟨_, _, rfl, by decide⟩
            · split
              · exact ⟨_, _, rfl, by decide⟩
              · exact ⟨_, _, rfl, ‹_›⟩
        obtain ⟨d, more, isFirst, other⟩ := first
        rw [List.flatMap_cons, isFirst]
        cases rest : more ++ (text.flatMap Text.singleQuotedChar ++ '\'' :: tail) with
        | nil => simp at rest
        | cons e rest => simp [startsWithTwo, rest, other]
  simp [readQuoted, single, readString_singleQuoted]

theorem ofText_of_readToken {c : Char} {rest following : List Char} {token : Token}
    (visible : Text.isBlank c = false) (read : readToken c rest = .ok (token, following)) :
    ofText (c :: rest) = (ofText following).map (token :: ·) := by
  rw [ofText, if_neg (by simp [visible])]
  split
  · rename_i failed
    rw [read] at failed
    cases failed
  · rename_i taken
    rw [read] at taken
    cases taken
    cases ofText following with
    | error fault => rfl
    | ok tokens => rfl

theorem ofText_of_readToken_error {c : Char} {rest : List Char} {fault : SyntaxFault}
    (visible : Text.isBlank c = false) (read : readToken c rest = .error fault) :
    ofText (c :: rest) = .error fault := by
  rw [ofText, if_neg (by simp [visible])]
  split
  · rename_i failed
    rw [read] at failed
    cases failed
    rfl
  · rename_i taken
    rw [read] at taken
    cases taken

/-- A text is read as some tokens, whatever closes it. -/
def Lexes (text : List Char) (tokens : List Token) : Prop :=
  ∀ tail, Closes tail → ofText (text ++ tail) = (ofText tail).map (tokens ++ ·)

/-- A text cannot be read, whatever closes it. -/
def LexFails (text : List Char) (fault : SyntaxFault) : Prop :=
  ∀ tail, Closes tail → ofText (text ++ tail) = .error fault

theorem map_append_map {result : Except SyntaxFault (List Token)} (first second : List Token) :
    (result.map (second ++ ·)).map (first ++ ·) = result.map (first ++ second ++ ·) := by
  cases result with
  | error fault => rfl
  | ok tokens => simp [Except.map]

theorem lexes_nil : Lexes [] [] := by
  intro tail _
  cases lexed : ofText tail with
  | error fault => simp [lexed, Except.map]
  | ok tokens => simp [lexed, Except.map]

variable {text others : List Char} {tokens otherTokens : List Token} {fault : SyntaxFault}

/-- Nothing closes a text too. -/
theorem Lexes.ofText_eq (lexes : Lexes text tokens) : ofText text = .ok tokens := by
  have whole := lexes [] closes_nil
  rw [List.append_nil, ofText] at whole
  simpa [Except.map] using whole

/-- A mark of one character is read whatever follows it. -/
theorem Lexes.mark {c : Char} {token : Token} (visible : Text.isBlank c = false)
    (read : ∀ rest, readToken c rest = .ok (token, rest)) (lexes : Lexes text tokens) :
    Lexes (c :: text) (token :: tokens) := by
  intro tail closes
  rw [List.cons_append, ofText_of_readToken visible (read _), lexes tail closes]
  exact map_append_map [token] tokens

theorem LexFails.mark {c : Char} {token : Token} (visible : Text.isBlank c = false)
    (read : ∀ rest, readToken c rest = .ok (token, rest)) (fails : LexFails text fault) :
    LexFails (c :: text) fault := by
  intro tail closes
  rw [List.cons_append, ofText_of_readToken visible (read _), fails tail closes]
  rfl

/-- The comma between two items, with the blank after it. -/
theorem ofText_comma (rest : List Char) :
    ofText (',' :: ' ' :: rest) = (ofText rest).map ([Token.comma] ++ ·) := by
  have read : readToken ',' (' ' :: rest) = .ok (.comma, ' ' :: rest) := rfl
  rw [ofText_of_readToken rfl read, ofText_cons_of_isBlank rfl]
  rfl

theorem Lexes.comma (lexes : Lexes text tokens) (lexesOthers : Lexes others otherTokens) :
    Lexes (text ++ [',', ' '] ++ others) (tokens ++ .comma :: otherTokens) := by
  intro tail closes
  have first := lexes (',' :: ' ' :: (others ++ tail)) (closes_comma _)
  rw [ofText_comma, lexesOthers tail closes, map_append_map, map_append_map] at first
  simpa using first

theorem LexFails.comma (fails : LexFails text fault) (others : List Char) :
    LexFails (text ++ [',', ' '] ++ others) fault := by
  intro tail _
  have first := fails (',' :: ' ' :: (others ++ tail)) (closes_comma _)
  simpa using first

theorem Lexes.comma_fails (lexes : Lexes text tokens) (fails : LexFails others fault) :
    LexFails (text ++ [',', ' '] ++ others) fault := by
  intro tail closes
  have first := lexes (',' :: ' ' :: (others ++ tail)) (closes_comma _)
  rw [ofText_comma, fails tail closes] at first
  simpa [Except.map] using first

/-- A text in square brackets. -/
theorem Lexes.list (lexes : Lexes text tokens) :
    Lexes ('[' :: (text ++ [']'])) (.bracketLeft :: (tokens ++ [.bracketRight])) := by
  apply Lexes.mark rfl (fun _ => rfl)
  intro tail _
  have inside := lexes (']' :: tail) (closes_bracket tail)
  have read : readToken ']' tail = .ok (.bracketRight, tail) := rfl
  have closing : ofText (']' :: tail) = (ofText tail).map ([Token.bracketRight] ++ ·) :=
    ofText_of_readToken rfl read
  rw [closing, map_append_map] at inside
  simpa using inside

theorem LexFails.list (fails : LexFails text fault) : LexFails ('[' :: (text ++ [']'])) fault := by
  apply LexFails.mark rfl (fun _ => rfl)
  intro tail _
  simpa using fails (']' :: tail) (closes_bracket tail)

/-- A word is read as one token. -/
theorem lexes_word {c : Char} {word : List Char} (visible : Text.isBlank c = false)
    (notQuote : ¬ QuoteMark c) (notDigit : Decimal.isDigit c = false)
    (all : (c :: word).all Text.isNameChar = true) : Lexes (c :: word) [ofWord (c :: word)] := by
  intro tail closes
  obtain ⟨first, rest⟩ := span_append all (closes.head?_any rfl rfl)
  have nameChar : Text.isNameChar c = true := by simp_all
  have read : readToken c (word ++ tail) = .ok (ofWord (c :: word), tail) := by
    rw [readToken, if_neg notQuote, if_neg (by simp [notDigit]), if_pos nameChar]
    rw [← List.cons_append, first, rest]
  exact ofText_of_readToken visible read

theorem isBlank_of_isDigit {c : Char} (digit : Decimal.isDigit c = true) : Text.isBlank c = false :=
  @of_isDigit (fun c => Text.isBlank c = false) (by decide) c digit

theorem readToken_digits {n : Nat} {c : Char} {rest : List Char} (split : Decimal.digits n = c :: rest)
    (tail : List Char) :
    Text.isBlank c = false ∧ readToken c (rest ++ tail) = readNumber (Decimal.digits n ++ tail) := by
  have digit : Decimal.isDigit c = true := by
    have all := Decimal.all_isDigit_digits n
    rw [split] at all
    simp_all
  have notQuote : ¬ QuoteMark c := by
    rintro (rfl | rfl) <;> cases digit
  refine ⟨isBlank_of_isDigit digit, ?_⟩
  rw [readToken, if_neg notQuote, if_pos digit, split]
  rfl

theorem lexes_digits {n : Nat} {value : Int64} (fits : Decimal.integer? n = some value) :
    Lexes (Decimal.digits n) [.int value] := by
  intro tail closes
  obtain ⟨c, rest, split⟩ := List.exists_cons_of_ne_nil (Decimal.digits_ne_nil n)
  obtain ⟨visible, read⟩ := readToken_digits split tail
  rw [(readNumber_digits n closes).1 value fits] at read
  rw [split]
  exact ofText_of_readToken visible read

theorem lexFails_digits {n : Nat} (large : Decimal.integer? n = Option.none) :
    LexFails (Decimal.digits n) (.badInteger (String.ofList (Decimal.digits n))) := by
  intro tail closes
  obtain ⟨c, rest, split⟩ := List.exists_cons_of_ne_nil (Decimal.digits_ne_nil n)
  obtain ⟨visible, read⟩ := readToken_digits split tail
  rw [(readNumber_digits n closes).2 large] at read
  rw [split] at read ⊢
  exact ofText_of_readToken_error visible read

theorem lexes_singleQuoted (text : List Char) :
    Lexes (Text.singleQuoted text) [.string (String.ofList text)] := by
  intro tail closes
  have read := readQuoted_singleQuoted text closes.unquoted
  have joined : Text.singleQuoted text ++ tail =
      '\'' :: (text.flatMap Text.singleQuotedChar ++ '\'' :: tail) := by
    simp [Text.singleQuoted]
  rw [joined]
  exact ofText_of_readToken rfl read

end Token

namespace Value

/-- The values that are made of nothing, truth values, whole numbers, texts and lists. -/
inductive Literal : Value → Prop
  | nil : Literal .nil
  | bool (value : Bool) : Literal (.bool value)
  | int (value : Int64) : Literal (.int value)
  | string (text : String) : Literal (.string text)
  | list {items : List Value} (each : ∀ item ∈ items, Literal item) : Literal (.list items)

/-- The values in which the least whole number occurs. -/
inductive HoldsLeast : Value → Prop
  | int : HoldsLeast (.int Int64.minValue)
  | list {items : List Value} {item : Value} (member : item ∈ items) (holds : HoldsLeast item) :
      HoldsLeast (.list items)

theorem not_holdsLeast_nil : ¬ HoldsLeast (.list []) := by
  rintro (_ | ⟨member, -⟩)
  cases member

theorem HoldsLeast.cons_iff {item : Value} {items : List Value} :
    HoldsLeast (.list (item :: items)) ↔ HoldsLeast item ∨ HoldsLeast (.list items) := by
  constructor
  · rintro (_ | ⟨member, holds⟩)
    rcases List.mem_cons.mp member with rfl | member
    · exact .inl holds
    · exact .inr (.list member holds)
  · rintro (holds | ⟨_ | ⟨member, holds⟩⟩)
    · exact .list List.mem_cons_self holds
    · exact .list (List.mem_cons_of_mem item ‹_›) ‹_›

end Value

/-- The fault of the digits of the least whole number. -/
def leastFault : SyntaxFault :=
  .badInteger "9223372036854775808"

theorem Store.itemChars_eq (store : Store) (items : List Value) :
    store.itemChars items = items.map store.quotedChars := by
  induction items with
  | nil => rfl
  | cons item items ih =>
      cases item <;> simp [itemChars, quotedChars, ih]

namespace Decimal

theorem integer?_of_bounds {n : Int} (lower : -2 ^ 63 ≤ n) (upper : n < 2 ^ 63) :
    integer? n = some (Int64.ofInt n) := by
  have least : minInteger = -2 ^ 63 := rfl
  have greatest : maxInteger = 2 ^ 63 - 1 := rfl
  rw [integer?, if_pos]
  omega

/-- A whole number that is not negative is written as its digits. -/
theorem integerText_of_nonneg {n : Int64} (nonneg : 0 ≤ n.toInt) :
    integerText n.toInt = digits n.toInt.natAbs ∧ integer? n.toInt.natAbs = some n := by
  have isAbs : (n.toInt.natAbs : Int) = n.toInt := Int.natAbs_of_nonneg nonneg
  refine ⟨if_neg (by omega), ?_⟩
  rw [isAbs, integer?_of_bounds n.le_toInt n.toInt_lt, Int64.ofInt_toInt]

/-- A negative number is written as a sign and the digits of its opposite, which fits unless the number is the least. -/
theorem integerText_of_neg {n : Int64} (neg : n.toInt < 0) :
    integerText n.toInt = '-' :: digits n.toInt.natAbs ∧ (n.toInt.natAbs : Int) = -n.toInt := by
  refine ⟨if_pos neg, ?_⟩
  omega

end Decimal

namespace Expr

theorem Derives.whole_of_sign {tokens : List Token} {expr : Expr} (derived : Derives .sign tokens expr) :
    Derives .whole tokens expr :=
  .stronger .or (.stronger .and (.stronger .not (.stronger .comparison (.stronger .arith (.stronger .term derived)))))

theorem Derives.sign_of_primary {tokens : List Token} {expr : Expr} (derived : Derives .primary tokens expr) :
    Derives .sign tokens expr :=
  .stronger .sign (.stronger .power (.stronger .suffix derived))

/-- A text that is read as an expression with a given value, whatever closes it. -/
def Reads (text : List Char) (value : Value) : Prop :=
  ∃ tokens expr code, Token.Lexes text tokens ∧ Derives .whole tokens expr ∧ expr.instrs = .ok code ∧
    ∀ {σ : Type} (host : Host σ), host.evaluate expr = pure value

/-- A text that is read as expressions with given values and commas between them, whatever closes it. -/
def ReadsAll (text : List Char) (values : List Value) : Prop :=
  ∃ tokens exprs code, Token.Lexes text tokens ∧ DerivesItems tokens exprs ∧ instrsOfAll exprs = .ok code ∧
    ∀ {σ : Type} (host : Host σ), host.evaluateAll exprs = pure values

theorem reads_constant {text : List Char} {token : Token} {value : Value} (lexes : Token.Lexes text [token])
    (constant : Constant token value) : Reads text value :=
  ⟨[token], .const value, [.push value], lexes, (Derives.const constant).sign_of_primary.whole_of_sign, rfl,
    fun _ => rfl⟩

/-- Whole numbers other than the least are read back. -/
theorem reads_integerText {n : Int64} (notLeast : n ≠ Int64.minValue) :
    Reads (Decimal.integerText n.toInt) (.int n) := by
  by_cases nonneg : 0 ≤ n.toInt
  · obtain ⟨written, fits⟩ := Decimal.integerText_of_nonneg nonneg
    rw [written]
    exact reads_constant (Token.lexes_digits fits) (.int n)
  · obtain ⟨written, isAbs⟩ := Decimal.integerText_of_neg (n := n) (by omega)
    have lower := n.le_toInt
    have greater : n.toInt ≠ -2 ^ 63 := by
      intro same
      exact notLeast (Int64.toInt_inj.mp (same.trans Int64.toInt_minValue.symm))
    have fits := Decimal.integer?_of_bounds (n := n.toInt.natAbs) (by omega) (by omega)
    have lexes := (Token.lexes_digits fits).mark (c := '-') rfl fun _ => rfl
    have derived := Derives.signed Signs.neg
      (Derives.const (Constant.int (Int64.ofInt n.toInt.natAbs))).sign_of_primary
    have opposite : Value.unary .neg (.int (Int64.ofInt n.toInt.natAbs)) = .ok (.int n) := by
      have read := Int64.toInt_ofInt_of_le (n := n.toInt.natAbs) (by omega) (by omega)
      have back : -(n.toInt.natAbs : Int) = n.toInt := by omega
      simp only [Value.unary, Value.checked, read, back, Decimal.integer?_of_bounds n.le_toInt n.toInt_lt,
        Int64.ofInt_toInt]
    rw [written]
    refine ⟨_, _, [.push _, .unary .neg], lexes, derived.whole_of_sign, rfl, fun host => ?_⟩
    simp only [Host.evaluate, pure_bind, opposite]
    rfl

theorem readsAll_nil : ReadsAll [] [] :=
  ⟨[], [], [], Token.lexes_nil, .nil, rfl, fun _ => rfl⟩

theorem Reads.readsAll {text : List Char} {value : Value} (reads : Reads text value) :
    ReadsAll text [value] := by
  obtain ⟨tokens, expr, code, lexes, derived, compiled, evaluates⟩ := reads
  refine ⟨tokens, [expr], code ++ [], lexes, .last derived, ?_, fun host => ?_⟩
  · simp only [instrsOfAll, compiled]
    rfl
  · simp only [Host.evaluateAll, evaluates, pure_bind]

theorem Reads.comma {text others : List Char} {value : Value} {values : List Value}
    (reads : Reads text value) (readsOthers : ReadsAll others values) :
    ReadsAll (text ++ [',', ' '] ++ others) (value :: values) := by
  obtain ⟨tokens, expr, code, lexes, derived, compiled, evaluates⟩ := reads
  obtain ⟨otherTokens, exprs, rest, lexesOthers, derivedOthers, compiledOthers, evaluatesOthers⟩ := readsOthers
  refine ⟨_, expr :: exprs, code ++ rest, lexes.comma lexesOthers, .more derived derivedOthers, ?_,
    fun host => ?_⟩
  · simp only [instrsOfAll, compiled, compiledOthers]
    rfl
  · simp only [Host.evaluateAll, evaluates, evaluatesOthers, pure_bind]

theorem ReadsAll.list {text : List Char} {values : List Value} (reads : ReadsAll text values) :
    Reads ('[' :: (text ++ [']'])) (.list values) := by
  obtain ⟨tokens, exprs, code, lexes, derived, compiled, evaluates⟩ := reads
  refine ⟨_, .list exprs, code ++ [.makeList exprs.length], lexes.list,
    (Derives.list derived).sign_of_primary.whole_of_sign, ?_, fun host => ?_⟩
  · simp only [instrs, compiled]
    rfl
  · simp only [Host.evaluate, evaluates, pure_bind]

end Expr

namespace Value

variable (store : Store)

/-- The items of a list are read back if each of them is. -/
theorem readsAll_joined {items : List Value}
    (each : ∀ item ∈ items, Expr.Reads (store.quotedChars item) item) :
    Expr.ReadsAll (Text.joinWith [',', ' '] (items.map store.quotedChars)) items := by
  induction items with
  | nil => exact Expr.readsAll_nil
  | cons item items ih =>
      have first := each item List.mem_cons_self
      have others := ih fun other member => each other (List.mem_cons_of_mem item member)
      cases items with
      | nil => exact first.readsAll
      | cons next items => exact first.comma others

/-- Every value made of literals is read back, unless the least whole number occurs in it. -/
theorem Literal.reads {value : Value} (literal : value.Literal) (free : ¬ value.HoldsLeast) :
    Expr.Reads (store.quotedChars value) value := by
  induction literal with
  | nil => exact Expr.reads_constant (Token.lexes_word rfl (by decide) rfl (by decide)) .none
  | bool value =>
      cases value with
      | false => exact Expr.reads_constant (Token.lexes_word rfl (by decide) rfl (by decide)) (.bool false)
      | true => exact Expr.reads_constant (Token.lexes_word rfl (by decide) rfl (by decide)) (.bool true)
  | int n =>
      apply Expr.reads_integerText
      rintro rfl
      exact free .int
  | string text =>
      have lexes := Token.lexes_singleQuoted text.toList
      rw [String.ofList_toList] at lexes
      exact Expr.reads_constant lexes (.string text)
  | list each ih =>
      have readsItems := readsAll_joined store fun item member =>
        ih item member fun holds => free (.list member holds)
      have readsList := readsItems.list
      rwa [← store.itemChars_eq] at readsList

/-- The digits of the least whole number cannot be read. -/
theorem lexFails_least : Token.LexFails (Decimal.integerText Int64.minValue.toInt) leastFault := by
  have large : Decimal.integer? (Int64.minValue.toInt.natAbs : Int) = none := by decide
  have fails := Token.lexFails_digits large
  have shown : String.ofList (Decimal.digits Int64.minValue.toInt.natAbs) = "9223372036854775808" := by
    cbv
  rw [shown] at fails
  obtain ⟨written, -⟩ := Decimal.integerText_of_neg (n := Int64.minValue) (by decide)
  rw [written]
  exact fails.mark rfl fun _ => rfl

/-- The items of a list cannot be read from the first on in which the least whole number occurs. -/
theorem lexFails_joined {items : List Value} (each : ∀ item ∈ items, item.Literal)
    (fails : ∀ item ∈ items, item.HoldsLeast → Token.LexFails (store.quotedChars item) leastFault)
    (holds : HoldsLeast (.list items)) :
    Token.LexFails (Text.joinWith [',', ' '] (items.map store.quotedChars)) leastFault := by
  induction items with
  | nil => exact absurd holds not_holdsLeast_nil
  | cons item items ih =>
      have others := ih (fun other member => each other (List.mem_cons_of_mem item member))
        fun other member => fails other (List.mem_cons_of_mem item member)
      cases items with
      | nil =>
          have holdsFirst := (HoldsLeast.cons_iff.mp holds).resolve_right not_holdsLeast_nil
          exact fails item List.mem_cons_self holdsFirst
      | cons next items =>
          by_cases holdsFirst : item.HoldsLeast
          · exact (fails item List.mem_cons_self holdsFirst).comma _
          · obtain ⟨tokens, -, -, lexes, -⟩ := (each item List.mem_cons_self).reads store holdsFirst
            have holdsOthers := (HoldsLeast.cons_iff.mp holds).resolve_left holdsFirst
            exact lexes.comma_fails (others holdsOthers)

/-- A value made of literals cannot be read if the least whole number occurs in it. -/
theorem Literal.lexFails {value : Value} (literal : value.Literal) (holds : value.HoldsLeast) :
    Token.LexFails (store.quotedChars value) leastFault := by
  induction literal with
  | nil => cases holds
  | bool value => cases holds
  | string text => cases holds
  | int n =>
      cases holds
      exact lexFails_least
  | list each ih =>
      have fails := (lexFails_joined store each ih holds).list
      rwa [← store.itemChars_eq] at fails

end Value

namespace Scanner

/-- The characters other than digits that stand outside strings in a written value. -/
def writtenMarks : List Char :=
  ['[', ']', ',', ' ', '\'', '-', 'N', 'o', 'n', 'e', 'T', 'r', 'u', 'F', 'a', 'l', 's']

/-- Whether a character can stand outside strings in a written value. -/
def isWrittenChar (c : Char) : Bool :=
  Decimal.isDigit c || writtenMarks.contains c

/-- A text through which a scan stays as deep as it was, and of which it shows nothing but characters that can stand
outside strings in a written value. -/
def PassesWritten (text : List Char) : Prop :=
  ∀ (depth : Int32) (before : Option Char) (tail : List Char), Unquoted tail →
    ∃ visits, (∀ visit ∈ visits, isWrittenChar visit.char = true) ∧
      trace 0 before ⟨depth, none, false⟩ (text ++ tail) =
        preceded visits (trace 0 (lastOf before text) ⟨depth, none, false⟩ tail)

variable {text others : List Char}

theorem passesWritten_plain (plain : text.all (fun c => isPlain c && isWrittenChar c) = true) :
    PassesWritten text := by
  have each (c : Char) (member : c ∈ text) : isPlain c = true ∧ isWrittenChar c = true := by
    simpa using List.all_eq_true.mp plain c member
  intro depth before tail _
  refine ⟨cursors depth tail before text, fun visit shown => ?_, ?_⟩
  · exact (each _ (char_of_mem_cursors shown)).2
  · exact trace_plain rfl fun c member => (each c member).1

theorem passesWritten_singleQuoted (text : List Char) : PassesWritten (Text.singleQuoted text) := by
  have read := Token.readQuoted_singleQuoted text unquoted_nil
  obtain ⟨used, split, passesToken⟩ := passesToken_readQuoted (.inl rfl) read
  have isUsed : used = Text.singleQuoted text := by
    rw [List.append_nil] at split
    exact split.symm
  intro depth before tail unquoted
  have passed := passesToken.passes depth before tail unquoted
  have flat : depth + .ofInt (Token.string (String.ofList text)).turn = depth := Int32.add_zero depth
  rw [isUsed, flat, List.nil_append] at passed
  refine ⟨_, fun visit shown => ?_, passed⟩
  obtain rfl : visit = _ := by
    simpa [shownOf, Token.isString, Text.singleQuoted, cursors] using shown
  rfl

theorem PassesWritten.comma (passes : PassesWritten text) (passesOthers : PassesWritten others) :
    PassesWritten (text ++ [',', ' '] ++ others) := by
  intro depth before tail unquoted
  obtain ⟨first, writtenFirst, ledFirst⟩ :=
    passes depth before (',' :: ' ' :: (others ++ tail)) (unquoted_cons.mpr (by decide))
  obtain ⟨last, writtenLast, ledLast⟩ :=
    passesOthers depth (lastOf (lastOf before text) [',', ' ']) tail unquoted
  have plain : [',', ' '].all isPlain = true := by decide
  have written : [',', ' '].all isWrittenChar = true := by decide
  have separator := @trace_plain (lastOf before text) ⟨depth, none, false⟩ [',', ' '] (others ++ tail) rfl
    (List.all_eq_true.mp plain)
  refine ⟨first ++ (cursors depth (others ++ tail) (lastOf before text) [',', ' '] ++ last), ?_, ?_⟩
  · refine List.forall_mem_append.mpr ⟨writtenFirst, List.forall_mem_append.mpr ⟨?_, writtenLast⟩⟩
    intro visit shown
    exact List.all_eq_true.mp written _ (char_of_mem_cursors shown)
  · rw [lastOf_append, lastOf_append, ← preceded_preceded, ← preceded_preceded, ← ledLast, ← separator]
    simpa using ledFirst

theorem PassesWritten.list (passes : PassesWritten text) : PassesWritten ('[' :: (text ++ [']'])) := by
  intro depth before tail unquoted
  obtain ⟨visits, written, led⟩ :=
    passes (depth + 1) (some '[') (']' :: tail) (unquoted_cons.mpr (by decide))
  have opening := @trace_passes_outside before ⟨depth, none, false⟩ [] (text ++ ']' :: tail) '['
    ⟨depth + 1, none, false⟩ rfl rfl
  have closed : step ⟨depth + 1, none, false⟩ ']' ([] ++ tail) = (⟨depth, none, false⟩, 0) := by
    simp [step, stepOutside]
  have closing := @trace_passes_outside (lastOf (some '[') text) ⟨depth + 1, none, false⟩ [] tail ']'
    ⟨depth, none, false⟩ rfl closed
  refine ⟨⟨before, '[', text ++ ']' :: tail, depth⟩ ::
    (visits ++ [⟨lastOf (some '[') text, ']', tail, depth + 1⟩]), ?_, ?_⟩
  · refine List.forall_mem_cons.mpr ⟨rfl, List.forall_mem_append.mpr ⟨written, ?_⟩⟩
    exact List.forall_mem_cons.mpr ⟨rfl, by simp⟩
  · simp only [List.nil_append, lastOf_cons, lastOf_nil] at opening closing
    rw [led, closing, preceded_preceded, preceded_preceded] at opening
    simpa using opening

/-- A scan that looks for what stands in no written value finds nothing and comes out as it went in. -/
theorem PassesWritten.feed (passes : PassesWritten text) {stop : Visit → Bool}
    (blind : ∀ visit, isWrittenChar visit.char = true → stop visit = false) :
    ({} : Scanner).feed stop text = (none, {}) := by
  obtain ⟨visits, written, led⟩ := passes 0 none [] unquoted_nil
  rw [List.append_nil] at led
  have missed : ∀ visit ∈ visits, stop visit = false := fun visit shown => blind visit (written visit shown)
  rw [Scanner.feed, regular_fresh.scan_eq_firstIn]
  refine (congrArg (firstIn stop text) led).trans ?_
  rw [firstIn_preceded missed, trace_nil]
  rfl

end Scanner

namespace Value

variable (store : Store)

theorem all_integerText {accept : Char → Bool} (minus : accept '-' = true)
    (digits : ∀ c, Decimal.isDigit c = true → accept c = true) (n : Int) :
    (Decimal.integerText n).all accept = true := by
  have all (number : Nat) : (Decimal.digits number).all accept = true := by
    rw [List.all_eq_true]
    intro c member
    exact digits c (List.all_eq_true.mp (Decimal.all_isDigit_digits number) c member)
  unfold Decimal.integerText
  split
  · rw [List.all_cons, minus, all]
    rfl
  · exact all _

/-- A property of texts that passes from two of them to both with a comma between holds of all items of a list if it
holds of each. -/
theorem joined_of_each {holds : List Char → Prop} (nil : holds [])
    (comma : ∀ {first second}, holds first → holds second → holds (first ++ [',', ' '] ++ second))
    {items : List Value} (each : ∀ item ∈ items, holds (store.quotedChars item)) :
    holds (Text.joinWith [',', ' '] (items.map store.quotedChars)) := by
  induction items with
  | nil => exact nil
  | cons item items ih =>
      have first := each item List.mem_cons_self
      have others := ih fun other member => each other (List.mem_cons_of_mem item member)
      cases items with
      | nil => exact first
      | cons next items => exact comma first others

/-- A value made of literals leaves nothing open. -/
theorem Literal.passesWritten {value : Value} (literal : value.Literal) :
    Scanner.PassesWritten (store.quotedChars value) := by
  induction literal with
  | nil => exact @Scanner.passesWritten_plain "None".toList (by decide)
  | bool value =>
      cases value with
      | false => exact @Scanner.passesWritten_plain "False".toList (by decide)
      | true => exact @Scanner.passesWritten_plain "True".toList (by decide)
  | int n =>
      apply Scanner.passesWritten_plain
      apply all_integerText (by decide)
      intro c digit
      have plain : Scanner.isPlain c = true := Scanner.isPlain_of_class (by decide) digit
      simp [Scanner.isWrittenChar, digit, plain]
  | string text => exact Scanner.passesWritten_singleQuoted text.toList
  | list each ih =>
      have nil : Scanner.PassesWritten [] := Scanner.passesWritten_plain rfl
      have passes := (joined_of_each store nil Scanner.PassesWritten.comma ih).list
      rwa [← store.itemChars_eq] at passes

/-- A value made of literals is written on one line. -/
theorem Literal.lineFeed_notMem {value : Value} (literal : value.Literal) :
    '\n' ∉ store.quotedChars value := by
  induction literal with
  | nil => exact show '\n' ∉ "None".toList by decide
  | bool value =>
      cases value with
      | false => exact show '\n' ∉ "False".toList by decide
      | true => exact show '\n' ∉ "True".toList by decide
  | int n =>
      intro member
      have others : (Decimal.integerText n.toInt).all (fun c => c != '\n') = true := by
        apply all_integerText rfl
        rintro c digit
        rw [bne_iff_ne]
        rintro rfl
        cases digit
      have := List.all_eq_true.mp others _ member
      cases this
  | string text =>
      have escaped (c : Char) : '\n' ∉ Text.singleQuotedChar c := by
        unfold Text.singleQuotedChar
        split
        · decide
        · split
          · decide
          · split
            · decide
            · rename_i other
              simpa using fun same => other (Eq.symm same)
      simp [Store.quotedChars, Text.singleQuoted, escaped]
  | @list items each ih =>
      have inside := @joined_of_each store (fun text => '\n' ∉ text) (by simp)
        (by simp +contextual) items ih
      change '\n' ∉ '[' :: (Text.joinWith [',', ' '] (store.itemChars items) ++ [']'])
      rw [store.itemChars_eq]
      simpa using inside

theorem trim_of_visible {text : List Char} (visible : text.all (fun c => !Text.isBlank c) = true) :
    Text.trim text = text := by
  have each (c : Char) (member : c ∈ text) : Text.isBlank c = false := by
    simpa using List.all_eq_true.mp visible c member
  cases text with
  | nil => rfl
  | cons c rest =>
      rw [Text.trim, Text.trimStart_of_head (each c List.mem_cons_self)]
      obtain ⟨init, last, split⟩ := List.eq_nil_or_concat (c :: rest) |>.resolve_left (by simp)
      rw [List.concat_eq_append] at split
      rw [split]
      apply Text.trimEnd_of_last
      apply each
      rw [split]
      simp

theorem visible_integerText (n : Int) : (Decimal.integerText n).all (fun c => !Text.isBlank c) = true := by
  apply all_integerText rfl
  intro c digit
  simp [Token.isBlank_of_isDigit digit]

/-- A value made of literals is written without blanks at its ends. -/
theorem Literal.trim_quotedChars {value : Value} (literal : value.Literal) :
    Text.trim (store.quotedChars value) = store.quotedChars value := by
  have ends {c d : Char} (first : Text.isBlank c = false) (last : Text.isBlank d = false) (text : List Char) :
      Text.trim (c :: (text ++ [d])) = c :: (text ++ [d]) := by
    rw [Text.trim, Text.trimStart_of_head first]
    exact Text.trimEnd_of_last last (c :: text)
  cases literal with
  | nil => exact show Text.trim "None".toList = "None".toList by decide
  | bool value =>
      cases value with
      | false => exact show Text.trim "False".toList = "False".toList by decide
      | true => exact show Text.trim "True".toList = "True".toList by decide
  | int n => exact trim_of_visible (visible_integerText n.toInt)
  | string text => exact ends rfl rfl _
  | list each => exact ends rfl rfl _

end Value

end GroupScript
