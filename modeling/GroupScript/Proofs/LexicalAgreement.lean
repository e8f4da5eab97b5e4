import GroupScript.Proofs.Outcome
import GroupScript.Proofs.Visits

/-!
# Tokens and the scanner

The scanner and the reader of tokens find the same strings.  A scan from outside all strings through a text that has
tokens ends outside all strings again, deeper by the brackets among the tokens, and outside strings it has seen nothing
but the characters that tokens are made of.
-/

namespace GroupScript

namespace Token

/-- How much deeper a token leads into brackets. -/
def turn : Token → Int
  | .parenLeft => 1
  | .bracketLeft => 1
  | .parenRight => -1
  | .bracketRight => -1
  | _ => 0

/-- The number of opening brackets minus the number of closing ones. -/
def balance : List Token → Int
  | [] => 0
  | token :: tokens => token.turn + balance tokens

@[simp]
theorem balance_nil : balance [] = 0 :=
  rfl

@[simp]
theorem balance_cons (token : Token) (tokens : List Token) :
    balance (token :: tokens) = token.turn + balance tokens :=
  rfl

@[simp]
theorem balance_append (first second : List Token) :
    balance (first ++ second) = balance first + balance second := by
  induction first with
  | nil => simp
  | cons token first ih => simp [ih, Int.add_assoc]

/-- Whether a token is a string. -/
def isString : Token → Bool
  | .string _ => true
  | _ => false

/-- The characters of the tokens that are neither words, numbers nor strings. -/
def markChars : List Char :=
  ['(', ')', '[', ']', ',', '.', '+', '-', '%', '*', '/', '=', '!', '<', '>']

/-- Whether a character can stand outside strings in a text that has tokens. -/
def isOutsideChar (c : Char) : Bool :=
  Text.isBlank c || Text.isNameChar c || markChars.contains c || decide (QuoteMark c)

/-- What holds of the ten digits holds of every character that is a digit. -/
theorem of_isDigit {holds : Char → Prop} (checked : ∀ digit < 10, holds (Char.ofNat (digit + 48))) {c : Char}
    (digit : Decimal.isDigit c = true) : holds c := by
  simp only [Decimal.isDigit, Bool.and_eq_true, decide_eq_true_eq] at digit
  have lower : 48 ≤ c.toNat := digit.1
  have upper : c.toNat ≤ 57 := digit.2
  have isChecked := checked (c.toNat - 48) (by omega)
  rwa [Nat.sub_add_cancel lower, Char.ofNat_toNat] at isChecked

theorem isNameChar_of_isDigit {c : Char} (digit : Decimal.isDigit c = true) :
    Text.isNameChar c = true :=
  @of_isDigit (fun c => Text.isNameChar c = true) (by decide) c digit

/-- Whether a character can stand in a number. -/
def isNumberChar (c : Char) : Bool :=
  Decimal.isDigit c || ['.', '+', '-', 'e', 'E'].contains c

theorem isOutsideChar_of_isNumberChar {c : Char} (number : isNumberChar c = true) :
    isOutsideChar c = true := by
  simp only [isNumberChar, Bool.or_eq_true] at number
  rcases number with digit | mark
  · simp [isOutsideChar, isNameChar_of_isDigit digit]
  · have checked : ['.', '+', '-', 'e', 'E'].all isOutsideChar = true := by decide
    exact List.all_eq_true.mp checked c (List.contains_iff_mem.mp mark)

theorem numberChars_takeDigits (text : List Char) :
    ∀ c ∈ (takeDigits text).1, isNumberChar c = true := by
  intro c member
  simp [isNumberChar, List.all_eq_true.mp List.all_takeWhile c member]

theorem numberChars_takeFraction (text : List Char) :
    ∀ c ∈ (takeFraction text).1, isNumberChar c = true := by
  unfold takeFraction
  split
  · exact List.forall_mem_cons.mpr ⟨rfl, numberChars_takeDigits _⟩
  · simp

theorem numberChars_takeSigned (text : List Char) :
    ∀ c ∈ (takeSigned text).1, isNumberChar c = true := by
  unfold takeSigned
  split
  · exact List.forall_mem_cons.mpr ⟨rfl, numberChars_takeDigits _⟩
  · exact List.forall_mem_cons.mpr ⟨rfl, numberChars_takeDigits _⟩
  · exact numberChars_takeDigits _

theorem numberChars_takeExponent (text : List Char) :
    ∀ c ∈ (takeExponent text).1, isNumberChar c = true := by
  unfold takeExponent
  split
  · exact List.forall_mem_cons.mpr ⟨rfl, numberChars_takeSigned _⟩
  · exact List.forall_mem_cons.mpr ⟨rfl, numberChars_takeSigned _⟩
  · simp

theorem exists_numberChars {text following : List Char} {token : Token}
    (read : readNumber text = .ok (token, following)) :
    ∃ used, text = used ++ following ∧ ∀ c ∈ used, isNumberChar c = true := by
  have afterDigits := takeDigits_append text
  have afterFraction := takeFraction_append (takeDigits text).2
  have afterExponent := takeExponent_append (takeFraction (takeDigits text).2).2
  rw [rest_of_readNumber read]
  refine ⟨(takeDigits text).1 ++ ((takeFraction (takeDigits text).2).1 ++
    (takeExponent (takeFraction (takeDigits text).2).2).1), ?_, ?_⟩
  · rw [List.append_assoc, List.append_assoc, afterExponent, afterFraction, afterDigits]
  · simp only [List.forall_mem_append]
    exact ⟨numberChars_takeDigits _, numberChars_takeFraction _, numberChars_takeExponent _⟩

/-- A number is neither a bracket nor a string. -/
theorem flat_of_readNumber {text following : List Char} {token : Token}
    (read : readNumber text = .ok (token, following)) : token.turn = 0 ∧ token.isString = false := by
  unfold readNumber at read
  simp only at read
  split at read
  · split at read <;> cases read
    exact ⟨rfl, rfl⟩
  · split at read <;> cases read
    exact ⟨rfl, rfl⟩

theorem turn_ofWord (word : List Char) : (ofWord word).turn = 0 := by
  unfold ofWord
  split <;> rfl

theorem isString_ofWord (word : List Char) : (ofWord word).isString = false := by
  unfold ofWord
  split <;> rfl

end Token

namespace Scanner

/-- A test that holds at no character of a token outside strings. -/
def Silent (test : Char → Int32 → Bool) : Prop :=
  ∀ c depth, Token.isOutsideChar c = true → test c depth = false

/-- A test that holds at no other character than one that stands in no token is silent. -/
theorem silent_of_foreign {mark : Char} (foreign : Token.isOutsideChar mark = false)
    {test : Char → Int32 → Bool} (only : ∀ c depth, test c depth = true → c = mark) : Silent test := by
  intro c depth outsideChar
  cases holds : test c depth with
  | false => rfl
  | true =>
      rw [only c depth holds, foreign] at outsideChar
      cases outsideChar

variable {test : Char → Int32 → Bool} {scanner : Scanner} {text rest tail : List Char}

/-- Plain characters at which a test does not hold are passed one by one. -/
theorem search_plain (outside : scanner.quote = none)
    (plain : ∀ c ∈ text, isPlain c = true ∧ test c scanner.depth = false) :
    search test scanner (text ++ rest) = moved text.length (search test scanner rest) := by
  induction text with
  | nil => simp
  | cons c text ih =>
      obtain ⟨isPlain, silent⟩ := plain c (by simp)
      have others := ih fun d member => plain d (by simp [member])
      rw [List.cons_append, search_step (fun _ => silent), step_plain outside isPlain, List.drop_zero,
        others, moved_moved]
      congr 1

/-- The inside of a string is passed up to its closing quotes, and nothing of it is shown. -/
theorem trace_readString {quote : Char} {triple : Bool} {content inside following : List Char}
    (isQuote : QuoteMark quote) (unquoted : Unquoted tail) (depth : Int32)
    (read : Token.readString quote triple content text = .ok (inside, following)) :
    ∃ used, text = used ++ following ∧ ∀ before,
      trace 0 before ⟨depth, some ⟨quote, triple⟩, false⟩ (text ++ tail) =
        trace 0 (lastOf before used) ⟨depth, none, false⟩ (following ++ tail) := by
  -- A character that leaves the string open is passed along with what follows it.
  have staysInside {c : Char} {rest used : List Char} (split : rest = used ++ following)
      (stays : step ⟨depth, some ⟨quote, triple⟩, false⟩ c ([] ++ (rest ++ tail)) =
        (⟨depth, some ⟨quote, triple⟩, false⟩, 0))
      (led : ∀ before, trace 0 before ⟨depth, some ⟨quote, triple⟩, false⟩ (rest ++ tail) =
        trace 0 (lastOf before used) ⟨depth, none, false⟩ (following ++ tail)) :
      ∃ used, c :: rest = used ++ following ∧ ∀ before,
        trace 0 before ⟨depth, some ⟨quote, triple⟩, false⟩ (c :: rest ++ tail) =
          trace 0 (lastOf before used) ⟨depth, none, false⟩ (following ++ tail) := by
    refine ⟨c :: used, congrArg (c :: ·) split, fun before => ?_⟩
    refine (trace_passes_inside rfl stays).trans ?_
    rw [led, lastOf_cons, lastOf_cons, lastOf_nil]
  fun_induction Token.readString quote triple content text with
  | case1 => cases read
  | case2 => cases read
  | case3 content c rest ih =>
      obtain ⟨used, split, led⟩ := ih read
      refine ⟨'\\' :: c :: used, by rw [split]; rfl, fun before => ?_⟩
      have takes : step ⟨depth, some ⟨quote, triple⟩, false⟩ '\\' ([] ++ (c :: (rest ++ tail))) =
          (⟨depth, some ⟨quote, triple⟩, true⟩, 0) := rfl
      have escapes : step ⟨depth, some ⟨quote, triple⟩, true⟩ c ([] ++ (rest ++ tail)) =
          (⟨depth, some ⟨quote, triple⟩, false⟩, 0) := rfl
      refine (trace_passes_inside rfl takes).trans ((trace_passes_inside rfl escapes).trans ?_)
      simp [led]
  | case4 content rest isTriple starts notBackslash =>
      cases read
      have enough := length_of_startsWithTwo starts
      have closes : step ⟨depth, some ⟨quote, triple⟩, false⟩ quote (rest.take 2 ++ (rest.drop 2 ++ tail)) =
          (⟨depth, none, false⟩, (rest.take 2).length) := by
        replace notBackslash : quote ≠ '\\' := notBackslash
        rw [← List.append_assoc, List.take_append_drop, List.length_take, Nat.min_eq_left enough]
        simp [step, stepInside, notBackslash, isTriple, startsWithTwo_append isQuote rest unquoted, starts]
      refine ⟨quote :: rest.take 2, by simp, fun before => ?_⟩
      rw [List.cons_append, ← trace_passes_inside rfl closes, ← List.append_assoc, List.take_append_drop]
  | case5 content rest isTriple unclosed notBackslash ih =>
      obtain ⟨used, split, led⟩ := ih read
      refine staysInside split ?_ led
      replace notBackslash : quote ≠ '\\' := notBackslash
      simp [step, stepInside, notBackslash, isTriple, startsWithTwo_append isQuote rest unquoted, unclosed]
  | case6 content rest isSingle notBackslash =>
      cases read
      have closes : step ⟨depth, some ⟨quote, triple⟩, false⟩ quote ([] ++ (following ++ tail)) =
          (⟨depth, none, false⟩, 0) := by
        replace notBackslash : quote ≠ '\\' := notBackslash
        simp [step, stepInside, notBackslash, isSingle]
      exact ⟨[quote], rfl, fun before => trace_passes_inside rfl closes⟩
  | case7 content c rest notBackslash other ih =>
      obtain ⟨used, split, led⟩ := ih read
      refine staysInside split ?_ led
      replace notBackslash : c ≠ '\\' := notBackslash
      simp [step, stepInside, notBackslash, other]

/-- What a scan shows of a token: of a string its first quote, and of any other token all characters. -/
def shownOf (token : Token) (depth : Int32) (following : List Char) (before : Option Char)
    (used : List Char) : List Visit :=
  if token.isString then (cursors depth following before used).take 1
  else cursors depth following before used

/-- A token leads deeper by its turn, whatever follows it, and what shows of it on the way are characters that can stand
outside strings. -/
structure PassesToken (token : Token) (used following : List Char) : Prop where
  outside : ∀ depth before rest, ∀ visit ∈ shownOf token depth rest before used,
    Token.isOutsideChar visit.char = true
  passes : ∀ (depth : Int32) (before : Option Char) (tail : List Char), Unquoted tail →
    trace 0 before ⟨depth, none, false⟩ (used ++ (following ++ tail)) =
      preceded (shownOf token depth (following ++ tail) before used)
        (trace 0 (lastOf before used) ⟨depth + .ofInt token.turn, none, false⟩ (following ++ tail))

/-- The opening quotes of a string belong together. -/
theorem step_opening {quote : Char} (isQuote : QuoteMark quote) (depth : Int32) (unquoted : Unquoted tail) :
    step ⟨depth, none, false⟩ quote (rest ++ tail) =
      (⟨depth, some ⟨quote, Token.startsWithTwo quote rest⟩, false⟩,
        if Token.startsWithTwo quote rest then 2 else 0) := by
  simp [step, stepOutside, isQuote, startsWithTwo_append isQuote rest unquoted]

theorem passesToken_readQuoted {quote : Char} (isQuote : QuoteMark quote) {token : Token}
    {following : List Char} (read : Token.readQuoted quote rest = .ok (token, following)) :
    ∃ used, quote :: rest = used ++ following ∧ PassesToken token used following := by
  obtain ⟨⟨inside, left⟩, readInside, made⟩ := except_bind_eq_ok.mp read
  cases made
  -- The quotes that belong to the first one, and the rest up to the closing ones.
  obtain ⟨opening, body, split, isBody, length⟩ : ∃ opening body, rest = opening ++ body ∧
      (if Token.startsWithTwo quote rest then rest.drop 2 else rest) = body ∧
        (if Token.startsWithTwo quote rest then 2 else 0) = opening.length := by
    cases starts : Token.startsWithTwo quote rest with
    | false => exact ⟨[], rest, rfl, rfl, rfl⟩
    | true =>
        have enough := length_of_startsWithTwo starts
        exact ⟨rest.take 2, rest.drop 2, by simp, rfl, by simp [enough]⟩
  rw [isBody] at readInside
  obtain ⟨used, rfl, -⟩ := trace_readString isQuote unquoted_nil 0 readInside
  refine ⟨quote :: (opening ++ used), by simp [split], ?_, ?_⟩
  · intro depth before following visit shown
    obtain rfl : visit = _ := by simpa [shownOf, Token.isString, cursors] using shown
    simp [Token.isOutsideChar, isQuote]
  · intro depth before tail unquoted
    obtain ⟨others, same, led⟩ := trace_readString isQuote unquoted depth readInside
    obtain rfl := List.append_cancel_right same
    have joined : rest ++ tail = opening ++ (used ++ following ++ tail) := by
      simp [split]
    have stepped := @step_opening rest tail quote isQuote depth unquoted
    rw [length, joined] at stepped
    have traced := @trace_passes_outside before _ _ _ _ _ rfl stepped
    rw [led, ← lastOf_append] at traced
    simpa [shownOf, Token.isString, Token.turn, cursors] using traced

theorem add_ofInt_zero (depth : Int32) : depth + .ofInt 0 = depth :=
  Int32.add_zero depth

theorem sub_one_eq (depth : Int32) : depth - 1 = depth + .ofInt (-1) := by
  rw [Int32.ofInt_neg, ← Int32.sub_eq_add_neg]
  rfl

/-- The characters of a token that is neither a string nor a bracket are passed one by one. -/
theorem passesToken_of_class {token : Token} {used : List Char} (noString : token.isString = false)
    (flat : token.turn = 0)
    (accepted : ∀ c ∈ used, isPlain c = true ∧ Token.isOutsideChar c = true) (following : List Char) :
    PassesToken token used following where
  outside depth before rest visit shown := by
    simp only [shownOf, noString, Bool.false_eq_true, if_false] at shown
    exact (accepted _ (char_of_mem_cursors shown)).2
  passes depth before tail _ := by
    simp only [shownOf, noString, flat, Bool.false_eq_true, if_false, add_ofInt_zero]
    exact trace_plain rfl fun c member => (accepted c member).1

theorem isPlain_of_isNameChar {c : Char} (nameChar : Text.isNameChar c = true) : isPlain c = true :=
  isPlain_of_class (by decide) nameChar

theorem passesToken_readNumber {token : Token} {following : List Char}
    (read : Token.readNumber text = .ok (token, following)) :
    ∃ used, text = used ++ following ∧ PassesToken token used following := by
  obtain ⟨used, split, number⟩ := Token.exists_numberChars read
  obtain ⟨flat, noString⟩ := Token.flat_of_readNumber read
  refine ⟨used, split, passesToken_of_class noString flat (fun c member => ?_) following⟩
  exact ⟨isPlain_of_class (by decide) (number c member),
    Token.isOutsideChar_of_isNumberChar (number c member)⟩

theorem passesToken_bracket {c : Char} {token : Token} (noString : token.isString = false)
    (outsideChar : Token.isOutsideChar c = true)
    (turns : ∀ depth rest, step ⟨depth, none, false⟩ c rest = (⟨depth + .ofInt token.turn, none, false⟩, 0))
    (following : List Char) : PassesToken token [c] following where
  outside depth before rest visit shown := by
    obtain rfl : visit = _ := by simpa [shownOf, noString, cursors] using shown
    exact outsideChar
  passes depth before tail _ := by
    simpa [shownOf, noString, cursors] using
      @trace_passes_outside before ⟨depth, none, false⟩ [] (following ++ tail) c _ rfl (turns depth _)

theorem passesToken_readMark {c : Char} {token : Token} {following : List Char}
    (read : Token.readMark c rest = .ok (token, following)) :
    ∃ used, c :: rest = used ++ following ∧ PassesToken token used following := by
  have single {c : Char} {token : Token} {following : List Char} (noString : token.isString = false)
      (flat : token.turn = 0) (plain : isPlain c = true ∧ Token.isOutsideChar c = true) :
      ∃ used, c :: following = used ++ following ∧ PassesToken token used following :=
    ⟨[c], rfl, passesToken_of_class noString flat (by simpa using plain) following⟩
  have double {c d : Char} {token : Token} {following : List Char} (noString : token.isString = false)
      (flat : token.turn = 0) (first : isPlain c = true ∧ Token.isOutsideChar c = true)
      (second : isPlain d = true ∧ Token.isOutsideChar d = true) :
      ∃ used, c :: d :: following = used ++ following ∧ PassesToken token used following :=
    ⟨[c, d], rfl, passesToken_of_class noString flat (by simp [first, second]) following⟩
  unfold Token.readMark at read
  split at read <;> cases read
  case h_1 | h_3 =>
    exact ⟨[_], rfl, passesToken_bracket rfl (by decide) (fun _ _ => rfl) _⟩
  case h_2 | h_4 =>
    refine ⟨[_], rfl, passesToken_bracket rfl (by decide) (fun depth _ => ?_) _⟩
    change ((⟨depth - 1, none, false⟩ : Scanner), 0) = (⟨depth + .ofInt (-1), none, false⟩, 0)
    rw [sub_one_eq]
  case h_10 | h_12 | h_14 | h_16 | h_17 | h_19 => exact double rfl rfl (by decide) (by decide)
  all_goals exact single rfl rfl (by decide)

theorem passesToken_readToken {c : Char} {token : Token} {following : List Char}
    (read : Token.readToken c rest = .ok (token, following)) :
    ∃ used, c :: rest = used ++ following ∧ PassesToken token used following := by
  unfold Token.readToken at read
  split at read
  · rename_i isQuote
    exact passesToken_readQuoted isQuote read
  · split at read
    · exact passesToken_readNumber read
    · split at read
      · cases read
        refine ⟨(c :: rest).takeWhile Text.isNameChar, by rw [List.takeWhile_append_dropWhile],
          passesToken_of_class (Token.isString_ofWord _) (Token.turn_ofWord _) (fun d member => ?_) _⟩
        have nameChar := List.all_eq_true.mp List.all_takeWhile d member
        exact ⟨isPlain_of_isNameChar nameChar, by simp [Token.isOutsideChar, nameChar]⟩
      · exact passesToken_readMark read

/-- A text that has tokens leads as deep as its brackets do, and shows only what can stand outside strings. -/
theorem trace_lexed {tokens : List Token} (lexed : Token.ofText text = .ok tokens) (depth : Int32)
    (before : Option Char) (unquoted : Unquoted tail) :
    ∃ visits, (∀ visit ∈ visits, Token.isOutsideChar visit.char = true) ∧
      trace 0 before ⟨depth, none, false⟩ (text ++ tail) =
        preceded visits
          (trace 0 (lastOf before text) ⟨depth + .ofInt (Token.balance tokens), none, false⟩ tail) := by
  fun_induction Token.ofText text generalizing depth before tokens with
  | case1 =>
      cases lexed
      exact ⟨[], by simp, by simp⟩
  | case2 c rest blank ih =>
      obtain ⟨visits, outside, led⟩ := ih lexed depth (some c)
      refine ⟨⟨before, c, rest ++ tail, depth⟩ :: visits, ?_, ?_⟩
      · exact List.forall_mem_cons.mpr ⟨by simp [Token.isOutsideChar, blank], outside⟩
      · have stepped : step ⟨depth, none, false⟩ c ([] ++ (rest ++ tail)) = (⟨depth, none, false⟩, 0) :=
          step_plain rfl (isPlain_of_isBlank blank) _
        refine (trace_passes_outside rfl stepped).trans ?_
        rw [lastOf_cons, lastOf_cons, lastOf_nil, led]
        rfl
  | case3 => cases lexed
  | case4 => cases lexed
  | case5 c rest visible token following read others lexedRest ih =>
      cases lexed
      obtain ⟨used, split, passesToken⟩ := passesToken_readToken read
      obtain ⟨visits, outside, led⟩ := ih lexedRest (depth + .ofInt token.turn) (lastOf before used)
      refine ⟨shownOf token depth (following ++ tail) before used ++ visits, ?_, ?_⟩
      · exact List.forall_mem_append.mpr ⟨passesToken.outside depth before _, outside⟩
      · rw [split, List.append_assoc, passesToken.passes depth before tail unquoted, led,
          preceded_preceded, lastOf_append, Token.balance_cons, Int32.ofInt_add, Int32.add_assoc]

theorem regular_outside (depth : Int32) : Regular ⟨depth, none, false⟩ where
  mark := by simp
  outside _ := rfl

/-- A text that has tokens is passed, and leads as deep as its brackets do. -/
theorem search_lexed (silent : Silent test) {tokens : List Token}
    (lexed : Token.ofText text = .ok tokens) (depth : Int32) (unquoted : Unquoted tail) :
    search test ⟨depth, none, false⟩ (text ++ tail) =
      moved text.length (search test ⟨depth + .ofInt (Token.balance tokens), none, false⟩ tail) := by
  obtain ⟨visits, outside, traced⟩ := trace_lexed lexed depth none unquoted
  refine search_of_trace (regular_outside _) (regular_outside _) traced fun visit shown => ?_
  exact silent visit.char visit.depth (outside visit shown)

end Scanner

end GroupScript
