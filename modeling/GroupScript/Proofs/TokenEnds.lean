import GroupScript.Proofs.LexicalAgreement

/-!
# Where tokens end

Blanks and closing brackets end the token before them.  A text has the same tokens with and without the blanks at its
ends, and what follows a closing bracket does not change the tokens before it.
-/

namespace GroupScript.Token

variable {text blanks rest following : List Char} {token : Token}

/-- Whether a character ends whatever token stands before it. -/
def endsToken (c : Char) : Bool :=
  Text.isBlank c || c == ']'

/-- A text that does not go on with a token before it. -/
def Parted (text : List Char) : Prop :=
  ∀ c rest, text = c :: rest → endsToken c = true

theorem parted_of_isAllBlank (blank : Text.isAllBlank blanks = true) : Parted blanks := by
  rintro c rest rfl
  simp [endsToken, (Text.isAllBlank_cons.mp blank).1]

theorem parted_bracket (rest : List Char) : Parted (']' :: rest) := by
  rintro _ _ ⟨⟩
  rfl

theorem not_quoteMark_of_endsToken {c : Char} (ends : endsToken c = true) : ¬ QuoteMark c := by
  rintro (rfl | rfl) <;> cases ends

theorem Parted.unquoted (parted : Parted rest) : Unquoted rest := by
  cases rest with
  | nil => exact unquoted_nil
  | cons c rest => exact unquoted_cons.mpr (not_quoteMark_of_endsToken (parted c rest rfl))

theorem readString_of_ne {quote c : Char} {triple : Bool} {content rest : List Char}
    (notBackslash : c ≠ '\\') (other : c ≠ quote) :
    readString quote triple content (c :: rest) = readString quote triple (c :: content) rest := by
  rw [readString, if_neg other]
  exact notBackslash

theorem readString_blanks {quote : Char} {triple : Bool} {content : List Char}
    (isQuote : QuoteMark quote) (blank : Text.isAllBlank blanks = true)
    (result : List Char × List Char) : readString quote triple content blanks ≠ .ok result := by
  induction blanks generalizing content with
  | nil => simp [readString]
  | cons c blanks ih =>
      obtain ⟨first, others⟩ := Text.isAllBlank_cons.mp blank
      have notQuote : c ≠ quote := by
        rcases isQuote with rfl | rfl <;> exact Text.ne_of_isBlank first rfl
      rw [readString_of_ne (Text.ne_of_isBlank first rfl) notQuote]
      exact ih others

/-- Blanks behind a string are not read. -/
theorem readString_append_blanks {quote : Char} {triple : Bool} {content inside : List Char}
    (isQuote : QuoteMark quote) (blank : Text.isAllBlank blanks = true)
    (read : readString quote triple content (text ++ blanks) = .ok (inside, following)) :
    ∃ left, following = left ++ blanks ∧
      readString quote triple content text = .ok (inside, left) := by
  fun_induction readString quote triple content text with
  | case1 content => exact absurd read (readString_blanks isQuote blank _)
  | case2 content =>
      cases blanks with
      | nil => cases read
      | cons c blanks => exact absurd read (readString_blanks isQuote (Text.isAllBlank_cons.mp blank).2 _)
  | case3 content c rest ih => exact ih read
  | case4 content rest isTriple starts notBackslash =>
      rw [List.cons_append, readString, if_pos rfl, if_pos isTriple,
        startsWithTwo_append isQuote rest (Scanner.unquoted_of_isAllBlank blank), if_pos starts] at read
      · cases read
        exact ⟨rest.drop 2, List.drop_append_of_le_length (length_of_startsWithTwo starts), rfl⟩
      · exact notBackslash
  | case5 content rest isTriple unclosed notBackslash ih =>
      rw [List.cons_append, readString, if_pos rfl, if_pos isTriple,
        startsWithTwo_append isQuote rest (Scanner.unquoted_of_isAllBlank blank), if_neg unclosed] at read
      · exact ih read
      · exact notBackslash
  | case6 content rest isSingle notBackslash =>
      rw [List.cons_append, readString, if_pos rfl, if_neg isSingle] at read
      · cases read
        exact ⟨rest, rfl, rfl⟩
      · exact notBackslash
  | case7 content c rest notBackslash other ih =>
      rw [List.cons_append, readString_of_ne notBackslash other] at read
      exact ih read

theorem takeWhile_append_parted {accept : Char → Bool} (rejects : ∀ c, endsToken c = true → accept c = false)
    (parted : Parted rest) : (text ++ rest).takeWhile accept = text.takeWhile accept := by
  induction text with
  | nil =>
      cases rest with
      | nil => rfl
      | cons c rest => simp [rejects c (parted c rest rfl)]
  | cons c text ih => simp only [List.cons_append, List.takeWhile_cons, ih]

theorem dropWhile_append_parted {accept : Char → Bool} (rejects : ∀ c, endsToken c = true → accept c = false)
    (parted : Parted rest) : (text ++ rest).dropWhile accept = text.dropWhile accept ++ rest := by
  induction text with
  | nil =>
      cases rest with
      | nil => rfl
      | cons c rest => simp [rejects c (parted c rest rfl)]
  | cons c text ih =>
      simp only [List.cons_append, List.dropWhile_cons, ih]
      split <;> rfl

theorem isNameChar_of_endsToken (c : Char) (ends : endsToken c = true) : Text.isNameChar c = false := by
  rcases Bool.or_eq_true_iff.mp ends with blank | bracket
  · exact Text.isNameChar_of_isBlank blank
  · rw [eq_of_beq bracket]
    rfl

theorem isDigit_of_endsToken (c : Char) (ends : endsToken c = true) : Decimal.isDigit c = false := by
  cases digit : Decimal.isDigit c with
  | false => rfl
  | true =>
      have nameChar := isNameChar_of_isDigit digit
      rw [isNameChar_of_endsToken c ends] at nameChar
      cases nameChar

/-- What follows does not change which character a text begins with that could go on with a token. -/
theorem append_parted_ne {c : Char} (continues : endsToken c = false) (parted : Parted rest)
    (other : ∀ more, text = c :: more → False) (more : List Char) (begins : text ++ rest = c :: more) : False := by
  cases text with
  | nil =>
      rw [parted c more begins] at continues
      cases continues
  | cons d text =>
      cases begins
      exact other text rfl

theorem takeDigits_append_parted (parted : Parted rest) (text : List Char) :
    takeDigits (text ++ rest) = ((takeDigits text).1, (takeDigits text).2 ++ rest) := by
  rw [takeDigits, takeWhile_append_parted isDigit_of_endsToken parted,
    dropWhile_append_parted isDigit_of_endsToken parted, takeDigits]

theorem takeFraction_append_parted (parted : Parted rest) (text : List Char) :
    takeFraction (text ++ rest) = ((takeFraction text).1, (takeFraction text).2 ++ rest) := by
  fun_cases takeFraction text with
  | case1 more => simp [takeFraction, takeDigits_append_parted parted]
  | case2 _ noPoint =>
      rw [takeFraction]
      exact append_parted_ne rfl parted noPoint

theorem takeSigned_append_parted (parted : Parted rest) (text : List Char) :
    takeSigned (text ++ rest) = ((takeSigned text).1, (takeSigned text).2 ++ rest) := by
  fun_cases takeSigned text with
  | case1 more => simp [takeSigned, takeDigits_append_parted parted]
  | case2 more => simp [takeSigned, takeDigits_append_parted parted]
  | case3 _ noPlus noMinus =>
      rw [takeSigned, takeDigits_append_parted parted]
      · exact append_parted_ne rfl parted noPlus
      · exact append_parted_ne rfl parted noMinus

theorem takeExponent_append_parted (parted : Parted rest) (text : List Char) :
    takeExponent (text ++ rest) = ((takeExponent text).1, (takeExponent text).2 ++ rest) := by
  fun_cases takeExponent text with
  | case1 more => simp [takeExponent, takeSigned_append_parted parted]
  | case2 more => simp [takeExponent, takeSigned_append_parted parted]
  | case3 _ noSmall noCapital =>
      rw [takeExponent]
      · exact append_parted_ne rfl parted noSmall
      · exact append_parted_ne rfl parted noCapital

theorem readNumber_append_parted (parted : Parted rest) (text : List Char) :
    readNumber (text ++ rest) = (readNumber text).map fun read => (read.1, read.2 ++ rest) := by
  simp only [readNumber, takeDigits_append_parted parted, takeFraction_append_parted parted,
    takeExponent_append_parted parted]
  split
  · split <;> rfl
  · split <;> rfl

theorem readMark_append_parted (parted : Parted rest) (c : Char) (text : List Char) :
    readMark c (text ++ rest) = (readMark c text).map fun read => (read.1, read.2 ++ rest) := by
  fun_cases readMark c text
  case case11 other | case13 other | case15 other | case18 other | case20 other =>
    rw [readMark]
    · rfl
    · exact append_parted_ne rfl parted other
  case case21 noSign _ _ =>
    rw [readMark]
    case x_16 =>
      intro more bang
      exact append_parted_ne rfl parted (fun more => noSign more bang) more
    case x_10 | x_12 | x_14 | x_17 | x_19 =>
      intro more mark
      contradiction
    · rfl
    all_goals assumption
  all_goals rfl

/-- A second pair of opening quotes is taken off the same whatever follows. -/
theorem drop_append_of_startsWithTwo (quote : Char) (text rest : List Char) :
    (if startsWithTwo quote text then (text ++ rest).drop 2 else text ++ rest) =
      (if startsWithTwo quote text then text.drop 2 else text) ++ rest := by
  split
  · rename_i starts
    exact List.drop_append_of_le_length (length_of_startsWithTwo starts)
  · rfl

theorem readQuoted_append_blanks {quote : Char} (isQuote : QuoteMark quote)
    (blank : Text.isAllBlank blanks = true)
    (read : readQuoted quote (text ++ blanks) = .ok (token, following)) :
    ∃ left, following = left ++ blanks ∧ readQuoted quote text = .ok (token, left) := by
  unfold readQuoted at read ⊢
  rw [startsWithTwo_append isQuote text (Scanner.unquoted_of_isAllBlank blank)] at read
  obtain ⟨⟨inside, rest⟩, readInside, made⟩ := except_bind_eq_ok.mp read
  cases made
  rw [drop_append_of_startsWithTwo] at readInside
  obtain ⟨left, rfl, readAlone⟩ := readString_append_blanks isQuote blank readInside
  exact ⟨left, rfl, except_bind_eq_ok.mpr ⟨_, readAlone, rfl⟩⟩

/-- Blanks behind a token are not read. -/
theorem readToken_append_blanks (blank : Text.isAllBlank blanks = true) {c : Char}
    (read : readToken c (text ++ blanks) = .ok (token, following)) :
    ∃ left, following = left ++ blanks ∧ readToken c text = .ok (token, left) := by
  have parted := parted_of_isAllBlank blank
  have unread {result : Except SyntaxFault (Token × List Char)}
      (read : result.map (fun read => (read.1, read.2 ++ blanks)) = .ok (token, following)) :
      ∃ left, following = left ++ blanks ∧ result = .ok (token, left) := by
    cases result with
    | error fault => cases read
    | ok alone =>
        cases read
        exact ⟨alone.2, rfl, rfl⟩
  unfold readToken at read ⊢
  split at read
  · rename_i isQuote
    rw [if_pos isQuote]
    exact readQuoted_append_blanks isQuote blank read
  · rename_i notQuote
    rw [if_neg notQuote]
    split at read
    · rename_i digit
      rw [if_pos digit]
      rw [← List.cons_append, readNumber_append_parted parted] at read
      exact unread read
    · rename_i notDigit
      rw [if_neg notDigit]
      split at read
      · rename_i nameChar
        rw [if_pos nameChar]
        rw [← List.cons_append, takeWhile_append_parted isNameChar_of_endsToken parted,
          dropWhile_append_parted isNameChar_of_endsToken parted] at read
        cases read
        exact ⟨_, rfl, rfl⟩
      · rename_i isMark
        rw [if_neg isMark]
        rw [readMark_append_parted parted] at read
        exact unread read

/-- A string is read the same whatever follows it. -/
theorem readString_append {quote : Char} {triple : Bool} {content inside : List Char} (isQuote : QuoteMark quote)
    (unquoted : Unquoted rest) (read : readString quote triple content text = .ok (inside, following)) :
    readString quote triple content (text ++ rest) = .ok (inside, following ++ rest) := by
  fun_induction readString quote triple content text with
  | case1 content => cases read
  | case2 content => cases read
  | case3 content c more ih => exact ih read
  | case4 content more isTriple starts notBackslash =>
      cases read
      rw [List.cons_append, readString, if_pos rfl, if_pos isTriple, startsWithTwo_append isQuote more unquoted,
        if_pos starts, List.drop_append_of_le_length (length_of_startsWithTwo starts)]
      exact notBackslash
  | case5 content more isTriple unclosed notBackslash ih =>
      rw [List.cons_append, readString, if_pos rfl, if_pos isTriple, startsWithTwo_append isQuote more unquoted,
        if_neg unclosed]
      · exact ih read
      · exact notBackslash
  | case6 content more isSingle notBackslash =>
      cases read
      rw [List.cons_append, readString, if_pos rfl, if_neg isSingle]
      exact notBackslash
  | case7 content c more notBackslash other ih =>
      rw [List.cons_append, readString_of_ne notBackslash other]
      exact ih read

theorem readQuoted_append {quote : Char} (isQuote : QuoteMark quote) (unquoted : Unquoted rest)
    (read : readQuoted quote text = .ok (token, following)) :
    readQuoted quote (text ++ rest) = .ok (token, following ++ rest) := by
  unfold readQuoted at read ⊢
  obtain ⟨⟨inside, left⟩, readInside, made⟩ := except_bind_eq_ok.mp read
  cases made
  rw [startsWithTwo_append isQuote text unquoted]
  refine except_bind_eq_ok.mpr ⟨(inside, following ++ rest), ?_, rfl⟩
  rw [drop_append_of_startsWithTwo]
  exact readString_append isQuote unquoted readInside

/-- A token is read the same whatever follows it, if that does not go on with the token. -/
theorem readToken_append {c : Char} (parted : Parted rest) (read : readToken c text = .ok (token, following)) :
    readToken c (text ++ rest) = .ok (token, following ++ rest) := by
  unfold readToken at read ⊢
  split at read
  · rename_i isQuote
    rw [if_pos isQuote]
    exact readQuoted_append isQuote parted.unquoted read
  · rename_i notQuote
    rw [if_neg notQuote]
    split at read
    · rename_i digit
      rw [if_pos digit, ← List.cons_append, readNumber_append_parted parted, read]
      rfl
    · rename_i notDigit
      rw [if_neg notDigit]
      split at read
      · rename_i nameChar
        cases read
        rw [if_pos nameChar, ← List.cons_append, takeWhile_append_parted isNameChar_of_endsToken parted,
          dropWhile_append_parted isNameChar_of_endsToken parted]
      · rename_i isMark
        rw [if_neg isMark, readMark_append_parted parted, read]
        rfl

theorem ofText_cons_of_isBlank {c : Char} (blank : Text.isBlank c = true) (rest : List Char) :
    ofText (c :: rest) = ofText rest := by
  rw [ofText, if_pos blank]

theorem ofText_blanks_append (blank : Text.isAllBlank blanks = true) (text : List Char) :
    ofText (blanks ++ text) = ofText text := by
  induction blanks with
  | nil => rfl
  | cons c blanks ih =>
      obtain ⟨first, others⟩ := Text.isAllBlank_cons.mp blank
      rw [List.cons_append, ofText_cons_of_isBlank first, ih others]

theorem ofText_eq_ok_cons_iff {c : Char} {rest : List Char} (visible : Text.isBlank c = false)
    {tokens : List Token} :
    ofText (c :: rest) = .ok tokens ↔
      ∃ token following others, readToken c rest = .ok (token, following) ∧
        ofText following = .ok others ∧ tokens = token :: others := by
  rw [ofText, if_neg (by simp [visible])]
  split
  · rename_i readFault
    simp [readFault]
  · rename_i token following read
    cases lexed : ofText following with
    | error fault => simp [read, lexed]
    | ok others =>
        constructor
        · intro made
          cases made
          exact ⟨token, following, others, read, lexed, rfl⟩
        · rintro ⟨_, _, _, readAgain, lexedAgain, rfl⟩
          rw [read] at readAgain
          cases readAgain
          rw [lexed] at lexedAgain
          cases lexedAgain
          rfl

/-- Blanks at the end of a text do not count. -/
theorem ofText_of_append_blanks (blank : Text.isAllBlank blanks = true) {tokens : List Token}
    (lexed : ofText (text ++ blanks) = .ok tokens) : ofText text = .ok tokens := by
  -- A token takes away at least one character, so the induction is on how many there are.
  induction count : text.length using Nat.strongRecOn generalizing text tokens with
  | ind length ih =>
      cases text with
      | nil => rwa [List.nil_append, ← List.append_nil blanks, ofText_blanks_append blank] at lexed
      | cons c rest =>
          rw [List.cons_append] at lexed
          rw [List.length_cons] at count
          cases visible : Text.isBlank c with
          | true =>
              rw [ofText_cons_of_isBlank visible] at lexed ⊢
              exact ih rest.length (by omega) lexed rfl
          | false =>
              obtain ⟨token, following, others, readMore, lexedMore, rfl⟩ :=
                (ofText_eq_ok_cons_iff visible).mp lexed
              obtain ⟨left, rfl, readAlone⟩ := readToken_append_blanks blank readMore
              have fewer := length_of_readToken readAlone
              have lexedAlone := ih left.length (by omega) lexedMore rfl
              exact (ofText_eq_ok_cons_iff visible).mpr
                ⟨token, left, others, readAlone, lexedAlone, rfl⟩

/-- The tokens of a text stay the same whatever follows, if that does not go on with the last one. -/
theorem ofText_append {tokens others : List Token} (parted : Parted rest) (lexed : ofText text = .ok tokens)
    (lexedRest : ofText rest = .ok others) : ofText (text ++ rest) = .ok (tokens ++ others) := by
  induction count : text.length using Nat.strongRecOn generalizing text tokens with
  | ind length ih =>
      cases text with
      | nil =>
          rw [ofText] at lexed
          cases lexed
          exact lexedRest
      | cons c more =>
          rw [List.length_cons] at count
          rw [List.cons_append]
          cases visible : Text.isBlank c with
          | true =>
              rw [ofText_cons_of_isBlank visible] at lexed ⊢
              exact ih more.length (by omega) lexed rfl
          | false =>
              obtain ⟨token, following, later, read, lexedLater, rfl⟩ := (ofText_eq_ok_cons_iff visible).mp lexed
              have fewer := length_of_readToken read
              have lexedBoth := ih following.length (by omega) lexedLater rfl
              exact (ofText_eq_ok_cons_iff visible).mpr
                ⟨token, following ++ rest, later ++ others, readToken_append parted read, lexedBoth, rfl⟩

/-- A text that has tokens has the same ones without the blanks at its ends. -/
theorem ofText_trim {tokens : List Token} (lexed : ofText text = .ok tokens) :
    ofText (Text.trim text) = .ok tokens := by
  obtain ⟨before, blankBefore, splitStart⟩ := Text.exists_trimStart_eq text
  obtain ⟨behind, blankBehind, splitEnd⟩ := Text.exists_trimEnd_eq (Text.trimStart text)
  rw [splitStart, ofText_blanks_append blankBefore, splitEnd] at lexed
  exact ofText_of_append_blanks blankBehind lexed

end GroupScript.Token
