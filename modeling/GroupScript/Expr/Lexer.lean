import GroupScript.Decimal.Read
import GroupScript.Error
import GroupScript.Text.Blank
import GroupScript.Text.Word

/-!
# Reading tokens

The tokens of a text, from left to right.  Blanks separate tokens and are otherwise ignored.  A string is
written between single or double quotes, once or three times; a backslash takes the next character
literally, except that `\n` and `\t` stand for a line feed and a tab.
-/

namespace GroupScript.Token

/-- The token of a word: a keyword, or else a name. -/
def ofWord (word : List Char) : Token :=
  match String.ofList word with
  | "True" => .bool true
  | "False" => .bool false
  | "None" => .none
  | "and" => .and
  | "or" => .or
  | "not" => .not
  | "in" => .isIn
  | text => .name text

/-- The character that an escape sequence stands for, by the character after the backslash. -/
def escapedChar (c : Char) : Char :=
  if c = 'n' then '\n' else if c = 't' then '\t' else c

/-- Whether a text starts with two quotes of the given kind. -/
def startsWithTwo (quote : Char) : List Char → Bool
  | c :: d :: _ => c == quote && d == quote
  | _ => false

/-- Reads the inside of a string up to its closing quotes and gives it with the text that follows. -/
def readString (quote : Char) (triple : Bool) :
    (content : List Char) → List Char → Except SyntaxFault (List Char × List Char)
  | _, [] => .error .unclosedString
  | content, '\\' :: rest =>
      match rest with
      | [] => .error .unterminatedEscape
      | c :: rest => readString quote triple (escapedChar c :: content) rest
  | content, c :: rest =>
      if c = quote then
        if triple then
          if startsWithTwo quote rest then .ok (content.reverse, rest.drop 2)
          else readString quote triple (c :: content) rest
        else .ok (content.reverse, rest)
      else readString quote triple (c :: content) rest

theorem length_of_readString {quote : Char} {triple : Bool} {content text inside rest : List Char}
    (read : readString quote triple content text = .ok (inside, rest)) :
    rest.length < text.length := by
  fun_induction readString quote triple content text <;> grind

/-- Splits the digits at the start of a text from the rest. -/
def takeDigits (text : List Char) : List Char × List Char :=
  (text.takeWhile Decimal.isDigit, text.dropWhile Decimal.isDigit)

/-- Splits a point and the digits after it from the rest of a text, if it starts with a point. -/
def takeFraction : List Char → List Char × List Char
  | '.' :: rest => ('.' :: (takeDigits rest).1, (takeDigits rest).2)
  | text => ([], text)

/-- Splits a sign and the digits after it from the rest of a text; the sign may be absent. -/
def takeSigned : List Char → List Char × List Char
  | '+' :: rest => ('+' :: (takeDigits rest).1, (takeDigits rest).2)
  | '-' :: rest => ('-' :: (takeDigits rest).1, (takeDigits rest).2)
  | text => takeDigits text

/-- Splits an exponent from the rest of a text, if it starts with the mark of one. -/
def takeExponent : List Char → List Char × List Char
  | 'e' :: rest => ('e' :: (takeSigned rest).1, (takeSigned rest).2)
  | 'E' :: rest => ('E' :: (takeSigned rest).1, (takeSigned rest).2)
  | text => ([], text)

theorem takeDigits_append (text : List Char) : (takeDigits text).1 ++ (takeDigits text).2 = text :=
  List.takeWhile_append_dropWhile

theorem takeFraction_append (text : List Char) :
    (takeFraction text).1 ++ (takeFraction text).2 = text := by
  unfold takeFraction
  split <;> simp [takeDigits_append]

theorem takeSigned_append (text : List Char) :
    (takeSigned text).1 ++ (takeSigned text).2 = text := by
  unfold takeSigned
  split <;> simp [takeDigits_append]

theorem takeExponent_append (text : List Char) :
    (takeExponent text).1 ++ (takeExponent text).2 = text := by
  unfold takeExponent
  split <;> simp [takeSigned_append]

/-- Reads a number: digits, with an optional fraction and an optional exponent.  A number that has neither
is whole. -/
def readNumber (text : List Char) : Except SyntaxFault (Token × List Char) :=
  let (whole, afterWhole) := takeDigits text
  let (fraction, afterFraction) := takeFraction afterWhole
  let (exponent, rest) := takeExponent afterFraction
  if fraction.isEmpty && exponent.isEmpty then
    match Decimal.readInteger? whole with
    | some value => .ok (.int value, rest)
    | Option.none => .error (.badInteger (String.ofList whole))
  else
    let shown := whole ++ fraction ++ exponent
    match Decimal.readFloat? shown with
    | some value => .ok (.float value, rest)
    | Option.none => .error (.badFloat (String.ofList shown))

/-- The token of a mark, which may be of two characters, with the text that follows. -/
def readMark (c : Char) (rest : List Char) : Except SyntaxFault (Token × List Char) :=
  match c, rest with
  | '(', rest => .ok (.parenLeft, rest)
  | ')', rest => .ok (.parenRight, rest)
  | '[', rest => .ok (.bracketLeft, rest)
  | ']', rest => .ok (.bracketRight, rest)
  | ',', rest => .ok (.comma, rest)
  | '.', rest => .ok (.dot, rest)
  | '+', rest => .ok (.plus, rest)
  | '-', rest => .ok (.minus, rest)
  | '%', rest => .ok (.percent, rest)
  | '*', '*' :: rest => .ok (.starStar, rest)
  | '*', rest => .ok (.star, rest)
  | '/', '/' :: rest => .ok (.slashSlash, rest)
  | '/', rest => .ok (.slash, rest)
  | '=', '=' :: rest => .ok (.eqEq, rest)
  | '=', rest => .ok (.assign, rest)
  | '!', '=' :: rest => .ok (.notEq, rest)
  | '<', '=' :: rest => .ok (.le, rest)
  | '<', rest => .ok (.lt, rest)
  | '>', '=' :: rest => .ok (.ge, rest)
  | '>', rest => .ok (.gt, rest)
  | c, _ => .error (.unexpectedCharacter c)

/-- Reads a string from its opening quote on. -/
def readQuoted (quote : Char) (rest : List Char) : Except SyntaxFault (Token × List Char) := do
  let triple := startsWithTwo quote rest
  let (inside, rest) ← readString quote triple [] (if triple then rest.drop 2 else rest)
  return (.string (String.ofList inside), rest)

/-- Reads the token that starts with a given character, which is not blank. -/
def readToken (c : Char) (rest : List Char) : Except SyntaxFault (Token × List Char) :=
  if c = '\'' ∨ c = '"' then readQuoted c rest
  else if Decimal.isDigit c then readNumber (c :: rest)
  else if Text.isNameChar c then
    .ok (ofWord ((c :: rest).takeWhile Text.isNameChar), (c :: rest).dropWhile Text.isNameChar)
  else readMark c rest

theorem length_of_readQuoted {quote : Char} {text rest : List Char} {token : Token}
    (read : readQuoted quote text = .ok (token, rest)) : rest.length ≤ text.length := by
  unfold readQuoted at read
  cases inside : readString quote (startsWithTwo quote text) []
      (if startsWithTwo quote text then text.drop 2 else text) with
  | error fault => simp [inside, bind, Except.bind] at read
  | ok result =>
      simp only [inside, bind, Except.bind, pure, Except.pure, Except.ok.injEq,
        Prod.mk.injEq] at read
      have shorter : result.2.length < _ := length_of_readString inside
      grind

theorem rest_of_readNumber {text rest : List Char} {token : Token}
    (read : readNumber text = .ok (token, rest)) :
    rest = (takeExponent (takeFraction (takeDigits text).2).2).2 := by
  unfold readNumber at read
  grind

theorem length_of_readNumber {c : Char} {text rest : List Char} {token : Token}
    (digit : Decimal.isDigit c) (read : readNumber (c :: text) = .ok (token, rest)) :
    rest.length ≤ text.length := by
  have afterDigits := congrArg List.length (takeDigits_append (c :: text))
  have afterFraction := congrArg List.length (takeFraction_append (takeDigits (c :: text)).2)
  have afterExponent := congrArg List.length
    (takeExponent_append (takeFraction (takeDigits (c :: text)).2).2)
  have nonempty : 0 < (takeDigits (c :: text)).1.length := by simp [takeDigits, digit]
  simp only [List.length_append, List.length_cons] at afterDigits afterFraction afterExponent
  rw [rest_of_readNumber read]
  omega

theorem length_of_readMark {c : Char} {text rest : List Char} {token : Token}
    (read : readMark c text = .ok (token, rest)) : rest.length ≤ text.length := by
  unfold readMark at read
  split at read <;> grind

/-- Reading a token leaves no more text than follows its first character. -/
theorem length_of_readToken {c : Char} {text rest : List Char} {token : Token}
    (read : readToken c text = .ok (token, rest)) : rest.length ≤ text.length := by
  unfold readToken at read
  split at read
  · exact length_of_readQuoted read
  · split at read
    · exact length_of_readNumber ‹_› read
    · split at read
      · rename_i nameChar
        simp only [Except.ok.injEq, Prod.mk.injEq] at read
        rw [← read.2, List.dropWhile_cons_of_pos nameChar]
        exact Text.length_dropWhile_le ..
      · exact length_of_readMark read

/-- The tokens of a text. -/
def ofText (text : List Char) : Except SyntaxFault (List Token) :=
  match text with
  | [] => .ok []
  | c :: rest =>
      if Text.isBlank c then ofText rest
      else
        match _read : readToken c rest with
        | .error fault => .error fault
        | .ok (token, following) =>
            match ofText following with
            | .error fault => .error fault
            | .ok tokens => .ok (token :: tokens)
termination_by text.length
decreasing_by
  · simp
  · have := length_of_readToken _read
    simp only [List.length_cons]
    omega

end GroupScript.Token
