import GroupScript.Expr.Lexer
import GroupScript.Text.Pieces

/-!
# Scanning statement text

The scanner keeps track of strings and of the depth of brackets across the characters of a text.  Everything
that looks for a mark in a statement looks at the characters outside strings only, together with the opening
quote of each string.
-/

namespace GroupScript

/-- The quotes that opened a string. -/
structure Quote where
  mark : Char
  triple : Bool
  deriving DecidableEq, Repr, Inhabited

/-- What the scanner remembers of the characters it has seen. -/
structure Scanner where
  /-- The number of opening brackets minus the number of closing ones, kept in 32 bits. -/
  depth : Int32 := 0
  /-- The quotes of the string that is open. -/
  quote : Option Quote := none
  /-- Whether the next character of the string is taken literally. -/
  escaped : Bool := false
  deriving DecidableEq, Repr, Inhabited

/-- A character outside strings with its surroundings. -/
structure Visit where
  before : Option Char
  char : Char
  after : List Char
  depth : Int32

namespace Scanner

/-- Whether a string is open. -/
def inString (scanner : Scanner) : Bool :=
  scanner.quote.isSome

/-- Whether the text seen so far needs further lines. -/
def isOpen (scanner : Scanner) : Bool :=
  decide (0 < scanner.depth) || scanner.inString

/-- Takes in a character outside strings; the number says how many characters after it belong to it. -/
def stepOutside (scanner : Scanner) (c : Char) (rest : List Char) : Scanner × Nat :=
  if c = '\'' ∨ c = '"' then
    let triple := Token.startsWithTwo c rest
    ({ scanner with quote := some ⟨c, triple⟩ }, if triple then 2 else 0)
  else if c = '(' ∨ c = '[' ∨ c = '\x7b' then
    ({ scanner with depth := scanner.depth + 1 }, 0)
  else if c = ')' ∨ c = ']' ∨ c = '\x7d' then
    ({ scanner with depth := scanner.depth - 1 }, 0)
  else (scanner, 0)

/-- Takes in a character of a string; the number says how many characters after it belong to it. -/
def stepInside (scanner : Scanner) (quote : Quote) (c : Char) (rest : List Char) : Scanner × Nat :=
  if scanner.escaped then ({ scanner with escaped := false }, 0)
  else if c = '\\' then ({ scanner with escaped := true }, 0)
  else if c = quote.mark then
    if quote.triple then
      if Token.startsWithTwo c rest then ({ scanner with quote := none }, 2) else (scanner, 0)
    else ({ scanner with quote := none }, 0)
  else (scanner, 0)

/-- Takes in a character; the number says how many characters after it belong to it. -/
def step (scanner : Scanner) (c : Char) (rest : List Char) : Scanner × Nat :=
  match scanner.quote with
  | some quote => scanner.stepInside quote c rest
  | none => scanner.stepOutside c rest

/-- Takes in a text up to the first character outside strings at which `stop` holds, and gives the position of
that character.  The first number counts the characters to be passed over, and `before` is the character before
the text. -/
def scan (stop : Visit → Bool) :
    Nat → Option Char → Scanner → List Char → Option Nat × Scanner
  | _, _, scanner, [] => (none, scanner)
  | skipped + 1, _, scanner, c :: rest =>
      let (found, scanner) := scan stop skipped (some c) scanner rest
      (found.map (· + 1), scanner)
  | 0, before, scanner, c :: rest =>
      if !scanner.inString && stop ⟨before, c, rest, scanner.depth⟩ then (some 0, scanner)
      else
        let (next, skipped) := scanner.step c rest
        let (found, scanner) := scan stop skipped (some c) next rest
        (found.map (· + 1), scanner)

/-- Takes in a text up to the first character outside strings at which `stop` holds. -/
def feed (scanner : Scanner) (stop : Visit → Bool) (text : List Char) : Option Nat × Scanner :=
  scan stop 0 none scanner text

/-- At the end of a line a string in single quotes ends as well. -/
def endLine (scanner : Scanner) : Scanner :=
  match scanner.quote with
  | some ⟨_, false⟩ => { scanner with quote := none, escaped := false }
  | _ => scanner

/-- A found position lies in the text. -/
theorem scan_lt {stop : Visit → Bool} {skipped : Nat} {before : Option Char} {scanner : Scanner}
    {text : List Char} {position : Nat} (found : (scan stop skipped before scanner text).1 = some position) :
    position < text.length := by
  induction text generalizing skipped before scanner position with
  | nil => cases skipped <;> simp [scan] at found
  | cons c rest ih =>
      cases skipped with
      | succ skipped =>
          simp only [scan, Option.map_eq_some_iff] at found
          obtain ⟨place, placed, rfl⟩ := found
          have := ih placed
          simp only [List.length_cons]
          omega
      | zero =>
          simp only [scan] at found
          split at found
          · simp only [Option.some.injEq] at found
            simp only [List.length_cons]
            omega
          · simp only [Option.map_eq_some_iff] at found
            obtain ⟨place, placed, rfl⟩ := found
            have := ih placed
            simp only [List.length_cons]
            omega

end Scanner

namespace Source

/-- The position of the first character outside strings at which a test holds. -/
def find (test : Visit → Bool) (text : List Char) : Option Nat :=
  (({} : Scanner).feed test text).1

/-- The position of a character outside strings. -/
def findUnquoted (c : Char) (text : List Char) : Option Nat :=
  find (fun visit => visit.char == c) text

/-- The position of a character outside strings and brackets. -/
def findTopLevel (c : Char) (text : List Char) : Option Nat :=
  find (fun visit => visit.char == c && visit.depth == 0) text

/-- Whether a sign of equality after this character belongs to a comparison. -/
def startsComparison (c : Char) : Bool :=
  c == '=' || c == '!' || c == '<' || c == '>'

/-- The position of the sign of an assignment: a sign of equality outside strings and brackets that is not part
of a comparison. -/
def findAssign (text : List Char) : Option Nat :=
  find (fun visit =>
    visit.char == '=' && visit.depth == 0 && !visit.before.any startsComparison &&
      visit.after.head? != some '=') text

/-- The position of a word outside strings and brackets that is not part of a longer name. -/
def findWord (word text : List Char) : Option Nat :=
  find (fun visit =>
    visit.depth == 0 &&
      match Text.dropStart? word (visit.char :: visit.after) with
      | none => false
      | some rest => !visit.before.any Text.isNameChar && !rest.head?.any Text.isNameChar) text

/-- The bracket that closes one of the two brackets that may enclose a list of arguments. -/
def closerOf : Char → Option Char
  | '(' => some ')'
  | '[' => some ']'
  | _ => none

/-- The text without blanks at its ends and without one pair of brackets that spans all of it. -/
def stripEnclosing (text : List Char) : List Char :=
  let trimmed := Text.trim text
  match trimmed.head?.bind closerOf with
  | none => trimmed
  | some closer =>
      match find (fun visit => visit.char == closer && visit.depth == 1) trimmed with
      | some position =>
          if position + 1 = trimmed.length then (trimmed.drop 1).take (position - 1) else trimmed
      | none => trimmed

/-- Takes in a line and drops the comment at its end together with the blanks before it. -/
def stripComment (scanner : Scanner) (line : List Char) : List Char × Scanner :=
  match scanner.feed (fun visit => visit.char == '#') line with
  | (some position, after) => (Text.trimEnd (line.take position), after.endLine)
  | (none, after) => (line, after.endLine)

theorem findUnquoted_lt {c : Char} {text : List Char} {position : Nat}
    (found : findUnquoted c text = some position) : position < text.length :=
  Scanner.scan_lt found

theorem length_stripComment_le (scanner : Scanner) (line : List Char) :
    (stripComment scanner line).1.length ≤ line.length := by
  unfold stripComment
  split
  · exact Nat.le_trans (Text.length_trimEnd_le _) (List.length_take_le' ..)
  · exact Nat.le_refl _

end Source

end GroupScript
