/-!
# The bracket check

Before a line that starts a statement is accepted from a session, its brackets are checked: every closing
bracket must belong to the opening bracket that was opened last.  Brackets in strings and after the start of a
comment do not count, and brackets left open are fine, because further lines can close them.
-/

namespace GroupScript

/-- A bracket without its partner. -/
inductive BracketFault
  | notClosed (bracket : Char)
  | notPaired (bracket : Char)
  deriving DecidableEq, Repr

/-- The wording of a bracket fault. -/
def BracketFault.text : BracketFault → String
  | notClosed bracket => bracket.toString ++ " is not closed"
  | notPaired bracket => bracket.toString ++ " is not paired"

namespace Source

/-- Whether a character opens a bracket. -/
def isOpener (c : Char) : Bool :=
  c == '(' || c == '[' || c == '\x7b'

/-- The opening bracket of a closing one. -/
def openerOf : Char → Option Char
  | ')' => some '('
  | ']' => some '['
  | '\x7d' => some '\x7b'
  | _ => none

mutual

/-- Checks text outside strings, given the brackets that are open, the last one first. -/
def checkOutside (opened : List Char) : List Char → Option BracketFault
  | [] => none
  | c :: rest =>
      if c = '#' then none
      else if c = '\'' ∨ c = '"' then checkInside opened c false rest
      else if isOpener c then checkOutside (c :: opened) rest
      else
        match openerOf c, opened with
        | none, opened => checkOutside opened rest
        | some opener, last :: others =>
            if last = opener then checkOutside others rest else some (.notClosed last)
        | some _, [] => some (.notPaired c)

/-- Checks text inside a string that was opened by a given quote. -/
def checkInside (opened : List Char) (quote : Char) (escaped : Bool) : List Char → Option BracketFault
  | [] => none
  | c :: rest =>
      if escaped then checkInside opened quote false rest
      else if c = '\\' then checkInside opened quote true rest
      else if c = quote then checkOutside opened rest
      else checkInside opened quote false rest

end

/-- The first bracket of a line without its partner. -/
def bracketFault? (line : List Char) : Option BracketFault :=
  checkOutside [] line

end Source

end GroupScript
