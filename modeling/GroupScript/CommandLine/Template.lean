/-!
# Templates

A template is filled with texts: each pair of braces in it stands for the next one.
-/

namespace GroupScript.CommandLine

/-- Whether a character is a brace. -/
def isBrace (c : Char) : Bool :=
  c == '\x7b' || c == '\x7d'

/-- Fills a template.  An opening brace right before a closing one stands for the next text; any other brace is
dropped, and the character after it is copied as it is. -/
def fill : List Char → List (List Char) → List Char
  | [], _ => []
  | [c], _ => if isBrace c then [] else [c]
  | c :: d :: rest, texts =>
      if c = '\x7b' ∧ d = '\x7d' then texts.headD [] ++ fill rest (texts.drop 1)
      else if isBrace c then d :: fill rest texts
      else c :: fill (d :: rest) texts

end GroupScript.CommandLine
