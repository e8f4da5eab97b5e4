import GroupScript.Text.Shapeless

/-!
# Quoted texts

Two written forms of a text.  Values inside a list are shown in single quotes, in the form that the
language reads back.  Diagnostics show a text in double quotes, where every character without a shape
of its own is given by its code point.
-/

namespace GroupScript.Text

/-- The written form of one character between single quotes. -/
def singleQuotedChar (c : Char) : List Char :=
  if c = '\\' then ['\\', '\\']
  else if c = '\'' then ['\\', '\'']
  else if c = '\n' then ['\\', 'n']
  else [c]

/-- A text in single quotes, as it is written inside a list. -/
def singleQuoted (text : List Char) : List Char :=
  '\'' :: (text.flatMap singleQuotedChar ++ ['\''])

/-- The digits of a number in base sixteen, in lower case and without leading zeros. -/
def hexDigits (n : Nat) : List Char :=
  Nat.toDigits 16 n

/-- The written form of one character between double quotes. -/
def doubleQuotedChar (c : Char) : List Char :=
  if c = '"' then ['\\', '"']
  else if c = '\\' then ['\\', '\\']
  else if c = '\n' then ['\\', 'n']
  else if c = '\r' then ['\\', 'r']
  else if c = '\t' then ['\\', 't']
  else if c.toNat = 0 then ['\\', '0']
  else if isShapeless c then ['\\', 'u', '\x7b'] ++ hexDigits c.toNat ++ ['\x7d']
  else [c]

/-- A text in double quotes, as diagnostics show it. -/
def doubleQuoted (text : List Char) : List Char :=
  '"' :: (text.flatMap doubleQuotedChar ++ ['"'])

end GroupScript.Text
