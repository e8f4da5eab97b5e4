/-!
# Cutting and joining texts

A text is cut at every occurrence of a separator, from left to right and without overlap, and pieces
are joined by writing a separator between each two.  Lines are cut after line feeds, and a carriage return
right before a line feed belongs to the line end.  With their ends, the lines of a text make up the text.
-/

namespace GroupScript.Text

/-- The text after a given start, if it does start so. -/
def dropStart? : (start text : List Char) → Option (List Char)
  | [], text => some text
  | _ :: _, [] => none
  | c :: start, d :: text => if c = d then dropStart? start text else none

/-- Whether the first text starts the second. -/
def startsWith (start text : List Char) : Bool :=
  (dropStart? start text).isSome

/-- Whether the first text occurs in the second. -/
def occursIn (part : List Char) : List Char → Bool
  | [] => part.isEmpty
  | c :: text => startsWith part (c :: text) || occursIn part text

/-- The pieces of a text between the occurrences of a separator.  The first argument counts the
characters of a separator found that are still to be passed over. -/
def piecesFrom (separator : List Char) : Nat → List Char → List (List Char)
  | _, [] => [[]]
  | passed + 1, _ :: text => piecesFrom separator passed text
  | 0, c :: text =>
      if startsWith separator (c :: text) then
        [] :: piecesFrom separator (separator.length - 1) text
      else
        match piecesFrom separator 0 text with
        | [] => [[c]]
        | piece :: pieces => (c :: piece) :: pieces

/-- The pieces of a text between the occurrences of a separator that is not empty. -/
def pieces (separator text : List Char) : List (List Char) :=
  piecesFrom separator 0 text

/-- The pieces joined with a separator between each two. -/
def joinWith (separator : List Char) : List (List Char) → List Char
  | [] => []
  | [piece] => piece
  | piece :: next :: rest => piece ++ separator ++ joinWith separator (next :: rest)

/-- Joins strings with a separator between each two. -/
def joinStrings (separator : String) (parts : List String) : String :=
  String.ofList (joinWith separator.toList (parts.map String.toList))

/-- The parts of a string between the occurrences of one character. -/
def partsAt (separator : Char) (text : String) : List String :=
  (pieces [separator] text.toList).map String.ofList

/-- A line without the carriage return at its end. -/
def dropCarriageReturn (line : List Char) : List Char :=
  if line.getLast? = some '\r' then line.dropLast else line

/-- A line without its end. -/
def dropLineEnd (line : List Char) : List Char :=
  if line.getLast? = some '\n' then dropCarriageReturn line.dropLast else line

/-- The lines of a text with their ends, the first of which goes on from some characters, given with the last one
first. -/
def endedLinesFrom : (current : List Char) → List Char → List (List Char)
  | [], [] => []
  | current, [] => [current.reverse]
  | current, '\n' :: text => ('\n' :: current).reverse :: endedLinesFrom [] text
  | current, c :: text => endedLinesFrom (c :: current) text

/-- The lines of a text with their ends.  A line feed ends a line, so a text that ends in one has no empty last
line. -/
def endedLines (text : List Char) : List (List Char) :=
  endedLinesFrom [] text

/-- The lines of a text. -/
def lines (text : List Char) : List (List Char) :=
  (endedLines text).map dropLineEnd

theorem length_dropCarriageReturn_le (line : List Char) :
    (dropCarriageReturn line).length ≤ line.length := by
  unfold dropCarriageReturn
  split <;> simp

theorem length_dropLineEnd_le (line : List Char) : (dropLineEnd line).length ≤ line.length := by
  have := length_dropCarriageReturn_le line.dropLast
  unfold dropLineEnd
  split
  · simp only [List.length_dropLast] at this
    omega
  · exact Nat.le_refl _

end GroupScript.Text
