import GroupScript.Source.Scanner
import GroupScript.Text.Pieces

/-!
# Logical lines

Statements are read from physical lines.  Lines wait in a queue; when it is empty they are asked for from a
reader, with a prompt that tells whether a statement is being continued.  A line continues as long as a
bracket or a string in triple quotes is open, a comment ends with its line, and a semicolon separates two
statements on one line.

The lines a reader will give are part of its state, so the whole of the unread text is known; how it answers a request
from them is up to the reader.  The size of the unread text, `unread`, falls with every line read, which is why reading
ends.
-/

namespace GroupScript

/-- A physical line. -/
structure Line where
  text : List Char
  number : Nat
  file : String
  deriving Inhabited

/-- A statement as text, with the word it begins with in lower case. -/
structure LogicalLine where
  text : List Char
  key : String
  number : Nat
  file : String
  deriving Inhabited

/-- The word that a statement begins with, in lower case. -/
def keyOf (text : List Char) : String :=
  String.ofList ((text.takeWhile Text.isNameChar).map Char.toLower)

/-- The logical line of a text. -/
def LogicalLine.ofText (text : List Char) (number : Nat) (file : String) : LogicalLine :=
  ⟨text, keyOf text, number, file⟩

/-- The text after the word that a statement begins with. -/
def LogicalLine.rest (line : LogicalLine) : List Char :=
  Text.trim (line.text.dropWhile Text.isNameChar)

/-- Where a logical line stands. -/
def LogicalLine.place (line : LogicalLine) : Place :=
  ⟨line.file, line.number, String.ofList line.text⟩

/-- The size of some lines: their characters and one for each line end. -/
def linesSize : List (List Char) → Nat
  | [] => 0
  | line :: lines => line.length + 1 + linesSize lines

/-- What a reader answers to a request: a line or the end of its lines, the lines left, and what it reports. -/
structure Reply where
  line : Option (List Char)
  left : List (List Char)
  notices : List String := []

/-- How requests are answered, from the prompt and the lines that are left.  A line uses up at least as much text as it
has, and lines end for good. -/
structure ReplyRule where
  reply : String → List (List Char) → Reply
  uses : ∀ prompt lines,
    ((reply prompt lines).line.map fun line => line.length + 1).getD 0 + linesSize (reply prompt lines).left ≤
      linesSize lines
  ends : ∀ prompt lines, (reply prompt lines).line = none → (reply prompt lines).left = []

/-- Every request is answered by the next line. -/
def ReplyRule.lineByLine : ReplyRule where
  reply := fun _ lines => ⟨lines.head?, lines.drop 1, []⟩
  uses := fun _ lines => by cases lines <;> simp [linesSize]
  ends := fun _ lines ended => by
    rw [List.head?_eq_none_iff.mp ended]
    rfl

instance : Inhabited ReplyRule := ⟨.lineByLine⟩

/-- A source of lines that are given on request. -/
structure Reader where
  lines : List (List Char)
  rule : ReplyRule := .lineByLine
  deriving Inhabited

/-- The answer of a reader to a request. -/
def Reader.read (reader : Reader) (prompt : String) : Reply :=
  reader.rule.reply prompt reader.lines

/-- The lines still to be read. -/
structure Input where
  queue : List Line := []
  reader : Option Reader := none
  prompt : String := ""
  continuationPrompt : String := ""
  /-- The number of blocks that are open. -/
  blockDepth : Nat := 0
  /-- The number of lines that the reader has given. -/
  linesGiven : Nat := 0
  /-- The prompts under which lines were requested, in order. -/
  requests : Array String := #[]
  /-- What the reader reported, in order. -/
  notices : Array String := #[]
  deriving Inhabited

/-- The file name of lines that come from a reader. -/
def readerFile : String := "<stdin>"

namespace Input

/-- Numbers the lines of a text and gives them a file name. -/
def numbered (file : String) : Nat → List (List Char) → List Line
  | _, [] => []
  | number, text :: rest => ⟨text, number, file⟩ :: numbered file (number + 1) rest

/-- Puts the lines of a text at the end of the queue. -/
def pushText (input : Input) (text : List Char) (file : String) : Input :=
  { input with queue := input.queue ++ numbered file 1 (Text.lines text) }

/-- Drops the lines in the queue and leaves all blocks. -/
def clear (input : Input) : Input :=
  { input with queue := [], blockDepth := 0 }

/-- Enters a block. -/
def enterBlock (input : Input) : Input :=
  { input with blockDepth := input.blockDepth + 1 }

/-- Leaves a block. -/
def leaveBlock (input : Input) : Input :=
  { input with blockDepth := input.blockDepth - 1 }

/-- The size of all text not read yet. -/
def unread (input : Input) : Nat :=
  linesSize (input.queue.map Line.text) + linesSize ((input.reader.map Reader.lines).getD [])

/-- The prompt of the next request: the first line of a statement outside all blocks is asked for with the primary
prompt. -/
def currentPrompt (input : Input) (continuation : Bool) : String :=
  if continuation || input.blockDepth != 0 then input.continuationPrompt else input.prompt

/-- The input after a reader has replied to a request under a prompt. -/
def afterReply (input : Input) (reader : Reader) (prompt : String) (reply : Reply) : Input :=
  { input with
    reader := some { reader with lines := reply.left }
    linesGiven := input.linesGiven + (if reply.line.isSome then 1 else 0)
    requests := input.requests.push prompt
    notices := input.notices ++ reply.notices.toArray }

/-- Asks a reader for a line. -/
def ask (input : Input) (reader : Reader) (continuation : Bool) : Option Line × Input :=
  let prompt := input.currentPrompt continuation
  let reply := reader.read prompt
  (reply.line.map fun text => ⟨text, input.linesGiven + 1, readerFile⟩,
    input.afterReply reader prompt reply)

/-- Takes the next physical line. -/
def nextLine (input : Input) (continuation : Bool) : Option Line × Input :=
  match input.queue, input.reader with
  | line :: queue, _ => (some line, { input with queue })
  | [], none => (none, input)
  | [], some reader => input.ask reader continuation

/-- The size of the next line with its end, or zero if there is none. -/
def lineSize (line : Option Line) : Nat :=
  (line.map fun line => line.text.length + 1).getD 0

/-- Taking a line makes the unread text smaller by at least the line and its end. -/
theorem unread_nextLine (input : Input) (continuation : Bool) :
    lineSize (input.nextLine continuation).1 + (input.nextLine continuation).2.unread ≤
      input.unread := by
  unfold nextLine
  split
  · rename_i queued
    simp [lineSize, unread, linesSize, queued]
    omega
  · simp [lineSize]
  · rename_i empty given
    have := ‹Reader›.rule.uses (input.currentPrompt continuation) ‹Reader›.lines
    simp [ask, afterReply, Reader.read, lineSize, unread, linesSize, empty, given, Function.comp_def] at this ⊢
    omega

theorem unread_of_nextLine {input after : Input} {continuation : Bool} {line : Line}
    (taken : input.nextLine continuation = (some line, after)) :
    line.text.length + 1 + after.unread ≤ input.unread := by
  simpa [taken, lineSize] using unread_nextLine input continuation

theorem unread_of_end {input after : Input} {continuation : Bool}
    (taken : input.nextLine continuation = (none, after)) : after.unread ≤ input.unread := by
  simpa [taken, lineSize] using unread_nextLine input continuation

/-- Reads on while a bracket or a string is open, and gives the whole text.  Lines inside a string are taken as
they are and joined by a line feed, others are trimmed and joined by a blank. -/
def joinLines (scanner : Scanner) (text : List Char) (input : Input) : List Char × Input :=
  if scanner.isOpen then
    match _taken : input.nextLine true with
    | (none, input) => (text, input)
    | (some line, input) =>
        if scanner.inString then
          let (kept, scanner) := Source.stripComment scanner line.text
          joinLines scanner (text ++ '\n' :: kept) input
        else
          let (kept, scanner) := Source.stripComment scanner (Text.trim line.text)
          joinLines scanner (text ++ ' ' :: kept) input
  else (text, input)
termination_by input.unread
decreasing_by
  all_goals
    have := unread_of_nextLine _taken
    omega

/-- Joining lines takes in no more text than was there. -/
theorem unread_joinLines (scanner : Scanner) (text : List Char) (input : Input) :
    (joinLines scanner text input).1.length + (joinLines scanner text input).2.unread ≤
      text.length + input.unread := by
  fun_induction joinLines scanner text input with
  | case1 scanner text input _ after taken =>
      have := unread_of_end taken
      simp only
      omega
  | case2 scanner text input _ line after taken _ kept next stripped ih =>
      have := unread_of_nextLine taken
      have shorter := Source.length_stripComment_le scanner line.text
      rw [stripped] at shorter
      simp only [List.length_append, List.length_cons] at ih shorter
      omega
  | case3 scanner text input _ line after taken _ kept next stripped ih =>
      have := unread_of_nextLine taken
      have shorter := Source.length_stripComment_le scanner (Text.trim line.text)
      have trimmed := Text.length_trim_le line.text
      rw [stripped] at shorter
      simp only [List.length_append, List.length_cons] at ih shorter
      omega
  | case4 scanner text input _ => exact Nat.le_refl _

/-- Cuts a text at its first semicolon outside strings.  What follows the semicolon, unless it is blank, becomes the
next line of the queue, with the number and file of the given line. -/
def splitStatement (input : Input) (line : Line) (text : List Char) : List Char × Input :=
  match Source.findUnquoted ';' text with
  | none => (text, input)
  | some position =>
      let rest := text.drop (position + 1)
      (text.take position,
        if Text.isAllBlank rest then input
        else { input with queue := ⟨rest, line.number, line.file⟩ :: input.queue })

theorem unread_splitStatement (input : Input) (line : Line) (text : List Char) :
    (input.splitStatement line text).1.length + (input.splitStatement line text).2.unread ≤
      text.length + input.unread := by
  unfold splitStatement
  split
  · exact Nat.le_refl _
  · rename_i position found
    have within := Source.findUnquoted_lt found
    have taken : (text.take position).length = position := List.length_take_of_le (Nat.le_of_lt within)
    simp only
    split
    · omega
    · simp only [unread, List.map_cons, linesSize, List.length_drop]
      omega

/-- Reads the text of the statement that begins with a given line. -/
def assemble (input : Input) (line : Line) : List Char × Input :=
  let (first, scanner) := Source.stripComment {} (Text.trim line.text)
  let (text, input) := joinLines scanner first input
  input.splitStatement line text

/-- A statement and the text after it are no longer than the lines they come from. -/
theorem unread_assemble (input : Input) (line : Line) :
    (input.assemble line).1.length + (input.assemble line).2.unread ≤ line.text.length + input.unread := by
  have stripped := Source.length_stripComment_le {} (Text.trim line.text)
  have trimmed := Text.length_trim_le line.text
  have joined := unread_joinLines (Source.stripComment {} (Text.trim line.text)).2
    (Source.stripComment {} (Text.trim line.text)).1 input
  have split := unread_splitStatement
    (joinLines (Source.stripComment {} (Text.trim line.text)).2
      (Source.stripComment {} (Text.trim line.text)).1 input).2 line
    (joinLines (Source.stripComment {} (Text.trim line.text)).2
      (Source.stripComment {} (Text.trim line.text)).1 input).1
  simp only [assemble]
  omega

/-- Takes the next statement that is not empty. -/
def next (input : Input) : Option LogicalLine × Input :=
  match _taken : input.nextLine false with
  | (none, after) => (none, after)
  | (some line, after) =>
      let text := Text.trim (after.assemble line).1
      if text.isEmpty then (after.assemble line).2.next
      else (some (LogicalLine.ofText text line.number line.file), (after.assemble line).2)
termination_by input.unread
decreasing_by
  have := unread_of_nextLine _taken
  have := unread_assemble after line
  omega

end Input

end GroupScript
