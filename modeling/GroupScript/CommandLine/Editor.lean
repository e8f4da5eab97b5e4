import GroupScript.CommandLine.Backspace
import GroupScript.Source.Input

/-!
# Typed lines

The lines of standard input are taken as typed ones.  Each is checked before it is given: a line with an objection is
reported and kept, and the next one is appended to it.
-/

namespace GroupScript.CommandLine

/-- What a typed line stands for: it is without its end, and its backspaces have taken effect. -/
def typedLine (text : List Char) : List Char :=
  eraseBackspaces (Text.dropLineEnd text)

theorem length_typedLine_le (text : List Char) : (typedLine text).length ≤ text.length :=
  Nat.le_trans (length_eraseBackspaces_le _) (Text.length_dropLineEnd_le text)

/-- Takes the next line that there is no objection to.  Other lines are reported, and the next line is appended to them
before its end is dropped and the check is made again, so that an empty line takes away a carriage return that the line
before it has left. -/
def takeChecked (objection? : List Char → Option String) (kept : List Char) (notices : List String) :
    List (List Char) → Reply
  | [] => ⟨none, [], notices.reverse⟩
  | line :: lines =>
      let text := typedLine (kept ++ line)
      match objection? text with
      | none => ⟨some text, lines, notices.reverse⟩
      | some objection => takeChecked objection? text (objection :: notices) lines

theorem uses_takeChecked (objection? : List Char → Option String) (kept : List Char) (notices : List String)
    (lines : List (List Char)) :
    ((takeChecked objection? kept notices lines).line.map fun line => line.length + 1).getD 0 +
      linesSize (takeChecked objection? kept notices lines).left ≤ kept.length + linesSize lines := by
  induction lines generalizing kept notices with
  | nil => simp [takeChecked, linesSize]
  | cons line lines ih =>
      have shorter := length_typedLine_le (kept ++ line)
      rw [List.length_append] at shorter
      simp only [takeChecked]
      split
      · simp only [Option.map_some, Option.getD_some, linesSize]
        omega
      · have := ih (typedLine (kept ++ line)) (‹String› :: notices)
        simp only [linesSize]
        omega

theorem left_takeChecked (objection? : List Char → Option String) (kept : List Char) (notices : List String)
    (lines : List (List Char)) (ended : (takeChecked objection? kept notices lines).line = none) :
    (takeChecked objection? kept notices lines).left = [] := by
  induction lines generalizing kept notices with
  | nil => rfl
  | cons line lines ih =>
      simp only [takeChecked] at ended ⊢
      split at ended
      · cases ended
      · exact ih _ _ ended

/-- Every request is answered by the next typed line that there is no objection to under its prompt. -/
def typedRule (objection? : String → List Char → Option String) : ReplyRule where
  reply := fun prompt lines => takeChecked (objection? prompt) [] [] lines
  uses := fun prompt lines => by simpa using uses_takeChecked (objection? prompt) [] [] lines
  ends := fun prompt lines => left_takeChecked (objection? prompt) [] [] lines

end GroupScript.CommandLine
