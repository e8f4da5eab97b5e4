import GroupScript.Proofs.LineJoining
import GroupScript.Proofs.WholeLine

/-!
# Reading from a queue

Without a reader, the statements of an input come from the lines in its queue alone, and the rest of the input stays as
it is.  Each statement takes its lines from the front of the queue, and what follows a semicolon goes back there.
-/

namespace GroupScript

namespace Input

/-- The lines of a queue that are joined to a text while it is open, and the lines after them. -/
def gather (joined : Joined) : List Line → List Line × List Line
  | [] => ([], [])
  | line :: rest =>
      if joined.carried.isOpen then
        let (more, left) := gather (joined.extend line) rest
        (line :: more, left)
      else ([], line :: rest)

/-- The text before the first semicolon, and the queue with the text after it. -/
def cutStatement (line : Line) (text : List Char) (queue : List Line) : List Char × List Line :=
  match Source.findUnquoted ';' text with
  | none => (text, queue)
  | some position =>
      let rest := text.drop (position + 1)
      (text.take position,
        if Text.isAllBlank rest then queue else ⟨rest, line.number, line.file⟩ :: queue)

/-- The lines of a statement, joined. -/
def joinedFrom (line : Line) (queue : List Line) : Joined :=
  Joined.ofLines line (gather (Joined.first line) queue).1

/-- The text of the statement that begins with a line, and the queue after it. -/
def statementFrom (line : Line) (queue : List Line) : List Char × List Line :=
  cutStatement line (joinedFrom line queue).text (gather (Joined.first line) queue).2

variable {input after : Input} {line : Line} {queue : List Line}

theorem gather_of_closed {joined : Joined} (closed : joined.carried.isOpen = false) (queue : List Line) :
    gather joined queue = ([], queue) := by
  cases queue with
  | nil => rfl
  | cons line rest => simp [gather, closed]

theorem gather_cons_of_open {joined : Joined} (isOpen : joined.carried.isOpen = true) (line : Line)
    (rest : List Line) :
    gather joined (line :: rest) =
      (line :: (gather (joined.extend line) rest).1, (gather (joined.extend line) rest).2) := by
  simp [gather, isOpen]

theorem nextLine_of_empty (noReader : input.reader = none) (empty : input.queue = []) (continued : Bool) :
    input.nextLine continued = (none, input) := by
  simp [nextLine, empty, noReader]

theorem continuation_of_queue (noReader : input.reader = none) (joined : Joined) :
    input.continuation joined =
      ((gather joined input.queue).1, { input with queue := (gather joined input.queue).2 }) := by
  induction queued : input.queue generalizing input joined with
  | nil =>
      have same : { input with queue := [] } = input := by rw [← queued]
      rw [gather, same]
      by_cases isOpen : joined.carried.isOpen
      · exact continuation_of_end isOpen (nextLine_of_empty noReader queued true)
      · exact continuation_of_closed isOpen
  | cons line rest ih =>
      by_cases isOpen : joined.carried.isOpen
      · have continued := @ih { input with queue := rest } noReader (joined.extend line) rfl
        rw [continuation_of_line isOpen (nextLine_of_queue queued true), continued, gather_cons_of_open isOpen]
      · rw [continuation_of_closed isOpen, gather_of_closed (Bool.eq_false_iff.mpr isOpen), ← queued]

theorem splitStatement_of_queue (input : Input) (line : Line) (text : List Char) :
    input.splitStatement line text =
      ((cutStatement line text input.queue).1, { input with queue := (cutStatement line text input.queue).2 }) := by
  unfold splitStatement cutStatement
  cases Source.findUnquoted ';' text with
  | none => rfl
  | some position =>
      dsimp only
      split
      · rfl
      · rfl

theorem assemble_of_queue (noReader : input.reader = none) (line : Line) :
    input.assemble line =
      ((statementFrom line input.queue).1, { input with queue := (statementFrom line input.queue).2 }) := by
  rw [assemble_eq (continuation_of_queue noReader _), splitStatement_of_queue]
  rfl

theorem next_of_empty (noReader : input.reader = none) (empty : input.queue = []) :
    input.next = (none, input) :=
  next_of_end (nextLine_of_empty noReader empty false)

theorem next_of_cons (noReader : input.reader = none) (queued : input.queue = line :: queue) :
    input.next =
      let statement := statementFrom line queue
      if (Text.trim statement.1).isEmpty then ({ input with queue := statement.2 } : Input).next
      else (some (LogicalLine.ofText (Text.trim statement.1) line.number line.file),
        { input with queue := statement.2 }) := by
  have assembled := @assemble_of_queue { input with queue } noReader line
  rw [next_of_line (nextLine_of_queue queued false), assembled]

/-- What a statement leaves in the queue is smaller than the lines it came from. -/
theorem size_statementFrom (line : Line) (queue : List Line) :
    linesSize ((statementFrom line queue).2.map Line.text) ≤
      line.text.length + linesSize (queue.map Line.text) := by
  have assembled := @assemble_of_queue { queue } rfl line
  have shrinks := unread_assemble { queue } line
  rw [assembled] at shrinks
  simp only [unread, linesSize, Option.map_none, Option.getD_none, Nat.add_zero] at shrinks
  omega

/-- Induction along the statements of a queue. -/
@[elab_as_elim]
theorem queueInduction {motive : List Line → Prop} (nil : motive [])
    (cons : ∀ line rest, motive (statementFrom line rest).2 → motive (line :: rest)) (queue : List Line) :
    motive queue := by
  induction size : linesSize (queue.map Line.text) using Nat.strongRecOn generalizing queue with
  | ind size ih =>
      cases queue with
      | nil => exact nil
      | cons line rest =>
          refine cons line rest (ih _ ?_ _ rfl)
          have shrinks := size_statementFrom line rest
          simp only [List.map_cons, linesSize] at size
          omega

/-- Without a reader, only the queue changes, and it is empty when there is no further statement. -/
theorem exists_next (noReader : input.reader = none) :
    ∃ found queue, input.next = (found, { input with queue }) ∧ (found = none → queue = []) := by
  induction queued : input.queue using queueInduction generalizing input with
  | nil => exact ⟨none, [], by rw [next_of_empty noReader queued, ← queued], fun _ => rfl⟩
  | cons line rest ih =>
      rw [next_of_cons noReader queued]
      dsimp only
      split
      · exact @ih { input with queue := (statementFrom line rest).2 } noReader rfl
      · exact ⟨_, _, rfl, nofun⟩

theorem reader_next {found : Option LogicalLine} (noReader : input.reader = none)
    (taken : input.next = (found, after)) : after.reader = none := by
  obtain ⟨found, queue, same, -⟩ := exists_next noReader
  rw [taken] at same
  cases same
  exact noReader

/-- Taking a statement makes the unread text smaller by more than the statement. -/
theorem unread_next {found : LogicalLine} (taken : input.next = (some found, after)) :
    found.text.length + after.unread < input.unread := by
  fun_induction next input with
  | case1 input after ended => cases taken
  | case2 input line rest begun text empty ih =>
      have smaller := unread_of_nextLine begun
      have assembled := unread_assemble rest line
      have := ih taken
      omega
  | case3 input line rest begun text visible =>
      cases taken
      have smaller := unread_of_nextLine begun
      have assembled := unread_assemble rest line
      have trimmed : text.length ≤ (rest.assemble line).1.length := Text.length_trim_le _
      change text.length + _ < _
      omega

/-- The key of a statement is the word that it begins with. -/
theorem key_next {found : LogicalLine} (taken : input.next = (some found, after)) :
    found.key = keyOf found.text := by
  fun_induction next input with
  | case1 input after ended => cases taken
  | case2 input line rest begun text empty ih => exact ih taken
  | case3 input line rest begun text visible =>
      cases taken
      rfl

end Input

end GroupScript
