import GroupScript.Proofs.QueueReading
import GroupScript.Proofs.SimpleStatement

/-!
# Moving lines

Lines that are moved to other places make the same statements, at places that are moved as well.  The number of a line
and the name of its file are seen in nothing else than the place of an error.

Two inputs are read abreast when the second gives the lines of the first, moved.  They then give the same statements,
moved, since a statement is made of lines that are taken and of a rest that is put back.
-/

namespace GroupScript

/-- A change of places: of the numbers of lines and of the names of files. -/
structure Relocation where
  number : Nat → Nat
  file : String → String

namespace Relocation

/-- The change that leaves all places as they are. -/
def none : Relocation := ⟨id, id⟩

/-- The change to places some lines further down. -/
def down (count : Nat) : Relocation := ⟨fun number => number + count, id⟩

/-- The change to the places of the same lines in another file. -/
def toFile (file : String) : Relocation := ⟨id, fun _ => file⟩

end Relocation

/-- A physical line at another place. -/
def Line.relocated (move : Relocation) (line : Line) : Line :=
  { line with number := move.number line.number, file := move.file line.file }

/-- A logical line at another place. -/
def LogicalLine.relocated (move : Relocation) (line : LogicalLine) : LogicalLine :=
  line.placed (move.number line.number) (move.file line.file)

/-- A place that is changed. -/
def Place.relocated (move : Relocation) (place : Place) : Place :=
  { place with file := move.file place.file, line := move.number place.line }

/-- An error whose place, if it has one, is changed. -/
def Error.relocated (move : Relocation) : Error → Error
  | .malformedStatement (.found fault place) => .malformedStatement (.found fault (place.relocated move))
  | error => error

/-- The end of a run whose place, if it has one, is changed. -/
def Halt.relocated (move : Relocation) : Halt → Halt
  | .failure error => .failure (error.relocated move)
  | .exhausted => .exhausted

/-- A physical line some lines further down. -/
def Line.moved (count : Nat) (line : Line) : Line :=
  { line with number := line.number + count }

/-- A place some lines further down. -/
def Place.moved (count : Nat) (place : Place) : Place :=
  { place with line := place.line + count }

/-- An error whose place, if it has one, is some lines further down. -/
def Error.moved (count : Nat) : Error → Error
  | .malformedStatement (.found fault place) => .malformedStatement (.found fault (place.moved count))
  | error => error

/-- The end of a run whose place, if it has one, is some lines further down. -/
def Halt.moved (count : Nat) : Halt → Halt
  | .failure error => .failure (error.moved count)
  | .exhausted => .exhausted

theorem Error.relocated_down (count : Nat) (error : Error) : error.relocated (.down count) = error.moved count := by
  unfold Error.relocated Error.moved
  split
  · rfl
  · rfl

theorem Joined.ofLines_relocated (move : Relocation) (line : Line) (more : List Line) :
    ofLines (line.relocated move) (more.map (Line.relocated move)) = ofLines line more := by
  rw [ofLines, List.foldl_map]
  rfl

namespace Input

/-- A relation between inputs of which the second gives the lines of the first at other places.  It lasts when a line is
taken from both and when a line is put in front of both. -/
structure Abreast (move : Relocation) (related : Input → Input → Prop) : Prop where
  nextLine : ∀ {first second}, related first second → ∀ continued, ∃ other,
    second.nextLine continued = ((first.nextLine continued).1.map (Line.relocated move), other) ∧
      related (first.nextLine continued).2 other
  push : ∀ {first second}, related first second → ∀ line : Line,
    related { first with queue := line :: first.queue } { second with queue := line.relocated move :: second.queue }

namespace Abreast

variable {move : Relocation} {related : Input → Input → Prop} {first second : Input}
  (abreast : Abreast move related)

include abreast

theorem continuation (relates : related first second) (joined : Joined) :
    ∃ other, second.continuation joined =
        ((first.continuation joined).1.map (Line.relocated move), other) ∧
      related (first.continuation joined).2 other := by
  fun_induction Input.continuation joined first generalizing second with
  | case1 joined first isOpen after ended =>
      obtain ⟨other, endedToo, relatesAfter⟩ := abreast.nextLine relates true
      rw [ended] at endedToo relatesAfter
      exact ⟨other, continuation_of_end isOpen endedToo, relatesAfter⟩
  | case2 joined first isOpen line after taken more last continued ih =>
      obtain ⟨other, takenToo, relatesAfter⟩ := abreast.nextLine relates true
      rw [taken] at takenToo relatesAfter
      obtain ⟨lastToo, continuedToo, relatesLast⟩ := ih relatesAfter
      have same : joined.extend (line.relocated move) = joined.extend line := rfl
      rw [continued] at continuedToo relatesLast
      refine ⟨lastToo, ?_, relatesLast⟩
      rw [continuation_of_line isOpen takenToo, same, continuedToo]
      rfl
  | case3 joined first closed =>
      exact ⟨second, continuation_of_closed closed, relates⟩

theorem splitStatement (relates : related first second) (line : Line) (text : List Char) :
    (second.splitStatement (line.relocated move) text).1 = (first.splitStatement line text).1 ∧
      related (first.splitStatement line text).2 (second.splitStatement (line.relocated move) text).2 := by
  unfold Input.splitStatement
  cases Source.findUnquoted ';' text with
  | none => exact ⟨rfl, relates⟩
  | some position =>
      refine ⟨rfl, ?_⟩
      dsimp only
      split
      · exact relates
      · exact abreast.push relates ⟨_, line.number, line.file⟩

theorem assemble (relates : related first second) (line : Line) :
    (second.assemble (line.relocated move)).1 = (first.assemble line).1 ∧
      related (first.assemble line).2 (second.assemble (line.relocated move)).2 := by
  obtain ⟨other, continued, relatesAfter⟩ := abreast.continuation relates (Joined.first line)
  have taken : first.continuation (Joined.first line) =
      ((first.continuation (Joined.first line)).1, (first.continuation (Joined.first line)).2) := rfl
  have takenToo : second.continuation (Joined.first (line.relocated move)) = _ := continued
  rw [assemble_eq taken, assemble_eq takenToo, Joined.ofLines_relocated]
  exact abreast.splitStatement relatesAfter line _

theorem next (relates : related first second) :
    ∃ other, second.next = (first.next.1.map (LogicalLine.relocated move), other) ∧ related first.next.2 other := by
  fun_induction Input.next first generalizing second with
  | case1 first after ended =>
      obtain ⟨other, endedToo, relatesAfter⟩ := abreast.nextLine relates false
      rw [ended] at endedToo relatesAfter
      exact ⟨other, next_of_end endedToo, relatesAfter⟩
  | case2 first line rest begun text empty =>
      rename_i ih
      -- A statement without text is passed over in both inputs.
      obtain ⟨other, begunToo, relatesAfter⟩ := abreast.nextLine relates false
      rw [begun] at begunToo relatesAfter
      dsimp only at relatesAfter
      obtain ⟨same, relatesOn⟩ := abreast.assemble relatesAfter line
      rw [next_of_line begunToo, same, if_pos empty]
      exact ih relatesOn
  | case3 first line rest begun text =>
      rename_i visible
      obtain ⟨other, begunToo, relatesAfter⟩ := abreast.nextLine relates false
      rw [begun] at begunToo relatesAfter
      dsimp only at relatesAfter
      obtain ⟨same, relatesOn⟩ := abreast.assemble relatesAfter line
      refine ⟨_, ?_, relatesOn⟩
      rw [next_of_line begunToo, same, if_neg visible]
      rfl

end Abreast

theorem numbered_add {count : Nat} (file : String) (start : Nat) (texts : List (List Char)) :
    numbered file (start + count) texts = (numbered file start texts).map (Line.moved count) := by
  induction texts generalizing start with
  | nil => rfl
  | cons text texts ih =>
      have next : start + count + 1 = start + 1 + count := by omega
      simp only [numbered, List.map_cons, next, ih]
      rfl

/-- An input without a reader, with the lines of its queue moved. -/
def moved (count : Nat) (input : Input) : Input :=
  { input with queue := input.queue.map (Line.moved count) }

/-- Reading an input without a reader beside the same lines moved down. -/
theorem abreast_moved (count : Nat) :
    Abreast (.down count) fun first second => first.reader = none ∧ second = first.moved count where
  nextLine := by
    rintro first _ ⟨noReader, rfl⟩ continued
    refine ⟨(first.nextLine continued).2.moved count, ?_⟩
    unfold nextLine
    cases queued : first.queue with
    | nil => simp [moved, queued, noReader]
    | cons line rest => exact ⟨by simp [moved, queued, Line.relocated, Line.moved, Relocation.down], noReader, rfl⟩
  push := by
    rintro first _ ⟨noReader, rfl⟩ line
    exact ⟨noReader, rfl⟩

theorem next_moved {count : Nat} {input : Input} (noReader : input.reader = none) :
    (input.moved count).next =
      (input.next.1.map (LogicalLine.relocated (.down count)), input.next.2.moved count) := by
  obtain ⟨other, taken, -, rfl⟩ := (abreast_moved count).next ⟨noReader, rfl⟩
  exact taken

end Input

/-! ### Reading the parts of a line at another place -/

/-- A result whose error has its place changed. -/
def PartResult.relocated {α : Type} (move : Relocation) (result : PartResult α) : PartResult α :=
  result.mapError (Error.relocated move)

variable {α β : Type} {move : Relocation} {line : LogicalLine} {rest text : List Char}

theorem relocated_bind (result : PartResult α) (next : α → PartResult β) :
    PartResult.relocated move (result >>= next) =
      PartResult.relocated move result >>= fun value => PartResult.relocated move (next value) := by
  cases result with
  | error error => rfl
  | ok value => rfl

theorem relocated_map (result : PartResult α) (change : α → β) :
    PartResult.relocated move (change <$> result) = change <$> PartResult.relocated move result := by
  cases result with
  | error error => rfl
  | ok value => rfl

@[simp]
theorem relocated_ofSyntax (result : Except SyntaxFault α) :
    PartResult.relocated move (ofSyntax result) = ofSyntax result := by
  cases result with
  | error fault => rfl
  | ok value => rfl

@[simp]
theorem relocated_codeOf : PartResult.relocated move (codeOf text) = codeOf text :=
  relocated_ofSyntax _

theorem malformed_relocated (fault : StatementFault) :
    (malformed (line.relocated move) fault : PartResult α) = PartResult.relocated move (malformed line fault) :=
  rfl

namespace LogicalLine

@[simp]
theorem text_relocated : (line.relocated move).text = line.text :=
  rfl

@[simp]
theorem key_relocated : (line.relocated move).key = line.key :=
  rfl

@[simp]
theorem rest_relocated : (line.relocated move).rest = line.rest :=
  rfl

theorem header_relocated : (line.relocated move).header rest = PartResult.relocated move (line.header rest) := by
  unfold header
  split
  · rfl
  · rfl

theorem bareHeader_relocated :
    (line.relocated move).bareHeader rest = PartResult.relocated move (line.bareHeader rest) := by
  unfold bareHeader
  split
  · rfl
  · rfl
  · rfl

theorem requireEnd_relocated : (line.relocated move).requireEnd = PartResult.relocated move line.requireEnd := by
  unfold requireEnd
  rw [rest_relocated]
  split
  · rfl
  · rfl
  · rfl

theorem condition_relocated :
    (line.relocated move).condition text = PartResult.relocated move (line.condition text) := by
  unfold condition
  split
  · rfl
  · exact relocated_codeOf.symm

theorem argumentList_relocated : PartResult.relocated move (argumentList rest) = argumentList rest := by
  unfold argumentList
  dsimp only
  split
  · rfl
  · rw [relocated_map, relocated_codeOf]

theorem namesToDelete_relocated :
    (line.relocated move).namesToDelete rest = PartResult.relocated move (line.namesToDelete rest) := by
  unfold namesToDelete
  dsimp only
  split
  · rfl
  · rw [relocated_bind, relocated_ofSyntax]
    refine bind_congr fun expr => ?_
    split
    · split
      · rfl
      · rfl
    · rfl

theorem definition_relocated :
    (line.relocated move).definition rest = PartResult.relocated move (line.definition rest) := by
  unfold definition
  split
  · rfl
  · split
    · rfl
    · dsimp only
      split
      · rfl
      · rw [relocated_bind, relocated_codeOf]
        rfl

theorem target_relocated : (line.relocated move).target text = PartResult.relocated move (line.target text) := by
  unfold LogicalLine.target
  split
  · rfl
  · split
    · rfl
    · exact (relocated_ofSyntax _).symm

theorem parameters_relocated (params : List String) (defaults : List (String × Code))
    (arguments : List (Argument Expr)) :
    (line.relocated move).parameters text params defaults arguments =
      PartResult.relocated move (line.parameters text params defaults arguments) := by
  induction arguments generalizing params defaults with
  | nil => rfl
  | cons argument rest ih =>
      match argument with
      | .keyword key value =>
          simp only [parameters]
          rw [relocated_bind, relocated_ofSyntax]
          exact bind_congr fun code => ih params (defaults ++ [(key, code)])
      | .positional expr =>
          cases expr with
          | name param =>
              simp only [parameters]
              split
              · split
                · exact ih (params ++ [param]) defaults
                · rfl
              · rfl
          | _ => rfl

theorem signature_relocated :
    (line.relocated move).signature text = PartResult.relocated move (line.signature text) := by
  unfold signature
  split
  · rfl
  · rw [relocated_bind, parameters_relocated]
    rfl
  · rfl
  · rfl
  · rfl

theorem importStatement_relocated :
    (line.relocated move).importStatement rest = PartResult.relocated move (line.importStatement rest) := by
  unfold importStatement
  dsimp only
  rw [key_relocated]
  split
  · rfl
  · rfl

end LogicalLine

theorem loopVariable_relocated :
    Compile.loopVariable (line.relocated move) text = PartResult.relocated move (Compile.loopVariable line text) := by
  unfold Compile.loopVariable
  split
  · rfl
  · rfl

end GroupScript
