import GroupScript.Proofs.Outline
import GroupScript.Proofs.SimpleStatement

/-!
# Steps that take lines

A step of compilation takes some lines if, from any input that begins with them, it succeeds and leaves the lines after
them unread.  Nothing else of the input changes, and the workspace stays alike.  Steps in a row take their lines in a
row, so what a block takes comes from what its parts take.
-/

namespace GroupScript.Compile

open Workspace (Alike)

/-- A step succeeds with a result of a given kind and takes the lines with the given texts. -/
def Takes {α : Type} (scope : Scope) (workspace : Workspace) (texts : List (List Char))
    (action : Compile α) (result : α → Prop) : Prop :=
  ∀ ⦃input lines rest space⦄, input.queue = lines ++ rest → lines.map Line.text = texts →
    Alike scope workspace space →
      ∃ value after, result value ∧ Alike scope workspace after ∧
        action ⟨input, space⟩ = .ok value ⟨{ input with queue := rest }, after⟩

/-- A text whose line is one logical line. -/
structure Stands (text : List Char) : Prop where
  visible : Text.trim text ≠ []
  whole : Source.isWhole (Text.trim text) = true

/-- The logical line of a text, at any place. -/
def IsLine (text : List Char) (line : LogicalLine) : Prop :=
  ∃ number file, line = LogicalLine.ofText (Text.trim text) number file

variable {α β : Type} {scope : Scope} {workspace : Workspace} {texts others : List (List Char)}

theorem nextLine_of_stands {input : Input} {line : Line} {rest : List Line} {space : Workspace}
    (queued : input.queue = line :: rest) (stands : Stands line.text) :
    nextLine ⟨input, space⟩ =
      .ok (some (LogicalLine.ofText (Text.trim line.text) line.number line.file))
        ⟨{ input with queue := rest }, space⟩ := by
  have taken := Input.next_of_isWhole queued stands.visible stands.whole
  simp only [nextLine, modifyGet, MonadStateOf.modifyGet, EStateM.modifyGet, taken]

namespace Takes

/-- A step that leaves the input as it is takes no lines. -/
theorem none {action : Compile α} {result : α → Prop}
    (still : ∀ input space, Alike scope workspace space →
      ∃ value after, result value ∧ Alike scope workspace after ∧
        action ⟨input, space⟩ = .ok value ⟨input, after⟩) :
    Takes scope workspace [] action result := by
  intro input lines rest space queued rendered alike
  rw [List.map_eq_nil_iff.mp rendered] at queued
  rw [← show input.queue = rest from queued]
  exact still input space alike

theorem pure {value : α} {result : α → Prop} (holds : result value) :
    Takes scope workspace [] (Pure.pure value) result := by
  apply none
  intro input space alike
  exact ⟨value, space, holds, alike, rfl⟩

theorem bind {action : Compile α} {next : α → Compile β} {first : α → Prop} {second : β → Prop}
    (takes : Takes scope workspace texts action first)
    (continues : ∀ value, first value → Takes scope workspace others (next value) second) :
    Takes scope workspace (texts ++ others) (action >>= next) second := by
  intro input lines rest space queued rendered alike
  obtain ⟨firstLines, otherLines, rfl, renderedFirst, renderedOthers⟩ :=
    List.map_eq_append_iff.mp rendered
  rw [List.append_assoc] at queued
  obtain ⟨value, between, holds, alikeBetween, ran⟩ := takes queued renderedFirst alike
  have takesOthers := continues value holds
  obtain ⟨final, after, holdsToo, alikeAfter, ranOn⟩ :=
    @takesOthers { input with queue := otherLines ++ rest } _ _ _ rfl renderedOthers alikeBetween
  refine ⟨final, after, holdsToo, alikeAfter, ?_⟩
  rw [bind_apply, ran]
  exact ranOn

/-- A part that is read from the text alone takes no lines. -/
theorem ofResult {made : PartResult α} {value : α} {next : α → Compile β} {result : β → Prop}
    (succeeds : made = .ok value) (continues : Takes scope workspace texts (next value) result) :
    Takes scope workspace texts (GroupScript.ofResult made >>= next) result := by
  rw [succeeds]
  exact continues

/-- Without a text after a keyword, a branch begins with no statement. -/
theorem leading {inner : Inner} {line : LogicalLine} {next : List Statement → Compile β}
    {result : β → Prop} (continues : Takes scope workspace texts (next []) result) :
    Takes scope workspace texts (Compile.leading inner line [] >>= next) result :=
  continues

/-- A step that takes no lines after the others. -/
theorem finish {action : Compile α} {next : α → Compile β} {first : α → Prop} {second : β → Prop}
    (takes : Takes scope workspace texts action first)
    (continues : ∀ value, first value → Takes scope workspace [] (next value) second) :
    Takes scope workspace texts (action >>= next) second := by
  have both := bind takes continues
  rwa [List.append_nil] at both

theorem nextLine {text : List Char} (stands : Stands text) :
    Takes scope workspace [text] Compile.nextLine
      (fun line => ∃ found, line = some found ∧ IsLine text found) := by
  intro input lines rest space queued rendered alike
  obtain ⟨line, rfl, rfl⟩ := List.map_eq_singleton_iff.mp rendered
  exact ⟨_, space, ⟨_, rfl, line.number, line.file, rfl⟩, alike, nextLine_of_stands queued stands⟩

theorem inBlock {action : Compile α} {result : α → Prop}
    (takes : Takes scope workspace texts action result) :
    Takes scope workspace texts (Compile.inBlock action) result := by
  intro input lines rest space queued rendered alike
  have entered : input.enterBlock.queue = lines ++ rest := queued
  obtain ⟨value, after, holds, alikeAfter, ran⟩ := takes entered rendered alike
  refine ⟨value, after, holds, alikeAfter, ?_⟩
  simp only [Compile.inBlock, ran]
  rfl

end Takes

/-- Lines that a bounded compiler takes as one statement: the first of them tells that no block ends there, and the
others are taken after it. -/
structure TakesStatement (scope : Scope) (workspace : Workspace) (bound : Nat)
    (texts : List (List Char)) (statement : Statement) : Prop where
  exists_first : ∃ first others, texts = first :: others ∧ Stands first ∧
    blockWords.contains (keyOf (Text.trim first)) = false ∧
    ∀ number file, Takes scope workspace others
      (line scope bound (LogicalLine.ofText (Text.trim first) number file)) (· = statement)

variable {bound count : Nat} {opener : LogicalLine} {terminators : List String}
  {statement : Statement} {done : List Statement}

/-- A terminator ends a block. -/
theorem takes_terminator {inner : Inner} {last : List Char} (stands : Stands last)
    (ends : terminators.contains (keyOf (Text.trim last)) = true) :
    Takes scope workspace [last] (blockBody inner opener terminators (count + 1) done)
      (fun result => result.1 = done.reverse ∧ IsLine last result.2) := by
  rw [blockBody]
  refine .finish (.nextLine stands) ?_
  rintro _ ⟨_, rfl, number, file, rfl⟩
  simp only [LogicalLine.ofText, ends, if_true]
  exact .pure ⟨rfl, number, file, rfl⟩

/-- A statement in a block is followed by the rest of the block. -/
theorem TakesStatement.before {result : List Statement × LogicalLine → Prop}
    (takes : TakesStatement scope workspace bound texts statement)
    (belongs : ∀ word, terminators.contains word = true → blockWords.contains word = true)
    (takesRest : Takes scope workspace others
      (blockBody (line scope bound) opener terminators count (statement :: done)) result) :
    Takes scope workspace (texts ++ others)
      (blockBody (line scope bound) opener terminators (count + 1) done) result := by
  obtain ⟨first, more, rfl, stands, goesOn, takesMore⟩ := takes.exists_first
  rw [blockBody]
  change Takes scope workspace ([first] ++ (more ++ others)) _ _
  refine .bind (.nextLine stands) ?_
  rintro _ ⟨_, rfl, number, file, rfl⟩
  have notEnd : terminators.contains (keyOf (Text.trim first)) = false := by
    cases ends : terminators.contains (keyOf (Text.trim first)) with
    | false => rfl
    | true =>
        rw [belongs _ ends] at goesOn
        cases goesOn
  simp only [LogicalLine.ofText, notEnd]
  refine .bind (takesMore number file) ?_
  rintro _ rfl
  exact takesRest

/-- The compiler begins with the first logical line, under a bound for it. -/
theorem next_of_stands {input : Input} {first : Line} {rest : List Line} {space : Workspace}
    (queued : input.queue = first :: rest) (stands : Stands first.text) :
    let text := LogicalLine.ofText (Text.trim first.text) first.number first.file
    let after : Input := { input with queue := rest }
    next scope ⟨input, space⟩ =
      (line scope (boundOf text after) text >>= fun statement => pure (some statement))
        ⟨after, space⟩ := by
  simp only [next]
  rw [bind_apply, nextLine_of_stands queued stands]
  rfl

/-- A simple statement is compiled as it is alone. -/
theorem takesStatement_simple {text : List Char} (simple : isSimpleLine text = true)
    (alone : aloneStatement? scope workspace text = some statement) (enough : 0 < bound) :
    TakesStatement scope workspace bound [text] statement := by
  simp only [isSimpleLine, Bool.and_eq_true, Bool.not_eq_true', List.isEmpty_eq_false_iff] at simple
  obtain ⟨⟨⟨visible, whole⟩, flat⟩, outside⟩ := simple
  have stands : Stands text := ⟨visible, whole⟩
  refine ⟨text, [], rfl, stands, outside, fun number file => ?_⟩
  have first := @next_of_stands scope { queue := [⟨text, 1, ""⟩] } ⟨text, 1, ""⟩ [] workspace rfl stands
  have compiled : ∃ after, line scope 2 (LogicalLine.ofText (Text.trim text) 1 "") ⟨{}, workspace⟩ =
      .ok statement after := by
    have isFlat : boundOf (LogicalLine.ofText (Text.trim text) 1 "") {} = 2 := by
      simp only [boundOf, LogicalLine.ofText, flat, Bool.false_eq_true, if_false]
    simp only [aloneStatement?, first, isFlat] at alone
    split at alone
    · rename_i finished
      obtain ⟨made, desk, ran, returned⟩ := bind_eq_ok finished
      cases alone
      cases returned
      exact ⟨_, ran⟩
    · cases alone
  obtain ⟨after, ran⟩ := compiled
  obtain ⟨smaller, rfl⟩ := Nat.exists_eq_add_one_of_ne_zero (Nat.ne_of_gt enough)
  apply Takes.none
  intro input space alike
  have echoes := @echoes_lineWith scope (LogicalLine.ofText (Text.trim text) 1 "") number file
    1 smaller (line scope 1) (line scope smaller) flat
  obtain ⟨final, ranToo, -, kept⟩ := @echoes _ input _ _ _ _ alike ran
  exact ⟨statement, final, rfl, alike.trans kept, ranToo⟩

end GroupScript.Compile
