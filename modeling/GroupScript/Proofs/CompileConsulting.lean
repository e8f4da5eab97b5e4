import GroupScript.Interpreter.Modules
import GroupScript.Proofs.Consulting

/-!
# Compiling consults

Compiling takes lines from the input, asks the workspace for the values of names, and enters and leaves blocks.  So it
keeps every guarantee that these three steps keep.  In particular nothing in the workspace changes but what consulting it
changes, whether a statement comes out or not.

Once the first line of a statement is taken, further lines are taken in blocks only.  So a guarantee about the rest of
the statement need not be one that taking a line keeps everywhere.
-/

namespace GroupScript

namespace Compile

/-- A guarantee that the steps of compiling keep. -/
structure Routine (guarantee : Guarantee Desk) (scope : Scope) : Prop where
  takes : guarantee.Keeps nextLine fun _ => True
  asks : ∀ name, guarantee.Keeps (valueOf? scope name) fun _ => True
  nests : ∀ {α : Type} {action : Compile α}, guarantee.Keeps action (fun _ => True) →
    guarantee.Keeps (inBlock action) fun _ => True

/-- A guarantee that is kept by asking for values, and by blocks of statements that keep it. -/
structure Blockwise (guarantee : Guarantee Desk) (scope : Scope) : Prop where
  asks : ∀ name, guarantee.Keeps (valueOf? scope name) fun _ => True
  block : ∀ {bound : Nat} {inner : Inner}, (∀ line, guarantee.Keeps (inner line) fun _ => True) →
    ∀ opener terminators, guarantee.Keeps (block bound inner opener terminators) fun _ => True

section Result

variable {α : Type} {guarantee : Guarantee Desk} {inner : Inner} {bound : Nat} {line opener : LogicalLine}
  {text rest : List Char}

theorem keeps_ofResult (result : Except Error α) :
    guarantee.Keeps (ofResult result : Compile α) fun _ => True :=
  .ofResult fun _ _ => trivial

theorem keeps_bare (statement : Statement) : guarantee.Keeps (bare line rest statement) fun _ => True :=
  .ite (fun _ => .pure trivial) fun _ => keeps_ofResult _

variable (inside : ∀ line, guarantee.Keeps (inner line) fun _ => True)

include inside

theorem keeps_inline : guarantee.Keeps (inline inner line text) fun _ => True :=
  inside _

theorem keeps_leading : guarantee.Keeps (leading inner line text) fun _ => True := by
  refine .ite (fun _ => .pure trivial) fun _ => ?_
  exact .bind (keeps_inline inside) fun _ _ => .pure trivial

theorem keeps_blockBody (takes : guarantee.Keeps nextLine fun _ => True) (terminators : List String)
    (done : List Statement) :
    guarantee.Keeps (blockBody inner opener terminators bound done) fun _ => True := by
  induction bound generalizing done with
  | zero => exact .throw _
  | succ bound ih =>
      refine .bind takes fun next _ => ?_
      split
      · exact keeps_ofResult _
      · refine .ite (fun _ => .pure trivial) fun _ => ?_
        exact .bind (inside _) fun statement _ => ih (statement :: done)

end Result

/-- What is kept inside a block makes what the block as a whole keeps, whether it ends with a value or with an error. -/
theorem keeps_inBlock {α : Type} {inside outside : Guarantee Desk} {action : Compile α}
    (keeps : inside.Keeps action fun _ => True)
    (enters : ∀ {before}, outside.holds before → inside.holds { before with input := before.input.enterBlock })
    (leaves : ∀ {before after}, outside.holds before → inside.holds after →
      inside.leads { before with input := before.input.enterBlock } after →
        outside.holds { after with input := after.input.leaveBlock } ∧
          outside.leads before { after with input := after.input.leaveBlock }) :
    outside.Keeps (inBlock action) fun _ => True := by
  apply Guarantee.Keeps.everywhere
  intro before holds
  apply Guarantee.KeepsFrom.wrapping (action { before with input := before.input.enterBlock })
  · intro value desk ran
    obtain ⟨holdsInside, leads, -⟩ := keeps.ok (enters holds) ran
    obtain ⟨holdsAfter, leadsOn⟩ := leaves holds holdsInside leads
    exact ⟨value, { desk with input := desk.input.leaveBlock }, by rw [inBlock, ran], holdsAfter, leadsOn, trivial⟩
  · intro halt desk ran
    refine ⟨halt, { desk with input := desk.input.leaveBlock }, by rw [inBlock, ran], fun final => ?_⟩
    obtain ⟨holdsInside, leads⟩ := keeps.error (enters holds) ran final
    exact leaves holds holdsInside leads

namespace Blockwise

variable {guarantee : Guarantee Desk} {scope : Scope} {inner : Inner} {bound : Nat} {line opener : LogicalLine}
  {text rest : List Char} (blockwise : Blockwise guarantee scope)

include blockwise

section Inner

variable (inside : ∀ line, guarantee.Keeps (inner line) fun _ => True)

include inside

theorem keeps_body (terminator : String) : guarantee.Keeps (body bound inner line text terminator) fun _ => True := by
  refine .ite (fun _ => ?_) fun _ => ?_
  · refine .bind (blockwise.block inside _ _) fun _ _ => ?_
    exact .bind (keeps_ofResult _) fun _ _ => .pure trivial
  · exact .bind (keeps_inline inside) fun _ _ => .pure trivial

theorem keeps_branches (more : Nat) (condition : Code) (first : List Statement) (seenElse : Bool)
    (done : List (Code × List Statement)) :
    guarantee.Keeps (branches bound inner opener more condition first seenElse done) fun _ => True := by
  induction more generalizing condition first seenElse done with
  | zero => exact .throw _
  | succ more ih =>
      refine .bind (blockwise.block inside _ _) fun _ _ => .ite (fun _ => ?_) fun _ => ?_
      · exact .bind (keeps_ofResult _) fun _ _ => .pure trivial
      refine .ite (fun _ => keeps_ofResult _) fun _ => .ite (fun _ => ?_) fun _ => ?_
      · refine .bind (keeps_ofResult _) fun _ _ => .bind (keeps_ofResult _) fun _ _ => ?_
        exact .bind (keeps_leading inside) fun _ _ => ih _ _ _ _
      · refine .bind (keeps_ofResult _) fun _ _ => ?_
        exact .bind (keeps_leading inside) fun _ _ => ih _ _ _ _

theorem keeps_conditional : guarantee.Keeps (conditional bound inner line rest) fun _ => True := by
  refine .bind (keeps_ofResult _) fun _ _ => .bind (keeps_ofResult _) fun _ _ => ?_
  refine .ite (fun _ => blockwise.keeps_branches inside _ _ _ _ _) fun _ => ?_
  exact .bind (keeps_inline inside) fun _ _ => .pure trivial

theorem keeps_whileLoop : guarantee.Keeps (whileLoop bound inner line rest) fun _ => True := by
  refine .bind (keeps_ofResult _) fun _ _ => .bind (keeps_ofResult _) fun _ _ => ?_
  exact .bind (blockwise.keeps_body inside _) fun _ _ => .pure trivial

theorem keeps_forLoop : guarantee.Keeps (forLoop bound inner line rest) fun _ => True := by
  refine .bind (keeps_ofResult _) fun parts _ => ?_
  obtain ⟨head, tail⟩ := parts
  dsimp only
  split
  · exact keeps_ofResult _
  · refine .bind (keeps_ofResult _) fun _ _ => .bind (keeps_ofResult _) fun _ _ => ?_
    exact .bind (blockwise.keeps_body inside _) fun _ _ => .pure trivial

theorem keeps_attempt : guarantee.Keeps (attempt bound inner line rest) fun _ => True := by
  refine .bind (keeps_ofResult _) fun _ _ => .ite (fun _ => ?_) fun _ => keeps_ofResult _
  refine .bind (blockwise.block inside _ _) fun _ _ => .ite (fun _ => ?_) fun _ => ?_
  · exact .bind (keeps_ofResult _) fun _ _ => .pure trivial
  · refine .bind (keeps_ofResult _) fun _ _ => .bind (keeps_leading inside) fun _ _ => ?_
    refine .bind (blockwise.block inside _ _) fun _ _ => ?_
    exact .bind (keeps_ofResult _) fun _ _ => .pure trivial

theorem keeps_procedureBody : guarantee.Keeps (procedureBody bound inner line text) fun _ => True := by
  refine .ite (fun _ => blockwise.keeps_body inside _) fun _ => ?_
  exact .bind (keeps_inline inside) fun _ _ => .pure trivial

theorem keeps_definition : guarantee.Keeps (definition bound inner line rest) fun _ => True := by
  unfold definition
  split
  · exact keeps_ofResult _
  · refine .bind (keeps_ofResult _) fun _ _ => ?_
    exact .bind (blockwise.keeps_procedureBody inside) fun _ _ => .pure trivial

end Inner

end Blockwise

section Asking

variable {guarantee : Guarantee Desk} {scope : Scope} {inner : Inner} {bound : Nat} {line : LogicalLine}
  {text : List Char} (asks : ∀ name, guarantee.Keeps (valueOf? scope name) fun _ => True)

include asks

theorem keeps_commandCall? : guarantee.Keeps (commandCall? scope text) fun _ => True := by
  refine .ite (fun _ => .pure trivial) fun _ => .bind (asks _) fun value _ => ?_
  split
  · exact .pure trivial
  · exact .ite (fun _ => .pure trivial) fun _ => .pure trivial

theorem keeps_simple : guarantee.Keeps (simple scope line) fun _ => True := by
  refine .bind (keeps_commandCall? asks) fun call _ => ?_
  split
  · split
    · exact .pure trivial
    · exact keeps_ofResult _
  · split
    · exact .bind (keeps_ofResult _) fun _ _ => .pure trivial
    · refine .ite (fun _ => keeps_ofResult _) fun _ => .bind (keeps_ofResult _) fun _ _ => ?_
      exact .bind (keeps_ofResult _) fun _ _ => .pure trivial

/-- Only a statement that begins with an opening word has a block or statements inside. -/
theorem keeps_lineWith (opens : openingWords.contains line.key = true →
      Blockwise guarantee scope ∧ ∀ line, guarantee.Keeps (inner line) fun _ => True) :
    guarantee.Keeps (lineWith bound inner scope line) fun _ => True := by
  have opened {word : String} {action : Compile Statement} (begins : line.key = word)
      (opening : openingWords.contains word = true)
      (keeps : Blockwise guarantee scope → (∀ line, guarantee.Keeps (inner line) fun _ => True) →
        guarantee.Keeps action fun _ => True) :
      guarantee.Keeps action fun _ => True := by
    obtain ⟨blockwise, inside⟩ := opens (begins ▸ opening)
    exact keeps blockwise inside
  unfold lineWith
  simp only
  split
  case h_1 begins => exact opened begins (by decide) fun blockwise inside => blockwise.keeps_conditional inside
  case h_2 begins => exact opened begins (by decide) fun blockwise inside => blockwise.keeps_whileLoop inside
  case h_3 begins => exact opened begins (by decide) fun blockwise inside => blockwise.keeps_forLoop inside
  case h_4 begins => exact opened begins (by decide) fun blockwise inside => blockwise.keeps_attempt inside
  case h_5 begins => exact opened begins (by decide) fun blockwise inside => blockwise.keeps_definition inside
  case h_6 => exact .bind (keeps_ofResult _) fun _ _ => .pure trivial
  case h_7 => exact .bind (keeps_ofResult _) fun _ _ => .pure trivial
  case h_8 => exact .bind (keeps_ofResult _) fun _ _ => .pure trivial
  case h_9 => exact keeps_bare _
  case h_10 => exact keeps_bare _
  case h_11 =>
    refine .ite (fun _ => keeps_ofResult _) fun _ => ?_
    exact .ite (fun _ => keeps_ofResult _) fun _ => keeps_simple asks

end Asking

theorem Blockwise.keeps_line {guarantee : Guarantee Desk} {scope : Scope} {bound : Nat}
    (blockwise : Blockwise guarantee scope) (line : LogicalLine) :
    guarantee.Keeps (Compile.line scope bound line) fun _ => True := by
  induction bound generalizing line with
  | zero => exact .throw _
  | succ bound ih => exact keeps_lineWith blockwise.asks fun _ => ⟨blockwise, ih⟩

namespace Routine

variable {guarantee : Guarantee Desk} {scope : Scope} (routine : Routine guarantee scope)

include routine

theorem blockwise : Blockwise guarantee scope where
  asks := routine.asks
  block := fun inside _ terminators => routine.nests (keeps_blockBody inside routine.takes terminators [])

theorem keeps_next : guarantee.Keeps (next scope) fun _ => True := by
  refine .bind routine.takes fun text _ => ?_
  split
  · exact .pure trivial
  · refine .bind .get fun desk _ => ?_
    exact .bind (routine.blockwise.keeps_line _) fun _ _ => .pure trivial

end Routine

/-- The guarantee that no lines are taken. -/
def pausing : Guarantee Desk where
  holds := fun _ => True
  leads := fun before after => after.input = before.input
  refl := fun _ => rfl
  trans := fun first second => second.trans first

theorem keeps_valueOf?_pausing (scope : Scope) (name : String) :
    pausing.Keeps (valueOf? scope name) fun _ => True := by
  refine .modifyGet fun desk _ => ?_
  cases Workspace.resolve scope name desk.workspace with
  | ok value workspace => exact ⟨trivial, rfl, trivial⟩
  | error error workspace => exact ⟨trivial, rfl, trivial⟩

/-- The guarantee of compilation that only consults the workspace. -/
def consulting (scope : Scope) : Guarantee Desk where
  holds := fun _ => True
  leads := fun before after => Workspace.Consulted scope before.workspace after.workspace
  refl := fun desk => .refl scope desk.workspace
  trans := .trans

theorem routine_consulting (scope : Scope) : Routine (consulting scope) scope where
  takes := .modifyGet fun desk _ => ⟨trivial, .refl scope desk.workspace, trivial⟩
  asks := by
    intro name
    refine .modifyGet fun desk _ => ?_
    have keeps : (Workspace.consulting scope).Keeps (Workspace.resolve scope name) fun _ => True :=
      Workspace.keeps_resolve name
    cases resolved : Workspace.resolve scope name desk.workspace with
    | ok value workspace =>
        obtain ⟨-, consulted, -⟩ := keeps.ok trivial resolved
        exact ⟨trivial, consulted, trivial⟩
    | error error workspace =>
        obtain ⟨-, consulted⟩ := keeps.error trivial resolved trivial
        exact ⟨trivial, consulted, trivial⟩
  nests := fun consults => keeps_inBlock consults (fun _ => trivial) fun _ _ consulted => ⟨trivial, consulted⟩

theorem consults_next {scope : Scope} : (consulting scope).Keeps (next scope) fun _ => True :=
  (routine_consulting scope).keeps_next

end Compile

/-- Compiling the next statement of an input only consults the workspace. -/
theorem keeps_compileNext (scope : Scope) (input : Input) :
    (Workspace.consulting scope).Keeps (compileNext scope input) fun _ => True := by
  apply Guarantee.Keeps.everywhere
  intro before _
  apply Guarantee.KeepsFrom.wrapping (Compile.next scope ⟨input, before⟩)
  · intro statement desk ran
    obtain ⟨-, consulted, -⟩ := Compile.consults_next.ok trivial ran
    exact ⟨_, desk.workspace, by rw [compileNext, ran], trivial, consulted, trivial⟩
  · intro halt desk ran
    refine ⟨halt, desk.workspace, by rw [compileNext, ran], fun final => ?_⟩
    obtain ⟨-, consulted⟩ := Compile.consults_next.error trivial ran final
    exact ⟨trivial, consulted⟩

end GroupScript
