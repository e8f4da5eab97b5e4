import GroupScript.Proofs.LineMoves
import GroupScript.Proofs.Outcome

/-!
# Compiling two inputs side by side

Two inputs are read side by side when each statement of the first is also the next one of the second, perhaps at another
place.  Compilation then makes the same statements from both.  If the second input ends where the first one does, then
it also fails as compilation of the first does, with a place that is moved.

The bounds may differ, since the two inputs may be of different size.  Each is more than the text that is left, and
this is why none is ever reached: compilation that halts has failed with an error.
-/

namespace GroupScript.Compile

/-- A way to read two inputs side by side. -/
structure Pace where
  /-- Where the lines of the first input stand in the second. -/
  move : Relocation
  /-- Whether the second input ends where the first one does. -/
  endsToo : Prop
  related : Input → Input → Prop
  next_some : ∀ {first second after found}, related first second → first.next = (some found, after) →
    ∃ other, second.next = (some (found.relocated move), other) ∧ related after other
  next_none : endsToo → ∀ {first second after}, related first second → first.next = (none, after) →
    ∃ other, second.next = (none, other) ∧ related after other
  enterBlock : ∀ {first second}, related first second → related first.enterBlock second.enterBlock
  leaveBlock : ∀ {first second}, related first second → related first.leaveBlock second.leaveBlock

namespace Pace

/-- Inputs that are read abreast, line by line, are read side by side. -/
def ofAbreast {move : Relocation} {related : Input → Input → Prop} (abreast : Input.Abreast move related)
    (enterBlock : ∀ {first second}, related first second → related first.enterBlock second.enterBlock)
    (leaveBlock : ∀ {first second}, related first second → related first.leaveBlock second.leaveBlock) : Pace where
  move := move
  endsToo := True
  related := related
  next_some := by
    intro first second after found relates taken
    simpa only [taken, Option.map_some] using abreast.next relates
  next_none := by
    intro _ first second after relates taken
    simpa only [taken, Option.map_none] using abreast.next relates
  enterBlock := enterBlock
  leaveBlock := leaveBlock

/-- Reading an input beside itself. -/
def itself : Pace where
  move := .none
  endsToo := True
  related := Eq
  next_some := by
    rintro first _ after found rfl taken
    exact ⟨after, taken, rfl⟩
  next_none := by
    rintro - first _ after rfl taken
    exact ⟨after, taken, rfl⟩
  enterBlock := congrArg Input.enterBlock
  leaveBlock := congrArg Input.leaveBlock

variable {pace : Pace} {α β : Type} {first second after other : Desk}

/-- Two desks whose inputs are read side by side, with the same workspace. -/
structure Beside (pace : Pace) (first second : Desk) : Prop where
  input : pace.related first.input second.input
  workspace : second.workspace = first.workspace

/-- Two desks after a step from two others. -/
structure Onward (pace : Pace) (first second after other : Desk) : Prop where
  beside : pace.Beside after other
  first_le : after.input.unread ≤ first.input.unread
  second_le : other.input.unread ≤ second.input.unread

/-- From two desks, the second step does what the first one does.  What is known of the two values in the end may depend
on the sizes of the text that is left. -/
structure Follows (pace : Pace) (first second : Desk) (action copy : Compile α)
    (post : α → α → Nat → Nat → Prop) : Prop where
  ok : ∀ {value after}, action first = .ok value after →
    ∃ copied other, copy second = .ok copied other ∧ pace.Onward first second after other ∧
      post value copied after.input.unread other.input.unread
  error : pace.endsToo → ∀ {halt after}, action first = .error halt after →
    ∃ error other, halt = .failure error ∧ copy second = .error (.failure (error.relocated pace.move)) other ∧
      pace.Beside after other

/-- From two desks, the second step does what the first one does, with the same value. -/
def Copies (pace : Pace) (first second : Desk) (action copy : Compile α) : Prop :=
  pace.Follows first second action copy fun value copied _ _ => copied = value

theorem Beside.onward (beside : pace.Beside first second) : pace.Onward first second first second :=
  ⟨beside, Nat.le_refl _, Nat.le_refl _⟩

theorem Follows.imp {action copy : Compile α} {post weaker : α → α → Nat → Nat → Prop}
    (follows : pace.Follows first second action copy post)
    (implies : ∀ value copied left leftToo, post value copied left leftToo → weaker value copied left leftToo) :
    pace.Follows first second action copy weaker where
  ok := by
    intro value after finished
    obtain ⟨copied, other, finishedToo, onward, holds⟩ := follows.ok finished
    exact ⟨copied, other, finishedToo, onward, implies _ _ _ _ holds⟩
  error := follows.error

theorem Follows.bind {action copy : Compile α} {next nextToo : α → Compile β}
    {between : α → α → Nat → Nat → Prop} {post : β → β → Nat → Nat → Prop}
    (follows : pace.Follows first second action copy between)
    (continues : ∀ value copied after other, pace.Onward first second after other →
      between value copied after.input.unread other.input.unread →
        pace.Follows after other (next value) (nextToo copied) post) :
    pace.Follows first second (action >>= next) (copy >>= nextToo) post where
  ok := by
    intro result last finished
    obtain ⟨value, after, ran, ranOn⟩ := bind_eq_ok finished
    obtain ⟨copied, other, ranToo, onward, holds⟩ := follows.ok ran
    have following := continues value copied after other onward holds
    obtain ⟨final, lastToo, ranOnToo, onwardAgain, holdsAgain⟩ := following.ok ranOn
    refine ⟨final, lastToo, ?_, ⟨onwardAgain.beside, ?_, ?_⟩, holdsAgain⟩
    · rw [bind_apply, ranToo]
      exact ranOnToo
    · exact Nat.le_trans onwardAgain.first_le onward.first_le
    · exact Nat.le_trans onwardAgain.second_le onward.second_le
  error := by
    intro endsToo halt last halted
    rcases bind_eq_error halted with failed | ⟨value, after, ran, failed⟩
    · obtain ⟨error, other, isFailure, failedToo, beside⟩ := follows.error endsToo failed
      refine ⟨error, other, isFailure, ?_, beside⟩
      rw [bind_apply, failedToo]
    · obtain ⟨copied, other, ranToo, onward, holds⟩ := follows.ok ran
      have following := continues value copied after other onward holds
      obtain ⟨error, lastToo, isFailure, failedToo, beside⟩ := following.error endsToo failed
      refine ⟨error, lastToo, isFailure, ?_, beside⟩
      rw [bind_apply, ranToo]
      exact failedToo

theorem Copies.bind {action copy : Compile α} {next nextToo : α → Compile β}
    {post : β → β → Nat → Nat → Prop} (copies : pace.Copies first second action copy)
    (continues : ∀ value after other, pace.Onward first second after other →
      pace.Follows after other (next value) (nextToo value) post) :
    pace.Follows first second (action >>= next) (copy >>= nextToo) post := by
  apply Follows.bind copies
  rintro value copied after other onward same
  rw [same]
  exact continues value after other onward

theorem Follows.pure {value copied : α} {post : α → α → Nat → Nat → Prop} (beside : pace.Beside first second)
    (holds : post value copied first.input.unread second.input.unread) :
    pace.Follows first second (Pure.pure value) (Pure.pure copied) post where
  ok := by
    intro result after finished
    cases finished
    exact ⟨copied, second, rfl, beside.onward, holds⟩
  error := by
    intro endsToo halt after halted
    cases halted

theorem Copies.pure (beside : pace.Beside first second) (value : α) :
    pace.Copies first second (Pure.pure value) (Pure.pure value) :=
  Follows.pure beside rfl

theorem Follows.ofResult {result : PartResult α} {post : α → α → Nat → Nat → Prop}
    (beside : pace.Beside first second)
    (holds : ∀ value, result = .ok value → post value value first.input.unread second.input.unread) :
    pace.Follows first second (GroupScript.ofResult result)
      (GroupScript.ofResult (PartResult.relocated pace.move result)) post where
  ok := by
    intro value after finished
    cases result with
    | error error => cases finished
    | ok made =>
        cases finished
        exact ⟨value, second, rfl, beside.onward, holds value rfl⟩
  error := by
    intro endsToo halt after halted
    cases result with
    | error error =>
        cases halted
        exact ⟨error, second, rfl, rfl, beside⟩
    | ok made => cases halted

/-- A part that is read from the text of a line is the same for the moved line, and so is what follows. -/
theorem Copies.ofResult_bind {result relocated : PartResult α} {next nextToo : α → Compile β}
    (beside : pace.Beside first second) (same : relocated = PartResult.relocated pace.move result)
    (continues : ∀ value, result = .ok value → pace.Copies first second (next value) (nextToo value)) :
    pace.Copies first second (GroupScript.ofResult result >>= next) (GroupScript.ofResult relocated >>= nextToo) := by
  subst same
  cases result with
  | error error =>
      constructor
      · intro value after finished
        cases finished
      · intro endsToo halt after halted
        cases halted
        exact ⟨error, second, rfl, rfl, beside⟩
  | ok made => exact continues made rfl

theorem Copies.ofResult {result relocated : PartResult α} (beside : pace.Beside first second)
    (same : relocated = PartResult.relocated pace.move result) :
    pace.Copies first second (GroupScript.ofResult result) (GroupScript.ofResult relocated) := by
  subst same
  exact Follows.ofResult beside fun _ _ => rfl

theorem Copies.ite {condition : Prop} [Decidable condition] {yes no yesToo noToo : Compile α}
    (whenTrue : condition → pace.Copies first second yes yesToo)
    (whenFalse : ¬condition → pace.Copies first second no noToo) :
    pace.Copies first second (if condition then yes else no) (if condition then yesToo else noToo) := by
  by_cases holds : condition
  · rw [if_pos holds, if_pos holds]
    exact whenTrue holds
  · rw [if_neg holds, if_neg holds]
    exact whenFalse holds

theorem Copies.valueOf? (beside : pace.Beside first second) (scope : Scope) (name : String) :
    pace.Copies first second (Compile.valueOf? scope name) (Compile.valueOf? scope name) where
  ok := by
    intro value after finished
    obtain ⟨input, workspace⟩ := first
    obtain ⟨otherInput, otherWorkspace⟩ := second
    obtain ⟨related, rfl⟩ := beside
    simp only [Compile.valueOf?, modifyGet, MonadStateOf.modifyGet, EStateM.modifyGet] at finished ⊢
    cases resolved : Workspace.resolve scope name otherWorkspace with
    | ok found left =>
        rw [resolved] at finished
        cases finished
        exact ⟨_, ⟨otherInput, left⟩, rfl, ⟨⟨related, rfl⟩, Nat.le_refl _, Nat.le_refl _⟩, rfl⟩
    | error error left =>
        rw [resolved] at finished
        cases finished
        exact ⟨_, ⟨otherInput, left⟩, rfl, ⟨⟨related, rfl⟩, Nat.le_refl _, Nat.le_refl _⟩, rfl⟩
  error := by
    intro endsToo halt after halted
    simp only [Compile.valueOf?, modifyGet, MonadStateOf.modifyGet, EStateM.modifyGet] at halted
    cases halted

/-- After the next line of the first input, the second goes on behind the same line.  Where the first input has no
further line, both are to fail. -/
theorem Follows.nextLine_bind {next nextToo : Option LogicalLine → Compile α} {post : α → α → Nat → Nat → Prop}
    {error : Error} (beside : pace.Beside first second)
    (fails : next none = fail error) (failsToo : nextToo none = fail (error.relocated pace.move))
    (continues : ∀ found after other, pace.Beside after other → found.key = keyOf found.text →
      found.text.length + after.input.unread < first.input.unread →
      found.text.length + other.input.unread < second.input.unread →
        pace.Follows after other (next (some found)) (nextToo (some (found.relocated pace.move))) post) :
    pace.Follows first second (Compile.nextLine >>= next) (Compile.nextLine >>= nextToo) post := by
  have ran (desk : Desk) (goOn : Option LogicalLine → Compile α) {line : Option LogicalLine} {input : Input}
      (taken : desk.input.next = (line, input)) :
      (Compile.nextLine >>= goOn) desk = goOn line { desk with input } := by
    have step : Compile.nextLine desk = .ok desk.input.next.1 { desk with input := desk.input.next.2 } := rfl
    rw [bind_apply, step, taken]
  cases taken : first.input.next with
  | mk line input =>
      cases line with
      | none =>
          have halts := ran first next taken
          rw [fails] at halts
          constructor
          · intro value after finished
            rw [halts] at finished
            cases finished
          · intro endsToo halt after halted
            obtain ⟨inputToo, takenToo, related⟩ := pace.next_none endsToo beside.input taken
            have haltsToo := ran second nextToo takenToo
            rw [failsToo] at haltsToo
            rw [halts] at halted
            cases halted
            exact ⟨error, _, rfl, haltsToo, related, beside.workspace⟩
      | some found =>
          obtain ⟨inputToo, takenToo, related⟩ := pace.next_some beside.input taken
          have smaller : found.text.length + input.unread < first.input.unread := Input.unread_next taken
          have smallerToo : found.text.length + inputToo.unread < second.input.unread := by
            simpa only [LogicalLine.text_relocated] using Input.unread_next takenToo
          have following := continues found { first with input } { second with input := inputToo }
            ⟨related, beside.workspace⟩ (Input.key_next taken) smaller smallerToo
          have goesOn := ran first next taken
          have goesOnToo := ran second nextToo takenToo
          constructor
          · intro value after finished
            rw [goesOn] at finished
            obtain ⟨copied, other, finishedToo, onward, holds⟩ := following.ok finished
            have onwardFirst : after.input.unread ≤ input.unread := onward.first_le
            have onwardSecond : other.input.unread ≤ inputToo.unread := onward.second_le
            refine ⟨copied, other, goesOnToo.trans finishedToo, ⟨onward.beside, ?_, ?_⟩, holds⟩
            · omega
            · omega
          · intro endsToo halt after halted
            rw [goesOn] at halted
            obtain ⟨error, other, isFailure, haltedToo, besideToo⟩ := following.error endsToo halted
            exact ⟨error, other, isFailure, goesOnToo.trans haltedToo, besideToo⟩

theorem Follows.inBlock {action copy : Compile α} {post : α → α → Nat → Nat → Prop}
    (follows : pace.Follows { first with input := first.input.enterBlock }
      { second with input := second.input.enterBlock } action copy post) :
    pace.Follows first second (Compile.inBlock action) (Compile.inBlock copy) post where
  ok := by
    intro value after finished
    rw [Compile.inBlock] at finished ⊢
    cases ran : action { first with input := first.input.enterBlock } with
    | error halt desk =>
        rw [ran] at finished
        cases finished
    | ok result desk =>
        rw [ran] at finished
        cases finished
        obtain ⟨copied, other, ranToo, onward, holds⟩ := follows.ok ran
        rw [ranToo]
        exact ⟨copied, _, rfl, ⟨⟨pace.leaveBlock onward.beside.input, onward.beside.workspace⟩,
          onward.first_le, onward.second_le⟩, holds⟩
  error := by
    intro endsToo halt after halted
    rw [Compile.inBlock] at halted ⊢
    cases ran : action { first with input := first.input.enterBlock } with
    | ok result desk =>
        rw [ran] at halted
        cases halted
    | error reason desk =>
        rw [ran] at halted
        cases halted
        obtain ⟨error, other, isFailure, ranToo, beside⟩ := follows.error endsToo ran
        rw [ranToo]
        exact ⟨error, _, isFailure, rfl, pace.leaveBlock beside.input, beside.workspace⟩

end Pace

/-! ### The sizes of the parts of a line -/

theorem length_rest_le (line : LogicalLine) : line.rest.length ≤ line.text.length :=
  Nat.le_trans (Text.length_trim_le _) (Text.length_dropWhile_le _ _)

/-- A word takes up some of the text of its line. -/
theorem length_rest_lt {line : LogicalLine} (formed : line.key = keyOf line.text) (word : line.key ≠ "") :
    line.rest.length < line.text.length := by
  have apart : line.text.takeWhile Text.isNameChar ++ line.text.dropWhile Text.isNameChar = line.text :=
    List.takeWhile_append_dropWhile
  have counted := congrArg List.length apart
  have trimmed := Text.length_trim_le (line.text.dropWhile Text.isNameChar)
  have begins : line.text.takeWhile Text.isNameChar ≠ [] := by
    intro empty
    apply word
    rw [formed, keyOf, empty]
    rfl
  have positive := List.length_pos_of_ne_nil begins
  rw [List.length_append] at counted
  rw [LogicalLine.rest]
  omega

theorem length_trim_drop_le (count : Nat) (text : List Char) :
    (Text.trim (text.drop count)).length ≤ text.length := by
  have trimmed := Text.length_trim_le (text.drop count)
  rw [List.length_drop] at trimmed
  omega

theorem length_of_header {line : LogicalLine} {rest head tail : List Char}
    (read : line.header rest = .ok (head, tail)) : tail.length ≤ rest.length := by
  unfold LogicalLine.header at read
  split at read
  · rename_i position found
    cases read
    exact length_trim_drop_le (position + 1) rest
  · cases read

theorem length_of_bareHeader {line : LogicalLine} {rest tail : List Char}
    (read : line.bareHeader rest = .ok tail) : tail.length ≤ rest.length := by
  unfold LogicalLine.bareHeader at read
  split at read
  · rename_i text
    cases read
    exact Nat.le_succ_of_le (Text.length_trim_le text)
  · cases read
    exact Nat.le_refl _
  · cases read

namespace Pace

variable {pace : Pace} {first second : Desk} {inner other : Inner} {bound boundToo : Nat}
  {line opener : LogicalLine} {rest tail : List Char}

/-- Two compilers of inner statements that do the same, as long as their bounds exceed the text that is left. -/
def FollowsInside (pace : Pace) (bound boundToo : Nat) (inner other : Inner) : Prop :=
  ∀ {first second : Desk} {line : LogicalLine}, pace.Beside first second → line.key = keyOf line.text →
    line.text.length + first.input.unread < bound → line.text.length + second.input.unread < boundToo →
      pace.Copies first second (inner line) (other (line.relocated pace.move))

/-- What is known of the line that has ended a block: with it, less than the size at the beginning is left. -/
structure Ended (pace : Pace) (size sizeToo : Nat) (result copied : List Statement × LogicalLine)
    (left leftToo : Nat) : Prop where
  copied : copied = (result.1, result.2.relocated pace.move)
  smaller : result.2.text.length + left < size
  smallerToo : result.2.text.length + leftToo < sizeToo

section Inner

variable (inside : pace.FollowsInside bound boundToo inner other)

include inside

theorem copies_inline (beside : pace.Beside first second) (room : tail.length + first.input.unread < bound)
    (roomToo : tail.length + second.input.unread < boundToo) :
    pace.Copies first second (inline inner line tail) (inline other (line.relocated pace.move) tail) :=
  inside beside rfl room roomToo

theorem copies_inlined {made : Statement → List Statement} (beside : pace.Beside first second)
    (room : tail.length + first.input.unread < bound) (roomToo : tail.length + second.input.unread < boundToo) :
    pace.Copies first second (inline inner line tail >>= fun statement => pure (made statement))
      (inline other (line.relocated pace.move) tail >>= fun statement => pure (made statement)) := by
  apply (copies_inline inside beside room roomToo).bind
  intro statement after otherAfter onward
  exact Copies.pure onward.beside (made statement)

theorem copies_leading (beside : pace.Beside first second) (room : tail.length + first.input.unread < bound)
    (roomToo : tail.length + second.input.unread < boundToo) :
    pace.Copies first second (leading inner line tail) (leading other (line.relocated pace.move) tail) := by
  unfold leading
  apply Copies.ite
  · intro empty
    exact .pure beside []
  · intro visible
    exact copies_inlined inside beside room roomToo

theorem follows_blockBody {terminators : List String} {count countToo : Nat} {done : List Statement}
    (beside : pace.Beside first second) (room : first.input.unread ≤ bound)
    (roomToo : second.input.unread ≤ boundToo) (enough : first.input.unread < count)
    (enoughToo : second.input.unread < countToo) :
    pace.Follows first second (blockBody inner opener terminators count done)
      (blockBody other (opener.relocated pace.move) terminators countToo done)
      (pace.Ended first.input.unread second.input.unread) := by
  -- The line that is taken leaves less text, so both counts go down by one and stay large enough.
  induction count generalizing countToo done first second with
  | zero => exact absurd enough (Nat.not_lt_zero _)
  | succ count ih =>
      cases countToo with
      | zero => exact absurd enoughToo (Nat.not_lt_zero _)
      | succ countToo =>
          rw [blockBody, blockBody]
          refine .nextLine_bind beside rfl rfl ?_
          intro found after otherAfter besideAfter formed smaller smallerToo
          dsimp only
          rw [LogicalLine.key_relocated]
          by_cases terminates : terminators.contains found.key = true
          · rw [if_pos terminates, if_pos terminates]
            exact .pure besideAfter ⟨rfl, smaller, smallerToo⟩
          · rw [if_neg terminates, if_neg terminates]
            have copies := inside besideAfter formed (by omega) (by omega)
            apply copies.bind
            intro statement last otherLast onward
            have lastLe := onward.first_le
            have otherLastLe := onward.second_le
            have recursive := @ih last otherLast countToo (statement :: done) onward.beside (by omega) (by omega)
              (by omega) (by omega)
            apply recursive.imp
            intro result copied left leftToo ended
            have fewer := ended.smaller
            have fewerToo := ended.smallerToo
            exact { ended with smaller := by omega, smallerToo := by omega }

theorem follows_block {terminators : List String} (beside : pace.Beside first second)
    (room : first.input.unread < bound) (roomToo : second.input.unread < boundToo) :
    pace.Follows first second (block bound inner opener terminators)
      (block boundToo other (opener.relocated pace.move) terminators)
      (pace.Ended first.input.unread second.input.unread) := by
  apply Follows.inBlock
  have entered : pace.Beside { first with input := first.input.enterBlock }
      { second with input := second.input.enterBlock } :=
    ⟨pace.enterBlock beside.input, beside.workspace⟩
  exact follows_blockBody inside entered (Nat.le_of_lt room) (Nat.le_of_lt roomToo) room roomToo

theorem copies_body (terminator : String) (beside : pace.Beside first second)
    (room : tail.length + first.input.unread < bound) (roomToo : tail.length + second.input.unread < boundToo) :
    pace.Copies first second (body bound inner line tail terminator)
      (body boundToo other (line.relocated pace.move) tail terminator) := by
  unfold body
  apply Copies.ite
  · intro empty
    apply (follows_block inside beside (by omega) (by omega)).bind
    rintro ⟨statements, last⟩ _ after otherAfter onward ⟨rfl, -, -⟩
    apply Copies.ofResult_bind onward.beside LogicalLine.requireEnd_relocated
    intro _ _
    exact Copies.pure onward.beside statements
  · intro visible
    exact copies_inlined inside beside room roomToo

theorem copies_branches {more moreToo : Nat} {condition : Code} {statements : List Statement} {seenElse : Bool}
    {done : List (Code × List Statement)} (beside : pace.Beside first second)
    (room : first.input.unread < bound) (roomToo : second.input.unread < boundToo)
    (enough : first.input.unread < more) (enoughToo : second.input.unread < moreToo) :
    pace.Copies first second (branches bound inner opener more condition statements seenElse done)
      (branches boundToo other (opener.relocated pace.move) moreToo condition statements seenElse done) := by
  induction more generalizing moreToo condition statements seenElse done first second with
  | zero => exact absurd enough (Nat.not_lt_zero _)
  | succ more ih =>
      cases moreToo with
      | zero => exact absurd enoughToo (Nat.not_lt_zero _)
      | succ moreToo =>
          rw [branches, branches]
          apply (follows_block inside beside room roomToo).bind
          rintro ⟨rest, last⟩ _ after otherAfter onward ⟨rfl, smaller, smallerToo⟩
          dsimp only at smaller smallerToo ⊢
          have restLe := length_rest_le last
          -- Every way to go on continues with the text after the keyword of the line that ended the block.
          have goOn {tail : List Char} (shorter : tail.length ≤ last.rest.length) (condition : Code)
              (seenElse : Bool) (done : List (Code × List Statement)) :
              pace.Copies after otherAfter
                (leading inner last tail >>= fun first =>
                  branches bound inner opener more condition first seenElse done)
                (leading other (last.relocated pace.move) tail >>= fun first =>
                  branches boundToo other (opener.relocated pace.move) moreToo condition first seenElse done) := by
            apply (copies_leading inside onward.beside (by omega) (by omega)).bind
            intro statements next otherNext onwardNext
            have nextLe := onwardNext.first_le
            have otherNextLe := onwardNext.second_le
            exact ih onwardNext.beside (by omega) (by omega) (by omega) (by omega)
          rw [LogicalLine.key_relocated, LogicalLine.rest_relocated]
          apply Copies.ite
          · intro ends
            apply Copies.ofResult_bind onward.beside LogicalLine.requireEnd_relocated
            intro _ _
            exact Copies.pure onward.beside _
          · intro goesOn
            apply Copies.ite
            · intro afterElse
              exact .ofResult onward.beside (malformed_relocated _)
            · intro beforeElse
              apply Copies.ite
              · intro isElif
                apply Copies.ofResult_bind onward.beside LogicalLine.header_relocated
                rintro ⟨head, tail⟩ read
                apply Copies.ofResult_bind onward.beside LogicalLine.condition_relocated
                intro condition _
                exact goOn (length_of_header read) condition false _
              · intro isElse
                apply Copies.ofResult_bind onward.beside LogicalLine.bareHeader_relocated
                intro tail read
                exact goOn (length_of_bareHeader read) always true _

variable (beside : pace.Beside first second) (room : rest.length + first.input.unread < bound)
  (roomToo : rest.length + second.input.unread < boundToo)

include beside room roomToo

theorem copies_conditional :
    pace.Copies first second (conditional bound inner line rest)
      (conditional boundToo other (line.relocated pace.move) rest) := by
  unfold conditional
  apply Copies.ofResult_bind beside LogicalLine.header_relocated
  rintro ⟨head, tail⟩ read
  have shorter := length_of_header read
  apply Copies.ofResult_bind beside LogicalLine.condition_relocated
  intro condition _
  apply Copies.ite
  · intro empty
    exact copies_branches inside beside (by omega) (by omega) (by omega) (by omega)
  · intro visible
    apply (copies_inline inside beside (by omega) (by omega)).bind
    intro statement after otherAfter onward
    exact Copies.pure onward.beside _

theorem copies_whileLoop :
    pace.Copies first second (whileLoop bound inner line rest)
      (whileLoop boundToo other (line.relocated pace.move) rest) := by
  unfold whileLoop
  apply Copies.ofResult_bind beside LogicalLine.header_relocated
  rintro ⟨head, tail⟩ read
  have shorter := length_of_header read
  apply Copies.ofResult_bind beside LogicalLine.condition_relocated
  intro condition _
  apply (copies_body inside _ beside (by omega) (by omega)).bind
  intro statements after otherAfter onward
  exact Copies.pure onward.beside _

theorem copies_forLoop :
    pace.Copies first second (forLoop bound inner line rest)
      (forLoop boundToo other (line.relocated pace.move) rest) := by
  unfold forLoop
  apply Copies.ofResult_bind beside LogicalLine.header_relocated
  rintro ⟨head, tail⟩ read
  have shorter := length_of_header read
  dsimp only
  cases Source.findWord ['i', 'n'] head with
  | none => exact .ofResult beside (malformed_relocated _)
  | some position =>
      apply Copies.ofResult_bind beside loopVariable_relocated
      intro name _
      apply Copies.ofResult_bind beside LogicalLine.condition_relocated
      intro items _
      apply (copies_body inside _ beside (by omega) (by omega)).bind
      intro statements after otherAfter onward
      exact Copies.pure onward.beside _

theorem copies_attempt :
    pace.Copies first second (attempt bound inner line rest)
      (attempt boundToo other (line.relocated pace.move) rest) := by
  unfold attempt
  apply Copies.ofResult_bind beside LogicalLine.bareHeader_relocated
  intro tail read
  apply Copies.ite
  · intro empty
    apply (follows_block inside beside (by omega) (by omega)).bind
    rintro ⟨statements, last⟩ _ after otherAfter onward ⟨rfl, smaller, smallerToo⟩
    dsimp only at smaller smallerToo ⊢
    have restLe := length_rest_le last
    rw [LogicalLine.key_relocated, LogicalLine.rest_relocated]
    apply Copies.ite
    · intro ends
      apply Copies.ofResult_bind onward.beside LogicalLine.requireEnd_relocated
      intro _ _
      exact Copies.pure onward.beside _
    · intro goesOn
      apply Copies.ofResult_bind onward.beside LogicalLine.bareHeader_relocated
      intro tail read
      have shorter := length_of_bareHeader read
      apply (copies_leading inside onward.beside (by omega) (by omega)).bind
      intro leadingStatements next otherNext onwardNext
      have nextLe := onwardNext.first_le
      have otherNextLe := onwardNext.second_le
      apply (follows_block inside onwardNext.beside (by omega) (by omega)).bind
      rintro ⟨handler, final⟩ _ ended otherEnded onwardEnded ⟨rfl, -, -⟩
      apply Copies.ofResult_bind onwardEnded.beside LogicalLine.requireEnd_relocated
      intro _ _
      exact Copies.pure onwardEnded.beside _
  · intro visible
    exact .ofResult beside (malformed_relocated _)

theorem copies_procedureBody :
    pace.Copies first second (procedureBody bound inner line rest)
      (procedureBody boundToo other (line.relocated pace.move) rest) := by
  unfold procedureBody
  apply Copies.ite
  · intro empty
    exact copies_body inside _ beside (by simp only [List.length_nil]; omega) (by simp only [List.length_nil]; omega)
  · intro visible
    exact copies_inlined inside beside room roomToo

theorem copies_definition :
    pace.Copies first second (definition bound inner line rest)
      (definition boundToo other (line.relocated pace.move) rest) := by
  unfold definition
  cases Source.findTopLevel ':' rest with
  | none => exact .ofResult beside LogicalLine.definition_relocated
  | some position =>
      have shorter := length_trim_drop_le (position + 1) rest
      apply Copies.ofResult_bind beside LogicalLine.signature_relocated
      intro signature _
      apply (copies_procedureBody inside beside (by omega) (by omega)).bind
      intro statements after otherAfter onward
      exact Copies.pure onward.beside _

end Inner

section Flat

variable (beside : pace.Beside first second) {scope : Scope}

include beside

theorem copies_commandCall? (text : List Char) :
    pace.Copies first second (commandCall? scope text) (commandCall? scope text) := by
  unfold commandCall?
  apply Copies.ite
  · intro stops
    exact .pure beside none
  · intro goesOn
    apply (Copies.valueOf? beside scope _).bind
    intro value after otherAfter onward
    cases value with
    | none => exact Copies.pure onward.beside none
    | some value => exact Copies.ite (fun _ => .pure onward.beside _) fun _ => .pure onward.beside _

theorem copies_simple : pace.Copies first second (simple scope line) (simple scope (line.relocated pace.move)) := by
  unfold simple
  apply (copies_commandCall? beside line.text).bind
  intro call after otherAfter onward
  cases call with
  | some call =>
      dsimp only
      split
      · exact Copies.pure onward.beside _
      · exact Copies.ofResult onward.beside (malformed_relocated _)
  | none =>
      dsimp only
      rw [LogicalLine.text_relocated]
      cases Source.findAssign line.text with
      | none =>
          apply Copies.ofResult_bind onward.beside relocated_codeOf.symm
          intro code _
          exact .pure onward.beside _
      | some position =>
          apply Copies.ite
          · intro empty
            exact .ofResult onward.beside (malformed_relocated _)
          · intro visible
            apply Copies.ofResult_bind onward.beside LogicalLine.target_relocated
            intro target _
            apply Copies.ofResult_bind onward.beside relocated_codeOf.symm
            intro code _
            exact .pure onward.beside _

theorem copies_bare (statement : Statement) :
    pace.Copies first second (bare line rest statement) (bare (line.relocated pace.move) rest statement) := by
  unfold bare
  apply Copies.ite
  · intro empty
    exact .pure beside statement
  · intro visible
    exact .ofResult beside (malformed_relocated _)

/-- A line that begins no block is the same for all bounds. -/
theorem copies_lineWith_of_flat (flat : openingWords.contains line.key = false) :
    pace.Copies first second (lineWith bound inner scope line)
      (lineWith boundToo other scope (line.relocated pace.move)) := by
  have opens {word : String} {action copy : Compile Statement} (begins : line.key = word)
      (opening : openingWords.contains word = true) : pace.Copies first second action copy := by
    rw [begins, opening] at flat
    cases flat
  unfold lineWith
  simp only [LogicalLine.key_relocated, LogicalLine.rest_relocated]
  split
  case h_1 begins => exact opens begins (by decide)
  case h_2 begins => exact opens begins (by decide)
  case h_3 begins => exact opens begins (by decide)
  case h_4 begins => exact opens begins (by decide)
  case h_5 begins => exact opens begins (by decide)
  case h_6 =>
    apply Copies.ofResult_bind beside LogicalLine.namesToDelete_relocated
    intro names _
    exact .pure beside _
  case h_7 =>
    apply Copies.ofResult_bind beside LogicalLine.argumentList_relocated.symm
    intro items _
    exact .pure beside _
  case h_8 =>
    apply Copies.ofResult_bind beside LogicalLine.argumentList_relocated.symm
    intro values _
    exact .pure beside _
  case h_9 => exact copies_bare beside _
  case h_10 => exact copies_bare beside _
  case h_11 =>
    apply Copies.ite
    · intro imports
      exact .ofResult beside LogicalLine.importStatement_relocated
    · intro others
      apply Copies.ite
      · intro outside
        exact .ofResult beside (malformed_relocated _)
      · intro isSimple
        exact copies_simple beside

end Flat

theorem copies_lineWith {scope : Scope} (inside : pace.FollowsInside bound boundToo inner other)
    (beside : pace.Beside first second) (formed : line.key = keyOf line.text)
    (room : line.text.length + first.input.unread ≤ bound)
    (roomToo : line.text.length + second.input.unread ≤ boundToo) :
    pace.Copies first second (lineWith bound inner scope line)
      (lineWith boundToo other scope (line.relocated pace.move)) := by
  cases opening : openingWords.contains line.key with
  | false => exact copies_lineWith_of_flat beside opening
  | true =>
      have word : line.key ≠ "" := by
        intro empty
        rw [empty] at opening
        cases opening
      have shorter := length_rest_lt formed word
      have roomAfter : line.rest.length + first.input.unread < bound := by omega
      have roomAfterToo : line.rest.length + second.input.unread < boundToo := by omega
      have words := List.contains_iff_mem.mp opening
      simp only [openingWords, List.mem_cons, List.not_mem_nil, or_false] at words
      unfold lineWith
      simp only [LogicalLine.key_relocated, LogicalLine.rest_relocated]
      rcases words with begins | begins | begins | begins | begins
      · simp only [begins]
        exact copies_conditional inside beside roomAfter roomAfterToo
      · simp only [begins]
        exact copies_whileLoop inside beside roomAfter roomAfterToo
      · simp only [begins]
        exact copies_forLoop inside beside roomAfter roomAfterToo
      · simp only [begins]
        exact copies_attempt inside beside roomAfter roomAfterToo
      · simp only [begins]
        exact copies_definition inside beside roomAfter roomAfterToo

theorem followsInside_line (pace : Pace) (scope : Scope) (bound boundToo : Nat) :
    pace.FollowsInside bound boundToo (Compile.line scope bound) (Compile.line scope boundToo) := by
  induction bound generalizing boundToo with
  | zero =>
      intro first second line beside formed room
      exact absurd room (Nat.not_lt_zero _)
  | succ bound ih =>
      intro first second line beside formed room roomToo
      cases boundToo with
      | zero => exact absurd roomToo (Nat.not_lt_zero _)
      | succ boundToo =>
          exact copies_lineWith (ih boundToo) beside formed (Nat.le_of_lt_succ room) (Nat.le_of_lt_succ roomToo)

theorem copies_line_boundOf {scope : Scope} (beside : pace.Beside first second)
    (formed : line.key = keyOf line.text) :
    pace.Copies first second (Compile.line scope (boundOf line first.input) line)
      (Compile.line scope (boundOf (line.relocated pace.move) second.input) (line.relocated pace.move)) := by
  unfold boundOf
  rw [LogicalLine.key_relocated, LogicalLine.text_relocated]
  cases opening : openingWords.contains line.key with
  | false => exact copies_lineWith_of_flat beside opening
  | true =>
      apply followsInside_line pace scope _ _ beside formed
      · rw [if_pos rfl]
        omega
      · rw [if_pos rfl]
        omega

end Pace

/-! ### The next statement -/

theorem next_of_taken {scope : Scope} {desk : Desk} {found : LogicalLine} {input : Input}
    (taken : desk.input.next = (some found, input)) :
    next scope desk =
      (line scope (boundOf found input) found >>= fun statement => pure (some statement)) { desk with input } := by
  have step : nextLine desk = .ok desk.input.next.1 { desk with input := desk.input.next.2 } := rfl
  rw [next, bind_apply, step, taken]
  rfl

theorem next_of_ended {scope : Scope} {desk : Desk} {input : Input} (taken : desk.input.next = (none, input)) :
    next scope desk = .ok none { desk with input } := by
  have step : nextLine desk = .ok desk.input.next.1 { desk with input := desk.input.next.2 } := rfl
  rw [next, bind_apply, step, taken]
  rfl

theorem ended_of_next {scope : Scope} {desk after : Desk} (ran : next scope desk = .ok none after) :
    desk.input.next = (none, after.input) ∧ after.workspace = desk.workspace := by
  rcases taken : desk.input.next with ⟨_ | found, input⟩
  · rw [next_of_ended taken] at ran
    cases ran
    exact ⟨rfl, rfl⟩
  · rw [next_of_taken taken] at ran
    obtain ⟨statement, between, compiled, returned⟩ := bind_eq_ok ran
    cases returned

namespace Pace

variable {pace : Pace} {scope : Scope} {first second after : Desk}

/-- From two inputs side by side, the next statement is the same, and text is taken from both. -/
theorem next_ok (beside : pace.Beside first second) {statement : Statement}
    (ran : Compile.next scope first = .ok (some statement) after) :
    ∃ other, Compile.next scope second = .ok (some statement) other ∧ pace.Beside after other ∧
      after.input.unread < first.input.unread ∧ other.input.unread < second.input.unread := by
  rcases taken : first.input.next with ⟨_ | found, input⟩
  · rw [next_of_ended taken] at ran
    cases ran
  · obtain ⟨inputToo, takenToo, related⟩ := pace.next_some beside.input taken
    have smaller : found.text.length + input.unread < first.input.unread := Input.unread_next taken
    have smallerToo := Input.unread_next takenToo
    have besideAfter : pace.Beside { first with input } { second with input := inputToo } :=
      ⟨related, beside.workspace⟩
    rw [next_of_taken taken] at ran
    obtain ⟨made, between, compiled, returned⟩ := bind_eq_ok ran
    cases returned
    have copies := @copies_line_boundOf pace _ _ found scope besideAfter (Input.key_next taken)
    obtain ⟨_, other, compiledToo, onward, rfl⟩ := copies.ok compiled
    have onwardFirst : after.input.unread ≤ input.unread := onward.first_le
    have onwardSecond : other.input.unread ≤ inputToo.unread := onward.second_le
    refine ⟨other, ?_, onward.beside, by omega, by omega⟩
    rw [next_of_taken takenToo, bind_apply, compiledToo]
    rfl

/-- From two inputs that end together, compilation of the next statement fails for both. -/
theorem next_error (endsToo : pace.endsToo) (beside : pace.Beside first second) {halt : Halt}
    (ran : Compile.next scope first = .error halt after) :
    ∃ error other, halt = .failure error ∧
      Compile.next scope second = .error (.failure (error.relocated pace.move)) other ∧ pace.Beside after other := by
  rcases taken : first.input.next with ⟨_ | found, input⟩
  · rw [next_of_ended taken] at ran
    cases ran
  · obtain ⟨inputToo, takenToo, related⟩ := pace.next_some beside.input taken
    have besideAfter : pace.Beside { first with input } { second with input := inputToo } :=
      ⟨related, beside.workspace⟩
    rw [next_of_taken taken] at ran
    rcases bind_eq_error ran with failed | ⟨statement, between, -, returned⟩
    · have copies := @copies_line_boundOf pace _ _ found scope besideAfter (Input.key_next taken)
      obtain ⟨error, other, isFailure, failedToo, besideLast⟩ := copies.error endsToo failed
      refine ⟨error, other, isFailure, ?_, besideLast⟩
      rw [next_of_taken takenToo, bind_apply, failedToo]
    · cases returned

end Pace

/-- No bound is reached: if a statement is not compiled, there is an error that says why. -/
theorem failure_of_next {scope : Scope} {desk after : Desk} {halt : Halt}
    (ran : next scope desk = .error halt after) : ∃ error, halt = .failure error := by
  obtain ⟨error, other, isFailure, -⟩ := @Pace.next_error .itself scope desk desk after trivial ⟨rfl, rfl⟩ halt ran
  exact ⟨error, isFailure⟩

end GroupScript.Compile
