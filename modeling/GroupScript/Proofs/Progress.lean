import GroupScript.Proofs.Replay
import GroupScript.Proofs.TextSequence

/-!
# Progress of compilation

Compilation takes text from the input and never adds any.  Lines that are joined get a character between them, and what
stands behind a semicolon is put back, but each line taken counts for one more than its characters, so the size of the
text not read yet gets smaller with every statement.  Statements inside others come from the text of their header, which
is shorter, or from the lines behind it.  Hence a bound on the recursion as large as the unread text is never reached,
and a loop of calls comes to the end of the input, whatever the text is and whether or not its statements are malformed.
-/

namespace GroupScript

theorem Error.relocated_none (error : Error) : error.relocated .none = error := by
  unfold relocated
  split
  · rfl
  · rfl

namespace Input

variable {input after : Input}

/-- Input that gives no statement has run out. -/
theorem unread_of_ended (ended : input.next = (none, after)) : after.unread = 0 := by
  fun_induction next input with
  | case1 input rest taken =>
      cases ended
      exact unread_eq_zero taken
  | case2 input line rest taken text empty ih => exact ih ended
  | case3 input line rest taken text visible => cases ended

theorem unread_next_lt (given : input.next.1 ≠ none) : input.next.2.unread < input.unread := by
  rcases taken : input.next with ⟨_ | found, after⟩
  · exact absurd (congrArg Prod.fst taken) given
  · exact Nat.lt_of_le_of_lt (Nat.le_add_left _ _) (unread_next taken)

theorem unread_next_le (input : Input) : input.next.2.unread ≤ input.unread := by
  by_cases ended : input.next.1 = none
  · rw [unread_of_ended (Prod.ext ended rfl)]
    exact Nat.zero_le _
  · exact Nat.le_of_lt (unread_next_lt ended)

end Input

namespace Compile

/-! ### Taking text from the input -/

/-- The guarantee that no text is added to the input. -/
def shrinking : Guarantee Desk where
  holds := fun _ => True
  leads := fun before after => after.input.unread ≤ before.input.unread
  refl := fun _ => Nat.le_refl _
  trans := fun first second => Nat.le_trans second first

theorem routine_shrinking (scope : Scope) : Routine shrinking scope where
  takes := .modifyGet fun desk _ => ⟨trivial, desk.input.unread_next_le, trivial⟩
  asks := by
    intro name
    apply (keeps_valueOf?_pausing scope name).transfer fun _ => trivial
    intro before after _ paused
    have same : after.input = before.input := paused
    exact ⟨trivial, Nat.le_of_eq (congrArg Input.unread same)⟩
  -- Entering and leaving a block changes the prompt only.
  nests := fun keeps => keeps_inBlock keeps (fun _ => trivial) fun _ _ smaller => ⟨trivial, smaller⟩

variable {scope : Scope} {desk : Desk}

theorem call_of_ended {input : Input} (ended : desk.input.next = (none, input)) :
    call scope desk = (.ok none, { desk with input }) :=
  call_of_ok (next_of_ended ended)

/-- There is nothing to compile exactly if no statement is left. -/
theorem call_eq_ok_none_iff : (call scope desk).1 = .ok none ↔ desk.input.next.1 = none := by
  constructor
  · intro gives
    cases ran : next scope desk with
    | error halt after =>
        rw [call_of_error ran] at gives
        cases gives
    | ok made after =>
        rw [call_of_ok ran] at gives
        cases gives
        exact congrArg Prod.fst (ended_of_next ran).1
  · intro ended
    rw [call_of_ended (Prod.ext ended rfl)]

theorem unread_call_eq_zero (ended : desk.input.next.1 = none) : (call scope desk).2.input.unread = 0 := by
  have ran := @call_of_ended scope desk _ (Prod.ext ended rfl)
  rw [ran]
  exact Input.unread_of_ended (Prod.ext ended rfl)

/-- A call that takes a statement takes text, whether the statement is compiled or malformed. -/
theorem unread_call_lt (given : desk.input.next.1 ≠ none) :
    (call scope desk).2.input.unread < desk.input.unread := by
  rcases taken : desk.input.next with ⟨_ | found, input⟩
  · exact absurd (congrArg Prod.fst taken) given
  · have smaller := Input.unread_next taken
    have onward : (call scope desk).2.input.unread ≤ input.unread :=
      leads_call taken ((routine_shrinking scope).blockwise.keeps_line found) trivial
    omega

/-! ### Bounds -/

/-- Compiles the next statement, with a bound on the nesting and the number of statements in it. -/
def nextWithin (scope : Scope) (bound : Nat) : Compile (Option Statement) := do
  match ← nextLine with
  | none => return none
  | some text => return some (← line scope bound text)

theorem nextWithin_of_ended {input : Input} (bound : Nat) (ended : desk.input.next = (none, input)) :
    nextWithin scope bound desk = .ok none { desk with input } := by
  have step : nextLine desk = .ok desk.input.next.1 { desk with input := desk.input.next.2 } := rfl
  rw [nextWithin, bind_apply, step, ended]
  rfl

theorem nextWithin_of_taken {found : LogicalLine} {input : Input} (bound : Nat)
    (taken : desk.input.next = (some found, input)) :
    nextWithin scope bound desk =
      (line scope bound found >>= fun statement => pure (some statement)) { desk with input } := by
  have step : nextLine desk = .ok desk.input.next.1 { desk with input := desk.input.next.2 } := rfl
  rw [nextWithin, bind_apply, step, taken]

/-- A step that copies another one from the same desk does the same. -/
theorem Pace.Copies.eq {α : Type} {action copy : Compile α} (copies : Pace.itself.Copies desk desk action copy) :
    copy desk = action desk := by
  cases ran : action desk with
  | ok value after =>
      obtain ⟨_, ⟨input, workspace⟩, ranToo, ⟨⟨sameInput, sameWorkspace⟩, -, -⟩, rfl⟩ := copies.ok ran
      cases sameInput
      cases sameWorkspace
      exact ranToo
  | error halt after =>
      obtain ⟨error, ⟨input, workspace⟩, rfl, ranToo, ⟨sameInput, sameWorkspace⟩⟩ := copies.error trivial ran
      cases sameInput
      cases sameWorkspace
      rw [ranToo, show error.relocated Pace.itself.move = error from error.relocated_none]

/-- A line is compiled alike within all bounds that its text and the lines behind it fit in. -/
theorem line_eq_of_room {found : LogicalLine} {bound : Nat} (formed : found.key = keyOf found.text)
    (room : found.text.length + desk.input.unread < bound) :
    line scope bound found desk = line scope (boundOf found desk.input) found desk := by
  have beside : Pace.itself.Beside desk desk := ⟨rfl, rfl⟩
  unfold boundOf
  cases opening : openingWords.contains found.key with
  | true =>
      have copies := Pace.itself.followsInside_line scope (found.text.length + desk.input.unread + 2) bound beside
        formed (by omega) room
      exact copies.eq
  | false =>
      obtain ⟨bound, rfl⟩ := Nat.exists_eq_add_of_lt room
      exact (Pace.copies_lineWith_of_flat beside opening).eq

/-- Every bound that the unread text fits in is as good as none. -/
theorem nextWithin_eq {bound : Nat} (room : desk.input.unread ≤ bound) :
    nextWithin scope bound desk = next scope desk := by
  rcases taken : desk.input.next with ⟨_ | found, input⟩
  · rw [nextWithin_of_ended bound taken, next_of_ended taken]
  · have smaller := Input.unread_next taken
    have compiled : line scope bound found { desk with input } =
        line scope (boundOf found input) found { desk with input } :=
      line_eq_of_room (Input.key_next taken) (by simp only; omega)
    rw [nextWithin_of_taken bound taken, next_of_taken taken, bind_apply, bind_apply, compiled]

/-! ### Loops of calls -/

/-- A series of calls with no text added to the input in between comes to its end, after no more calls than the size
of the text. -/
theorem exists_call_eq_ok_none {scopes : Nat → Scope} {desks : Nat → Desk} {size : Nat}
    (begins : (desks 0).input.unread ≤ size)
    (onward : ∀ count, (desks (count + 1)).input.unread ≤ (call (scopes count) (desks count)).2.input.unread) :
    ∃ count ≤ size, (call (scopes count) (desks count)).1 = .ok none ∧
      ∀ earlier < count, (call (scopes earlier) (desks earlier)).1 ≠ .ok none := by
  induction size generalizing scopes desks with
  | zero =>
      refine ⟨0, Nat.le_refl 0, ?_, fun earlier before => absurd before (Nat.not_lt_zero _)⟩
      rw [call_eq_ok_none_iff]
      by_contra given
      have smaller := @unread_call_lt (scopes 0) _ given
      omega
  | succ size ih =>
      by_cases ended : (call (scopes 0) (desks 0)).1 = .ok none
      · exact ⟨0, Nat.zero_le _, ended, fun earlier before => absurd before (Nat.not_lt_zero _)⟩
      · have smaller := @unread_call_lt (scopes 0) _ (mt call_eq_ok_none_iff.mpr ended)
        have first := onward 0
        obtain ⟨count, short, endedThere, notBefore⟩ :=
          @ih (fun count => scopes (count + 1)) (fun count => desks (count + 1)) (by omega)
            fun count => onward (count + 1)
        refine ⟨count + 1, by omega, endedThere, fun earlier before => ?_⟩
        cases earlier with
        | zero => exact ended
        | succ earlier => exact notBefore earlier (by omega)

end Compile

namespace Session

variable {interpreter : Interpreter} {session : Session}

/-- The statements of an input are run alike within all bounds that the unread text fits in. -/
theorem runStatements_eq_of_room {bound boundToo : Nat} {last : Option Value} (room : session.input.unread < bound)
    (roomToo : session.input.unread < boundToo) :
    runStatements interpreter bound last session = runStatements interpreter boundToo last session := by
  induction bound generalizing boundToo last session with
  | zero => exact absurd room (Nat.not_lt_zero _)
  | succ bound ih =>
      obtain ⟨boundToo, rfl⟩ := Nat.exists_eq_add_of_lt roomToo
      rw [runStatements, runStatements, bind_apply, bind_apply]
      cases compiled : compileNext session with
      | error halt after => rfl
      | ok next after =>
          cases next with
          | none => rfl
          | some statement =>
              obtain ⟨-, -, -, smaller, -⟩ := @compileNext_ok _ _ _ _ Compile.Pace.itself rfl compiled
              simp only
              rw [bind_apply, bind_apply]
              cases executed : execute interpreter statement after with
              | error halt failed => rfl
              | ok value middle =>
                  obtain ⟨kept, -⟩ := (ignoresInput_execute interpreter statement).ok executed after.input
                  have same := congrArg Input.unread kept
                  exact ih (by omega) (by omega)

end Session

namespace Compile

/-- Compilation makes progress and ends.  A statement that is taken makes the unread text smaller, and if there is none,
no text is left.  A call of the compiler is not cut off by any bound that the unread text fits in.  It gives nothing
exactly if no statement is left, and otherwise takes text, also if it fails.  So every series of calls that adds no text
comes to the end of the input, and no bound on the number of statements cuts off a run of them. -/
theorem compilation_ends (session : Session) :
    let input := session.input
    let desk : Desk := ⟨input, session.workspace⟩
    let called := call session.scope desk
    (input.next.1 ≠ none → input.next.2.unread < input.unread) ∧
    (input.next.1 = none → input.next.2.unread = 0) ∧
    (∀ bound, input.unread ≤ bound → nextWithin session.scope bound desk = next session.scope desk) ∧
    called.1 ≠ .error .exhausted ∧
    (called.1 = .ok none ↔ input.next.1 = none) ∧
    (called.1 = .ok none → called.2.input.unread = 0) ∧
    (called.1 ≠ .ok none → called.2.input.unread < input.unread) ∧
    (∀ (scopes : Nat → Scope) (desks : Nat → Desk), (desks 0).input.unread ≤ input.unread →
      (∀ count, (desks (count + 1)).input.unread ≤ (call (scopes count) (desks count)).2.input.unread) →
      ∃ count ≤ input.unread, (call (scopes count) (desks count)).1 = .ok none ∧
        ∀ earlier < count, (call (scopes earlier) (desks earlier)).1 ≠ .ok none) ∧
    ∀ (interpreter : Interpreter) (last : Option Value) (bound : Nat), input.unread < bound →
      Session.runStatements interpreter bound last session =
        Session.runStatements interpreter (input.unread + 1) last session := by
  intro input desk called
  have ends : called.1 = .ok none ↔ input.next.1 = none := call_eq_ok_none_iff
  refine ⟨Input.unread_next_lt, ?_, ?_, call_ne_exhausted _ _, ends, ?_, ?_, ?_, ?_⟩
  · intro ended
    exact Input.unread_of_ended (Prod.ext ended rfl)
  · intro bound room
    exact nextWithin_eq room
  · intro gives
    exact unread_call_eq_zero (ends.mp gives)
  · intro gives
    exact unread_call_lt (mt ends.mpr gives)
  · intro scopes desks begins onward
    exact exists_call_eq_ok_none begins onward
  · intro interpreter last bound room
    exact Session.runStatements_eq_of_room room (Nat.lt_succ_self _)

/-- A text whose first statement is malformed. -/
theorem compilation_ends_malformed :
    let session : Session := { Session.start {} with input := ({} : Input).pushText "if 1\n)".toList "text" }
    let desk : Desk := ⟨session.input, session.workspace⟩
    session.input.next.1 ≠ none ∧ session.input.next.2.unread < 7 ∧
    nextWithin session.scope 7 desk = next session.scope desk ∧
    (call session.scope desk).2.input.unread < 7 ∧
    (∃ count ≤ 7, (call session.scope (deskAt session.scope (fun _ => id) desk count)).1 = .ok none) ∧
    (call session.scope { desk with input := {} }).2.input.unread = 0 := by
  intro session desk
  have size : session.input.unread = 7 := by decide
  have whole : Source.isWhole (Text.trim "if 1".toList) = true := by decide
  have taken := @Input.next_of_isWhole session.input ⟨"if 1".toList, 1, "text"⟩ [⟨")".toList, 2, "text"⟩] rfl
    (by decide) whole
  have given : session.input.next.1 ≠ none := by
    rw [taken]
    exact Option.some_ne_none _
  have ended : (({} : Input).next).1 = none := congrArg Prod.fst (Input.next_of_empty rfl rfl)
  obtain ⟨takes, -, fits, -, ends, -, shrinks, loops, -⟩ := compilation_ends session
  obtain ⟨-, -, -, -, endsToo, runsOut, -⟩ := compilation_ends { session with input := {} }
  rw [size] at takes shrinks fits
  refine ⟨given, takes given, fits 7 (Nat.le_refl 7), shrinks (mt ends.mp given), ?_, runsOut (endsToo.mpr ended)⟩
  obtain ⟨count, short, there, -⟩ := loops (fun _ => session.scope) (deskAt session.scope (fun _ => id) desk)
    (Nat.le_refl _) fun count => Nat.le_of_eq (congrArg Input.unread (input_deskAt desk count))
  exact ⟨count, by omega, there⟩

end Compile

end GroupScript
