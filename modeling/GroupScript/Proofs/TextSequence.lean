import GroupScript.Proofs.QueueExtension
import GroupScript.Session

/-!
# Texts in a row

Running two texts one after the other is running them as one text with a line feed between them, unless a statement of
the first is cut short by its end.  The first text is compiled as it is alone, and the second one as it is alone but for
the numbers of its lines.
-/

namespace GroupScript

namespace Text

/-- The lines of a text up to a line feed, and the lines after it. -/
theorem lines_append_lineFeed (first second : List Char) :
    lines (first ++ '\n' :: second) = lines (first ++ ['\n']) ++ lines second := by
  have ended (current : List Char) : endedLinesFrom current (first ++ '\n' :: second) =
      endedLinesFrom current (first ++ ['\n']) ++ endedLinesFrom [] second := by
    fun_induction endedLinesFrom current first with
    | case1 => simp [endedLinesFrom]
    | case2 current begun => simp [endedLinesFrom]
    | case3 current text ih => simp [endedLinesFrom, ih]
    | case4 current c text other ih => simp [endedLinesFrom, ih]
  rw [lines, endedLines, ended, List.map_append]
  rfl

/-- A text that ends with a line feed has as many lines as it has line feeds. -/
theorem length_lines_lineFeed (text : List Char) : (lines (text ++ ['\n'])).length = text.count '\n' + 1 := by
  have ended (current : List Char) :
      (endedLinesFrom current (text ++ ['\n'])).length = text.count '\n' + 1 := by
    fun_induction endedLinesFrom current text with
    | case1 => simp [endedLinesFrom]
    | case2 current begun => simp [endedLinesFrom]
    | case3 current text ih => simp [endedLinesFrom, ih]
    | case4 current c text other ih => simpa [endedLinesFrom, ih, List.count_cons] using other
  rw [lines, List.length_map, endedLines, ended]

theorem dropLineEnd_lineFeed (line : List Char) : dropLineEnd (line ++ ['\n']) = dropCarriageReturn line := by
  simp [dropLineEnd]

theorem dropLineEnd_of_notMem {line : List Char} (unbroken : '\n' ∉ line) : dropLineEnd line = line := by
  apply if_neg
  intro last
  exact unbroken (List.mem_of_getLast? last)

theorem endedLinesFrom_append {text : List Char} (unbroken : '\n' ∉ text) (current rest : List Char) :
    endedLinesFrom current (text ++ rest) = endedLinesFrom (text.reverse ++ current) rest := by
  induction text generalizing current with
  | nil => rfl
  | cons c text ih =>
      have other : c ≠ '\n' := fun same => unbroken (by simp [same])
      have others : '\n' ∉ text := fun member => unbroken (List.mem_cons_of_mem c member)
      have step : endedLinesFrom current (c :: (text ++ rest)) = endedLinesFrom (c :: current) (text ++ rest) := by
        rw [endedLinesFrom]
        exact other
      rw [List.cons_append, step, ih others]
      simp

/-- A text without line feeds is one line. -/
theorem lines_of_notMem {text : List Char} (unbroken : '\n' ∉ text) (visible : text ≠ []) : lines text = [text] := by
  have ended := endedLinesFrom_append unbroken [] []
  obtain ⟨c, current, isCons⟩ : ∃ c current, text.reverse = c :: current :=
    List.exists_cons_of_ne_nil (by simpa using visible)
  rw [List.append_nil, List.append_nil, isCons] at ended
  have whole : endedLinesFrom [] text = [text] := by
    rw [ended, endedLinesFrom, ← isCons, List.reverse_reverse]
    exact List.cons_ne_nil c current
  simp [lines, endedLines, whole, dropLineEnd_of_notMem unbroken]

theorem returned_dropCarriageReturn (line : List Char) : Returned (dropCarriageReturn line) line := by
  unfold dropCarriageReturn
  split
  · rename_i last
    exact .inr (List.dropLast_append_getLast? '\r' last).symm
  · exact .inl rfl

end Text

namespace Input

theorem numbered_append (file : String) (start : Nat) (first second : List (List Char)) :
    numbered file start (first ++ second) =
      numbered file start first ++ numbered file (start + first.length) second := by
  induction first generalizing start with
  | nil => rfl
  | cons text first ih =>
      have next : start + 1 + first.length = start + (first.length + 1) := by omega
      simp only [List.cons_append, numbered, ih, List.length_cons, next]

/-- The lines of a text with a line feed behind it and more lines after that. -/
theorem extends_lines (file : String) (start : Nat) (text : List Char) (more : List Line) :
    Extends more (numbered file start (Text.lines text))
      (numbered file start (Text.lines (text ++ ['\n'])) ++ more) := by
  have ended (current : List Char) (unbroken : '\n' ∉ current) :
      Extends more (numbered file start ((Text.endedLinesFrom current text).map Text.dropLineEnd))
        (numbered file start ((Text.endedLinesFrom current (text ++ ['\n'])).map Text.dropLineEnd) ++ more) := by
    fun_induction Text.endedLinesFrom current text generalizing start with
    | case1 => exact .blank start file
    | case2 current begun =>
        have kept : Text.dropLineEnd current.reverse = current.reverse :=
          Text.dropLineEnd_of_notMem (by simpa using unbroken)
        have cut : Text.dropLineEnd ('\n' :: current).reverse = Text.dropCarriageReturn current.reverse := by
          rw [List.reverse_cons, Text.dropLineEnd_lineFeed]
        simp only [List.nil_append, Text.endedLinesFrom, List.map_cons, List.map_nil, kept, cut, numbered,
          List.singleton_append]
        rcases Text.returned_dropCarriageReturn current.reverse with same | returned
        · rw [← same]
          exact .cons _ .nil
        · nth_rewrite 1 [returned]
          exact .carriageReturn _ _ _
    | case3 current text ih =>
        simp only [List.cons_append, Text.endedLinesFrom, List.map_cons, numbered]
        exact .cons _ (ih (start + 1) (List.not_mem_nil))
    | case4 current c text other ih =>
        have goesOn : Text.endedLinesFrom current (c :: text ++ ['\n']) =
            Text.endedLinesFrom (c :: current) (text ++ ['\n']) := by
          simp [Text.endedLinesFrom]
        rw [goesOn]
        exact ih start (by simpa [eq_comm] using ⟨other, unbroken⟩)
  exact ended [] List.not_mem_nil

end Input

namespace Session

variable {α β : Type} {session after middle : Session} {input : Input} {statement : Statement} {halt : Halt}

/-- A computation that neither sees nor changes the input. -/
def IgnoresInput (action : Run Session α) : Prop :=
  ∀ session input, action { session with input } =
    match action session with
    | .ok value after => .ok value { after with input }
    | .error halt after => .error halt { after with input }

theorem IgnoresInput.pure (value : α) : IgnoresInput (Pure.pure value) :=
  fun _ _ => rfl

theorem IgnoresInput.act (action : Action α) : IgnoresInput (Session.act action) := by
  intro session input
  simp only [Session.act]
  cases action session.workspace with
  | ok value workspace => rfl
  | error halt workspace => rfl

theorem IgnoresInput.bind {action : Run Session α} {next : α → Run Session β} (ignores : IgnoresInput action)
    (continues : ∀ value, IgnoresInput (next value)) : IgnoresInput (action >>= next) := by
  intro session input
  rw [bind_apply, bind_apply, ignores session input]
  cases action session with
  | ok value after => exact continues value after input
  | error halt after => rfl

theorem IgnoresInput.get_bind {next : Session → Run Session α} (continues : ∀ session, IgnoresInput (next session))
    (blind : ∀ session input, next { session with input } = next session) : IgnoresInput (get >>= next) := by
  intro session input
  change next { session with input } { session with input } = _
  rw [blind]
  exact continues session session input

theorem IgnoresInput.ok {action : Run Session α} (ignores : IgnoresInput action) {value : α}
    (ran : action session = .ok value after) (input : Input) :
    after.input = session.input ∧ action { session with input } = .ok value { after with input } := by
  have same := ignores session session.input
  have other := ignores session input
  rw [ran] at same other
  obtain ⟨-, kept⟩ := EStateM.Result.ok.inj same
  have keptInput := congrArg Session.input kept
  exact ⟨keptInput, other⟩

theorem IgnoresInput.error {action : Run Session α} (ignores : IgnoresInput action)
    (ran : action session = .error halt after) (input : Input) :
    after.input = session.input ∧ action { session with input } = .error halt { after with input } := by
  have same := ignores session session.input
  have other := ignores session input
  rw [ran] at same other
  obtain ⟨-, kept⟩ := EStateM.Result.error.inj same
  have keptInput := congrArg Session.input kept
  exact ⟨keptInput, other⟩

/-- Running a statement has nothing to do with the input. -/
theorem ignoresInput_execute (interpreter : Interpreter) (statement : Statement) :
    IgnoresInput (execute interpreter statement) := by
  apply IgnoresInput.get_bind _ fun _ _ => rfl
  intro session
  dsimp only
  split
  · exact .bind (.act _) fun _ => .pure _
  · apply IgnoresInput.bind (.act _)
    intro signal
    split
    · exact .pure none
    · exact .bind (.act _) fun _ => .pure none

/-! ### Compiling in a session -/

open Compile (Pace movedPace extendedPace)

theorem compileNext_of_ok {next : Option Statement} {desk : Desk}
    (compiled : Compile.next session.scope ⟨session.input, session.workspace⟩ = .ok next desk) :
    compileNext session = .ok next { session with input := desk.input, workspace := desk.workspace } := by
  rw [compileNext, compiled]

theorem compileNext_of_error {desk : Desk}
    (compiled : Compile.next session.scope ⟨session.input, session.workspace⟩ = .error halt desk) :
    compileNext session = .error halt { session with input := desk.input, workspace := desk.workspace } := by
  rw [compileNext, compiled]

theorem compileNext_ok {pace : Pace} (related : pace.related session.input input)
    (ran : compileNext session = .ok (some statement) after) :
    ∃ other, compileNext { session with input } = .ok (some statement) { after with input := other } ∧
      pace.related after.input other ∧ after.input.unread < session.input.unread ∧
      other.unread < input.unread := by
  cases compiled : Compile.next session.scope ⟨session.input, session.workspace⟩ with
  | error halt desk =>
      rw [compileNext_of_error compiled] at ran
      cases ran
  | ok made desk =>
      rw [compileNext_of_ok compiled] at ran
      cases ran
      have beside : pace.Beside ⟨session.input, session.workspace⟩ ⟨input, session.workspace⟩ := ⟨related, rfl⟩
      obtain ⟨other, compiledToo, ⟨relatedAfter, same⟩, smaller, smallerToo⟩ := pace.next_ok beside compiled
      have ranToo := @compileNext_of_ok { session with input } _ _ compiledToo
      rw [same] at ranToo
      exact ⟨other.input, ranToo, relatedAfter, smaller, smallerToo⟩

theorem compileNext_error {pace : Pace} (endsToo : pace.endsToo) (related : pace.related session.input input)
    (ran : compileNext session = .error halt after) :
    ∃ error other, halt = .failure error ∧
      compileNext { session with input } =
        .error (.failure (error.relocated pace.move)) { after with input := other } ∧
      pace.related after.input other := by
  cases compiled : Compile.next session.scope ⟨session.input, session.workspace⟩ with
  | ok made desk =>
      rw [compileNext_of_ok compiled] at ran
      cases ran
  | error reason desk =>
      rw [compileNext_of_error compiled] at ran
      cases ran
      have beside : pace.Beside ⟨session.input, session.workspace⟩ ⟨input, session.workspace⟩ := ⟨related, rfl⟩
      obtain ⟨error, other, isFailure, compiledToo, relatedAfter, same⟩ := pace.next_error endsToo beside compiled
      have ranToo := @compileNext_of_error { session with input } _ _ compiledToo
      rw [same] at ranToo
      exact ⟨error, other.input, isFailure, ranToo, relatedAfter⟩

theorem compileNext_of_ended (ended : session.input.next = (none, input)) :
    compileNext session = .ok none { session with input } := by
  have compiled := @Compile.next_of_ended session.scope ⟨session.input, session.workspace⟩ input ended
  rw [compileNext_of_ok compiled]

theorem ended_of_compileNext (ran : compileNext session = .ok none after) :
    session.input.next = (none, after.input) ∧ after = { session with input := after.input } := by
  cases compiled : Compile.next session.scope ⟨session.input, session.workspace⟩ with
  | error halt desk =>
      rw [compileNext_of_error compiled] at ran
      cases ran
  | ok made desk =>
      rw [compileNext_of_ok compiled] at ran
      cases ran
      obtain ⟨ended, same⟩ := Compile.ended_of_next compiled
      exact ⟨ended, by rw [same]⟩

/-- Inputs with the same next statement are compiled alike. -/
theorem compileNext_congr {other : Input} (same : input.next = other.next) :
    compileNext { session with input } = compileNext { session with input := other } := by
  have compiled : Compile.next session.scope ⟨input, session.workspace⟩ =
      Compile.next session.scope ⟨other, session.workspace⟩ := by
    rcases taken : other.next with ⟨_ | found, rest⟩
    · rw [taken] at same
      exact (@Compile.next_of_ended _ ⟨input, session.workspace⟩ _ same).trans
        (@Compile.next_of_ended _ ⟨other, session.workspace⟩ _ taken).symm
    · rw [taken] at same
      exact (@Compile.next_of_taken _ ⟨input, session.workspace⟩ _ _ same).trans
        (@Compile.next_of_taken _ ⟨other, session.workspace⟩ _ _ taken).symm
  simp only [compileNext, compiled]

/-! ### Running statements -/

variable {interpreter : Interpreter} {bound boundToo : Nat} {last result : Option Value} {more : List Line}

/-- A run of complete statements, with more lines behind them, comes to these lines where it would have ended. -/
theorem runStatements_extended (related : (extendedPace more).related session.input input)
    (ran : runStatements interpreter bound last session = .ok result middle) (room : input.unread < boundToo) :
    middle.input.reader = none ∧ middle.input.queue = [] ∧
      ∃ left, linesSize (more.map Line.text) < left ∧
        runStatements interpreter boundToo last { session with input } =
          runStatements interpreter left result { middle with input := { middle.input with queue := more } } := by
  induction bound generalizing boundToo last session input with
  | zero => cases ran
  | succ bound ih =>
      cases boundToo with
      | zero => exact absurd room (Nat.not_lt_zero _)
      | succ boundToo =>
          rw [runStatements] at ran
          obtain ⟨next, after, compiled, ranOn⟩ := bind_eq_ok ran
          cases next with
          | none =>
              cases ranOn
              obtain ⟨noReader, complete, longer, longerQueue, rfl⟩ := related
              obtain ⟨ended, same⟩ := ended_of_compileNext compiled
              obtain ⟨_, queue, taken, emptied⟩ := Input.exists_next noReader
              rw [ended] at taken
              obtain ⟨rfl, left⟩ := Prod.mk.inj taken
              rw [emptied rfl] at left
              have begins := (Input.next_extends noReader complete longerQueue).2 _ ended
              have size := Input.size_extends longerQueue
              refine ⟨by rw [left]; exact noReader, by rw [left], boundToo + 1, ?_, ?_⟩
              · simp only [Input.unread] at room
                omega
              · have here : { middle with input := { middle.input with queue := more } } =
                    { session with input := { session.input with queue := more } } := by
                  rw [same, left]
                rw [here, runStatements, bind_apply, bind_apply, compileNext_congr begins]
          | some statement =>
              obtain ⟨value, ended, executed, ranRest⟩ := bind_eq_ok ranOn
              obtain ⟨other, compiledToo, relatedAfter, -, smallerToo⟩ := compileNext_ok related compiled
              obtain ⟨kept, executedToo⟩ := (ignoresInput_execute interpreter statement).ok executed other
              rw [← kept] at relatedAfter
              have roomAfter : other.unread < boundToo := by omega
              obtain ⟨noReader, empty, left, enough, same⟩ := ih relatedAfter ranRest roomAfter
              refine ⟨noReader, empty, left, enough, ?_⟩
              rw [runStatements, bind_apply, compiledToo]
              simp only
              rw [bind_apply, executedToo]
              exact same

/-- What a run of moved lines gives, beside what the lines give where they were.  The run may have had a value before. -/
def Mirrors (count : Nat) (earlier : Option Value) :
    EStateM.Result Halt Session (Option Value) → EStateM.Result Halt Session (Option Value) → Prop
  | .ok value after, mirrored => mirrored = .ok (value <|> earlier) after
  | .error halt after, mirrored =>
      ∃ reported other, mirrored = .error reported { after with input := other } ∧
        other.clear = after.input.clear ∧ (reported = halt ∨ reported = halt.moved count)

theorem runStatements_moved (interpreter : Interpreter) (count : Nat) (earlier : Option Value)
    (noReader : session.input.reader = none) (room : session.input.unread < bound)
    (roomToo : session.input.unread < boundToo) :
    Mirrors count earlier (runStatements interpreter bound last session)
      (runStatements interpreter boundToo (last <|> earlier)
        { session with input := session.input.moved count }) := by
  induction bound generalizing boundToo last session with
  | zero => exact absurd room (Nat.not_lt_zero _)
  | succ bound ih =>
      cases boundToo with
      | zero => exact absurd roomToo (Nat.not_lt_zero _)
      | succ boundToo =>
          have related : (movedPace count).related session.input (session.input.moved count) := ⟨noReader, rfl⟩
          rw [runStatements, runStatements, bind_apply, bind_apply]
          cases compiled : compileNext session with
          | error halt after =>
              obtain ⟨error, _, rfl, compiledToo, -, rfl⟩ := compileNext_error trivial related compiled
              rw [compiledToo]
              exact ⟨_, _, rfl, rfl, .inr (congrArg Halt.failure (error.relocated_down count))⟩
          | ok next after =>
              cases next with
              | none =>
                  obtain ⟨ended, same⟩ := ended_of_compileNext compiled
                  obtain ⟨_, queue, taken, emptied⟩ := Input.exists_next noReader
                  rw [ended] at taken
                  obtain ⟨rfl, left⟩ := Prod.mk.inj taken
                  have unmoved : after.input.moved count = after.input := by
                    rw [left, emptied rfl]
                    rfl
                  have endedToo : (session.input.moved count).next = (none, after.input) := by
                    rw [Input.next_moved noReader, ended, unmoved]
                    rfl
                  have compiledToo := @compileNext_of_ended { session with input := session.input.moved count } _
                    endedToo
                  rw [compiledToo, same]
                  rfl
              | some statement =>
                  obtain ⟨_, compiledToo, ⟨noReaderAfter, rfl⟩, smaller, -⟩ := compileNext_ok related compiled
                  rw [compiledToo]
                  simp only
                  rw [bind_apply, bind_apply]
                  have ignores := ignoresInput_execute interpreter statement
                  cases executed : execute interpreter statement after with
                  | error halt failed =>
                      obtain ⟨kept, executedToo⟩ := ignores.error executed (after.input.moved count)
                      rw [executedToo, ← kept]
                      exact ⟨halt, _, rfl, rfl, .inl rfl⟩
                  | ok value next =>
                      obtain ⟨kept, executedToo⟩ := ignores.ok executed (after.input.moved count)
                      rw [executedToo, ← kept]
                      have associates : (value <|> (last <|> earlier)) = ((value <|> last) <|> earlier) := by
                        cases value with
                        | none => rfl
                        | some value => rfl
                      simp only [associates]
                      rw [← kept] at noReaderAfter smaller
                      exact ih noReaderAfter (by omega) (by omega)

/-- The input after the lines of a text have been put in an empty queue. -/
theorem pushText_of_empty (empty : input.queue = []) (text : List Char) (file : String) :
    input.pushText text file = { input with queue := Input.numbered file 1 (Text.lines text) } := by
  rw [Input.pushText, empty, List.nil_append]

theorem eval_eq (interpreter : Interpreter) (text : String) (session : Session) :
    eval interpreter text session =
      let pushed := session.input.pushText text.toList textFile
      clearingOnHalt (runStatements interpreter (pushed.unread + 1) none) { session with input := pushed } :=
  rfl

theorem eq_ok_of_clearingOnHalt {action : Run Session α} {value : α}
    (ran : clearingOnHalt action session = .ok value after) : action session = .ok value after := by
  rw [clearingOnHalt] at ran
  cases finished : action session with
  | ok made ended =>
      rw [finished] at ran
      exact ran
  | error halt ended =>
      rw [finished] at ran
      cases ran

/-- The lines of a text as they are run. -/
def textLines (text : String) : List Line :=
  Input.numbered textFile 1 (Text.lines text.toList)

/-- The lines of two texts with a line feed between them. -/
theorem textLines_append (first second : String) :
    textLines (first ++ "\n" ++ second) =
      Input.numbered textFile 1 (Text.lines (first.toList ++ ['\n'])) ++
        (textLines second).map (Line.moved (first.toList.count '\n' + 1)) := by
  have joined : (first ++ "\n" ++ second).toList = first.toList ++ '\n' :: second.toList := by simp
  rw [textLines, joined, Text.lines_append_lineFeed, Input.numbered_append, Text.length_lines_lineFeed,
    Input.numbered_add]
  rfl

/-- Running two texts one after the other is running them as one, with a line feed between them.  The first text has to
succeed, and none of its statements may be cut short by its end.  The session after both is the same, the value is the
one of the second text or else the one of the first, and an error is the same but for the number of the line in it. -/
theorem eval_append_lineFeed {first second : String} (noReader : session.input.reader = none)
    (empty : session.input.queue = []) (ran : eval interpreter first session = .ok result middle)
    (complete : Input.Complete (textLines first)) :
    match eval interpreter second middle with
    | .ok value after =>
        eval interpreter (first ++ "\n" ++ second) session = .ok (value <|> result) after
    | .error halt after =>
        ∃ reported, eval interpreter (first ++ "\n" ++ second) session = .error reported after ∧
          (reported = halt ∨ reported = halt.moved (first.toList.count '\n' + 1)) := by
  let count := first.toList.count '\n' + 1
  let more := (textLines second).map (Line.moved count)
  let firstInput : Input := { session.input with queue := textLines first }
  let bothInput : Input := { session.input with queue := textLines (first ++ "\n" ++ second) }
  let secondInput : Input := { middle.input with queue := textLines second }
  have ranFirst : runStatements interpreter (firstInput.unread + 1) none { session with input := firstInput } =
      .ok result middle := by
    rw [eval_eq, pushText_of_empty empty] at ran
    exact eq_ok_of_clearingOnHalt ran
  have related : (extendedPace more).related firstInput bothInput := by
    refine ⟨noReader, complete, textLines (first ++ "\n" ++ second), ?_, rfl⟩
    rw [textLines_append]
    exact Input.extends_lines textFile 1 first.toList more
  obtain ⟨noReaderAfter, emptyAfter, left, enough, same⟩ :=
    runStatements_extended related ranFirst (Nat.lt_succ_self bothInput.unread)
  have sameSize : linesSize (more.map Line.text) = secondInput.unread := by
    have unmoved : Line.text ∘ Line.moved count = Line.text := rfl
    simp [more, secondInput, Input.unread, noReaderAfter, unmoved, linesSize]
  have mirrors := @runStatements_moved { middle with input := secondInput } _ left none interpreter count result
    noReaderAfter (Nat.lt_succ_self secondInput.unread) (sameSize ▸ enough)
  have ranSecond : eval interpreter second middle =
      clearingOnHalt (runStatements interpreter (secondInput.unread + 1) none) { middle with input := secondInput } := by
    rw [eval_eq, pushText_of_empty emptyAfter]
    rfl
  have ranBoth : eval interpreter (first ++ "\n" ++ second) session =
      clearingOnHalt (runStatements interpreter (bothInput.unread + 1) none) { session with input := bothInput } := by
    rw [eval_eq, pushText_of_empty empty]
    rfl
  rw [ranSecond, ranBoth, clearingOnHalt, clearingOnHalt, same]
  cases finished : runStatements interpreter (secondInput.unread + 1) none { middle with input := secondInput } with
  | ok value after =>
      rw [finished] at mirrors
      have finishedToo : runStatements interpreter left result
          { middle with input := { middle.input with queue := more } } = .ok (value <|> result) after := mirrors
      rw [finishedToo]
  | error halt after =>
      rw [finished] at mirrors
      obtain ⟨reported, other, failed, cleared, reason⟩ := mirrors
      have failedToo : runStatements interpreter left result
          { middle with input := { middle.input with queue := more } } =
            .error reported { after with input := other } := failed
      rw [failedToo]
      refine ⟨reported, ?_, reason⟩
      simp only [cleared]

/-- A string over two lines, read back after a semicolon, with a carriage return at the end. -/
def stringText : String :=
  "s = '''a\nb'''; s\r"

/-- A list over two lines. -/
def listText : String :=
  "t = [s,\n  s]"

theorem complete_stringText : Input.Complete (textLines stringText) := by
  have lines : textLines stringText = [⟨"s = '''a".toList, 1, textFile⟩, ⟨"b'''; s\r".toList, 2, textFile⟩] :=
    rfl
  rw [lines]
  exact .cons rfl (.cons rfl .nil)

theorem eval_append_lineFeed_string :
    ∃ result middle value after, eval (Interpreter.ofLevels {} 8) stringText (start {}) = .ok result middle ∧
      eval (Interpreter.ofLevels {} 8) listText middle = .ok value after ∧
      eval (Interpreter.ofLevels {} 8) (stringText ++ "\n" ++ listText) (start {}) =
        .ok (value <|> result) after := by
  have success : succeeds (eval (Interpreter.ofLevels {} 8) stringText >>= fun _ =>
      eval (Interpreter.ofLevels {} 8) listText) (start {}) = true := by
    decide +kernel
  obtain ⟨value, after, finished⟩ := exists_of_succeeds success
  obtain ⟨result, middle, ranFirst, ranSecond⟩ := bind_eq_ok finished
  have together := @eval_append_lineFeed _ _ _ _ stringText listText rfl rfl ranFirst complete_stringText
  rw [ranSecond] at together
  exact ⟨result, middle, value, after, ranFirst, ranSecond, together⟩

end Session

end GroupScript
