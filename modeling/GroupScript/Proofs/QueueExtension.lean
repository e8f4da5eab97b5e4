import GroupScript.Proofs.ParallelCompilation

/-!
# Texts with more lines behind them

A text whose statements are all complete is read in the same way when more lines follow it.  The line feed that
separates the two texts may end the last line of the first one and take a carriage return with it, or it may be a blank
line of its own.  Both are seen in no statement.
-/

namespace GroupScript

namespace Scanner

variable {test : Char → Int32 → Bool} {scanner after : Scanner} {text rest : List Char} {c : Char}

/-- A blank at the end of a text in which nothing is found. -/
theorem search_append_blank (regular : scanner.Regular) (missed : (search test scanner text).1 = none)
    (blank : Text.isBlank c = true) (silent : ∀ depth, test c depth = false) :
    search test scanner (text ++ [c]) = (none, (search test scanner text).2.settled) := by
  have reached : (search test scanner text).2.Regular := by
    rw [← through_eq_of_search missed]
    exact regular.through text
  rw [search_append regular ((unquoted_of_isBlank blank).apart text) missed,
    search_step (fun _ => silent _), reached.step_blank blank]
  rfl

theorem Regular.endLine (regular : scanner.Regular) : scanner.endLine.Regular := by
  obtain ⟨depth, quote, escaped⟩ := scanner
  match quote with
  | none => exact regular
  | some ⟨mark, true⟩ => exact regular
  | some ⟨mark, false⟩ => exact ⟨by simp [Scanner.endLine], fun _ => rfl⟩

/-- Whether a character is escaped does not matter to what is open at the end of a line. -/
theorem isOpen_endLine_settled (scanner : Scanner) : scanner.settled.endLine.isOpen = scanner.endLine.isOpen := by
  obtain ⟨depth, quote, escaped⟩ := scanner
  match quote with
  | none => rfl
  | some ⟨mark, true⟩ => rfl
  | some ⟨mark, false⟩ => rfl

end Scanner

theorem Text.trim_append_blank {c : Char} (blank : Text.isBlank c = true) (text : List Char) :
    Text.trim (text ++ [c]) = Text.trim text := by
  have ended (first : List Char) : Text.trimEnd (first ++ [c]) = Text.trimEnd first := by
    simp [Text.trimEnd, blank]
  by_cases allBlank : Text.isAllBlank text = true
  · have started := Text.trimStart_blanks_append allBlank []
    have startedToo := Text.trimStart_blanks_append allBlank [c]
    rw [List.append_nil] at started
    rw [Text.trim, Text.trim, started, startedToo]
    simp [Text.trimStart, Text.trimEnd, blank]
  · obtain ⟨d, member, visible⟩ : ∃ d ∈ text, Text.isBlank d = false := by
      simpa [Text.isAllBlank] using allBlank
    obtain ⟨first, last, rfl⟩ := List.append_of_mem member
    have started := Text.trimStart_append_of_visible visible first (last ++ [c])
    rw [Text.trim, Text.trim, List.append_assoc, List.cons_append, started,
      Text.trimStart_append_of_visible visible first last, ← List.cons_append, ← List.append_assoc, ended]

theorem Text.isAllBlank_append_blank {c : Char} (blank : Text.isBlank c = true) (text : List Char) :
    Text.isAllBlank (text ++ [c]) = Text.isAllBlank text := by
  simp [Text.isAllBlank, blank]

/-- A text that may have a carriage return behind it. -/
def Returned (plain text : List Char) : Prop :=
  text = plain ∨ text = plain ++ ['\r']

namespace Source

variable {scanner : Scanner}

/-- A carriage return at the end of a line stays there or goes with a comment, and leaves the same open. -/
theorem stripComment_return (regular : scanner.Regular) (line : List Char) :
    Returned (stripComment scanner line).1 (stripComment scanner (line ++ ['\r'])).1 ∧
      (stripComment scanner (line ++ ['\r'])).2.isOpen = (stripComment scanner line).2.isOpen := by
  rcases found : scanner.search (fun c _ => c == '#') line with ⟨_ | position, after⟩
  · have missed : (scanner.search (fun c _ => c == '#') line).1 = none := by rw [found]
    have searched := Scanner.search_append_blank (c := '\r') regular missed rfl fun _ => rfl
    have missedToo : (scanner.search (fun c _ => c == '#') (line ++ ['\r'])).1 = none := by rw [searched]
    rw [stripComment_of_missed missed, stripComment_of_missed missedToo, searched]
    exact ⟨.inr rfl, Scanner.isOpen_endLine_settled _⟩
  · have foundToo := Scanner.search_append_of_found regular (Scanner.blind_mark (by decide)) found ['\r']
    have within : position < line.length := by
      obtain ⟨first, rest, rfl, rfl, -⟩ := Scanner.search_mark_eq_some regular (by decide) found
      simp
    rw [stripComment_of_found found, stripComment_of_found foundToo,
      List.take_append_of_le_length (Nat.le_of_lt within)]
    exact ⟨.inl rfl, rfl⟩

/-- A semicolon stands where it stands without the carriage return. -/
theorem findUnquoted_return (text : List Char) : findUnquoted ';' (text ++ ['\r']) = findUnquoted ';' text := by
  rw [findUnquoted_eq_search, findUnquoted_eq_search]
  rcases found : ({} : Scanner).search (fun c _ => c == ';') text with ⟨_ | position, after⟩
  · have missed : (({} : Scanner).search (fun c _ => c == ';') text).1 = none := by rw [found]
    rw [Scanner.search_append_blank (c := '\r') Scanner.regular_fresh missed rfl fun _ => rfl]
  · rw [Scanner.search_append_of_found Scanner.regular_fresh (Scanner.blind_mark (by decide)) found]

end Source

namespace Joined

variable {joined : Joined}

theorem regular_lineEnd {scanner : Scanner} (regular : scanner.Regular) (line : List Char) :
    (lineEnd scanner line).Regular := by
  rw [← Source.through_stripComment regular]
  exact regular.through _

theorem regular_first (line : Line) : (first line).carried.Regular :=
  (regular_lineEnd Scanner.regular_fresh _).endLine

theorem regular_extend (regular : joined.carried.Regular) (line : Line) :
    (joined.extend line).carried.Regular :=
  (regular_lineEnd regular _).endLine

theorem first_return (text : List Char) (number : Nat) (file : String) :
    first ⟨text ++ ['\r'], number, file⟩ = first ⟨text, number, file⟩ := by
  have trimmed : Text.trim (text ++ ['\r']) = Text.trim text := Text.trim_append_blank rfl text
  simp only [first, trimmed]

/-- A carriage return at the end of a line is at most at the end of the joined text. -/
theorem extend_return (regular : joined.carried.Regular) (text : List Char) (number : Nat) (file : String) :
    Returned (joined.extend ⟨text, number, file⟩).text (joined.extend ⟨text ++ ['\r'], number, file⟩).text ∧
      (joined.extend ⟨text ++ ['\r'], number, file⟩).carried.isOpen =
        (joined.extend ⟨text, number, file⟩).carried.isOpen := by
  rw [carried_extend, carried_extend]
  simp only [extend]
  cases inString : joined.carried.inString with
  | false =>
      have trimmed : Text.trim (text ++ ['\r']) = Text.trim text := Text.trim_append_blank rfl text
      simp only [Bool.false_eq_true, if_false, trimmed, and_true]
      exact .inl rfl
  | true =>
      obtain ⟨returned, same⟩ := Source.stripComment_return regular text
      simp only [if_true]
      refine ⟨?_, same⟩
      rcases returned with equal | equal
      · exact .inl (by rw [equal])
      · exact .inr (by rw [equal]; simp)

end Joined

namespace Input

/-- A queue in which every statement is complete: none ends with the queue while a bracket or a string is open. -/
inductive Complete : List Line → Prop
  | nil : Complete []
  | cons {line rest} : (joinedFrom line rest).carried.isOpen = false → Complete (statementFrom line rest).2 →
      Complete (line :: rest)

/-- A queue and the same queue with more lines behind it.  What separates them may be a blank line, or it may take away a
carriage return at the end of the queue. -/
inductive Extends (more : List Line) : List Line → List Line → Prop
  | nil : Extends more [] more
  | blank (number file) : Extends more [] (⟨[], number, file⟩ :: more)
  | carriageReturn (text number file) :
      Extends more [⟨text ++ ['\r'], number, file⟩] (⟨text, number, file⟩ :: more)
  | cons {queue longer} (line) : Extends more queue longer → Extends more (line :: queue) (line :: longer)

variable {more queue longer : List Line} {line other : Line}

/-- A joined text with the lines left after it, and the same with more lines: the second text may lack a carriage return
that only the end of the queue leaves to the first. -/
def SameText (more : List Line) (text plain : List Char) (left leftToo : List Line) : Prop :=
  plain = text ∧ Extends more left leftToo ∨ text = plain ++ ['\r'] ∧ left = [] ∧ leftToo = more

/-- A complete statement is joined from the same lines when more lines follow. -/
theorem gather_extends {joined : Joined} (longerQueue : Extends more queue longer)
    (regular : joined.carried.Regular)
    (closed : ((gather joined queue).1.foldl Joined.extend joined).carried.isOpen = false) :
    SameText more ((gather joined queue).1.foldl Joined.extend joined).text
      ((gather joined longer).1.foldl Joined.extend joined).text (gather joined queue).2
      (gather joined longer).2 := by
  induction longerQueue generalizing joined with
  | nil =>
      have ended : joined.carried.isOpen = false := closed
      rw [gather_of_closed ended more]
      exact .inl ⟨rfl, .nil⟩
  | blank number file =>
      have ended : joined.carried.isOpen = false := closed
      rw [gather_of_closed ended (⟨[], number, file⟩ :: more)]
      exact .inl ⟨rfl, .blank number file⟩
  | carriageReturn text number file =>
      cases isOpen : joined.carried.isOpen with
      | false =>
          rw [gather_of_closed isOpen, gather_of_closed isOpen]
          exact .inl ⟨rfl, .carriageReturn text number file⟩
      | true =>
          obtain ⟨returned, sameOpen⟩ := joined.extend_return regular text number file
          rw [gather_cons_of_open isOpen] at closed ⊢
          have closedToo : (joined.extend ⟨text, number, file⟩).carried.isOpen = false :=
            sameOpen.symm.trans closed
          rw [gather_cons_of_open isOpen, gather_of_closed closedToo]
          rcases returned with same | longerText
          · exact .inl ⟨same.symm, .nil⟩
          · exact .inr ⟨longerText, rfl, rfl⟩
  | cons line longerRest ih =>
      cases isOpen : joined.carried.isOpen with
      | false =>
          rw [gather_of_closed isOpen, gather_of_closed isOpen]
          exact .inl ⟨rfl, .cons line longerRest⟩
      | true =>
          rw [gather_cons_of_open isOpen] at closed ⊢
          rw [gather_cons_of_open isOpen]
          exact ih (joined.regular_extend regular line) closed

theorem cutStatement_extends {text plain : List Char} {left leftToo : List Line}
    (sameText : SameText more text plain left leftToo) (number : other.number = line.number)
    (file : other.file = line.file) :
    Text.trim (cutStatement other plain leftToo).1 = Text.trim (cutStatement line text left).1 ∧
      Extends more (cutStatement line text left).2 (cutStatement other plain leftToo).2 := by
  rcases sameText with ⟨rfl, longerLeft⟩ | ⟨rfl, rfl, rfl⟩
  · unfold cutStatement
    rw [number, file]
    cases Source.findUnquoted ';' plain with
    | none => exact ⟨rfl, longerLeft⟩
    | some position =>
        dsimp only
        split
        · exact ⟨rfl, longerLeft⟩
        · exact ⟨rfl, .cons _ longerLeft⟩
  · unfold cutStatement
    rw [Source.findUnquoted_return, number, file]
    cases found : Source.findUnquoted ';' plain with
    | none => exact ⟨(Text.trim_append_blank rfl plain).symm, .nil⟩
    | some position =>
        have within := Source.findUnquoted_lt found
        have dropped : (plain ++ ['\r']).drop (position + 1) = plain.drop (position + 1) ++ ['\r'] :=
          List.drop_append_of_le_length within
        have taken : (plain ++ ['\r']).take position = plain.take position :=
          List.take_append_of_le_length (Nat.le_of_lt within)
        dsimp only
        rw [dropped, taken, Text.isAllBlank_append_blank rfl]
        split
        · exact ⟨rfl, .nil⟩
        · exact ⟨rfl, .carriageReturn _ _ _⟩

/-- A complete statement is the same when more lines follow, and leaves them behind what it leaves alone. -/
theorem statementFrom_extends (longerQueue : Extends more (line :: queue) longer)
    (closed : (joinedFrom line queue).carried.isOpen = false) :
    ∃ other rest, longer = other :: rest ∧ other.number = line.number ∧ other.file = line.file ∧
      Text.trim (statementFrom other rest).1 = Text.trim (statementFrom line queue).1 ∧
      Extends more (statementFrom line queue).2 (statementFrom other rest).2 := by
  cases longerQueue with
  | carriageReturn text number file =>
      have same := Joined.first_return text number file
      have closedToo : (Joined.first ⟨text, number, file⟩).carried.isOpen = false := by
        rw [← same]
        exact closed
      refine ⟨_, _, rfl, rfl, rfl, ?_⟩
      apply cutStatement_extends (.inl ⟨?_, ?_⟩) rfl rfl
      · rw [joinedFrom, joinedFrom, gather_of_closed closedToo]
        exact congrArg Joined.text same.symm
      · rw [gather_of_closed closedToo]
        exact .nil
  | cons _ longerRest =>
      refine ⟨line, _, rfl, rfl, rfl, ?_⟩
      exact cutStatement_extends (gather_extends longerRest (Joined.regular_first line) closed) rfl rfl

theorem size_extends (longerQueue : Extends more queue longer) :
    linesSize (more.map Line.text) ≤ linesSize (longer.map Line.text) := by
  induction longerQueue with
  | nil => exact Nat.le_refl _
  | blank number file =>
      simp only [List.map_cons, linesSize]
      omega
  | carriageReturn text number file =>
      simp only [List.map_cons, linesSize]
      omega
  | cons line longerRest ih =>
      simp only [List.map_cons, linesSize]
      omega

/-- A blank line is passed over. -/
theorem next_of_blank {input : Input} (noReader : input.reader = none) (number : Nat) (file : String) :
    ({ input with queue := ⟨[], number, file⟩ :: more } : Input).next = { input with queue := more }.next := by
  have closed : (Joined.first ⟨[], number, file⟩).carried.isOpen = false := rfl
  have nothing : statementFrom ⟨[], number, file⟩ more = ([], more) := by
    rw [statementFrom, joinedFrom, gather_of_closed closed]
    rfl
  have taken := @next_of_cons { input with queue := ⟨[], number, file⟩ :: more } ⟨[], number, file⟩ more noReader rfl
  rw [taken, nothing]
  rfl

/-- Where there is a further complete statement, it is the next one as well when more lines follow.  Where there is none,
the lines that follow are read from their beginning. -/
theorem next_extends {input : Input} (noReader : input.reader = none) (complete : Complete input.queue)
    (longerQueue : Extends more input.queue longer) :
    (∀ found after, input.next = (some found, after) →
      ∃ left, ({ input with queue := longer } : Input).next = (some found, { after with queue := left }) ∧
        Complete after.queue ∧ Extends more after.queue left) ∧
    (∀ after, input.next = (none, after) →
      ({ input with queue := longer } : Input).next = { input with queue := more }.next) := by
  induction queued : input.queue using queueInduction generalizing input longer with
  | nil =>
      rw [queued] at longerQueue
      rw [next_of_empty noReader queued]
      constructor
      · intro found after taken
        cases taken
      · intro after _
        cases longerQueue with
        | nil => rfl
        | blank number file => exact next_of_blank noReader number file
  | cons line rest ih =>
      rw [queued] at complete longerQueue
      cases complete with
      | cons closed completeRest =>
          obtain ⟨other, restToo, rfl, number, file, same, longerRest⟩ := statementFrom_extends longerQueue closed
          have takenToo := @next_of_cons { input with queue := other :: restToo } other restToo noReader rfl
          rw [next_of_cons noReader queued, takenToo, number, file]
          dsimp only
          rw [same]
          split
          · exact @ih _ { input with queue := (statementFrom line rest).2 } noReader completeRest longerRest rfl
          · constructor
            · intro found after taken
              cases taken
              exact ⟨_, rfl, completeRest, longerRest⟩
            · intro after taken
              cases taken

end Input

namespace Compile

/-- Reading an input side by side with the same input moved some lines down. -/
def movedPace (count : Nat) : Pace :=
  .ofAbreast (Input.abreast_moved count)
    (by
      rintro first _ ⟨noReader, rfl⟩
      exact ⟨noReader, rfl⟩)
    (by
      rintro first _ ⟨noReader, rfl⟩
      exact ⟨noReader, rfl⟩)

/-- Two inputs of which the second has more lines behind the complete statements of the first. -/
structure Extended (more : List Line) (first second : Input) : Prop where
  noReader : first.reader = none
  complete : Input.Complete first.queue
  longer : ∃ queue, Input.Extends more first.queue queue ∧ second = { first with queue }

/-- Reading an input side by side with one that has more lines behind it. -/
def extendedPace (more : List Line) : Pace where
  move := .none
  endsToo := False
  related := Extended more
  next_some := by
    rintro first _ after found ⟨noReader, complete, queue, longer, rfl⟩ taken
    have reads := Input.next_extends noReader complete longer
    obtain ⟨left, takenToo, completeAfter, longerAfter⟩ := reads.1 found after taken
    exact ⟨_, takenToo, Input.reader_next noReader taken, completeAfter, left, longerAfter, rfl⟩
  next_none := nofun
  enterBlock := by
    rintro first _ ⟨noReader, complete, queue, longer, rfl⟩
    exact ⟨noReader, complete, queue, longer, rfl⟩
  leaveBlock := by
    rintro first _ ⟨noReader, complete, queue, longer, rfl⟩
    exact ⟨noReader, complete, queue, longer, rfl⟩

end Compile

end GroupScript
