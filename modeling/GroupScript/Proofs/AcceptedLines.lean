import GroupScript.CommandLine.Editor
import GroupScript.Proofs.LineJoining
import GroupScript.Proofs.StatementText
import GroupScript.Shell.Run

/-!
# The first lines of accepted statements

The bracket check of a session refuses a line before anything of it is compiled.  A statement that is compiled has a
settled text, but for the arguments around which a print, a return or a command puts brackets.  So the check refuses the
first line of such a statement exactly if the arguments on this line are out of order, or what stands behind a semicolon in
the line is, unless it takes the inside of a string in triple quotes for what it is not.
-/

namespace GroupScript

open Source

/-! ### Statements that are compiled -/

namespace Compile

variable {α β : Type} {workspace : Workspace} {fact : Prop}

/-- A computation that begins with a workspace succeeds only if a fact holds. -/
def Requires (workspace : Workspace) (action : Compile α) (fact : Prop) : Prop :=
  ∀ ⦃input value after⦄, action ⟨input, workspace⟩ = .ok value after → fact

namespace Requires

variable {action : Compile α} {next : α → Compile β}

theorem of_holds (holds : fact) : Requires workspace action fact :=
  fun _ _ _ _ => holds

theorem imp {other : Prop} (requires : Requires workspace action fact) (implies : fact → other) :
    Requires workspace action other :=
  fun _ _ _ finished => implies (requires finished)

theorem bind_of
    (continues : ∀ input value between, action ⟨input, workspace⟩ = .ok value between →
      Requires between.workspace (next value) fact) : Requires workspace (action >>= next) fact := by
  intro input value after finished
  obtain ⟨first, between, ran, finished⟩ := bind_eq_ok finished
  exact continues input first between ran finished

theorem bind (requires : Requires workspace action fact) : Requires workspace (action >>= next) fact :=
  .bind_of fun _ _ _ ran => .of_holds (requires ran)

theorem ofResult {result : Except Error α} (holds : ∀ value, result = .ok value → fact) :
    Requires workspace (GroupScript.ofResult result : Compile α) fact :=
  fun _ _ _ finished => holds _ (Gives.ofResult result finished)

/-- Reading a part of a statement does not touch the workspace. -/
theorem ofResult_bind {result : Except Error α}
    (continues : ∀ value, result = .ok value → Requires workspace (next value) fact) :
    Requires workspace (GroupScript.ofResult result >>= next) fact := by
  intro input value after finished
  cases result with
  | ok first => exact continues first rfl finished
  | error error => cases finished

theorem malformed {place : LogicalLine} {fault : StatementFault} :
    Requires workspace (GroupScript.ofResult (GroupScript.malformed place fault) : Compile α) fact :=
  .ofResult fun _ failed => by cases failed

theorem ite {condition : Prop} [Decidable condition] {first second : Compile α}
    (yes : condition → Requires workspace first fact) (no : ¬condition → Requires workspace second fact) :
    Requires workspace (if condition then first else second) fact := by
  split
  · rename_i holds
    exact yes holds
  · rename_i fails
    exact no fails

end Requires

variable {bound : Nat} {scope : Scope} {inner : Inner} {text head tail : List Char} {number : Nat} {file : String}

theorem mem_of_keyOf {word : String} {words : List String} (key : keyOf text = word) (member : word ∈ words) :
    keyOf text ∈ words :=
  key ▸ member

theorem not_mem_of_keyOf {word : String} {words : List String} (key : keyOf text = word) (absent : word ∉ words) :
    keyOf text ∉ words :=
  key ▸ absent

theorem accepted_of_isEmpty (empty : tail.isEmpty = true) : Accepted scope workspace tail := by
  rw [List.isEmpty_iff.mp empty]
  exact accepted_nil scope workspace

theorem accepted_of_header {place : LogicalLine} (key : keyOf text ∈ headerWords)
    (headed : place.header (afterKey text) = .ok (head, tail)) (settles : Settles head)
    (accepted : Accepted scope workspace tail) : Accepted scope workspace text := by
  obtain ⟨position, found, rfl, rfl⟩ := LogicalLine.exists_of_header headed
  refine .headed ?_ settles.of_trim accepted
  rw [header?, if_pos key, found, Option.map_some]

theorem requires_simple (free : keyOf text ∉ kindWords) :
    Requires workspace (simple scope (.ofText text number file)) (Accepted scope workspace text) := by
  refine .bind_of fun input call between called => ?_
  cases call with
  | some call =>
      dsimp only
      split
      · rename_i code compiled
        obtain ⟨stops, -, -, rfl⟩ := commandCall?_eq_some_iff.mp called
        have coded : codeOf (text.takeWhile (!Text.isBlank ·) ++ '(' :: (afterWord text ++ [')'])) = .ok code :=
          ofSyntax_eq_ok.mpr compiled
        have quiet := quiet_of_call coded stops
        exact .of_holds (.command ⟨free, quiet, input, _, between, called⟩ (settles_of_call coded quiet))
      · exact .malformed
  | none =>
      have settled (settles : Settles text) : Accepted scope workspace text :=
        .settled (header?_of_key fun member => free (by simp [kindWords, member])) settles
      dsimp only
      split
      · exact .bind (.ofResult fun code compiled => settled (settles_of_codeOf compiled))
      · rename_i position found
        refine .ite (fun _ => .malformed) fun _ => .ofResult_bind fun target read => .bind ?_
        refine .ofResult fun code compiled => settled ?_
        exact settles_of_findAssign found (LogicalLine.settles_of_target read) (settles_of_codeOf compiled)

section Arms

variable
  (inlines : ∀ tail, Requires workspace (inline inner (.ofText text number file) tail) (Accepted scope workspace tail))

include inlines

/-- What stands behind a header is compiled as one statement, unless the body stands on lines of its own. -/
theorem requires_inlined {block : Compile β} {wrap : Statement → β} :
    Requires workspace
      (if tail.isEmpty then block else do return wrap (← inline inner (.ofText text number file) tail))
      (Accepted scope workspace tail) :=
  .ite (fun empty => .of_holds (accepted_of_isEmpty empty)) fun _ => .bind (inlines tail)

theorem requires_conditional (key : keyOf text ∈ headerWords) :
    Requires workspace (conditional bound inner (.ofText text number file) (afterKey text))
      (Accepted scope workspace text) := by
  refine .ofResult_bind fun parts headed => ?_
  obtain ⟨head, tail⟩ := parts
  refine .ofResult_bind fun condition compiled => (requires_inlined inlines).imp ?_
  exact accepted_of_header key headed (LogicalLine.settles_of_condition compiled)

theorem requires_whileLoop (key : keyOf text ∈ headerWords) :
    Requires workspace (whileLoop bound inner (.ofText text number file) (afterKey text))
      (Accepted scope workspace text) := by
  refine .ofResult_bind fun parts headed => ?_
  obtain ⟨head, tail⟩ := parts
  refine .ofResult_bind fun condition compiled => .bind ((requires_inlined inlines).imp ?_)
  exact accepted_of_header key headed (LogicalLine.settles_of_condition compiled)

theorem requires_forLoop (key : keyOf text ∈ headerWords) :
    Requires workspace (forLoop bound inner (.ofText text number file) (afterKey text))
      (Accepted scope workspace text) := by
  refine .ofResult_bind fun parts headed => ?_
  obtain ⟨head, tail⟩ := parts
  dsimp only
  split
  · exact .malformed
  rename_i position found
  refine .ofResult_bind fun name named => .ofResult_bind fun items compiled => ?_
  have settlesName : Settles (head.take position) := by
    unfold loopVariable at named
    split at named
    · rename_i read
      obtain ⟨read, -⟩ := Option.filter_eq_some_iff.mp read
      exact LogicalLine.settles_of_readName? read
    · cases named
  have quiet : ∀ d ∈ ['i', 'n'], isQuiet d = true :=
    fun d member => isQuiet_of_isNameChar (List.all_eq_true.mp (by decide) d member)
  have settlesHead : Settles head :=
    settles_of_findWord found quiet settlesName (LogicalLine.settles_of_condition compiled)
  exact .bind ((requires_inlined inlines).imp (accepted_of_header key headed settlesHead))

theorem requires_definition (key : keyOf text ∈ headerWords) :
    Requires workspace (definition bound inner (.ofText text number file) (afterKey text))
      (Accepted scope workspace text) := by
  unfold definition
  split
  · rename_i missed
    refine .ofResult fun statement read => .settled ?_ (settles_of_afterKey (LogicalLine.settles_of_definition read))
    rw [header?, if_pos key, missed, Option.map_none]
  · rename_i position found
    refine .ofResult_bind fun signature read => .bind ((requires_inlined inlines).imp fun accepted => ?_)
    refine .headed ?_ (LogicalLine.settles_of_signature read).of_trim accepted
    rw [header?, if_pos key, found, Option.map_some]

omit inlines in
theorem requires_attempt (key : keyOf text ∉ headerWords) :
    Requires workspace (attempt bound inner (.ofText text number file) (afterKey text))
      (Accepted scope workspace text) := by
  refine .ofResult_bind fun tail headed => .ite (fun empty => .of_holds ?_) fun _ => .malformed
  refine .settled (header?_of_key key) (settles_of_afterKey ?_)
  exact LogicalLine.settles_of_bareHeader headed (.of_isEmpty empty)

/-- A line is compiled only if its text is made up as that of a statement. -/
theorem requires_lineWith :
    Requires workspace (lineWith bound inner scope (.ofText text number file)) (Accepted scope workspace text) := by
  have settled (key : keyOf text ∉ headerWords) (settles : Settles (afterKey text)) : Accepted scope workspace text :=
    .settled (header?_of_key key) (settles_of_afterKey settles)
  have bare (key : keyOf text ∉ headerWords) (statement : Statement) :
      Requires workspace (Compile.bare (.ofText text number file) (afterKey text) statement)
        (Accepted scope workspace text) :=
    .ite (fun empty => .of_holds (settled key (.of_isEmpty empty))) fun _ => .malformed
  have listed (key : keyOf text ∈ listWords) {wrap : Option Code → Statement} :
      Requires workspace (do return wrap (← ofResult (LogicalLine.argumentList (afterKey text))))
        (Accepted scope workspace text) := by
    refine .bind (.ofResult fun code compiled => .listed key fun matched => ?_)
    exact LogicalLine.settles_of_argumentList compiled ((matched_sight_trim _).mpr matched)
  unfold lineWith
  simp only
  split
  case h_1 key => exact requires_conditional inlines (mem_of_keyOf key (by decide))
  case h_2 key => exact requires_whileLoop inlines (mem_of_keyOf key (by decide))
  case h_3 key => exact requires_forLoop inlines (mem_of_keyOf key (by decide))
  case h_4 key => exact requires_attempt (not_mem_of_keyOf key (by decide))
  case h_5 key => exact requires_definition inlines (mem_of_keyOf key (by decide))
  case h_6 key =>
    refine .bind (.ofResult fun names read => ?_)
    exact settled (not_mem_of_keyOf key (by decide)) (LogicalLine.settles_of_namesToDelete read)
  case h_7 key => exact listed (mem_of_keyOf key (by decide))
  case h_8 key => exact listed (mem_of_keyOf key (by decide))
  case h_9 key => exact bare (not_mem_of_keyOf key (by decide)) _
  case h_10 key => exact bare (not_mem_of_keyOf key (by decide)) _
  case h_11 =>
    have free : keyOf text ∉ kindWords := by
      simp only [kindWords, headerWords, listWords, List.cons_append, List.nil_append, List.mem_cons, List.not_mem_nil,
        or_false, not_or]
      refine ⟨?_, ?_, ?_, ?_, ?_, ?_, ?_, ?_, ?_, ?_⟩ <;> assumption
    refine .ite (fun _ => ?_) fun _ => .ite (fun _ => .malformed) fun _ => requires_simple free
    refine .ofResult fun statement read => settled ?_ (LogicalLine.settles_of_importStatement read)
    exact fun member => free (by simp [kindWords, member])

end Arms

theorem requires_line (scope : Scope) (bound : Nat) (text : List Char) (number : Nat) (file : String) :
    Requires workspace (line scope bound (.ofText text number file)) (Accepted scope workspace text) := by
  induction bound generalizing text with
  | zero =>
      intro input value after finished
      cases finished
  | succ bound ih => exact requires_lineWith fun tail => ih tail

end Compile

/-! ### First lines -/

theorem Joined.exists_tail (joined : Joined) (more : List Line) :
    ∃ tail, (more.foldl extend joined).text = joined.text ++ tail ∧ Parted tail := by
  induction more generalizing joined with
  | nil => exact ⟨[], by simp, by simp [Parted]⟩
  | cons line more ih =>
      obtain ⟨tail, joins, -⟩ := ih (joined.extend line)
      refine ⟨_, by rw [List.foldl_cons, joins, extend, List.append_assoc], ?_⟩
      rw [List.cons_append]
      rintro c ⟨⟩
      split <;> decide

/-- A statement begins with its first line, or it is what stands before the first semicolon of that line. -/
theorem Input.assemble_cases (input : Input) (line : Line) :
    (findUnquoted ';' (stripComment {} (Text.trim line.text)).1 = none ∧
      ∃ tail, (input.assemble line).1 = (stripComment {} (Text.trim line.text)).1 ++ tail ∧ Parted tail) ∨
      ∃ front back, (stripComment {} (Text.trim line.text)).1 = front ++ ';' :: back ∧
        findUnquoted ';' (stripComment {} (Text.trim line.text)).1 = some front.length ∧
        (input.assemble line).1 = front := by
  obtain ⟨tail, joins, parted⟩ := Joined.exists_tail (.first line) (input.continuation (Joined.first line)).1
  have text : (Joined.ofLines line (input.continuation (Joined.first line)).1).text =
      (stripComment {} (Text.trim line.text)).1 ++ tail := joins
  rw [assemble_eq rfl, text, splitStatement]
  generalize (stripComment {} (Text.trim line.text)).1 = kept
  simp only [findUnquoted_eq_search]
  rcases cut : ({} : Scanner).search (fun c _ => c == ';') kept with ⟨_ | position, after⟩
  · have goesOn := Scanner.search_append Scanner.regular_fresh (parted.unquoted.apart kept) (congrArg Prod.fst cut)
    refine .inl ⟨rfl, ?_⟩
    split
    · exact ⟨tail, rfl, parted⟩
    · rename_i position later
      rw [goesOn] at later
      obtain ⟨place, -, rfl⟩ := Option.map_eq_some_iff.mp later
      refine ⟨tail.take place, ?_, parted.take place⟩
      change List.take (place + _) _ = _
      rw [Nat.add_comm place, List.take_length_add_append]
  · have foundToo := Scanner.search_append_of_found Scanner.regular_fresh (Scanner.blind_mark (by decide)) cut tail
    obtain ⟨front, back, rfl, rfl, -⟩ := Scanner.search_mark_eq_some Scanner.regular_fresh (by decide) cut
    refine .inr ⟨front, back, rfl, rfl, ?_⟩
    rw [foundToo]
    simp

theorem Compile.exists_line_of_next {scope : Scope} {input : Input} {workspace : Workspace} {after : Desk}
    {statement : Statement} (compiled : next scope ⟨input, workspace⟩ = .ok (some statement) after) :
    ∃ place bound rest, input.next.1 = some place ∧ line scope bound place ⟨rest, workspace⟩ = .ok statement after := by
  obtain ⟨found, between, taken, compiled⟩ := bind_eq_ok compiled
  cases taken
  cases isPlace : input.next.1 with
  | none =>
      rw [isPlace] at compiled
      cases compiled
  | some place =>
      rw [isPlace] at compiled
      dsimp only at compiled
      rw [get_bind_apply] at compiled
      obtain ⟨result, last, ran, finished⟩ := bind_eq_ok compiled
      cases finished
      exact ⟨place, _, _, rfl, ran⟩

namespace Source

/-- What a line holds of the statement that begins with it, and what stands behind the semicolon that ends the
statement. -/
def firstStatement (line : List Char) : List Char × List Char :=
  let kept := (stripComment {} (Text.trim line)).1
  match findUnquoted ';' kept with
  | none => (Text.trim kept, [])
  | some position => (Text.trim (kept.take position), kept.drop (position + 1))

end Source

/-- The brackets in the first line of a statement that is compiled are matched exactly if they are in the arguments on this
line that are put in brackets, and behind a semicolon in the line. -/
theorem Compile.matched_sight_iff_of_next {scope : Scope} {workspace : Workspace} {input rest : Input} {first : Line}
    {statement : Statement} {after : Desk} (begun : input.nextLine false = (some first, rest))
    (compiled : next scope ⟨input, workspace⟩ = .ok (some statement) after) :
    Matched (({} : Scanner).sight first.text) ↔
      (∀ arguments, Encloses scope workspace (firstStatement first.text).1 arguments →
        Matched (({} : Scanner).sight arguments)) ∧
      Matched (({} : Scanner).sight (firstStatement first.text).2) := by
  obtain ⟨place, bound, others, taken, ran⟩ := exists_line_of_next compiled
  have accepted : Accepted scope workspace (Text.trim (rest.assemble first).1) := by
    rw [Input.next_of_line begun] at taken
    split at taken
    · rename_i empty
      exact accepted_of_isEmpty empty
    · cases taken
      exact requires_line scope bound _ _ _ ran
  rw [← matched_sight_trim first.text, ← matched_sight_stripComment (Text.trim first.text), firstStatement]
  rcases rest.assemble_cases first with ⟨missed, tail, joins, parted⟩ | ⟨front, back, cut, found, whole⟩
  · rw [joins] at accepted
    rw [missed, ← matched_sight_trim, accepted.matched_sight_iff (Leads.trim_append parted _)]
    exact (and_iff_left Settles.nil.matched_sight).symm
  · rw [whole] at accepted
    have apart : Apart front (';' :: back) := (unquoted_cons.mpr (by decide)).apart front
    have semicolon : Settles front →
        (Matched (({} : Scanner).sight (front ++ ';' :: back)) ↔ Matched (({} : Scanner).sight back)) := by
      intro settles
      rw [settles.matched_sight_append apart, matched_sight_cons rfl]
    rw [found, cut]
    dsimp only
    rw [List.take_left, ← List.drop_drop, List.drop_left, List.drop_one, List.tail_cons,
      ← accepted.matched_sight_iff (.refl _)]
    constructor
    · intro matched
      have matchedFront := (matched_sight_trim front).mpr (matched_sight_of_append (unquoted_cons.mpr (by decide)) matched)
      exact ⟨matchedFront, (semicolon (accepted.settles matchedFront).of_trim).mp matched⟩
    · rintro ⟨matchedFront, matchedBack⟩
      exact (semicolon (accepted.settles matchedFront).of_trim).mpr matchedBack

namespace CommandLine

theorem notices_takeChecked_ne_nil (objection? : List Char → Option String) (kept : List Char) (notice : String)
    (notices : List String) (lines : List (List Char)) :
    (takeChecked objection? kept (notice :: notices) lines).notices ≠ [] := by
  induction lines generalizing kept notice notices with
  | nil => simp [takeChecked]
  | cons line lines ih =>
      rw [takeChecked]
      split
      · simp
      · exact ih _ _ _

/-- A line that starts a statement is given as it is typed, without a report, exactly if its brackets pass the check. -/
theorem reply_eq_iff (prompt : String) (typed : List Char) (lines : List (List Char)) :
    (typedRule (Shell.objection? prompt)).reply prompt (typed :: lines) = ⟨some (typedLine typed), lines, []⟩ ↔
      bracketFault? (typedLine typed) = none := by
  cases found : bracketFault? (typedLine typed) with
  | none => simp [typedRule, takeChecked, Shell.objection?, found]
  | some fault =>
      have objects : Shell.objection? prompt prompt (typedLine typed) = some (" - " ++ fault.text) := by
        rw [Shell.objection?, if_pos rfl, found, Option.map_some]
      refine iff_of_false (fun replied => ?_) (by simp)
      have reported := congrArg Reply.notices replied
      simp only [typedRule, takeChecked, List.nil_append, objects] at reported
      exact notices_takeChecked_ne_nil _ _ _ _ _ reported

end CommandLine

namespace Source

/-- The bracket check finds a fault in a line exactly if a closing bracket does not belong to the bracket opened last
among the characters outside strings and before the comment, where every quote by itself begins or ends a string.  A line
without a fault, and no other one, is given without a report when it is typed.  The characters are those that the scanner
shows, unless a string in triple quotes holds a quote of its own kind.  In a line without such a string that begins a
statement which is compiled, there is no fault exactly if the brackets are matched in the arguments on the line that a
print, a return or a command puts in brackets, and in what stands behind a semicolon. -/
theorem bracket_check_agrees_with_scanner (line : Line) :
    (bracketFault? line.text = none ↔ Matched (quoteByQuote none false line.text)) ∧
    (∀ typed lines prompt, CommandLine.typedLine typed = line.text →
      ((CommandLine.typedRule (Shell.objection? prompt)).reply prompt (typed :: lines) = ⟨some line.text, lines, []⟩ ↔
        bracketFault? line.text = none)) ∧
    (Scanner.embedsQuote 0 {} line.text = false →
      (bracketFault? line.text = none ↔ Matched (({} : Scanner).sight line.text)) ∧
      ∀ input rest scope workspace statement after,
        Input.nextLine input false = (some line, rest) →
        Compile.next scope ⟨input, workspace⟩ = .ok (some statement) after →
        (bracketFault? line.text = none ↔
          (∀ arguments, Encloses scope workspace (firstStatement line.text).1 arguments →
            Matched (({} : Scanner).sight arguments)) ∧
          Matched (({} : Scanner).sight (firstStatement line.text).2))) := by
  refine ⟨bracketFault?_eq_none_iff line.text, fun typed lines prompt same => ?_, fun bare => ?_⟩
  · rw [← same]
    exact CommandLine.reply_eq_iff prompt typed lines
  · have agrees := bracketFault?_eq_none_iff_sight bare
    refine ⟨agrees, fun input rest scope workspace statement after begun compiled => ?_⟩
    exact agrees.trans (Compile.matched_sight_iff_of_next begun compiled)

/-- A command behind a header, and the first line of a list that goes on in the next line.  There are brackets and a quote
of the other kind in the string, and a bracket in the comment. -/
def openedLine : Line :=
  ⟨"if x: len f('''( \" ]'''); y = [1, # )".toList, 1, "f"⟩

/-- That line and the one that closes the list. -/
def openedInput : Input :=
  { queue := [openedLine, ⟨"2]".toList, 2, "f"⟩] }

/-- A workspace in which a name of the root can be called. -/
def callableWorkspace : Workspace :=
  Workspace.empty.setMember 0 "len" (.native (.builtin .len))

theorem bracket_check_agrees_with_scanner_opened :
    (∃ condition code after, Compile.next ⟨0, 0, 0⟩ ⟨openedInput, callableWorkspace⟩ =
      .ok (some (.choose [(condition, [.evaluate code true])])) after) ∧
    Encloses ⟨0, 0, 0⟩ callableWorkspace (firstStatement openedLine.text).1 "f('''( \" ]''')".toList ∧
    Matched (({} : Scanner).sight "f('''( \" ]''')".toList) ∧
    (CommandLine.typedRule (Shell.objection? "> ")).reply "> " [openedLine.text ++ ['\n'], "2]\n".toList] =
      ⟨some openedLine.text, ["2]\n".toList], []⟩ := by
  obtain ⟨condition, code, after, compiled⟩ : ∃ condition code after,
      Compile.next ⟨0, 0, 0⟩ ⟨openedInput, callableWorkspace⟩ =
        .ok (some (.choose [(condition, [.evaluate code true])])) after := ⟨_, _, _, by cbv⟩
  have command : IsCommand ⟨0, 0, 0⟩ callableWorkspace "len f('''( \" ]''')".toList := by
    have quiet : ("len f('''( \" ]''')".toList.takeWhile (!Text.isBlank ·)).all isQuiet = true := by decide +kernel
    exact ⟨by decide +kernel, List.all_eq_true.mp quiet, {}, _, _, by cbv⟩
  have encloses : Encloses ⟨0, 0, 0⟩ callableWorkspace (firstStatement openedLine.text).1 "f('''( \" ]''')".toList := by
    have headed : header? (firstStatement openedLine.text).1 = some (['x'], "len f('''( \" ]''')".toList) := by
      decide +kernel
    have behind : afterWord "len f('''( \" ]''')".toList = "f('''( \" ]''')".toList := by decide +kernel
    exact .headed headed (behind ▸ .command command)
  have bare : Scanner.embedsQuote 0 {} openedLine.text = false := by decide +kernel
  obtain ⟨-, replies, agrees⟩ := bracket_check_agrees_with_scanner openedLine
  have ordered : bracketFault? openedLine.text = none := by decide +kernel
  obtain ⟨each, -⟩ := ((agrees bare).2 openedInput _ _ _ _ _ rfl compiled).mp ordered
  exact ⟨⟨condition, code, after, compiled⟩, encloses, each _ encloses,
    (replies _ _ _ (by decide +kernel)).mpr ordered⟩

/-- A quote in a string in triple quotes ends the string for the check, which then finds a fault in a text whose brackets
are matched.  And arguments that close a bracket which is put before them are refused, though they are compiled; so is a
statement before a semicolon for what follows it. -/
theorem bracket_check_refuses_accepted_lines :
    (bracketFault? "'''it's )'''".toList = some (.notPaired ')') ∧
      Matched (({} : Scanner).sight "'''it's )'''".toList) ∧
      ∃ code after, Compile.next ⟨0, 0, 0⟩ ⟨({} : Input).pushText "'''it's )'''".toList "f", .empty⟩ =
        .ok (some (.evaluate code false)) after) ∧
    (bracketFault? "print 1] + [2".toList = some (.notPaired ']') ∧
      ∃ items after, Compile.next ⟨0, 0, 0⟩ ⟨({} : Input).pushText "print 1] + [2".toList "f", .empty⟩ =
        .ok (some (.print items)) after) ∧
    bracketFault? "break; )".toList = some (.notPaired ')') ∧
      ∃ after, Compile.next ⟨0, 0, 0⟩ ⟨({} : Input).pushText "break; )".toList "f", .empty⟩ =
        .ok (some .breakLoop) after := by
  exact ⟨⟨by decide +kernel, by decide +kernel, _, _, by cbv⟩, ⟨by decide +kernel, _, _, by cbv⟩, by decide +kernel, _,
    by cbv⟩

end Source

end GroupScript
