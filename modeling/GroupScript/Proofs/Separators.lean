import GroupScript.Proofs.TextSequence

/-!
# Semicolons and line feeds

Statements may stand on one line with semicolons between them, or on lines of their own.  Both are read as the same
statements.  What is left of a line behind a semicolon is read again from the beginning, so the scan of the whole line
has to agree with the scans of its pieces.  Each piece ends outside strings, and the brackets that a piece closes without
having opened them only change the depth at which the next one begins, which no search for a semicolon or a comment sees.
-/

namespace GroupScript

namespace Scanner

variable {accept : Char → Bool} {scanner : Scanner} {text first second : List Char}

/-- The same state at another depth. -/
def raised (scanner : Scanner) (levels : Int32) : Scanner :=
  { scanner with depth := scanner.depth + levels }

theorem step_raised (scanner : Scanner) (levels : Int32) (c : Char) (rest : List Char) :
    (scanner.raised levels).step c rest = ((scanner.step c rest).1.raised levels, (scanner.step c rest).2) := by
  obtain ⟨depth, quote, escaped⟩ := scanner
  cases quote with
  | none =>
      simp only [raised, step, stepOutside]
      split
      · rfl
      · split
        · rw [Int32.add_assoc, Int32.add_comm levels, ← Int32.add_assoc]
        · split
          · rw [Int32.sub_eq_add_neg, Int32.sub_eq_add_neg, Int32.add_assoc, Int32.add_comm levels, ← Int32.add_assoc]
          · rfl
  | some quote =>
      simp only [raised, step, stepInside]
      grind

/-- A search that does not see the depth finds the same at every depth. -/
theorem search_raised (scanner : Scanner) (levels : Int32) (text : List Char) :
    search (fun c _ => accept c) (scanner.raised levels) text =
      ((search (fun c _ => accept c) scanner text).1, (search (fun c _ => accept c) scanner text).2.raised levels) := by
  induction scanner, text using stepInduction with
  | nil scanner => rfl
  | cons scanner c rest ih =>
      by_cases found : scanner.quote = none ∧ accept c = true
      · have here := @search_found (fun c _ => accept c) scanner rest c found.1 found.2
        have raisedHere := @search_found (fun c _ => accept c) (scanner.raised levels) rest c found.1 found.2
        rw [here, raisedHere]
      · have missed : scanner.quote = none → accept c = false := by simpa using found
        rw [search_step missed, search_step missed, step_raised]
        simp only [ih, moved]

theorem Regular.eq_raised (regular : scanner.Regular) (outside : scanner.quote = none) :
    scanner = ({} : Scanner).raised scanner.depth := by
  obtain ⟨depth, quote, escaped⟩ := scanner
  obtain rfl : escaped = false := regular.outside outside
  cases outside
  simp [raised]

/-- Behind a semicolon outside strings, a search that passes it goes on as from the beginning. -/
theorem search_semicolon (passes : accept ';' = false) (outside : (({} : Scanner).through first).quote = none)
    (missed : (search (fun c _ => accept c) {} first).1 = none) :
    search (fun c _ => accept c) {} (first ++ ';' :: second) =
      moved (first.length + 1) ((search (fun c _ => accept c) {} second).1,
        (search (fun c _ => accept c) {} second).2.raised (({} : Scanner).through first).depth) := by
  have unquoted : Unquoted (';' :: second) := unquoted_cons.mpr (by decide)
  have reached := (regular_fresh.through first).eq_raised outside
  rw [search_append regular_fresh (unquoted.apart first) missed, ← through_eq_of_search missed,
    search_step fun _ => passes, step_plain outside rfl]
  simp only [List.drop_zero, moved_moved]
  rw [reached, search_raised, Nat.add_comm, Nat.zero_add]
  simp [raised]

end Scanner

namespace Text

/-- A text with no blanks at its ends that is not empty. -/
structure Tight (text : List Char) : Prop where
  visible : text ≠ []
  trimmed : trim text = text

namespace Tight

variable {text first second : List Char}

theorem exists_head (tight : Tight text) : ∃ c rest, isBlank c = false ∧ text = c :: rest := by
  have visible : trim text ≠ [] := tight.trimmed.symm ▸ tight.visible
  obtain ⟨c, rest, notBlank, -, trimmed⟩ := exists_trim_eq visible
  exact ⟨c, trimEnd rest, notBlank, tight.trimmed.symm.trans trimmed⟩

theorem exists_last (tight : Tight text) : ∃ front c, isBlank c = false ∧ text = front ++ [c] := by
  obtain ⟨front, c, rfl⟩ := (List.eq_nil_or_concat text).resolve_left tight.visible
  rw [List.concat_eq_append] at tight ⊢
  refine ⟨front, c, ?_, rfl⟩
  cases blank : isBlank c with
  | false => rfl
  | true =>
      -- A blank at the end would have been trimmed.
      have shorter := length_trim_le front
      have trimmed := congrArg List.length tight.trimmed
      rw [trim_append_blank blank, List.length_append, List.length_singleton] at trimmed
      omega

theorem append (tightFirst : Tight first) (tightSecond : Tight second) (middle : List Char) :
    Tight (first ++ middle ++ second) := by
  obtain ⟨c, rest, headVisible, rfl⟩ := tightFirst.exists_head
  obtain ⟨front, d, lastVisible, rfl⟩ := tightSecond.exists_last
  refine ⟨by simp, ?_⟩
  rw [trim, List.cons_append, List.cons_append, trimStart_of_head headVisible, ← List.cons_append,
    ← List.cons_append, ← List.append_assoc, trimEnd_of_last lastVisible]

theorem not_isAllBlank (tight : Tight text) : isAllBlank text = false := by
  obtain ⟨c, rest, visible, rfl⟩ := tight.exists_head
  simp [isAllBlank, visible]

end Tight

theorem Tight.lines_lineFeed {text : List Char} (tight : Tight text) (unbroken : '\n' ∉ text) :
    lines (text ++ ['\n']) = [text] := by
  have kept : dropCarriageReturn text = text := by
    obtain ⟨front, c, visible, rfl⟩ := tight.exists_last
    apply if_neg
    intro last
    simp only [List.getLast?_append, List.getLast?_singleton, Option.some_or, Option.some.injEq] at last
    rw [last] at visible
    cases visible
  have whole : endedLinesFrom [] (text ++ ['\n']) = [text ++ ['\n']] := by
    rw [endedLinesFrom_append unbroken]
    simp [endedLinesFrom]
  rw [lines, endedLines, whole, List.map_singleton, dropLineEnd_lineFeed, kept]

end Text

namespace Source

/-- A text that holds no comment and ends outside strings. -/
structure Joinable (text : List Char) : Prop where
  noComment : findUnquoted '#' text = none
  outside : (({} : Scanner).through text).quote = none

theorem Joinable.append_semicolon {first second : List Char} (joinableFirst : Joinable first)
    (joinableSecond : Joinable second) : Joinable (first ++ ';' :: second) where
  noComment := by
    have searched := @Scanner.search_semicolon (· == '#') first second rfl joinableFirst.outside joinableFirst.noComment
    rw [findUnquoted_eq_search, searched, Scanner.moved_fst_eq_none]
    exact joinableSecond.noComment
  outside := by
    have searched := @Scanner.search_semicolon (fun _ => false) first second rfl joinableFirst.outside
      (Scanner.search_never {} first)
    have reached : ({} : Scanner).through (first ++ ';' :: second) =
        (({} : Scanner).through second).raised (({} : Scanner).through first).depth := congrArg Prod.snd searched
    rw [reached]
    exact joinableSecond.outside

/-- Nothing of a text without a comment is dropped. -/
theorem Joinable.stripComment_eq {text : List Char} (joinable : Joinable text) : (stripComment {} text).1 = text := by
  have missed : (({} : Scanner).search (fun c _ => c == '#') text).1 = none := joinable.noComment
  rw [stripComment_of_missed missed]

/-- A text that holds no comment, ends outside strings, and opens no more brackets than it closes. -/
structure Closed (text : List Char) : Prop where
  noComment : findUnquoted '#' text = none
  closed : (({} : Scanner).through text).isOpen = false

namespace Closed

variable {text : List Char}

theorem joinable (closed : Closed text) : Joinable text where
  noComment := closed.noComment
  outside := by
    have complete := closed.closed
    simp only [Scanner.isOpen, Scanner.inString, Bool.or_eq_false_iff, Option.isSome_eq_false_iff,
      Option.isNone_iff_eq_none] at complete
    exact complete.2

/-- Nothing is to be continued after a closed text. -/
theorem isOpen_stripComment (closed : Closed text) : (stripComment {} text).2.isOpen = false := by
  have missed : (({} : Scanner).search (fun c _ => c == '#') text).1 = none := closed.noComment
  have ended : (({} : Scanner).through text).endLine = ({} : Scanner).through text := by
    rw [Scanner.endLine, closed.joinable.outside]
  rw [stripComment_of_missed missed, ← Scanner.through_eq_of_search missed, ended]
  exact closed.closed

end Closed

end Source

/-- A statement that may stand between semicolons: on one line, without blanks at its ends, complete, and without a
semicolon or a comment outside strings. -/
structure Separable (text : List Char) : Prop extends Text.Tight text, Source.Closed text where
  unbroken : '\n' ∉ text
  noSemicolon : Source.findUnquoted ';' text = none

namespace Separable

variable {text : List Char}

theorem isWhole (separable : Separable text) : Source.isWhole (Text.trim text) = true := by
  rw [separable.trimmed]
  simp [Source.isWhole, separable.noComment, separable.noSemicolon, separable.toClosed.isOpen_stripComment]

/-- The first semicolon behind a statement is the one that follows it. -/
theorem findUnquoted_semicolon (separable : Separable text) (more : List Char) :
    Source.findUnquoted ';' (text ++ ';' :: more) = some text.length := by
  have unquoted : Unquoted (';' :: more) := unquoted_cons.mpr (by decide)
  have missed := separable.noSemicolon
  rw [Source.findUnquoted_eq_search] at missed ⊢
  rw [Scanner.search_append Scanner.regular_fresh (unquoted.apart text) missed,
    ← Scanner.through_eq_of_search missed, Scanner.search_found separable.toClosed.joinable.outside rfl]
  simp [Scanner.moved]

end Separable

namespace Input

variable {input : Input} {queue : List Line} {text more : List Char} {texts : List (List Char)} {number : Nat}
  {file : String}

/-- A line with a semicolon that no other line follows is cut there, however many brackets it leaves open. -/
theorem next_of_semicolon (noReader : input.reader = none) (queued : input.queue = [⟨text ++ ';' :: more, number, file⟩])
    (separable : Separable text) (tight : Text.Tight more) (joinable : Source.Joinable more) :
    input.next = (some (LogicalLine.ofText text number file), { input with queue := [⟨more, number, file⟩] }) := by
  have whole : Text.trim (text ++ ';' :: more) = text ++ ';' :: more := by
    simpa using (separable.toTight.append tight [';']).trimmed
  have kept := (separable.toClosed.joinable.append_semicolon joinable).stripComment_eq
  have cut : statementFrom ⟨text ++ ';' :: more, number, file⟩ [] = (text, [⟨more, number, file⟩]) := by
    change cutStatement _ (Source.stripComment {} (Text.trim (text ++ ';' :: more))).1 [] = _
    rw [whole, kept]
    simp [cutStatement, separable.findUnquoted_semicolon, tight.not_isAllBlank]
  rw [next_of_cons noReader queued, cut]
  simp [separable.trimmed, separable.visible]

/-- The statements of an input, up to its end. -/
def statements (input : Input) : List LogicalLine :=
  match _taken : input.next with
  | (none, _) => []
  | (some line, after) => line :: after.statements
termination_by input.unread
decreasing_by
  have := unread_next _taken
  omega

theorem statements_of_none {after : Input} (ended : input.next = (none, after)) : input.statements = [] := by
  rw [statements]
  split
  · rfl
  · simp_all

theorem statements_of_some {line : LogicalLine} {after : Input} (taken : input.next = (some line, after)) :
    input.statements = line :: after.statements := by
  rw [statements]
  split <;> simp_all

theorem statements_of_isWhole {line : Line} (queued : input.queue = line :: queue) (separable : Separable line.text) :
    input.statements =
      LogicalLine.ofText line.text line.number line.file :: ({ input with queue } : Input).statements := by
  have visible : Text.trim line.text ≠ [] := by
    rw [separable.trimmed]
    exact separable.visible
  have taken := next_of_isWhole queued visible separable.isWhole
  rw [statements_of_some taken, separable.trimmed]

/-- Statements with semicolons between them make up a text that ends outside strings. -/
theorem joinable_joinWith_semicolon (separable : ∀ text ∈ texts, Separable text) (visible : texts ≠ []) :
    Text.Tight (Text.joinWith [';'] texts) ∧ Source.Joinable (Text.joinWith [';'] texts) ∧
      '\n' ∉ Text.joinWith [';'] texts := by
  fun_induction Text.joinWith [';'] texts with
  | case1 => exact absurd rfl visible
  | case2 text =>
      have alone := separable text (by simp)
      exact ⟨alone.toTight, alone.toClosed.joinable, alone.unbroken⟩
  | case3 text next rest ih =>
      obtain ⟨first, others⟩ := List.forall_mem_cons.mp separable
      obtain ⟨tight, joinable, unbroken⟩ := ih others (by simp)
      refine ⟨first.toTight.append tight [';'], ?_, ?_⟩
      · simpa using first.toClosed.joinable.append_semicolon joinable
      · simp [first.unbroken, unbroken]

/-- A line of statements with semicolons between them is read as these statements, all with its number. -/
theorem statements_of_oneLine (separable : ∀ text ∈ texts, Separable text) (visible : texts ≠ [])
    (noReader : input.reader = none) (queued : input.queue = [⟨Text.joinWith [';'] texts, number, file⟩]) :
    input.statements =
      texts.map (LogicalLine.ofText · number file) ++ ({ input with queue := [] } : Input).statements := by
  -- Each statement leaves the line of the others in the queue.
  induction texts generalizing input with
  | nil => exact absurd rfl visible
  | cons text rest ih =>
      obtain ⟨first, others⟩ := List.forall_mem_cons.mp separable
      cases rest with
      | nil => exact statements_of_isWhole queued first
      | cons next rest =>
          obtain ⟨tight, joinable, -⟩ := joinable_joinWith_semicolon others (by simp)
          have split : Text.joinWith [';'] (text :: next :: rest) =
              text ++ ';' :: Text.joinWith [';'] (next :: rest) := by simp [Text.joinWith]
          rw [split] at queued
          have taken := next_of_semicolon noReader queued first tight joinable
          have left := @ih { input with queue := [⟨Text.joinWith [';'] (next :: rest), number, file⟩] } others (by simp)
            noReader rfl
          rw [statements_of_some taken, left]
          rfl

/-- Statements on lines of their own are read as they are, each with its number. -/
theorem statements_of_lines (separable : ∀ text ∈ texts, Separable text)
    (queued : input.queue = numbered file number texts ++ queue) :
    input.statements =
      (numbered file number texts).map (fun line => LogicalLine.ofText line.text line.number line.file) ++
        ({ input with queue } : Input).statements := by
  induction texts generalizing input number with
  | nil =>
      rw [← show input.queue = queue from queued]
      rfl
  | cons text rest ih =>
      obtain ⟨first, others⟩ := List.forall_mem_cons.mp separable
      rw [statements_of_isWhole queued first, ih others rfl]
      rfl

theorem lines_joinWith_lineFeed (separable : ∀ text ∈ texts, Separable text) :
    Text.lines (Text.joinWith ['\n'] texts) = texts := by
  fun_induction Text.joinWith ['\n'] texts with
  | case1 => rfl
  | case2 text =>
      have alone := separable text (by simp)
      exact Text.lines_of_notMem alone.unbroken alone.visible
  | case3 text next rest ih =>
      obtain ⟨first, others⟩ := List.forall_mem_cons.mp separable
      have split : text ++ ['\n'] ++ Text.joinWith ['\n'] (next :: rest) =
          text ++ '\n' :: Text.joinWith ['\n'] (next :: rest) := by simp
      rw [split, Text.lines_append_lineFeed, first.toTight.lines_lineFeed first.unbroken, ih others]
      rfl

theorem statements_of_empty (empty : input.queue = []) (noReader : input.reader = none) : input.statements = [] :=
  statements_of_none (next_of_empty noReader empty)

theorem map_numbered {α : Type} (make : List Char → α) (file : String) (number : Nat) (texts : List (List Char)) :
    (numbered file number texts).map (fun line => make line.text) = texts.map make := by
  induction texts generalizing number with
  | nil => rfl
  | cons text rest ih => simp [numbered, ih]

/-- Semicolons and line feeds separate statements alike.  From an input at its end, the texts of statements with
semicolons between them on one line, and the same texts on lines of their own, are read as statements with these texts,
in their order, and with the same keys.  The places differ: on one line all have its number. -/
theorem statements_semicolon_lineFeed (input : Input) (texts : List (List Char)) (file : String)
    (empty : input.queue = []) (noReader : input.reader = none) (separable : ∀ text ∈ texts, Separable text) :
    let oneLine := (input.pushText (Text.joinWith [';'] texts) file).statements
    let ownLines := (input.pushText (Text.joinWith ['\n'] texts) file).statements
    oneLine = texts.map (LogicalLine.ofText · 1 file) ∧
    ownLines = (numbered file 1 texts).map (fun line => LogicalLine.ofText line.text line.number line.file) ∧
    oneLine.map LogicalLine.text = texts ∧ ownLines.map LogicalLine.text = texts ∧
    oneLine.map LogicalLine.key = ownLines.map LogicalLine.key := by
  intro oneLine ownLines
  have isOneLine : oneLine = texts.map (LogicalLine.ofText · 1 file) := by
    by_cases without : texts = []
    · subst without
      exact statements_of_empty (by rw [Session.pushText_of_empty empty]; rfl) noReader
    · obtain ⟨tight, -, unbroken⟩ := joinable_joinWith_semicolon separable without
      have queued : (input.pushText (Text.joinWith [';'] texts) file).queue =
          [⟨Text.joinWith [';'] texts, 1, file⟩] := by
        rw [Session.pushText_of_empty empty, Text.lines_of_notMem unbroken tight.visible]
        rfl
      have ended : ({ input.pushText (Text.joinWith [';'] texts) file with queue := [] } : Input).statements = [] :=
        statements_of_empty rfl noReader
      have noReaderToo : (input.pushText (Text.joinWith [';'] texts) file).reader = none := noReader
      have read := statements_of_oneLine separable without noReaderToo queued
      rwa [ended, List.append_nil] at read
  have isOwnLines : ownLines =
      (numbered file 1 texts).map (fun line => LogicalLine.ofText line.text line.number line.file) := by
    have queued : (input.pushText (Text.joinWith ['\n'] texts) file).queue = numbered file 1 texts ++ [] := by
      rw [Session.pushText_of_empty empty, lines_joinWith_lineFeed separable, List.append_nil]
    have ended : ({ input.pushText (Text.joinWith ['\n'] texts) file with queue := [] } : Input).statements = [] :=
      statements_of_empty rfl noReader
    have read := statements_of_lines separable queued
    rwa [ended, List.append_nil] at read
  have kept : (numbered file 1 texts).map Line.text = texts := by
    simpa using map_numbered id file 1 texts
  have keys : (numbered file 1 texts).map (fun line => keyOf line.text) = texts.map keyOf :=
    map_numbered keyOf file 1 texts
  refine ⟨isOneLine, isOwnLines, ?_, ?_, ?_⟩
  · simp [isOneLine, LogicalLine.ofText, Function.comp_def]
  · simpa [isOwnLines, LogicalLine.ofText, Function.comp_def] using kept
  · simpa [isOneLine, isOwnLines, LogicalLine.ofText, Function.comp_def] using keys.symm

/-- The second statement closes a bracket that none has opened, and the first ends with an empty string in triple
quotes. -/
theorem statements_semicolon_lineFeed_unpaired :
    (({} : Input).pushText "s = 'a;b#' + \"\"\"\"\"\";);print s".toList "text").statements.map LogicalLine.text =
      ["s = 'a;b#' + \"\"\"\"\"\"".toList, ")".toList, "print s".toList] ∧
    (({} : Input).pushText "s = 'a;b#' + \"\"\"\"\"\"\n)\nprint s".toList "text").statements.map LogicalLine.text =
      ["s = 'a;b#' + \"\"\"\"\"\"".toList, ")".toList, "print s".toList] := by
  have separable : ∀ text ∈ ["s = 'a;b#' + \"\"\"\"\"\"".toList, ")".toList, "print s".toList], Separable text := by
    intro text member
    simp only [List.mem_cons, List.not_mem_nil, or_false] at member
    rcases member with rfl | rfl | rfl <;>
      exact ⟨⟨by decide, by decide⟩, ⟨by decide, by decide⟩, by decide, by decide⟩
  obtain ⟨-, -, oneLine, ownLines, -⟩ := statements_semicolon_lineFeed {} _ "text" rfl rfl separable
  exact ⟨oneLine, ownLines⟩

end Input

end GroupScript
