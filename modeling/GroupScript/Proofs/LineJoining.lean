import GroupScript.Proofs.Scanning
import GroupScript.Source.Input

/-!
# Joining lines

A statement goes on in further lines while a bracket or a string is open.  The scanner that decides this goes from line
to line and never sees what is put between them.  It still ends each line in the state that a scan of the whole text
ends in, with one exception: a backslash at the end of a line inside a string escapes the first character of the next
line, as if no line feed stood between them.
-/

namespace GroupScript

/-- The text that some lines are joined to, what the scanner has seen of it, and the state at the end of the last
line. -/
structure Joined where
  text : List Char
  seen : List Char
  reached : Scanner

namespace Joined

/-- The state in which the next line is read. -/
def carried (joined : Joined) : Scanner :=
  joined.reached.endLine

/-- Whether the last line ends outside strings in single quotes. -/
def endsWhole (joined : Joined) : Bool :=
  joined.reached.quote.all Quote.triple

/-- The state at the end of a line, or before the comment that ends it. -/
def lineEnd (scanner : Scanner) (line : List Char) : Scanner :=
  (scanner.feed (fun visit => visit.char == '#') line).2

/-- The first line of a statement. -/
def first (line : Line) : Joined :=
  let kept := (Source.stripComment {} (Text.trim line.text)).1
  ⟨kept, kept, lineEnd {} (Text.trim line.text)⟩

/-- A text joined with a further line.  The scanner does not see the character between them if it is to be escaped. -/
def extend (joined : Joined) (line : Line) : Joined :=
  let inString := joined.carried.inString
  let raw := if inString then line.text else Text.trim line.text
  let kept := (Source.stripComment joined.carried raw).1
  let joint := if inString then '\n' else ' '
  { text := joined.text ++ joint :: kept
    seen := joined.seen ++ if joined.carried.escaped then kept else joint :: kept
    reached := lineEnd joined.carried raw }

/-- Some lines joined to one text. -/
def ofLines (line : Line) (more : List Line) : Joined :=
  more.foldl extend (first line)

end Joined

namespace Input

/-- The lines that are taken while the text joined so far is open, and the input after them. -/
def continuation (joined : Joined) (input : Input) : List Line × Input :=
  if joined.carried.isOpen then
    match _taken : input.nextLine true with
    | (none, after) => ([], after)
    | (some line, after) =>
        let (more, last) := continuation (joined.extend line) after
        (line :: more, last)
  else ([], input)
termination_by input.unread
decreasing_by
  have := unread_of_nextLine _taken
  omega

variable {joined : Joined} {input after : Input} {line : Line}

theorem continuation_of_closed (closed : ¬joined.carried.isOpen) : input.continuation joined = ([], input) := by
  rw [continuation, if_neg closed]

theorem continuation_of_end (isOpen : joined.carried.isOpen) (ended : input.nextLine true = (none, after)) :
    input.continuation joined = ([], after) := by
  rw [continuation, if_pos isOpen]
  split
  · rename_i endedToo
    rw [ended] at endedToo
    cases endedToo
    rfl
  · rename_i taken
    rw [ended] at taken
    cases taken

theorem continuation_of_line (isOpen : joined.carried.isOpen) (taken : input.nextLine true = (some line, after)) :
    input.continuation joined =
      (line :: (after.continuation (joined.extend line)).1, (after.continuation (joined.extend line)).2) := by
  rw [continuation, if_pos isOpen]
  split
  · rename_i ended
    rw [taken] at ended
    cases ended
  · rename_i takenToo
    rw [taken] at takenToo
    cases takenToo
    rfl

theorem next_of_end (ended : input.nextLine false = (none, after)) :
    input.next = (none, after) := by
  rw [next]
  split
  · rename_i endedToo
    rw [ended] at endedToo
    cases endedToo
    rfl
  · rename_i taken
    rw [ended] at taken
    cases taken

theorem next_of_line {rest : Input} (begun : input.nextLine false = (some line, rest)) :
    input.next =
      if (Text.trim (rest.assemble line).1).isEmpty then (rest.assemble line).2.next
      else (some (LogicalLine.ofText (Text.trim (rest.assemble line).1) line.number line.file),
        (rest.assemble line).2) := by
  rw [next]
  split
  · rename_i ended
    rw [begun] at ended
    cases ended
  · rename_i begunToo
    rw [begun] at begunToo
    cases begunToo
    rfl

end Input

namespace Source

/-- What is kept of a line leads where the line leads. -/
theorem through_stripComment {scanner : Scanner} (regular : scanner.Regular) (line : List Char) :
    scanner.through (stripComment scanner line).1 = Joined.lineEnd scanner line := by
  change _ = (scanner.search (fun c _ => c == '#') line).2
  rcases found : scanner.search (fun c _ => c == '#') line with ⟨_ | position, after⟩
  · have missed : (scanner.search (fun c _ => c == '#') line).1 = none := by rw [found]
    rw [stripComment_of_missed missed, Scanner.through_eq_of_search missed, found]
  · rw [stripComment_of_found found]
    obtain ⟨first, rest, rfl, rfl, outside, led⟩ := Scanner.search_mark_eq_some regular (by decide) found
    have missed : (scanner.search (fun c _ => c == '#') first).1 = none := by rw [led]
    have reached : scanner.through first = after := by
      rw [Scanner.through_eq_of_search missed, led]
    rw [List.take_left, regular.through_trimEnd (reached ▸ outside), reached]

theorem stripComment_snd (scanner : Scanner) (line : List Char) :
    (stripComment scanner line).2 = (Joined.lineEnd scanner line).endLine := by
  change _ = (scanner.search (fun c _ => c == '#') line).2.endLine
  rcases found : scanner.search (fun c _ => c == '#') line with ⟨_ | position, after⟩
  · rw [stripComment_of_missed (by rw [found]), found]
  · rw [stripComment_of_found found]

end Source

namespace Joined

variable {joined : Joined} {more : List Line}

/-- A scan of what the scanner has seen, from the beginning, ends where the scan line by line has ended. -/
def Faithful (joined : Joined) : Prop :=
  ({} : Scanner).through joined.seen = joined.reached

theorem carried_of_endsWhole (whole : joined.endsWhole = true) : joined.carried = joined.reached := by
  obtain ⟨text, seen, depth, quote, escaped⟩ := joined
  match quote with
  | none => rfl
  | some ⟨mark, true⟩ => rfl
  | some ⟨mark, false⟩ => cases whole

theorem carried_first (line : Line) :
    (first line).carried = (Source.stripComment {} (Text.trim line.text)).2 :=
  (Source.stripComment_snd _ _).symm

theorem carried_extend (joined : Joined) (line : Line) :
    (joined.extend line).carried = (Source.stripComment joined.carried
      (if joined.carried.inString then line.text else Text.trim line.text)).2 :=
  (Source.stripComment_snd _ _).symm

theorem faithful_first (line : Line) : (first line).Faithful :=
  Source.through_stripComment Scanner.regular_fresh _

theorem Faithful.extend (faithful : joined.Faithful) (whole : joined.endsWhole = true) (line : Line) :
    (joined.extend line).Faithful := by
  have led : ({} : Scanner).through joined.seen = joined.carried := by
    rw [carried_of_endsWhole whole]
    exact faithful
  have regular : joined.carried.Regular := led ▸ Scanner.regular_fresh.through joined.seen
  have kept := Source.through_stripComment regular
    (if joined.carried.inString then line.text else Text.trim line.text)
  simp only [Faithful, Joined.extend]
  split
  · -- No line feed is seen where a character is escaped, and the backslash keeps quotes apart.
    rename_i pending
    rcases Scanner.regular_fresh.getLast?_of_escaped (led ▸ pending) with ⟨-, fresh⟩ | last
    · cases fresh
    · have apart : ∀ c ∈ joined.seen.getLast?, ¬ QuoteMark c := by
        rw [last]
        rintro _ ⟨⟩
        decide
      rw [Scanner.through_append Scanner.regular_fresh (.inr apart), led, kept]
  · rename_i settled
    have blank : Text.isBlank (if joined.carried.inString then '\n' else ' ') = true := by
      split <;> rfl
    have same : joined.carried.settled = joined.carried :=
      Scanner.settled_of_escaped (Bool.eq_false_iff.mpr settled)
    rw [Scanner.through_append Scanner.regular_fresh ((Scanner.unquoted_of_isBlank blank).apart _), led,
      regular.through_blank blank, same, kept]

/-- What the first line has and each further line keeps, the first `j` lines have. -/
theorem ofLines_take {motive : Joined → Prop} {line : Line} (start : motive (first line)) {j : Nat}
    (keep : ∀ i < j, ∀ next, motive (ofLines line (more.take i)) →
      motive ((ofLines line (more.take i)).extend next)) :
    motive (ofLines line (more.take j)) := by
  induction j with
  | zero => exact start
  | succ j ih =>
      have before := ih fun i within => keep i (Nat.lt_succ_of_lt within)
      rw [List.take_add_one, ofLines, List.foldl_append]
      cases more[j]? with
      | none => exact before
      | some next => exact keep j (Nat.lt_succ_self j) next before

theorem faithful_ofLines {line : Line} {j : Nat}
    (whole : ∀ i < j, (ofLines line (more.take i)).endsWhole = true) :
    (ofLines line (more.take j)).Faithful :=
  ofLines_take (faithful_first line) fun i within next faithful =>
    faithful.extend (whole i within) next

theorem seen_ofLines {line : Line} {j : Nat}
    (quiet : ∀ i < j, (ofLines line (more.take i)).carried.escaped = false) :
    (ofLines line (more.take j)).seen = (ofLines line (more.take j)).text := by
  apply ofLines_take (motive := fun joined => joined.seen = joined.text) rfl
  intro i within next same
  simp [extend, quiet i within, same]

end Joined

namespace Input

/-- Input that gives no line has run out. -/
theorem unread_eq_zero {input after : Input} {continued : Bool}
    (ended : input.nextLine continued = (none, after)) : after.unread = 0 := by
  simp only [nextLine] at ended
  split at ended
  · cases ended
  · rename_i empty none
    cases ended
    simp [unread, empty, none, linesSize]
  · rename_i reader empty given
    simp only [ask, Prod.mk.injEq, Option.map_eq_none_iff] at ended
    obtain ⟨ended, rfl⟩ := ended
    have left : (reader.read (input.currentPrompt continued)).left = [] := reader.rule.ends _ _ ended
    simp [unread, afterReply, empty, left, linesSize]

theorem joinLines_eq (joined : Joined) (input : Input) :
    input.joinLines joined.carried joined.text =
      (((input.continuation joined).1.foldl Joined.extend joined).text, (input.continuation joined).2) := by
  fun_induction continuation joined input with
  | case1 joined input isOpen after taken =>
      rw [joinLines, if_pos isOpen]
      split
      · simp_all
      · simp_all
  | case2 joined input isOpen line after taken more last continued ih =>
      rw [joinLines, if_pos isOpen]
      split
      · simp_all
      · rename_i same
        obtain ⟨rfl, rfl⟩ : line = _ ∧ after = _ := by simpa [taken] using same
        rw [continued] at ih
        refine Eq.trans ?_ ih
        rw [Joined.carried_extend]
        cases inString : joined.carried.inString with
        | false => simp [Joined.extend, inString]
        | true => simp [Joined.extend, inString]
  | case3 joined input isClosed =>
      rw [joinLines, if_neg isClosed]
      rfl

theorem isOpen_of_continuation {joined : Joined} {input last : Input} {more : List Line}
    (taken : input.continuation joined = (more, last)) {j : Nat} (within : j < more.length) :
    ((more.take j).foldl Joined.extend joined).carried.isOpen = true := by
  fun_induction continuation joined input generalizing more j with
  | case1 joined input isOpen after ended =>
      cases taken
      cases within
  | case2 joined input isOpen line after _ later last continued ih =>
      cases taken
      cases j with
      | zero => exact isOpen
      | succ j => exact ih continued (Nat.lt_of_succ_lt_succ within)
  | case3 joined input isClosed =>
      cases taken
      cases within

theorem closed_or_unread {joined : Joined} {input last : Input} {more : List Line}
    (taken : input.continuation joined = (more, last)) :
    (more.foldl Joined.extend joined).carried.isOpen = false ∨ last.unread = 0 := by
  fun_induction continuation joined input generalizing more with
  | case1 joined input isOpen after ended =>
      cases taken
      exact .inr (unread_eq_zero ended)
  | case2 joined input isOpen line after _ later last continued ih =>
      cases taken
      exact ih continued
  | case3 joined input isClosed =>
      cases taken
      exact .inl (Bool.eq_false_iff.mpr isClosed)

theorem assemble_eq {input last : Input} {line : Line} {more : List Line}
    (taken : input.continuation (Joined.first line) = (more, last)) :
    input.assemble line = last.splitStatement line (Joined.ofLines line more).text := by
  have joins := joinLines_eq (Joined.first line) input
  rw [taken, Joined.carried_first] at joins
  exact congrArg (fun result : List Char × Input => result.2.splitStatement line result.1) joins

/-- Line joining stops where the joined text is complete.  Where no line ends inside a string in single quotes, the
state carried from line to line is the one that a scan of the seen text ends in; it is open after every line but the
last, and after the last unless the input has run out.  The seen text is the joined text up to the first line that
ends with a pending backslash. -/
theorem next_joins_until_complete {input rest last : Input} {line : Line} {more : List Line}
    (begun : input.nextLine false = (some line, rest))
    (taken : rest.continuation (Joined.first line) = (more, last))
    (whole : ∀ j ≤ more.length, (Joined.ofLines line (more.take j)).endsWhole = true) :
    (input.next =
      let statement := last.splitStatement line (Joined.ofLines line more).text
      if (Text.trim statement.1).isEmpty then statement.2.next
      else (some (LogicalLine.ofText (Text.trim statement.1) line.number line.file), statement.2)) ∧
    ∀ j ≤ more.length,
      let joined := Joined.ofLines line (more.take j)
      ({} : Scanner).through joined.seen = joined.carried ∧
      ((∀ i < j, (Joined.ofLines line (more.take i)).carried.escaped = false) →
        joined.seen = joined.text) ∧
      (j < more.length → (({} : Scanner).through joined.seen).isOpen = true) ∧
      (j = more.length → (({} : Scanner).through joined.seen).isOpen = false ∨ last.unread = 0) := by
  constructor
  · rw [next]
    split
    · simp_all
    · rename_i same
      obtain ⟨rfl, rfl⟩ : line = _ ∧ rest = _ := by simpa [begun] using same
      rw [assemble_eq taken]
  · intro j within joined
    have agrees : ({} : Scanner).through joined.seen = joined.carried := by
      rw [Joined.carried_of_endsWhole (whole j within)]
      exact Joined.faithful_ofLines fun i before => whole i (by omega)
    refine ⟨agrees, Joined.seen_ofLines, fun further => ?_, ?_⟩
    · rw [agrees]
      exact isOpen_of_continuation taken further
    · rintro rfl
      rw [agrees]
      simpa [joined, Joined.ofLines] using closed_or_unread taken

/-- A list whose string goes on over three lines, the first of which ends with a backslash. -/
def listLine : Line :=
  ⟨"x = ['''a\\".toList, 1, "f"⟩

/-- The lines that follow, up to the bracket that closes the list. -/
def listMore : List Line :=
  numbered "f" 2 ["'''".toList, "b''' # note".toList, "]".toList]

/-- The input after the list. -/
def afterList : Input :=
  { queue := [⟨"y = 2".toList, 5, "f"⟩] }

theorem next_joins_until_complete_list :
    (∀ j ≤ listMore.length, (Joined.ofLines listLine (listMore.take j)).endsWhole = true) ∧
    (({ queue := listLine :: listMore ++ afterList.queue } : Input).next.1.map LogicalLine.text) =
      some "x = ['''a\\\n'''\nb''' ]".toList ∧
    (∀ j < listMore.length,
      (({} : Scanner).through (Joined.ofLines listLine (listMore.take j)).seen).isOpen = true) ∧
    (({} : Scanner).through "x = ['''a\\'''\nb''' ]".toList).isOpen = false := by
  have whole : ∀ j ≤ listMore.length,
      (Joined.ofLines listLine (listMore.take j)).endsWhole = true := by decide
  have begun : ({ queue := listLine :: listMore ++ afterList.queue } : Input).nextLine false =
      (some listLine, { queue := listMore ++ afterList.queue }) := rfl
  have taken : continuation (Joined.first listLine) { queue := listMore ++ afterList.queue } =
      (listMore, afterList) := by cbv
  obtain ⟨read, stages⟩ := next_joins_until_complete begun taken whole
  refine ⟨whole, ?_, fun j within => (stages j (Nat.le_of_lt within)).2.2.1 within, ?_⟩
  · rw [read]
    rfl
  · have closed := (stages listMore.length (Nat.le_refl _)).2.2.2 rfl
    exact closed.resolve_right (by decide)

/-- A scan of the joined text would stop after two lines, but the line after them is taken as well. -/
theorem next_swallows_line_after_backslash :
    ((({} : Input).pushText "'''a\\\n'''\nx = 1".toList "f").next.1.map LogicalLine.text) =
        some "'''a\\\n'''\nx = 1".toList ∧
      (({} : Scanner).through "'''a\\\n'''".toList).isOpen = false := by
  constructor
  · cbv
  · decide

end Input

end GroupScript
