import GroupScript.Proofs.CodeText

/-!
# Lines that are whole statements

A line that holds no comment and no semicolon outside strings and that leaves nothing open is one logical line.  Such
are the lines that begin a block: a keyword, a head whose brackets are closed, and a colon.
-/

namespace GroupScript

namespace Source

/-- Whether a text is a whole statement: without a comment, without a semicolon outside strings, and with nothing left
open. -/
def isWhole (text : List Char) : Bool :=
  (findUnquoted '#' text).isNone && (findUnquoted ';' text).isNone &&
    !(stripComment {} text).2.isOpen

end Source

namespace Input

theorem nextLine_of_queue {input : Input} {line : Line} {rest : List Line}
    (queued : input.queue = line :: rest) (continuation : Bool) :
    input.nextLine continuation = (some line, { input with queue := rest }) := by
  simp [nextLine, queued]

theorem assemble_of_isWhole {input : Input} {line : Line}
    (whole : Source.isWhole (Text.trim line.text) = true) :
    input.assemble line = (Text.trim line.text, input) := by
  simp only [Source.isWhole, Bool.and_eq_true, Option.isNone_iff_eq_none, Bool.not_eq_true'] at whole
  obtain ⟨⟨noComment, noSemicolon⟩, closed⟩ := whole
  have kept : (Source.stripComment {} (Text.trim line.text)).1 = Text.trim line.text := by
    rw [Source.stripComment_of_missed noComment]
  have joined : joinLines (Source.stripComment {} (Text.trim line.text)).2
      (Source.stripComment {} (Text.trim line.text)).1 input = (Text.trim line.text, input) := by
    rw [joinLines, if_neg (by simp [closed]), kept]
  simp only [assemble, joined, splitStatement, noSemicolon]

/-- A whole statement on a line of its own is the next logical line. -/
theorem next_of_isWhole {input : Input} {line : Line} {rest : List Line}
    (queued : input.queue = line :: rest) (visible : Text.trim line.text ≠ [])
    (whole : Source.isWhole (Text.trim line.text) = true) :
    input.next =
      (some (LogicalLine.ofText (Text.trim line.text) line.number line.file),
        { input with queue := rest }) := by
  rw [next]
  split
  · rename_i taken
    rw [nextLine_of_queue queued] at taken
    cases taken
  · rename_i taken
    rw [nextLine_of_queue queued] at taken
    cases taken
    simp [assemble_of_isWhole whole, visible]

end Input

/-- The line that begins a block: a keyword, a head and a colon. -/
def headerLine (keyword head : List Char) : List Char :=
  keyword ++ ' ' :: (head ++ [':'])

section Header

variable {keyword head : List Char} (word : keyword.all Text.isNameChar = true)
  (balanced : Balanced head)

include word balanced in
/-- A search passes the line of a header up to its colon. -/
theorem search_headerLine {test : Char → Int32 → Bool} (silent : Scanner.Silent test) :
    Scanner.search test {} (headerLine keyword head) =
      Scanner.moved (keyword.length + 1 + head.length) (Scanner.search test {} [':']) := by
  have start : headerLine keyword head = (keyword ++ [' ']) ++ (head ++ [':']) := by
    simp [headerLine]
  have plain : ∀ c ∈ keyword ++ [' '], Scanner.isPlain c = true ∧ test c 0 = false := by
    intro c member
    rcases List.mem_append.mp member with inWord | isBlank
    · have nameChar := List.all_eq_true.mp word c inWord
      exact ⟨Scanner.isPlain_of_isNameChar nameChar, silent c 0 (by simp [Token.isOutsideChar, nameChar])⟩
    · cases List.mem_singleton.mp isBlank
      exact ⟨rfl, silent ' ' 0 rfl⟩
  rw [start, Scanner.search_plain rfl plain,
    balanced.search_append silent 0 (unquoted_cons.mpr (by decide)), Scanner.moved_moved]
  congr 1
  simp [Nat.add_comm]

include word balanced in
theorem isWhole_headerLine : Source.isWhole (headerLine keyword head) = true := by
  have searched {mark : Char} (foreign : Token.isOutsideChar mark = false)
      (passes : Scanner.search (fun c _ => c == mark) {} [':'] = (none, {})) :
      Scanner.search (fun c _ => c == mark) {} (headerLine keyword head) = (none, {}) := by
    rw [search_headerLine word balanced (Scanner.silent_of_foreign foreign (by simp)), passes]
    rfl
  have comment := @searched '#' rfl rfl
  have semicolon := @searched ';' rfl rfl
  have stripped := Source.stripComment_of_missed (congrArg Prod.fst comment)
  simp only [Source.isWhole, stripped, Source.findUnquoted_eq_search, comment, semicolon]
  rfl

theorem trim_headerLine (visible : ∃ c rest, keyword = c :: rest ∧ Text.isBlank c = false) :
    Text.trim (headerLine keyword head) = headerLine keyword head := by
  obtain ⟨c, rest, rfl, visible⟩ := visible
  rw [headerLine, Text.trim, List.cons_append, Text.trimStart_of_head visible]
  have ended := Text.trimEnd_of_last (c := ':') rfl (c :: (rest ++ ' ' :: head))
  simpa using ended

include word in
/-- What stands after the word that a line begins with. -/
theorem rest_ofText_word (text : List Char) (number : Nat) (file : String) :
    (LogicalLine.ofText (keyword ++ ' ' :: text) number file).rest = Text.trim text := by
  change Text.trim ((keyword ++ ' ' :: text).dropWhile Text.isNameChar) = _
  rw [List.dropWhile_append_of_pos (List.all_eq_true.mp word)]
  rfl

include word in
theorem rest_headerLine (number : Nat) (file : String) :
    (LogicalLine.ofText (headerLine keyword head) number file).rest = Text.trimStart head ++ [':'] := by
  rw [headerLine, rest_ofText_word word, Text.trim]
  rw [Text.trimStart_append_of_visible rfl, Text.trimEnd_of_last rfl]

include balanced in
/-- The colon at the end of a header is the one that is found. -/
theorem findTopLevel_header :
    Source.findTopLevel ':' (Text.trimStart head ++ [':']) = some (Text.trimStart head).length := by
  have silent : Scanner.Silent fun c depth => c == ':' && depth == 0 :=
    @Scanner.silent_of_foreign ':' rfl _ (by simp +contextual)
  have unquoted : Unquoted [':'] := unquoted_cons.mpr (by decide)
  have searched := balanced.trimStart.search_append silent 0 unquoted
  rw [Source.findTopLevel_eq_search, searched, Scanner.search_found rfl rfl]
  simp [Scanner.moved]

include word balanced in
theorem header_headerLine (number : Nat) (file : String) :
    let line := LogicalLine.ofText (headerLine keyword head) number file
    line.header line.rest = .ok (Text.trim head, []) := by
  simp only [rest_headerLine word, LogicalLine.header, findTopLevel_header balanced]
  simp [Text.trim, Text.trimStart_trimStart]
  rfl

end Header

end GroupScript
