import GroupScript.Proofs.LoopHead
import GroupScript.Proofs.Segments
import GroupScript.Proofs.SettledText

/-!
# Parts of statements that are settled

What is read as a part of a statement is settled: a header, a signature, the target of an assignment, the names of an
import.  Arguments that are read in brackets which they do not have themselves are settled too, if they close no bracket
that they do not open.
-/

namespace GroupScript

open Source

/-! ### Texts in brackets -/

namespace Scanner

variable {text rest : List Char} {c : Char}

theorem shown_cons_of_unquoted (unquoted : ¬ QuoteMark c) (rest : List Char) :
    ({} : Scanner).shown (c :: rest) = c :: ({} : Scanner).shown rest ∧
      (({} : Scanner).through (c :: rest)).quote = (({} : Scanner).through rest).quote := by
  obtain ⟨alone, outside, quiet⟩ := regular_fresh.step_unquoted rfl unquoted rest
  obtain ⟨sameShown, sameEnd⟩ := @shown_congr _ {} outside quiet rest
  rw [shown_outside rfl, through_cons, alone, List.drop_zero, sameShown, sameEnd]
  exact ⟨rfl, rfl⟩

theorem shown_append_of_unquoted (unquoted : ∀ c ∈ text, ¬ QuoteMark c) (rest : List Char) :
    ({} : Scanner).shown (text ++ rest) = text ++ ({} : Scanner).shown rest ∧
      (({} : Scanner).through (text ++ rest)).quote = (({} : Scanner).through rest).quote := by
  induction text with
  | nil => exact ⟨rfl, rfl⟩
  | cons c text ih =>
      obtain ⟨first, others⟩ := List.forall_mem_cons.mp unquoted
      obtain ⟨sameShown, sameEnd⟩ := shown_cons_of_unquoted first (text ++ rest)
      rw [List.cons_append, sameShown, sameEnd, (ih others).1, (ih others).2]
      exact ⟨rfl, rfl⟩

/-- What is no quote cannot end a string. -/
theorem Regular.quote_step {scanner : Scanner} {quotes : Quote} (regular : scanner.Regular)
    (inside : scanner.quote = some quotes) (unquoted : ¬ QuoteMark c) (rest : List Char) :
    (scanner.step c rest).1.quote = some quotes := by
  have other : c ≠ quotes.mark := (ne_of_quoteMark (regular.mark quotes inside) unquoted).symm
  obtain ⟨depth, _, escaped⟩ := scanner
  obtain rfl : _ = some quotes := inside
  cases escaped with
  | true => rfl
  | false =>
      simp only [Scanner.step, stepInside, Bool.false_eq_true, if_false, if_neg other]
      split
      · rfl
      · rfl

theorem outside_of_append (unquoted : ¬ QuoteMark c) (ends : (({} : Scanner).through (text ++ [c])).quote = none) :
    (({} : Scanner).through text).quote = none := by
  rw [through_append regular_fresh ((unquoted_cons.mpr unquoted).apart text), through_cons] at ends
  cases quote : (({} : Scanner).through text).quote with
  | none => rfl
  | some quotes =>
      rw [List.drop_nil] at ends
      cases ((regular_fresh.through text).quote_step quote unquoted []).symm.trans ends

/-- A text followed by a bracket shows the bracket if it ends outside strings, as it does if the whole does. -/
theorem shown_append_bracket (unquoted : ¬ QuoteMark c) (ends : (({} : Scanner).through (text ++ [c])).quote = none) :
    ({} : Scanner).shown (text ++ [c]) = ({} : Scanner).shown text ++ [c] := by
  have outside := outside_of_append unquoted ends
  rw [regular_fresh.shown_append ((unquoted_cons.mpr unquoted).apart text),
    ((regular_fresh.through text).shown_of_outside outside [c]).1, (shown_cons_of_unquoted unquoted []).1, shown_nil]

/-- Of a text in brackets the brackets are shown with what is shown of the text, if the whole ends outside strings. -/
theorem shown_inBrackets {opener closer : Char} (openerUnquoted : ¬ QuoteMark opener) (closerUnquoted : ¬ QuoteMark closer)
    (ends : (({} : Scanner).through (opener :: (text ++ [closer]))).quote = none) :
    ({} : Scanner).shown (opener :: (text ++ [closer])) = opener :: (({} : Scanner).shown text ++ [closer]) ∧
      (({} : Scanner).through text).quote = none := by
  obtain ⟨shown, sameEnd⟩ := shown_cons_of_unquoted openerUnquoted (text ++ [closer])
  rw [sameEnd] at ends
  rw [shown, shown_append_bracket closerUnquoted ends]
  exact ⟨rfl, outside_of_append closerUnquoted ends⟩

theorem ends_inBrackets {opener closer : Char} (openerUnquoted : ¬ QuoteMark opener) (closerUnquoted : ¬ QuoteMark closer)
    (ends : (({} : Scanner).through text).quote = none) :
    (({} : Scanner).through (opener :: (text ++ [closer]))).quote = none := by
  rw [(shown_cons_of_unquoted openerUnquoted _).2,
    through_append regular_fresh ((unquoted_cons.mpr closerUnquoted).apart text),
    ((regular_fresh.through text).shown_of_outside ends [closer]).2, (shown_cons_of_unquoted closerUnquoted []).2]
  rfl

theorem openAfter_unquoted (opened text : List Char) :
    openAfter opened (text.filter fun c => !decide (QuoteMark c)) = openAfter opened text := by
  refine openAfter_filter (fun c dropped => ?_) opened text
  rw [Bool.not_eq_false'] at dropped
  exact isBracket_of_quoteMark (of_decide_eq_true dropped)

/-- Where there is no comment, the brackets of the characters shown are those that are seen. -/
theorem matched_sight_iff (uncommented : '#' ∉ ({} : Scanner).shown text) :
    Matched (({} : Scanner).sight text) ↔ (openAfter [] (({} : Scanner).shown text)).isSome = true := by
  have whole : (({} : Scanner).shown text).takeWhile (· != '#') = ({} : Scanner).shown text := by
    rw [List.takeWhile_eq_self_iff]
    intro c member
    exact bne_iff_ne.mpr fun same => uncommented (same ▸ member)
  rw [matched_iff_openAfter, sight, whole, openAfter_unquoted]

end Scanner

namespace Source

variable {front text : List Char} {opener closer : Char}

theorem not_quoteMark_of_openerOf (closes : openerOf closer = some opener) : ¬ QuoteMark opener ∧ ¬ QuoteMark closer := by
  unfold openerOf at closes
  split at closes <;> cases closes <;> decide

theorem settles_inBrackets (closes : openerOf closer = some opener) (settles : Settles text) :
    Settles (opener :: (text ++ [closer])) := by
  obtain ⟨openerUnquoted, closerUnquoted⟩ := not_quoteMark_of_openerOf closes
  have ends := Scanner.ends_inBrackets openerUnquoted closerUnquoted settles.ends
  obtain ⟨shown, -⟩ := Scanner.shown_inBrackets openerUnquoted closerUnquoted ends
  refine ⟨ends, ?_, fun opened => ?_⟩
  · rw [shown]
    intro member
    rcases List.mem_cons.mp member with rfl | member
    · cases (isOpener_of_openerOf closes).1
    · rcases List.mem_append.mp member with member | member
      · exact settles.uncommented member
      · cases List.mem_singleton.mp member
        cases closes
  · rw [shown, openAfter_cons, afterBracket_opener (isOpener_of_openerOf closes).1, Option.bind_some, openAfter_append,
      settles.closes, Option.bind_some, openAfter_cons, afterBracket_closer closes, List.head?_cons, if_pos rfl,
      Option.bind_some, List.tail_cons, openAfter_nil]

/-- What is shown of a settled text in brackets behind some characters. -/
theorem shown_of_inBrackets (closes : openerOf closer = some opener) (unquoted : ∀ c ∈ front, ¬ QuoteMark c)
    (settles : Settles (front ++ opener :: (text ++ [closer]))) :
    ({} : Scanner).shown (front ++ opener :: (text ++ [closer])) =
        front ++ opener :: (({} : Scanner).shown text ++ [closer]) ∧
      (({} : Scanner).through text).quote = none ∧ '#' ∉ ({} : Scanner).shown text := by
  obtain ⟨openerUnquoted, closerUnquoted⟩ := not_quoteMark_of_openerOf closes
  obtain ⟨shownFront, endsFront⟩ := Scanner.shown_append_of_unquoted unquoted (opener :: (text ++ [closer]))
  obtain ⟨shown, ends⟩ := Scanner.shown_inBrackets openerUnquoted closerUnquoted (endsFront.symm.trans settles.ends)
  rw [shown] at shownFront
  refine ⟨shownFront, ends, fun member => settles.uncommented ?_⟩
  rw [shownFront]
  simp [member]

/-- If a text is settled with brackets around it and behind some characters without brackets, then it is settled itself,
unless it closes a bracket that it does not open. -/
theorem settles_of_inBrackets (closes : openerOf closer = some opener) (unquoted : ∀ c ∈ front, ¬ QuoteMark c)
    (plain : ∀ c ∈ front, isBracket c = false) (settles : Settles (front ++ opener :: (text ++ [closer])))
    (matched : Matched (({} : Scanner).sight text)) : Settles text := by
  obtain ⟨shown, ends, uncommented⟩ := shown_of_inBrackets closes unquoted settles
  obtain ⟨opened, accepted⟩ := Option.isSome_iff_exists.mp ((Scanner.matched_sight_iff uncommented).mp matched)
  have above : openAfter [opener] (({} : Scanner).shown text) = some (opened ++ [opener]) :=
    openAfter_above accepted [opener]
  have whole := settles.closes []
  rw [shown, openAfter_append, openAfter_plain plain, Option.bind_some, openAfter_cons,
    afterBracket_opener (isOpener_of_openerOf closes).1, Option.bind_some, openAfter_append, above, Option.bind_some,
    openAfter_cons, afterBracket_closer closes] at whole
  -- What the text leaves open stands above the bracket before it, and so it is nothing.
  have nothing : opened = [] := by
    split at whole
    · cases opened with
      | nil => rfl
      | cons bracket opened => simp at whole
    · cases whole
  subst nothing
  exact ⟨ends, uncommented, openAfter_above accepted⟩

/-- Brackets that are in order above one bracket, and above another one too, are in order by themselves. -/
theorem isSome_openAfter_of_above {first second : Char} (other : first ≠ second) (opened : List Char)
    {text last lastToo : List Char} (aboveFirst : openAfter (opened ++ [first]) text = some last)
    (aboveSecond : openAfter (opened ++ [second]) text = some lastToo) : (openAfter opened text).isSome = true := by
  induction text generalizing opened with
  | nil => rfl
  | cons c text ih =>
      rw [openAfter_cons] at aboveFirst aboveSecond ⊢
      rcases bracket_cases c with opens | ⟨opener, closes⟩ | plain
      · rw [afterBracket_opener opens, Option.bind_some] at aboveFirst aboveSecond ⊢
        exact ih (c :: opened) aboveFirst aboveSecond
      · rw [afterBracket_closer closes] at aboveFirst aboveSecond ⊢
        cases opened with
        | nil =>
            -- What closes a bracket that is not its own closes the two brackets alike.
            split at aboveFirst
            · rename_i isFirst
              split at aboveSecond
              · rename_i isSecond
                exact absurd (Option.some.inj (isFirst.trans isSecond.symm)) other
              · cases aboveSecond
            · cases aboveFirst
        | cons bracket opened =>
            rw [List.cons_append, List.head?_cons, List.tail_cons] at aboveFirst aboveSecond
            rw [List.head?_cons, List.tail_cons]
            by_cases isOpener : some bracket = some opener
            · rw [if_pos isOpener, Option.bind_some] at aboveFirst aboveSecond ⊢
              exact ih opened aboveFirst aboveSecond
            · rw [if_neg isOpener] at aboveFirst
              cases aboveFirst
      · rw [afterBracket_plain plain, Option.bind_some] at aboveFirst aboveSecond ⊢
        exact ih opened aboveFirst aboveSecond

theorem openerOf_closerOf (encloses : closerOf opener = some closer) : openerOf closer = some opener := by
  unfold closerOf at encloses
  split at encloses <;> cases encloses <;> rfl

/-- Taking off the brackets around a text takes off nothing else than blanks. -/
theorem stripEnclosing_cases (text : List Char) :
    stripEnclosing text = Text.trim text ∨
      ∃ opener closer, closerOf opener = some closer ∧
        Text.trim text = opener :: (stripEnclosing text ++ [closer]) := by
  unfold stripEnclosing
  simp only
  split
  · exact .inl rfl
  rename_i closer begins
  obtain ⟨opener, first, encloses⟩ := Option.bind_eq_some_iff.mp begins
  obtain ⟨inside, trimmed⟩ := List.head?_eq_some_iff.mp first
  split
  · rename_i position found
    split
    · rename_i last
      refine .inr ⟨opener, closer, encloses, ?_⟩
      obtain ⟨before, visit, holds, split, rfl⟩ := split_of_find found
      have isCloser : visit.char = closer := eq_of_beq (Bool.and_eq_true_iff.mp holds).1
      have nothing : visit.after = [] := by
        rw [split, List.length_append, List.length_cons] at last
        exact List.length_eq_zero_iff.mp (by omega)
      rw [isCloser, nothing] at split
      cases before with
      | nil =>
          rw [split] at first
          cases first
          unfold closerOf at encloses
          split at encloses <;> cases encloses
      | cons c before =>
          rw [trimmed, List.cons_append] at split
          obtain ⟨rfl, rfl⟩ := List.cons.inj split
          rw [trimmed]
          simp
    · exact .inl rfl
  · exact .inl rfl

/-- A text is settled if it is without the brackets around it. -/
theorem settles_of_stripEnclosing (settles : Settles (stripEnclosing text)) : Settles text := by
  rcases stripEnclosing_cases text with same | ⟨opener, closer, encloses, whole⟩
  · exact Settles.of_trim (same ▸ settles)
  · exact Settles.of_trim (whole ▸ settles_inBrackets (openerOf_closerOf encloses) settles)

end Source

/-! ### Parts of statements -/

namespace LogicalLine

variable {place : LogicalLine} {rest head tail text : List Char}

theorem exists_of_header (headed : place.header rest = .ok (head, tail)) :
    ∃ position, findTopLevel ':' rest = some position ∧ head = Text.trim (rest.take position) ∧
      tail = Text.trim (rest.drop (position + 1)) := by
  unfold header at headed
  split at headed
  · rename_i position found
    cases headed
    exact ⟨position, found, rfl, rfl⟩
  · cases headed

theorem settles_of_condition {code : Code} (compiled : place.condition text = .ok code) : Settles text := by
  unfold condition at compiled
  split at compiled
  · cases compiled
  · exact settles_of_codeOf compiled

theorem settles_of_readName? {name : String} (read : readName? text = some name) : Settles text := by
  unfold readName? at read
  split at read
  · rename_i code compiled
    exact settles_of_codeOf (ofSyntax_eq_ok.mpr compiled)
  · cases read

theorem settles_of_bareHeader (headed : place.bareHeader rest = .ok tail) (settles : Settles tail) : Settles rest := by
  unfold bareHeader at headed
  split at headed
  · cases headed
    have colon : ∀ c ∈ [':'], isQuiet c = true := by simp [isQuiet, Scanner.isPlain, Scanner.structuralMarks]
    exact settles.of_trim.after_quiet colon
  · exact .nil
  · cases headed

theorem settles_of_signature {signature : Signature} (read : place.signature text = .ok signature) : Settles text := by
  unfold LogicalLine.signature at read
  cases parsed : Expr.ofText text with
  | ok expr => exact settles_of_ofText parsed
  | error fault =>
      rw [parsed] at read
      cases read

theorem settles_of_definition {statement : Statement} (read : place.definition rest = .ok statement) :
    Settles rest := by
  unfold LogicalLine.definition at read
  split at read
  · cases read
  rename_i position found
  split at read
  · cases read
  rename_i name named
  dsimp only at read
  split at read
  · cases read
  obtain ⟨code, compiled, -⟩ := except_bind_eq_ok.mp read
  exact settles_of_findAssign found (settles_of_readName? named) (settles_of_codeOf compiled)

theorem settles_of_target {target : Target} (read : place.target text = .ok target) : Settles text := by
  unfold LogicalLine.target at read
  split at read
  · cases read
  · rename_i expr parsed
    exact settles_of_ofText parsed

/-- Arguments that are settled in brackets are settled, or else they close a bracket that they do not open. -/
theorem settles_of_bracketed (settles : Settles (bracketed text)) (matched : Matched (({} : Scanner).sight text)) :
    Settles text :=
  @settles_of_inBrackets [] text '[' ']' rfl (by simp) (by simp) settles matched

/-- Arguments in parentheses may be read in square brackets instead.  They cannot close a bracket of either kind that they
do not open. -/
theorem settles_of_inParens (settles : Settles (bracketed text))
    (matched : Matched (({} : Scanner).sight ('(' :: (text ++ [')'])))) : Settles text := by
  obtain ⟨shown, ends, uncommented⟩ := @shown_of_inBrackets [] text '[' ']' rfl (by simp) settles
  have closes := settles.closes []
  rw [List.nil_append, List.nil_append] at shown
  rw [bracketed, shown, openAfter_cons, afterBracket_opener rfl, Option.bind_some, openAfter_append_eq_some] at closes
  obtain ⟨opened, inSquares, -⟩ := closes
  have parens : ¬ QuoteMark '(' ∧ ¬ QuoteMark ')' := by decide
  obtain ⟨shownInParens, -⟩ :=
    Scanner.shown_inBrackets parens.1 parens.2 (Scanner.ends_inBrackets parens.1 parens.2 ends)
  rw [Scanner.matched_sight_iff (by simp [shownInParens, uncommented]), shownInParens, openAfter_cons,
    afterBracket_opener rfl, Option.bind_some, Option.isSome_iff_exists] at matched
  obtain ⟨last, matched⟩ := matched
  obtain ⟨opened, inParens, -⟩ := openAfter_append_eq_some.mp matched
  refine settles_of_bracketed settles ((Scanner.matched_sight_iff uncommented).mpr ?_)
  exact isSome_openAfter_of_above (by decide : '[' ≠ '(') [] inSquares inParens

theorem settles_of_argumentList {code : Option Code} (compiled : argumentList rest = .ok code)
    (matched : Matched (({} : Scanner).sight (Text.trim rest))) : Settles rest := by
  unfold argumentList at compiled
  simp only at compiled
  split at compiled
  · rename_i blank
    exact settles_of_stripEnclosing (.of_blank blank)
  · obtain ⟨inner, read⟩ : ∃ inner, codeOf (bracketed (stripEnclosing rest)) = .ok inner := by
      cases read : codeOf (bracketed (stripEnclosing rest)) with
      | ok inner => exact ⟨inner, rfl⟩
      | error error =>
          rw [read] at compiled
          cases compiled
    have settles := settles_of_codeOf read
    apply Settles.of_trim
    rcases stripEnclosing_cases rest with same | ⟨opener, closer, encloses, whole⟩
    · rw [same] at settles
      exact settles_of_bracketed settles matched
    · rw [whole] at matched ⊢
      unfold closerOf at encloses
      split at encloses <;> cases encloses
      · exact settles_inBrackets rfl (settles_of_inParens settles matched)
      · exact settles

end LogicalLine

namespace Expr

/-- A list whose tokens begin with a square bracket is the list in that bracket. -/
theorem Derives.exists_items {level : Level} {tokens : List Token} {expr : Expr} :
    Derives level tokens expr → ∀ {items : List Expr} {more : List Token}, expr = .list items →
      tokens = .bracketLeft :: more → ∃ inside, more = inside ++ [.bracketRight] ∧ DerivesItems inside items
  | .stronger _ derived, _, _, isList, begins => derived.exists_items isList begins
  | @Derives.joined _ _ _ _ _ joint _ _ _ _ _ _, _, _, isList, _ => by cases joint <;> cases isList
  | .signed _ _, _, _, isList, _ => by cases isList
  | .raised _ _, _, _, isList, _ => by cases isList
  | .called _ _, _, _, isList, _ => by cases isList
  | .indexed _ _ _, _, _, isList, _ => by cases isList
  | .const _, _, _, isList, _ => by cases isList
  | .name _, _, _, isList, _ => by cases isList
  | .list derivedItems, _, _, isList, begins => by
      cases isList
      cases begins
      exact ⟨_, rfl, derivedItems⟩
  | .emptyList, _, _, _, begins => by cases begins
  | .enclosed _, _, _, _, begins => by cases begins
  | .tuple _ _, _, _, _, begins => by cases begins

end Expr

namespace LogicalLine

variable {place : LogicalLine} {rest text : List Char}

theorem settles_of_list {items : List Expr} (read : Expr.ofText (bracketed text) = .ok (.list items)) : Settles text := by
  have settles := settles_of_ofText read
  obtain ⟨tokens, lexed, readTokens⟩ := Expr.ofText_eq_ok.mp read
  obtain ⟨token, following, more, first, -, rfl⟩ := (Token.ofText_eq_ok_cons_iff rfl).mp lexed
  cases first
  obtain ⟨inside, rfl, derivedItems⟩ := (Expr.derives_of_ofTokens readTokens).exists_items rfl rfl
  obtain ⟨shown, -, uncommented⟩ := @shown_of_inBrackets [] text '[' ']' rfl (by simp) settles
  rw [List.nil_append, List.nil_append] at shown
  have brackets := Scanner.filter_shown_lexed lexed
  rw [bracketed, shown] at brackets
  have same : (({} : Scanner).shown text).filter isBracket = inside.flatMap Token.brackets := by
    simpa [isBracket, isOpener, openerOf, Token.brackets] using brackets
  refine settles_of_bracketed settles ((Scanner.matched_sight_iff uncommented).mpr ?_)
  rw [← openAfter_filter fun c => id, same, derivedItems.nested.openAfter]
  rfl

theorem settles_of_namesToDelete {names : List String} (read : place.namesToDelete rest = .ok names) : Settles rest := by
  apply settles_of_stripEnclosing
  unfold namesToDelete at read
  simp only at read
  split at read
  · cases read
  obtain ⟨expr, parsed, finished⟩ := except_bind_eq_ok.mp read
  split at finished
  · exact settles_of_list (ofSyntax_eq_ok.mp parsed)
  · cases finished

end LogicalLine

/-! ### Imports -/

theorem mem_wordsFrom {c : Char} {current text : List Char} (member : c ∈ current ∨ c ∈ text) :
    Text.isBlank c = true ∨ ∃ word ∈ Text.wordsFrom current text, c ∈ word := by
  fun_induction Text.wordsFrom current text with
  | case1 => simp at member
  | case2 current nonempty => exact .inr ⟨current.reverse, by simp, by simpa using member⟩
  | case3 current d rest blank empty ih =>
      obtain rfl : current = [] := List.isEmpty_iff.mp empty
      rcases member with member | member
      · cases member
      · rcases List.mem_cons.mp member with rfl | member
        · exact .inl blank
        · exact ih (.inr member)
  | case4 current d rest blank nonempty ih =>
      rcases member with member | member
      · exact .inr ⟨current.reverse, List.mem_cons_self, List.mem_reverse.mpr member⟩
      · rcases List.mem_cons.mp member with rfl | member
        · exact .inl blank
        · rcases ih (.inr member) with blank | ⟨word, isWord, inside⟩
          · exact .inl blank
          · exact .inr ⟨word, List.mem_cons_of_mem _ isWord, inside⟩
  | case5 current d rest visible ih =>
      apply ih
      rcases member with member | member
      · exact .inl (List.mem_cons_of_mem d member)
      · rcases List.mem_cons.mp member with rfl | member
        · exact .inl List.mem_cons_self
        · exact .inr member

theorem settles_of_words {text : List Char} (quiet : ∀ word ∈ Text.words text, ∀ c ∈ word, isQuiet c = true) :
    Settles text := by
  refine .of_quiet fun c member => ?_
  rcases mem_wordsFrom (.inr member) with blank | ⟨word, isWord, inside⟩
  · exact isQuiet_of_isBlank blank
  · exact quiet word isWord c inside

theorem settles_joinWith {pieces : List (List Char)} (settles : ∀ piece ∈ pieces, Settles piece) :
    Settles (Text.joinWith [','] pieces) := by
  induction pieces with
  | nil => exact .nil
  | cons piece pieces ih =>
      obtain ⟨first, others⟩ := List.forall_mem_cons.mp settles
      cases pieces with
      | nil => exact first
      | cons next pieces =>
          rw [Text.joinWith, List.append_assoc]
          exact first.around (ih others) rfl

namespace LogicalLine

theorem quiet_of_isIdentifier {word : List Char} (identifier : isIdentifier word = true) :
    ∀ c ∈ word, isQuiet c = true := by
  obtain ⟨-, -, -, -, nameChars⟩ := isIdentifier_iff.mp identifier
  exact fun c member => isQuiet_of_isNameChar (nameChars c member)

theorem settles_of_importItem? {text : List Char} {item : Import} (read : importItem? text = some item) :
    Settles text := by
  apply settles_of_words
  unfold importItem? at read
  split at read
  · rename_i source isWords
    split at read
    · rename_i identifier
      rw [isWords]
      simpa using quiet_of_isIdentifier identifier
    · cases read
  · rename_i source word name isWords
    split at read
    · rename_i accepted
      obtain ⟨rfl, source, name⟩ := accepted
      rw [isWords]
      simp only [List.mem_cons, List.not_mem_nil, or_false, forall_eq_or_imp, forall_eq]
      exact ⟨quiet_of_isIdentifier source, ⟨rfl, rfl⟩, quiet_of_isIdentifier name⟩
    · cases read
  · cases read

theorem settles_of_mapM_importItem? {pieces : List (List Char)} {items : List Import}
    (read : pieces.mapM importItem? = some items) : ∀ piece ∈ pieces, Settles piece := by
  induction pieces generalizing items with
  | nil => simp
  | cons piece pieces ih =>
      rw [List.mapM_cons] at read
      obtain ⟨item, first, read⟩ := Option.bind_eq_some_iff.mp read
      obtain ⟨others, read, -⟩ := Option.bind_eq_some_iff.mp read
      exact List.forall_mem_cons.mpr ⟨settles_of_importItem? first, ih read⟩

theorem settles_of_memberImport? {rest : List Char} {item : Import} (read : memberImport? rest = some item) :
    Settles rest := by
  obtain ⟨position, found, read⟩ := Option.bind_eq_some_iff.mp read
  simp only at read
  split at read
  · rename_i accepted
    obtain ⟨source, members⟩ := Bool.and_eq_true_iff.mp accepted
    have quiet : ∀ d ∈ 'i' :: ['m', 'p', 'o', 'r', 't'], isQuiet d = true :=
      fun d member => isQuiet_of_isNameChar (List.all_eq_true.mp (by decide) d member)
    refine settles_of_findWord found quiet ?_ ?_
    · exact .of_trim (.of_quiet (quiet_of_isIdentifier source))
    · apply settles_of_stripEnclosing
      rw [← Text.joinWith_pieces ',' (stripEnclosing _)]
      refine settles_joinWith fun piece member => .of_trim (.of_quiet (quiet_of_isIdentifier ?_))
      exact List.all_eq_true.mp members _ (List.mem_map_of_mem member)
  · cases read

theorem settles_of_importStatement {place : LogicalLine} {rest : List Char} {statement : Statement}
    (read : place.importStatement rest = .ok statement) : Settles rest := by
  unfold importStatement at read
  simp only at read
  split at read
  · rename_i items found
    split at found
    · obtain ⟨item, found, -⟩ := Option.map_eq_some_iff.mp found
      exact settles_of_memberImport? found
    · rw [← Text.joinWith_pieces ',' rest]
      exact settles_joinWith (settles_of_mapM_importItem? found)
  · cases read

end LogicalLine

/-! ### Calls -/

namespace Source

/-- Characters that open no bracket close none either, where none is open. -/
theorem plain_of_openAfter {text last : List Char} (closed : ∀ c ∈ text, isOpener c = false)
    (accepted : openAfter [] text = some last) : ∀ c ∈ text, isBracket c = false := by
  induction text with
  | nil => simp
  | cons c text ih =>
      obtain ⟨first, others⟩ := List.forall_mem_cons.mp closed
      rcases bracket_cases c with opens | ⟨opener, closes⟩ | plain
      · cases first.symm.trans opens
      · rw [openAfter_cons, afterBracket_closer closes] at accepted
        cases accepted
      · rw [openAfter_cons, afterBracket_plain plain, Option.bind_some] at accepted
        exact List.forall_mem_cons.mpr ⟨plain, ih others accepted⟩

theorem isPlain_of_isBracket {c : Char} (unquoted : ¬ QuoteMark c) (plain : isBracket c = false) :
    Scanner.isPlain c = true := by
  cases found : Scanner.structuralMarks.contains c with
  | false => rw [Scanner.isPlain, found, Bool.not_false]
  | true =>
      have checked : Scanner.structuralMarks.all fun c => decide (QuoteMark c) || isBracket c := by decide
      have marked := List.all_eq_true.mp checked c (List.contains_iff_mem.mp found)
      rw [plain, Bool.or_false, decide_eq_true_eq] at marked
      exact absurd marked unquoted

end Source

namespace Compile

variable {word arguments : List Char} {code : Code}

/-- The word of a command is quiet: as it opens no bracket, it closes none. -/
theorem quiet_of_call (compiled : codeOf (word ++ '(' :: (arguments ++ [')'])) = .ok code)
    (stops : ∀ c ∈ word, commandStops.contains c = false) : ∀ c ∈ word, isQuiet c = true := by
  have settles := settles_of_codeOf compiled
  obtain ⟨expr, read, -⟩ := codeOf_eq_ok.mp compiled
  obtain ⟨tokens, lexed, -⟩ := Expr.ofText_eq_ok.mp read
  have unquoted : ∀ c ∈ word, ¬ QuoteMark c := by
    rintro c member (rfl | rfl) <;> cases stops _ member
  obtain ⟨shown, -⟩ := Scanner.shown_append_of_unquoted unquoted ('(' :: (arguments ++ [')']))
  have seen (c : Char) (member : c ∈ word) : c ∈ ({} : Scanner).shown (word ++ '(' :: (arguments ++ [')'])) := by
    rw [shown]
    exact List.mem_append_left _ member
  have closed : ∀ c ∈ word, isOpener c = false := by
    intro c member
    cases opens : isOpener c with
    | false => rfl
    | true =>
        have outside := (Scanner.shown_lexed lexed).1 c (seen c member)
        have stop := stops c member
        simp only [isOpener, Bool.or_eq_true, beq_iff_eq] at opens
        rcases opens with (rfl | rfl) | rfl
        · cases stop
        · cases stop
        · cases outside
  have accepted := settles.closes []
  rw [shown, openAfter_append_eq_some] at accepted
  obtain ⟨opened, acceptedWord, -⟩ := accepted
  have plain := plain_of_openAfter closed acceptedWord
  intro c member
  rw [isQuiet, isPlain_of_isBracket (unquoted c member) (plain c member), Bool.true_and, bne_iff_ne]
  rintro rfl
  exact settles.uncommented (seen '#' member)

theorem settles_of_call (compiled : codeOf (word ++ '(' :: (arguments ++ [')'])) = .ok code)
    (quiet : ∀ c ∈ word, isQuiet c = true) (matched : Matched (({} : Scanner).sight arguments)) : Settles arguments :=
  settles_of_inBrackets rfl (fun c member => not_quoteMark_of_isQuiet (quiet c member))
    (fun c member => Scanner.isBracket_of_isPlain (isPlain_of_isQuiet (quiet c member))) (settles_of_codeOf compiled)
    matched

end Compile

end GroupScript
