import GroupScript.Proofs.BracketMatching
import GroupScript.Proofs.CodeText
import GroupScript.Proofs.TokenSpans

/-!
# Settled texts

A text is settled if a scan of it ends outside strings, passes no comment, and finds every bracket closed by its partner.
Settled texts can be put one after the other.  The text of every expression is settled, because the brackets among its
tokens are those that the scan shows.
-/

namespace GroupScript

namespace Scanner

variable {scanner other : Scanner} {c : Char} {text rest : List Char}

theorem step_congr (sameQuote : scanner.quote = other.quote) (sameEscape : scanner.escaped = other.escaped) (c : Char)
    (rest : List Char) :
    (scanner.step c rest).2 = (other.step c rest).2 ∧ (scanner.step c rest).1.quote = (other.step c rest).1.quote ∧
      (scanner.step c rest).1.escaped = (other.step c rest).1.escaped := by
  obtain ⟨depth, quote, escaped⟩ := scanner
  obtain ⟨otherDepth, otherQuote, otherEscaped⟩ := other
  cases sameQuote
  cases sameEscape
  cases quote with
  | none =>
      simp only [step, stepOutside]
      grind
  | some quote =>
      simp only [step, stepInside]
      grind

/-- What a scan shows, and whether it ends in a string, does not depend on the depth at which it begins. -/
theorem shown_congr (sameQuote : scanner.quote = other.quote) (sameEscape : scanner.escaped = other.escaped)
    (text : List Char) :
    scanner.shown text = other.shown text ∧ (scanner.through text).quote = (other.through text).quote := by
  induction scanner, text using stepInduction generalizing other with
  | nil scanner => exact ⟨rfl, sameQuote⟩
  | cons scanner c rest ih =>
      obtain ⟨sameCount, nextQuote, nextEscape⟩ := step_congr sameQuote sameEscape c rest
      obtain ⟨sameShown, sameEnd⟩ := ih nextQuote nextEscape
      rw [through_cons, through_cons, sameEnd, sameCount]
      refine ⟨?_, rfl⟩
      cases quote : scanner.quote with
      | none => rw [shown_outside quote, shown_outside (sameQuote ▸ quote), sameShown, sameCount]
      | some quotes => rw [shown_inside quote, shown_inside (sameQuote ▸ quote), sameShown, sameCount]

theorem Regular.shown_of_outside (regular : scanner.Regular) (outside : scanner.quote = none) (text : List Char) :
    scanner.shown text = ({} : Scanner).shown text ∧
      (scanner.through text).quote = (({} : Scanner).through text).quote :=
  shown_congr outside (regular.outside outside) text

/-- Of a text in two pieces a scan shows what it shows of the pieces. -/
theorem Regular.shown_append (regular : scanner.Regular) (apart : Apart text rest) :
    scanner.shown (text ++ rest) = scanner.shown text ++ (scanner.through text).shown rest := by
  induction scanner, text using stepInduction with
  | nil scanner => rfl
  | cons scanner c text ih =>
      have enough := skipped_step_le scanner c text
      have others := ih (regular.step c text) (apart.drop _)
      rw [List.cons_append, through_cons]
      cases quote : scanner.quote with
      | none =>
          rw [shown_outside quote, shown_outside quote, regular.step_append c apart,
            List.drop_append_of_le_length enough, others, List.cons_append]
      | some quotes =>
          rw [shown_inside quote, shown_inside quote, regular.step_append c apart,
            List.drop_append_of_le_length enough, others]

theorem shown_plain (outside : scanner.quote = none) (plain : ∀ c ∈ text, isPlain c = true) :
    scanner.shown text = text ∧ scanner.through text = scanner := by
  induction text with
  | nil => exact ⟨rfl, rfl⟩
  | cons c text ih =>
      obtain ⟨first, others⟩ := List.forall_mem_cons.mp plain
      obtain ⟨sameShown, sameEnd⟩ := ih others
      rw [shown_outside outside, through_cons, step_plain outside first]
      exact ⟨congrArg (c :: ·) sameShown, sameEnd⟩

theorem Regular.through_eq_trace (regular : scanner.Regular) (before : Option Char) (text : List Char) :
    scanner.through text = (trace 0 before scanner text).2 := by
  have missed : (trace 0 before scanner text).1.find? (seeing fun _ _ => false) = none :=
    List.find?_eq_none.mpr fun _ _ => Bool.false_ne_true
  rw [Scanner.through, search, scan_seeing none before, regular.scan_eq_firstIn, firstIn, missed]

theorem isBracket_of_isPlain (plain : isPlain c = true) : Source.isBracket c = false := by
  simp only [isPlain, structuralMarks, List.contains_cons, List.contains_nil, Bool.or_false, Bool.not_eq_true',
    Bool.or_eq_false_iff, beq_eq_false_iff_ne] at plain
  unfold Source.isBracket Source.isOpener Source.openerOf
  grind

theorem isBracket_of_quoteMark (isQuote : QuoteMark c) : Source.isBracket c = false := by
  rcases isQuote with rfl | rfl <;> rfl

end Scanner

/-- A text that ends outside strings, holds no comment, and closes every bracket that it opens and no other one. -/
structure Settles (text : List Char) : Prop where
  ends : (({} : Scanner).through text).quote = none
  uncommented : '#' ∉ ({} : Scanner).shown text
  closes : ∀ opened, Source.openAfter opened (({} : Scanner).shown text) = some opened

/-- A character that stands between settled texts: neither a quote nor a bracket, and no comment. -/
def isQuiet (c : Char) : Bool :=
  Scanner.isPlain c && c != '#'

theorem isPlain_of_isQuiet {c : Char} (quiet : isQuiet c = true) : Scanner.isPlain c = true :=
  (Bool.and_eq_true_iff.mp quiet).1

theorem isQuiet_of_isBlank {c : Char} (blank : Text.isBlank c = true) : isQuiet c = true := by
  rw [isQuiet, Scanner.isPlain_of_isBlank blank, Bool.true_and, bne_iff_ne]
  exact Text.ne_of_isBlank blank rfl

theorem isQuiet_of_isNameChar {c : Char} (nameChar : Text.isNameChar c = true) : isQuiet c = true := by
  rw [isQuiet, Scanner.isPlain_of_isNameChar nameChar, Bool.true_and, bne_iff_ne]
  rintro rfl
  cases nameChar

theorem not_quoteMark_of_isQuiet {c : Char} (quiet : isQuiet c = true) : ¬ QuoteMark c := by
  rintro (rfl | rfl) <;> cases quiet

theorem Apart.of_quiet {first : List Char} (quiet : ∀ c ∈ first, isQuiet c = true) (second : List Char) :
    Apart first second :=
  .inr fun c last => not_quoteMark_of_isQuiet (quiet c (List.mem_of_getLast? last))

namespace Settles

variable {first second text : List Char} {c : Char}

theorem append (settlesFirst : Settles first) (settlesSecond : Settles second) (apart : Apart first second) :
    Settles (first ++ second) := by
  have regular := Scanner.regular_fresh.through first
  obtain ⟨sameShown, sameEnd⟩ := regular.shown_of_outside settlesFirst.ends second
  have shown := Scanner.regular_fresh.shown_append apart
  rw [sameShown] at shown
  refine ⟨?_, ?_, ?_⟩
  · rw [Scanner.through_append Scanner.regular_fresh apart, sameEnd, settlesSecond.ends]
  · rw [shown, List.mem_append, not_or]
    exact ⟨settlesFirst.uncommented, settlesSecond.uncommented⟩
  · intro opened
    rw [shown, Source.openAfter_append, settlesFirst.closes, Option.bind_some, settlesSecond.closes]

theorem of_quiet (quiet : ∀ c ∈ text, isQuiet c = true) : Settles text := by
  have plain : ∀ c ∈ text, Scanner.isPlain c = true := fun c member => isPlain_of_isQuiet (quiet c member)
  obtain ⟨shown, through⟩ := @Scanner.shown_plain {} text rfl plain
  refine ⟨by rw [through], ?_, fun opened => ?_⟩
  · rw [shown]
    intro member
    cases quiet '#' member
  · rw [shown]
    exact Source.openAfter_plain (fun c member => Scanner.isBracket_of_isPlain (plain c member)) opened

theorem nil : Settles [] :=
  of_quiet (by simp)

theorem of_isEmpty (empty : text.isEmpty = true) : Settles text := by
  rw [List.isEmpty_iff.mp empty]
  exact nil

/-- Quiet characters may stand before a settled text. -/
theorem after_quiet (settles : Settles second) (quiet : ∀ c ∈ first, isQuiet c = true) : Settles (first ++ second) :=
  (of_quiet quiet).append settles (.of_quiet quiet second)

/-- A quiet character may stand between two settled texts. -/
theorem around (settlesFirst : Settles first) (settlesSecond : Settles second) (quiet : isQuiet c = true) :
    Settles (first ++ c :: second) := by
  have behind : Settles ([c] ++ second) := settlesSecond.after_quiet (by simpa using quiet)
  exact settlesFirst.append behind ((unquoted_cons.mpr (not_quoteMark_of_isQuiet quiet)).apart first)

theorem of_blank (blank : Text.isAllBlank text = true) : Settles text :=
  of_quiet fun c member => isQuiet_of_isBlank (List.all_eq_true.mp blank c member)

theorem of_trimEnd (settles : Settles (Text.trimEnd text)) : Settles text := by
  obtain ⟨blanks, blank, split⟩ := Text.exists_trimEnd_eq text
  rw [split]
  exact settles.append (of_blank blank) ((Scanner.unquoted_of_isAllBlank blank).apart _)

/-- The blanks at the ends of a text do not matter. -/
theorem of_trim (settles : Settles (Text.trim text)) : Settles text := by
  obtain ⟨blanks, blank, split⟩ := Text.exists_trimStart_eq text
  rw [split]
  exact (of_trimEnd settles).after_quiet fun c member => isQuiet_of_isBlank (List.all_eq_true.mp blank c member)

end Settles

/-! ### Expressions -/

namespace Token

/-- The brackets of a token. -/
def brackets : Token → List Char
  | .parenLeft => ['(']
  | .parenRight => [')']
  | .bracketLeft => ['[']
  | .bracketRight => [']']
  | _ => []

theorem brackets_of_isString {token : Token} (string : token.isString = true) : token.brackets = [] := by
  cases token <;> first | rfl | cases string

theorem brackets_of_turn {token : Token} (flat : token.turn = 0) : token.brackets = [] := by
  cases token <;> first | rfl | cases flat

/-- The characters of a token that is no bracket hold no bracket. -/
theorem filter_of_plain {token : Token} {used : List Char} (flat : token.turn = 0)
    (plain : ∀ c ∈ used, Scanner.isPlain c = true) : used.filter Source.isBracket = token.brackets := by
  rw [brackets_of_turn flat, List.filter_eq_nil_iff]
  intro c member
  rw [Scanner.isBracket_of_isPlain (plain c member)]
  exact Bool.false_ne_true

theorem filter_of_readMark {c : Char} {rest used following : List Char} {token : Token}
    (read : readMark c rest = .ok (token, following)) (split : c :: rest = used ++ following) :
    used.filter Source.isBracket = token.brackets := by
  have single {c : Char} {used following : List Char} (split : c :: following = used ++ following) : used = [c] :=
    (List.append_cancel_right (split : [c] ++ following = used ++ following)).symm
  have plain {c : Char} {token : Token} {used following : List Char} (flat : token.turn = 0)
      (split : c :: following = used ++ following) (isPlain : Scanner.isPlain c = true) :
      used.filter Source.isBracket = token.brackets := by
    rw [single split]
    exact filter_of_plain flat (by simpa using isPlain)
  have double {c d : Char} {token : Token} {used following : List Char} (flat : token.turn = 0)
      (split : c :: d :: following = used ++ following) (first : Scanner.isPlain c = true)
      (second : Scanner.isPlain d = true) : used.filter Source.isBracket = token.brackets := by
    obtain rfl : [c, d] = used := List.append_cancel_right (split : [c, d] ++ following = used ++ following)
    exact filter_of_plain flat (by simp [first, second])
  unfold readMark at read
  split at read <;> cases read
  case h_1 | h_2 | h_3 | h_4 =>
    rw [single split]
    rfl
  case h_10 | h_12 | h_14 | h_16 | h_17 | h_19 => exact double rfl split rfl rfl
  all_goals exact plain rfl split rfl

/-- A token that is no string shows its brackets. -/
theorem filter_of_readToken {c : Char} {rest used following : List Char} {token : Token}
    (read : readToken c rest = .ok (token, following)) (split : c :: rest = used ++ following)
    (noString : token.isString = false) : used.filter Source.isBracket = token.brackets := by
  unfold readToken at read
  split at read
  · obtain ⟨_, -, made⟩ := except_bind_eq_ok.mp read
    cases made
    cases noString
  · split at read
    · obtain ⟨number, splitNumber, chars⟩ := exists_numberChars read
      obtain rfl := List.append_cancel_right (splitNumber.symm.trans split)
      refine filter_of_plain (flat_of_readNumber read).1 fun c member => ?_
      exact Scanner.isPlain_of_class (by decide) (chars c member)
    · split at read
      · cases read
        have splitWord := (List.takeWhile_append_dropWhile (p := Text.isNameChar) (l := c :: rest)).trans split
        obtain rfl := List.append_cancel_right splitWord
        refine filter_of_plain (turn_ofWord _) fun c member => ?_
        exact Scanner.isPlain_of_isNameChar (List.all_eq_true.mp List.all_takeWhile c member)
      · exact filter_of_readMark read split

end Token

namespace Scanner

theorem map_char_cursors (depth : Int32) (following : List Char) (before : Option Char) (used : List Char) :
    (cursors depth following before used).map Visit.char = used := by
  induction used generalizing before with
  | nil => rfl
  | cons c used ih => rw [cursors, List.map_cons, ih]

/-- The brackets that a scan shows of a text are those of its tokens. -/
theorem filter_shown_lexed {text : List Char} {tokens : List Token} (lexed : Token.ofText text = .ok tokens) :
    (({} : Scanner).shown text).filter Source.isBracket = tokens.flatMap Token.brackets := by
  fun_induction Token.ofText text generalizing tokens with
  | case1 =>
      cases lexed
      rfl
  | case2 c rest blank ih =>
      have plain := isPlain_of_isBlank blank
      rw [shown_outside rfl, step_plain rfl plain, List.drop_zero, List.filter_cons, isBracket_of_isPlain plain,
        if_neg Bool.false_ne_true, ih lexed]
  | case3 => cases lexed
  | case4 => cases lexed
  | case5 c rest visible token following read others lexedRest ih =>
      cases lexed
      obtain ⟨used, split, passesToken⟩ := passesToken_readToken read
      have passed := congrArg (fun traced => traced.1.map Visit.char) (passesToken.passes 0 none [] unquoted_nil)
      simp only [preceded, List.map_append, List.append_nil, map_char_trace, List.drop_zero] at passed
      rw [split, passed, (@shown_congr ⟨0 + .ofInt token.turn, none, false⟩ {} rfl rfl following).1, List.filter_append,
        ih lexedRest, List.flatMap_cons]
      congr 1
      cases string : token.isString with
      | false =>
          simp only [shownOf, string, Bool.false_eq_true, if_false, map_char_cursors]
          exact Token.filter_of_readToken read split string
      | true =>
          have isQuote := Token.quoteMark_of_readToken read string
          have shorter := Token.length_of_readToken read
          cases used with
          | nil =>
              rw [List.nil_append] at split
              rw [← split, List.length_cons] at shorter
              omega
          | cons quote used =>
              obtain rfl : c = quote := (List.cons.inj split).1
              simp [shownOf, string, cursors, isBracket_of_quoteMark isQuote, Token.brackets_of_isString string]

/-- A scan of a text that has tokens shows only what can stand outside strings, and ends there. -/
theorem shown_lexed {text : List Char} {tokens : List Token} (lexed : Token.ofText text = .ok tokens) :
    (∀ c ∈ ({} : Scanner).shown text, Token.isOutsideChar c = true) ∧ (({} : Scanner).through text).quote = none := by
  obtain ⟨visits, outside, traced⟩ := trace_lexed lexed 0 none unquoted_nil
  rw [List.append_nil, trace_nil] at traced
  constructor
  · intro c member
    rw [shown] at member
    obtain ⟨visit, seen, rfl⟩ := List.mem_map.mp member
    rw [traced, preceded, List.append_nil] at seen
    exact outside visit seen
  · rw [regular_fresh.through_eq_trace none, traced]
    rfl

end Scanner

namespace Source.Nested

variable {inside : List Char}

theorem inParens (nested : Nested inside) : Nested ('(' :: (inside ++ [')'])) :=
  .pair rfl nested .nil

theorem inSquares (nested : Nested inside) : Nested ('[' :: (inside ++ [']'])) :=
  .pair rfl nested .nil

end Source.Nested

namespace Expr

theorem Joins.brackets_eq_nil {level : ChainLevel} {marks : List Token} {joint : Joint}
    (joins : Joins level marks joint) : marks.flatMap Token.brackets = [] := by
  cases joins <;> rfl

theorem DottedName.brackets_eq_nil {tokens : List Token} {text : String} (dotted : DottedName tokens text) :
    tokens.flatMap Token.brackets = [] := by
  induction dotted with
  | single text => rfl
  | member path name ih =>
      rw [List.flatMap_append, ih]
      rfl

open Source in
mutual

/-- Every bracket of an expression has its partner. -/
theorem Derives.nested {level : Level} {tokens : List Token} {expr : Expr} :
    Derives level tokens expr → Nested (tokens.flatMap Token.brackets)
  | .stronger _ derived => derived.nested
  | .joined joins _ derivedLeft derivedRight => by
      simpa [joins.brackets_eq_nil] using derivedLeft.nested.append derivedRight.nested
  | .signed signs derived => by
      simpa [Token.brackets_of_turn signs.turn_eq_zero] using derived.nested
  | .raised derivedBase derivedExponent => by
      simpa [Token.brackets] using derivedBase.nested.append derivedExponent.nested
  | .called derivedFunction derivedArguments => by
      simpa [Token.brackets] using derivedFunction.nested.append derivedArguments.nested.inParens
  | .indexed derivedTarget derivedIndices _ => by
      simpa [Token.brackets] using derivedTarget.nested.append derivedIndices.nested.inSquares
  | .const constant => by simpa [Token.brackets_of_turn constant.turn_eq_zero] using Nested.nil
  | .name dotted => by simpa [dotted.brackets_eq_nil] using Nested.nil
  | .list derivedItems => by simpa [Token.brackets] using derivedItems.nested.inSquares
  | .emptyList => Nested.nil.inParens
  | .enclosed derived => by simpa [Token.brackets] using derived.nested.inParens
  | .tuple derivedFirst derivedItems => by
      simpa [Token.brackets] using (derivedFirst.nested.append derivedItems.nested).inParens

theorem DerivesItems.nested {tokens : List Token} {items : List Expr} :
    DerivesItems tokens items → Nested (tokens.flatMap Token.brackets)
  | .nil => .nil
  | .last derived => derived.nested
  | .more derived derivedMore => by simpa [Token.brackets] using derived.nested.append derivedMore.nested

theorem DerivesKeywords.nested {tokens : List Token} {arguments : List (Argument Expr)} :
    DerivesKeywords tokens arguments → Nested (tokens.flatMap Token.brackets)
  | .nil => .nil
  | .last _ derived => by simpa [Token.brackets] using derived.nested
  | .more _ derived derivedMore => by simpa [Token.brackets] using derived.nested.append derivedMore.nested

theorem DerivesArguments.nested {tokens : List Token} {arguments : List (Argument Expr)} :
    DerivesArguments tokens arguments → Nested (tokens.flatMap Token.brackets)
  | .keywords derived => derived.nested
  | .last derived => derived.nested
  | .more derived derivedMore => by simpa [Token.brackets] using derived.nested.append derivedMore.nested

end

end Expr

theorem settles_of_ofText {text : List Char} {expr : Expr} (read : Expr.ofText text = .ok expr) : Settles text := by
  obtain ⟨tokens, lexed, readTokens⟩ := Expr.ofText_eq_ok.mp read
  obtain ⟨outside, ends⟩ := Scanner.shown_lexed lexed
  refine ⟨ends, fun member => ?_, fun opened => ?_⟩
  · cases outside '#' member
  · rw [← Source.openAfter_filter fun c => id, Scanner.filter_shown_lexed lexed]
    exact (Expr.derives_of_ofTokens readTokens).nested.openAfter opened

theorem settles_of_codeOf {text : List Char} {code : Code} (compiled : codeOf text = .ok code) : Settles text := by
  obtain ⟨expr, read, -⟩ := codeOf_eq_ok.mp compiled
  exact settles_of_ofText read

/-! ### Texts cut at a mark -/

namespace Scanner

theorem exists_of_mem_trace {skipped : Nat} {before : Option Char} {scanner : Scanner} {text : List Char} {visit : Visit}
    (seen : visit ∈ (trace skipped before scanner text).1) : ∃ first, text = first ++ visit.char :: visit.after := by
  induction text generalizing skipped before scanner with
  | nil => simp [trace_nil] at seen
  | cons c text ih =>
      have later {skipped : Nat} {scanner : Scanner} (seen : visit ∈ (trace skipped (some c) scanner text).1) :
          ∃ first, c :: text = first ++ visit.char :: visit.after := by
        obtain ⟨first, split⟩ := ih seen
        exact ⟨c :: first, congrArg (c :: ·) split⟩
      cases skipped with
      | succ skipped => exact later seen
      | zero =>
          cases quote : scanner.quote with
          | some quotes =>
              rw [trace_inside quote] at seen
              exact later seen
          | none =>
              rw [trace_outside quote] at seen
              rcases List.mem_cons.mp seen with rfl | seen
              · exact ⟨[], rfl⟩
              · exact later seen

end Scanner

namespace Source

variable {text : List Char} {position : Nat}

/-- A text is cut where something is found in it. -/
theorem split_of_find {test : Visit → Bool} (found : find test text = some position) :
    ∃ first visit, test visit = true ∧ text = first ++ visit.char :: visit.after ∧ first.length = position := by
  rw [find, Scanner.feed, Scanner.regular_fresh.scan_eq_firstIn, Scanner.firstIn] at found
  cases first : (Scanner.trace 0 none {} text).1.find? test with
  | none =>
      rw [first] at found
      cases found
  | some visit =>
      rw [first] at found
      cases found
      obtain ⟨before, split⟩ := Scanner.exists_of_mem_trace (List.mem_of_find?_eq_some first)
      refine ⟨before, visit, List.find?_some first, split, ?_⟩
      rw [Visit.position, split, List.length_append, List.length_cons]
      omega

/-- A text is settled if the texts before and behind a quiet mark in it are. -/
theorem settles_of_find {test : Visit → Bool} (found : find test text = some position)
    (quiet : ∀ visit, test visit = true → isQuiet visit.char = true)
    (front : Settles (Text.trim (text.take position))) (back : Settles (Text.trim (text.drop (position + 1)))) :
    Settles text := by
  obtain ⟨first, visit, holds, rfl, rfl⟩ := split_of_find found
  have behind : (first ++ visit.char :: visit.after).drop (first.length + 1) = visit.after := by
    rw [← List.drop_drop, List.drop_left, List.drop_one, List.tail_cons]
  rw [List.take_left] at front
  rw [behind] at back
  exact front.of_trim.around back.of_trim (quiet visit holds)

theorem settles_of_findAssign (found : findAssign text = some position)
    (front : Settles (Text.trim (text.take position))) (back : Settles (Text.trim (text.drop (position + 1)))) :
    Settles text := by
  refine settles_of_find found (fun visit holds => ?_) front back
  simp only [Bool.and_eq_true] at holds
  rw [eq_of_beq holds.1.1.1]
  rfl

theorem eq_append_of_dropStart? {start rest : List Char} (dropped : Text.dropStart? start text = some rest) :
    text = start ++ rest := by
  fun_induction Text.dropStart? start text with
  | case1 text =>
      cases dropped
      rfl
  | case2 => cases dropped
  | case3 start c text ih => exact congrArg (c :: ·) (ih dropped)
  | case4 => cases dropped

/-- A text is settled if the texts before and behind a word in it are. -/
theorem settles_of_findWord {c : Char} {word : List Char} (found : findWord (c :: word) text = some position)
    (quiet : ∀ d ∈ c :: word, isQuiet d = true) (front : Settles (text.take position))
    (back : Settles (text.drop (position + (c :: word).length))) : Settles text := by
  obtain ⟨first, visit, holds, split, rfl⟩ := split_of_find found
  obtain ⟨rest, dropped⟩ : ∃ rest, Text.dropStart? (c :: word) (visit.char :: visit.after) = some rest := by
    cases dropped : Text.dropStart? (c :: word) (visit.char :: visit.after) with
    | none => simp [dropped] at holds
    | some rest => exact ⟨rest, rfl⟩
  rw [eq_append_of_dropStart? dropped] at split
  subst split
  rw [List.take_left] at front
  rw [← List.drop_drop, List.drop_left, List.drop_left] at back
  refine front.append (back.after_quiet quiet) (Unquoted.apart ?_ first)
  exact unquoted_cons.mpr (not_quoteMark_of_isQuiet (quiet c List.mem_cons_self))

end Source

end GroupScript
