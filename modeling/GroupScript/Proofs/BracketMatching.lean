import GroupScript.Proofs.Visits
import GroupScript.Source.Brackets

/-!
# Matched brackets

A line is accepted by the bracket check if each of its closing brackets belongs to the bracket that was opened last of
those still open.  The check has a reading of its own for strings: every quote by itself begins or ends one, and so it
takes the quotes of a triple quote for three.  It still sees what the scanner sees, unless a string in triple quotes holds
a quote of its own kind.
-/

namespace GroupScript

namespace Source

/-! ### Brackets and their partners -/

/-- Whether a character opens or closes a bracket. -/
def isBracket (c : Char) : Bool :=
  isOpener c || (openerOf c).isSome

/-- Characters among which every bracket has its partner. -/
inductive Nested : List Char → Prop
  | nil : Nested []
  | plain {c : Char} {rest : List Char} : isBracket c = false → Nested rest → Nested (c :: rest)
  | pair {opener closer : Char} {inside rest : List Char} :
      openerOf closer = some opener → Nested inside → Nested rest → Nested (opener :: (inside ++ closer :: rest))

/-- Every closing bracket belongs to the bracket that was opened last of those still open, which is to say that every
bracket between the two has its partner there. -/
def Matched (text : List Char) : Prop :=
  ∀ before closer after opener, text = before ++ closer :: after → openerOf closer = some opener →
    ∃ outer inside, before = outer ++ opener :: inside ∧ Nested inside

/-- The brackets that are open after a character, the last one first, if the character may stand there. -/
def afterBracket (opened : List Char) (c : Char) : Option (List Char) :=
  if isOpener c then some (c :: opened)
  else
    match openerOf c with
    | none => some opened
    | some opener => if opened.head? = some opener then some opened.tail else none

/-- The brackets that are open after some characters, the last one first, if every closing one among them belongs to the
one opened last. -/
def openAfter : List Char → List Char → Option (List Char)
  | opened, [] => some opened
  | opened, c :: rest => (afterBracket opened c).bind (openAfter · rest)

theorem isOpener_of_openerOf {closer opener : Char} (closes : openerOf closer = some opener) :
    isOpener opener = true ∧ isOpener closer = false := by
  unfold openerOf at closes
  split at closes <;> cases closes <;> exact ⟨rfl, rfl⟩

theorem afterBracket_opener {c : Char} (opens : isOpener c = true) (opened : List Char) :
    afterBracket opened c = some (c :: opened) := by
  rw [afterBracket, if_pos opens]

theorem afterBracket_plain {c : Char} (plain : isBracket c = false) (opened : List Char) :
    afterBracket opened c = some opened := by
  simp only [isBracket, Bool.or_eq_false_iff, Option.isSome_eq_false_iff, Option.isNone_iff_eq_none] at plain
  simp [afterBracket, plain]

theorem afterBracket_closer {closer opener : Char} (closes : openerOf closer = some opener) (opened : List Char) :
    afterBracket opened closer = if opened.head? = some opener then some opened.tail else none := by
  simp [afterBracket, isOpener_of_openerOf closes, closes]

/-- A character opens a bracket, closes one or is none. -/
theorem bracket_cases (c : Char) :
    isOpener c = true ∨ (∃ opener, openerOf c = some opener) ∨ isBracket c = false := by
  cases opens : isOpener c with
  | true => exact .inl rfl
  | false =>
      cases closes : openerOf c with
      | some opener => exact .inr (.inl ⟨opener, rfl⟩)
      | none => exact .inr (.inr (by simp [isBracket, opens, closes]))

@[simp]
theorem openAfter_nil (opened : List Char) : openAfter opened [] = some opened :=
  rfl

@[simp]
theorem openAfter_cons (opened : List Char) (c : Char) (rest : List Char) :
    openAfter opened (c :: rest) = (afterBracket opened c).bind (openAfter · rest) :=
  rfl

theorem openAfter_append (opened first second : List Char) :
    openAfter opened (first ++ second) = (openAfter opened first).bind (openAfter · second) := by
  induction first generalizing opened with
  | nil => rfl
  | cons c first ih =>
      rw [List.cons_append, openAfter_cons, openAfter_cons]
      cases afterBracket opened c with
      | none => rfl
      | some next => exact ih next

theorem openAfter_append_eq_some {opened first second last : List Char} :
    openAfter opened (first ++ second) = some last ↔
      ∃ next, openAfter opened first = some next ∧ openAfter next second = some last := by
  rw [openAfter_append, Option.bind_eq_some_iff]

theorem openAfter_plain {text : List Char} (plain : ∀ c ∈ text, isBracket c = false) (opened : List Char) :
    openAfter opened text = some opened := by
  induction text with
  | nil => rfl
  | cons c text ih =>
      obtain ⟨first, others⟩ := List.forall_mem_cons.mp plain
      rw [openAfter_cons, afterBracket_plain first, Option.bind_some, ih others]

/-- Characters that are no brackets may be left out. -/
theorem openAfter_filter {keep : Char → Bool} (plain : ∀ c, keep c = false → isBracket c = false)
    (opened text : List Char) : openAfter opened (text.filter keep) = openAfter opened text := by
  induction text generalizing opened with
  | nil => rfl
  | cons c text ih =>
      cases kept : keep c with
      | true => rw [List.filter_cons_of_pos kept, openAfter_cons, openAfter_cons, funext ih]
      | false =>
          rw [List.filter_cons_of_neg (by simp [kept]), ih, openAfter_cons, afterBracket_plain (plain c kept),
            Option.bind_some]

/-- The brackets that were open before a text do not matter to one that does without them. -/
theorem openAfter_above {opened text last : List Char} (accepted : openAfter opened text = some last)
    (below : List Char) : openAfter (opened ++ below) text = some (last ++ below) := by
  induction text generalizing opened with
  | nil =>
      cases accepted
      rfl
  | cons c text ih =>
      obtain ⟨next, stepped, accepted⟩ := Option.bind_eq_some_iff.mp accepted
      suffices afterBracket (opened ++ below) c = some (next ++ below) by
        rw [openAfter_cons, this, Option.bind_some, ih accepted]
      rcases bracket_cases c with opens | ⟨opener, closes⟩ | plain
      · rw [afterBracket_opener opens] at stepped ⊢
        cases stepped
        rfl
      · rw [afterBracket_closer closes] at stepped ⊢
        cases opened with
        | nil => cases stepped
        | cons bracket opened =>
            by_cases same : bracket = opener
            · simp only [List.head?_cons, same, if_true, List.tail_cons, Option.some.injEq] at stepped
              simp [same, stepped]
            · simp [same] at stepped
      · rw [afterBracket_plain plain] at stepped ⊢
        cases stepped
        rfl

theorem Nested.append {first second : List Char} (nestedFirst : Nested first) (nestedSecond : Nested second) :
    Nested (first ++ second) := by
  induction nestedFirst with
  | nil => exact nestedSecond
  | plain plain _ ih => exact .plain plain ih
  | @pair opener closer inside rest closes nestedInside _ _ ih =>
      simpa using Nested.pair closes nestedInside ih

theorem Nested.openAfter {text : List Char} (nested : Nested text) (opened : List Char) :
    openAfter opened text = some opened := by
  induction nested generalizing opened with
  | nil => rfl
  | plain plain _ ih => rw [openAfter_cons, afterBracket_plain plain, Option.bind_some, ih]
  | pair closes _ _ ihInside ihRest =>
      rw [openAfter_cons, afterBracket_opener (isOpener_of_openerOf closes).1, Option.bind_some, openAfter_append,
        ihInside, Option.bind_some, openAfter_cons, afterBracket_closer closes, List.head?_cons, if_pos rfl,
        Option.bind_some, List.tail_cons, ihRest]

/-- The bracket opened last has nothing but brackets with their partners behind it. -/
theorem exists_nested_of_openAfter {before others : List Char} {opener : Char}
    (accepted : openAfter [] before = some (opener :: others)) :
    ∃ outer inside, before = outer ++ opener :: inside ∧ Nested inside ∧ openAfter [] outer = some others := by
  induction count : before.length using Nat.strongRecOn generalizing before opener others with
  | ind length ih =>
      rcases List.eq_nil_or_concat' before with rfl | ⟨first, c, rfl⟩
      · cases accepted
      subst count
      have shorter : first.length < (first ++ [c]).length := by simp
      obtain ⟨opened, acceptedFirst, stepped⟩ := openAfter_append_eq_some.mp accepted
      rw [openAfter_cons, Option.bind_eq_some_iff] at stepped
      obtain ⟨last, stepped, same⟩ := stepped
      cases same
      rcases bracket_cases c with opens | ⟨partner, closes⟩ | plain
      · rw [afterBracket_opener opens] at stepped
        cases stepped
        exact ⟨first, [], rfl, .nil, acceptedFirst⟩
      · -- The bracket closed here and what it encloses are behind the one that is open now.
        rw [afterBracket_closer closes] at stepped
        split at stepped
        · rename_i isPartner
          obtain ⟨rest, rfl⟩ := List.head?_eq_some_iff.mp isPartner
          cases stepped
          obtain ⟨enclosing, enclosed, rfl, nestedEnclosed, acceptedEnclosing⟩ := ih _ shorter acceptedFirst rfl
          have shorterEnclosing : enclosing.length < (enclosing ++ partner :: enclosed ++ [c]).length := by
            simp only [List.length_append, List.length_cons]
            omega
          obtain ⟨outer, inside, rfl, nestedInside, acceptedOuter⟩ := ih _ shorterEnclosing acceptedEnclosing rfl
          refine ⟨outer, inside ++ partner :: (enclosed ++ [c]), by simp, ?_, acceptedOuter⟩
          exact nestedInside.append (.pair closes nestedEnclosed .nil)
        · cases stepped
      · rw [afterBracket_plain plain] at stepped
        cases stepped
        obtain ⟨outer, inside, rfl, nestedInside, acceptedOuter⟩ := ih _ shorter acceptedFirst rfl
        exact ⟨outer, inside ++ [c], by simp, nestedInside.append (.plain plain .nil), acceptedOuter⟩

theorem Matched.left {first second : List Char} (matched : Matched (first ++ second)) : Matched first := by
  intro before closer after opener split closes
  exact matched before closer (after ++ second) opener (by rw [split]; simp) closes

theorem exists_openAfter_of_matched {text : List Char} (matched : Matched text) :
    ∃ opened, openAfter [] text = some opened := by
  induction count : text.length generalizing text with
  | zero =>
      obtain rfl := List.length_eq_zero_iff.mp count
      exact ⟨[], rfl⟩
  | succ length ih =>
      rcases List.eq_nil_or_concat' text with rfl | ⟨first, c, rfl⟩
      · cases count
      obtain ⟨opened, accepted⟩ := ih matched.left (by simpa using count)
      suffices ∃ last, afterBracket opened c = some last by
        obtain ⟨last, stepped⟩ := this
        exact ⟨last, openAfter_append_eq_some.mpr ⟨opened, accepted, by simp [stepped]⟩⟩
      rcases bracket_cases c with opens | ⟨opener, closes⟩ | plain
      · exact ⟨_, afterBracket_opener opens opened⟩
      · obtain ⟨outer, inside, rfl, nested⟩ := matched first c [] opener rfl closes
        obtain ⟨enclosing, -, acceptedRest⟩ := openAfter_append_eq_some.mp accepted
        rw [openAfter_cons, afterBracket_opener (isOpener_of_openerOf closes).1, Option.bind_some,
          nested.openAfter] at acceptedRest
        cases acceptedRest
        exact ⟨enclosing, by rw [afterBracket_closer closes, List.head?_cons, if_pos rfl, List.tail_cons]⟩
      · exact ⟨_, afterBracket_plain plain opened⟩

theorem matched_iff_openAfter {text : List Char} : Matched text ↔ (openAfter [] text).isSome = true := by
  rw [Option.isSome_iff_exists]
  refine ⟨exists_openAfter_of_matched, ?_⟩
  rintro ⟨last, accepted⟩ before closer after opener rfl closes
  obtain ⟨opened, acceptedBefore, acceptedRest⟩ := openAfter_append_eq_some.mp accepted
  rw [openAfter_cons, afterBracket_closer closes] at acceptedRest
  split at acceptedRest
  · rename_i isOpener
    obtain ⟨rest, rfl⟩ := List.head?_eq_some_iff.mp isOpener
    obtain ⟨outer, inside, split, nested, -⟩ := exists_nested_of_openAfter acceptedBefore
    exact ⟨outer, inside, split, nested⟩
  · cases acceptedRest

instance (text : List Char) : Decidable (Matched text) :=
  decidable_of_iff _ matched_iff_openAfter.symm

/-! ### What the check sees -/

/-- The characters of a line outside strings and before its comment, if every quote by itself begins or ends a string.
The first arguments are the quote of the string that is open and whether its next character is taken literally. -/
def quoteByQuote : Option Char → Bool → List Char → List Char
  | _, _, [] => []
  | none, _, c :: rest =>
      if c = '#' then []
      else if QuoteMark c then quoteByQuote (some c) false rest
      else c :: quoteByQuote none false rest
  | some quote, true, _ :: rest => quoteByQuote (some quote) false rest
  | some quote, false, c :: rest =>
      if c = '\\' then quoteByQuote (some quote) true rest
      else if c = quote then quoteByQuote none false rest
      else quoteByQuote (some quote) false rest

theorem checkOutside_cons {c : Char} (opened rest : List Char) (visible : c ≠ '#') (unquoted : ¬ QuoteMark c) :
    checkOutside opened (c :: rest) = none ↔
      ∃ next, afterBracket opened c = some next ∧ checkOutside next rest = none := by
  rw [checkOutside.eq_def]
  simp only [if_neg visible, if_neg unquoted]
  rcases bracket_cases c with opens | ⟨opener, closes⟩ | plain
  · simp [afterBracket_opener opens, opens]
  · rw [afterBracket_closer closes, if_neg (by simp [isOpener_of_openerOf closes]), closes]
    cases opened with
    | nil => simp
    | cons last others =>
        by_cases same : last = opener
        · simp [same]
        · simp [same]
  · rw [afterBracket_plain plain]
    simp only [isBracket, Bool.or_eq_false_iff, Option.isSome_eq_false_iff, Option.isNone_iff_eq_none] at plain
    simp [plain]

/-- The check looks for the first bracket that does not belong to the one opened last among what it sees. -/
theorem check_eq_none_iff (text : List Char) :
    (∀ opened, checkOutside opened text = none ↔
      (openAfter opened (quoteByQuote none false text)).isSome = true) ∧
    ∀ opened quote escaped, checkInside opened quote escaped text = none ↔
      (openAfter opened (quoteByQuote (some quote) escaped text)).isSome = true := by
  induction text with
  | nil => simp [checkOutside, checkInside, quoteByQuote]
  | cons c rest ih =>
      obtain ⟨outside, inside⟩ := ih
      constructor
      · intro opened
        by_cases comment : c = '#'
        · simp [checkOutside, quoteByQuote, comment]
        by_cases isQuote : QuoteMark c
        · rw [checkOutside.eq_def, quoteByQuote, if_neg comment, if_pos isQuote]
          simp only [if_neg comment, if_pos isQuote]
          exact inside opened c false
        · rw [checkOutside_cons opened rest comment isQuote, quoteByQuote, if_neg comment, if_neg isQuote,
            openAfter_cons]
          cases afterBracket opened c with
          | none => simp
          | some next => simpa using outside next
      · intro opened quote escaped
        cases escaped with
        | true => simpa [checkInside, quoteByQuote] using inside opened quote false
        | false =>
            rw [checkInside, quoteByQuote, if_neg Bool.false_ne_true]
            split
            · exact inside opened quote true
            · split
              · exact outside opened
              · exact inside opened quote false

theorem bracketFault?_eq_none_iff (line : List Char) :
    bracketFault? line = none ↔ Matched (quoteByQuote none false line) := by
  rw [matched_iff_openAfter]
  exact (check_eq_none_iff line).1 []

end Source

/-! ### What the scanner sees -/

namespace Scanner

variable {scanner : Scanner} {c : Char} {text rest : List Char}

/-- The characters that a scan shows. -/
def shown (scanner : Scanner) (text : List Char) : List Char :=
  (trace 0 none scanner text).1.map Visit.char

@[simp]
theorem shown_nil : scanner.shown [] = [] :=
  rfl

theorem map_char_trace (skipped : Nat) (before : Option Char) (scanner : Scanner) (text : List Char) :
    (trace skipped before scanner text).1.map Visit.char = scanner.shown (text.drop skipped) := by
  induction skipped generalizing before text with
  | zero =>
      cases text with
      | nil => rfl
      | cons c text =>
          cases outside : scanner.quote with
          | none => simp [shown, trace_outside outside, preceded]
          | some quote => simp [shown, trace_inside outside]
  | succ skipped ih =>
      cases text with
      | nil => rfl
      | cons c text => exact ih (some c) text

theorem shown_outside (outside : scanner.quote = none) :
    scanner.shown (c :: rest) = c :: (scanner.step c rest).1.shown (rest.drop (scanner.step c rest).2) := by
  rw [shown, trace_outside outside, preceded, List.map_append, map_char_trace]
  rfl

theorem shown_inside {quote : Quote} (inside : scanner.quote = some quote) :
    scanner.shown (c :: rest) = (scanner.step c rest).1.shown (rest.drop (scanner.step c rest).2) := by
  rw [shown, trace_inside inside, map_char_trace]

/-- The characters of a text that stand outside strings and before the first comment. -/
def sight (scanner : Scanner) (text : List Char) : List Char :=
  ((scanner.shown text).takeWhile (· != '#')).filter fun c => !decide (QuoteMark c)

/-- Whether a string in triple quotes holds a quote of its own kind, which no backslash escapes, before the first comment.
The number counts the characters to be passed over. -/
def embedsQuote : Nat → Scanner → List Char → Bool
  | _, _, [] => false
  | skipped + 1, scanner, _ :: rest => embedsQuote skipped scanner rest
  | 0, scanner, c :: rest =>
      if scanner.quote = none ∧ c = '#' then false
      else
        scanner.quote = some ⟨c, true⟩ && !scanner.escaped && !Token.startsWithTwo c rest ||
          embedsQuote (scanner.step c rest).2 (scanner.step c rest).1 rest

theorem embedsQuote_drop (skipped : Nat) (scanner : Scanner) (text : List Char) :
    embedsQuote skipped scanner text = embedsQuote 0 scanner (text.drop skipped) := by
  induction skipped generalizing text with
  | zero => rfl
  | succ skipped ih =>
      cases text with
      | nil => rfl
      | cons c text => exact ih text

theorem exists_of_startsWithTwo (starts : Token.startsWithTwo c rest = true) : ∃ more, rest = c :: c :: more := by
  match rest with
  | [] => cases starts
  | [d] => cases starts
  | d :: e :: more =>
      simp only [Token.startsWithTwo, Bool.and_eq_true, beq_iff_eq] at starts
      obtain ⟨rfl, rfl⟩ := starts
      exact ⟨more, rfl⟩

theorem ne_of_quoteMark {d : Char} (isQuote : QuoteMark c) (unquoted : ¬ QuoteMark d) : c ≠ d := by
  rintro rfl
  exact unquoted isQuote

theorem sight_comment (outside : scanner.quote = none) : scanner.sight ('#' :: rest) = [] := by
  simp [sight, shown_outside outside]

theorem sight_quote (outside : scanner.quote = none) (isQuote : QuoteMark c) :
    scanner.sight (c :: rest) = (scanner.step c rest).1.sight (rest.drop (scanner.step c rest).2) := by
  have visible : (c != '#') = true := bne_iff_ne.mpr (ne_of_quoteMark isQuote (by decide))
  simp only [sight, shown_outside outside, List.takeWhile_cons, visible, if_true, List.filter_cons,
    decide_eq_true isQuote, Bool.not_true, Bool.false_eq_true, if_false]

theorem sight_outside (outside : scanner.quote = none) (visible : c ≠ '#') (unquoted : ¬ QuoteMark c) :
    scanner.sight (c :: rest) = c :: (scanner.step c rest).1.sight (rest.drop (scanner.step c rest).2) := by
  simp only [sight, shown_outside outside, List.takeWhile_cons, bne_iff_ne.mpr visible, if_true, List.filter_cons,
    decide_eq_false unquoted, Bool.not_false]

theorem sight_inside {quote : Quote} (inside : scanner.quote = some quote) :
    scanner.sight (c :: rest) = (scanner.step c rest).1.sight (rest.drop (scanner.step c rest).2) := by
  rw [sight, shown_inside inside, sight]

/-- A character outside strings that is no quote is taken in by itself and opens no string. -/
theorem Regular.step_unquoted (regular : scanner.Regular) (outside : scanner.quote = none) (unquoted : ¬ QuoteMark c)
    (rest : List Char) :
    (scanner.step c rest).2 = 0 ∧ (scanner.step c rest).1.quote = none ∧ (scanner.step c rest).1.escaped = false := by
  have quiet := regular.outside outside
  simp only [Scanner.step, outside, stepOutside, if_neg unquoted]
  split
  · exact ⟨rfl, rfl, quiet⟩
  · split
    · exact ⟨rfl, rfl, quiet⟩
    · exact ⟨rfl, outside, quiet⟩

/-- The check sees what the scanner sees, unless a string in triple quotes holds a quote of its own kind.  The two take
the same steps, but where the scanner takes three quotes at once, the check goes in and out, or out and in, before it has
done the same. -/
theorem Regular.quoteByQuote_eq_sight (regular : scanner.Regular) (bare : embedsQuote 0 scanner text = false) :
    Source.quoteByQuote (scanner.quote.map Quote.mark) scanner.escaped text = scanner.sight text := by
  induction scanner, text using stepInduction with
  | nil scanner => cases scanner.quote <;> rfl
  | cons scanner c rest ih =>
      rw [embedsQuote] at bare
      cases quote : scanner.quote with
      | none =>
          have quiet := regular.outside quote
          rw [quiet, Option.map_none, Source.quoteByQuote]
          by_cases comment : c = '#'
          · rw [if_pos comment, comment, sight_comment quote]
          rw [if_neg (by simp [comment]), Bool.or_eq_false_iff, embedsQuote_drop] at bare
          replace ih := ih (regular.step c rest) bare.2
          rw [if_neg comment]
          by_cases isQuote : QuoteMark c
          · rw [if_pos isQuote, sight_quote quote isQuote, ← ih]
            cases triple : Token.startsWithTwo c rest with
            | false => simp [Scanner.step, quote, stepOutside, isQuote, triple, quiet]
            | true =>
                obtain ⟨more, rfl⟩ := exists_of_startsWithTwo triple
                have notBackslash : c ≠ '\\' := ne_of_quoteMark isQuote (by decide)
                simp [Scanner.step, quote, stepOutside, isQuote, triple, quiet, Source.quoteByQuote, comment,
                  notBackslash]
          · obtain ⟨alone, outside, notEscaped⟩ := regular.step_unquoted quote isQuote rest
            rw [if_neg isQuote, sight_outside quote comment isQuote, ← ih, alone, outside, notEscaped]
            rfl
      | some quotes =>
          rw [if_neg (by simp [quote]), Bool.or_eq_false_iff, embedsQuote_drop] at bare
          obtain ⟨closing, bare⟩ := bare
          rw [sight_inside quote, ← ih (regular.step c rest) bare]
          obtain ⟨depth, _, escaped⟩ := scanner
          obtain rfl : _ = some quotes := quote
          obtain ⟨mark, triple⟩ := quotes
          cases escaped with
          | true => rfl
          | false =>
              by_cases backslash : c = '\\'
              · simp [Scanner.step, stepInside, backslash, Source.quoteByQuote]
              by_cases closes : c = mark
              · subst closes
                cases triple with
                | false => simp [Scanner.step, stepInside, backslash, Source.quoteByQuote]
                | true =>
                    have isQuote : QuoteMark c := regular.mark _ rfl
                    have visible : c ≠ '#' := ne_of_quoteMark isQuote (by decide)
                    have three : Token.startsWithTwo c rest = true := by simpa using closing
                    obtain ⟨more, rfl⟩ := exists_of_startsWithTwo three
                    simp [Scanner.step, stepInside, backslash, three, Source.quoteByQuote, visible, isQuote]
              · simp [Scanner.step, stepInside, backslash, closes, Source.quoteByQuote]

end Scanner

/-- Where no string in triple quotes holds a quote of its own kind, a line has no fault exactly if its brackets outside
strings and before its comment are matched. -/
theorem Source.bracketFault?_eq_none_iff_sight {line : List Char} (bare : Scanner.embedsQuote 0 {} line = false) :
    bracketFault? line = none ↔ Matched (({} : Scanner).sight line) := by
  rw [bracketFault?_eq_none_iff, ← Scanner.regular_fresh.quoteByQuote_eq_sight bare]
  rfl

end GroupScript
