import GroupScript.Proofs.LexicalAgreement

/-!
# The spans of tokens

The reader of tokens can note where each token begins and ends.  Of a text that has tokens a scan shows exactly the
characters that no string hides behind its first quote, each as deep as the brackets among the tokens before it lead, and
so nothing that looks for a mark in such a text finds one inside a string.
-/

namespace GroupScript

namespace Token

/-- A token with the position of its first character and the position behind its last one. -/
structure Span where
  token : Token
  start : Nat
  stop : Nat

/-- Whether a position belongs to a string. -/
def Span.quotes (span : Span) (position : Nat) : Prop :=
  span.token.isString = true ∧ span.start ≤ position ∧ position < span.stop

/-- Whether a position belongs to a string and is not the one of its first quote. -/
def Span.hides (span : Span) (position : Nat) : Bool :=
  span.token.isString && decide (span.start < position) && decide (position < span.stop)

/-- The tokens of a text with their spans, where the text begins at a given position. -/
def spansFrom (position : Nat) (text : List Char) : Except SyntaxFault (List Span) :=
  match text with
  | [] => .ok []
  | c :: rest =>
      if Text.isBlank c then spansFrom (position + 1) rest
      else
        match _read : readToken c rest with
        | .error fault => .error fault
        | .ok (token, following) =>
            match spansFrom (position + (rest.length + 1 - following.length)) following with
            | .error fault => .error fault
            | .ok spans =>
                .ok (⟨token, position, position + (rest.length + 1 - following.length)⟩ :: spans)
termination_by text.length
decreasing_by
  · simp
  · have := length_of_readToken _read
    simp only [List.length_cons]
    omega

/-- The tokens of a text with their spans. -/
def spans (text : List Char) : Except SyntaxFault (List Span) :=
  spansFrom 0 text

/-- Noting the spans does not change the tokens. -/
theorem ofText_eq_spansFrom (position : Nat) (text : List Char) :
    ofText text = (spansFrom position text).map (List.map Span.token) := by
  fun_induction spansFrom position text with
  | case1 => rw [ofText]; rfl
  | case2 position c rest blank ih => rw [ofText, if_pos blank, ih]
  | case3 position c rest visible fault read => grind [ofText, Except.map]
  | case4 position c rest visible token following read fault failed ih =>
      rw [failed] at ih
      grind [ofText, Except.map]
  | case5 position c rest visible token following read spans spanned ih =>
      rw [spanned] at ih
      grind [ofText, Except.map]

/-- Only quotes begin strings. -/
theorem quoteMark_of_readToken {c : Char} {rest following : List Char} {token : Token}
    (read : readToken c rest = .ok (token, following)) (string : token.isString = true) :
    QuoteMark c := by
  unfold readToken at read
  split at read
  · assumption
  · split at read
    · rw [(flat_of_readNumber read).2] at string
      cases string
    · split at read
      · cases read
        rw [isString_ofWord] at string
        cases string
      · unfold readMark at read
        split at read <;> cases read <;> cases string

/-- The spans of the tokens of a text lie in the text one after the other, and a string begins with a quote. -/
structure Span.Within (position : Nat) (text : List Char) (span : Span) : Prop where
  start_le : position ≤ span.start
  start_lt_stop : span.start < span.stop
  quote : span.token.isString = true → ∃ c, text[span.start - position]? = some c ∧ QuoteMark c

theorem Span.Within.append {position : Nat} {used text : List Char} {span : Span}
    (within : span.Within (position + used.length) text) : span.Within position (used ++ text) where
  start_le := by
    have := within.start_le
    omega
  start_lt_stop := within.start_lt_stop
  quote string := by
    obtain ⟨c, found, isQuote⟩ := within.quote string
    refine ⟨c, ?_, isQuote⟩
    have := within.start_le
    rw [List.getElem?_append_right (by omega), ← found]
    congr 1
    omega

theorem within_of_spansFrom {position : Nat} {text : List Char} {spans : List Span}
    (spanned : spansFrom position text = .ok spans) : ∀ span ∈ spans, span.Within position text := by
  fun_induction spansFrom position text generalizing spans with
  | case1 =>
      cases spanned
      simp
  | case2 position c rest blank ih =>
      intro span member
      exact @Span.Within.append position [c] rest span (ih spanned span member)
  | case3 => cases spanned
  | case4 => cases spanned
  | case5 position c rest visible token following read others spannedOthers ih =>
      cases spanned
      obtain ⟨used, split, -⟩ := Scanner.passesToken_readToken read
      have shorter := length_of_readToken read
      have length : used.length = rest.length + 1 - following.length := by
        have := congrArg List.length split
        simp only [List.length_cons, List.length_append] at this
        omega
      rw [← length] at ih spannedOthers ⊢
      intro span member
      rcases List.mem_cons.mp member with rfl | member
      · refine ⟨Nat.le_refl _, ?_, fun string => ⟨c, by simp, quoteMark_of_readToken read string⟩⟩
        change position < position + used.length
        omega
      · rw [split]
        exact Span.Within.append (ih spannedOthers span member)

/-- The number of opening brackets minus the number of closing ones among the tokens that end before a position. -/
def depthAt (spans : List Span) (position : Nat) : Int :=
  balance ((spans.filter fun span => decide (span.stop ≤ position)).map Span.token)

/-- The characters of a text that no string hides, as they are shown from a position and a depth on. -/
def shownFrom (depth : Int32) (spans : List Span) : Nat → Option Char → List Char → List Visit
  | _, _, [] => []
  | position, before, c :: rest =>
      let others := shownFrom depth spans (position + 1) (some c) rest
      if spans.any (·.hides position) then others
      else ⟨before, c, rest, depth + .ofInt (depthAt spans position)⟩ :: others

/-- The characters of a text that no string hides, each with the depth to which the tokens before it lead. -/
def shown (spans : List Span) (text : List Char) : List Visit :=
  shownFrom 0 spans 0 Option.none text

variable {depth : Int32} {span : Span} {spans : List Span} {position : Nat} {before : Option Char}
  {used text : List Char}

/-- Before the first token ends there is neither a hidden character nor a bracket. -/
theorem hides_and_depthAt_of_later (later : ∀ span ∈ spans, position ≤ span.start ∧ position < span.stop) :
    spans.any (·.hides position) = false ∧ depthAt spans position = 0 := by
  constructor
  · rw [List.any_eq_false]
    intro span member
    have := (later span member).1
    simp only [Span.hides, Bool.and_eq_true, decide_eq_true_eq]
    omega
  · have none : spans.filter (fun span => decide (span.stop ≤ position)) = [] := by
      rw [List.filter_eq_nil_iff]
      intro span member
      have := (later span member).2
      simp only [decide_eq_true_eq]
      omega
    rw [depthAt, none]
    rfl

/-- Characters before the end of the first token are all shown, unless they are hidden. -/
theorem shownFrom_append
    (plain : ∀ count < used.length,
      spans.any (·.hides (position + count)) = false ∧ depthAt spans (position + count) = 0) :
    shownFrom depth spans position before (used ++ text) =
      Scanner.cursors depth text before used ++
        shownFrom depth spans (position + used.length) (lastOf before used) text := by
  induction used generalizing position before with
  | nil => rfl
  | cons c used ih =>
      obtain ⟨visible, flat⟩ := plain 0 (by simp)
      have others : ∀ count < used.length,
          spans.any (·.hides (position + 1 + count)) = false ∧
            depthAt spans (position + 1 + count) = 0 := by
        intro count small
        have := plain (count + 1) (by simpa using small)
        rwa [← Nat.add_assoc, Nat.add_right_comm] at this
      rw [Nat.add_zero] at visible flat
      rw [List.cons_append, shownFrom, ih others, lastOf_cons, List.length_cons]
      simp only [visible, flat, Scanner.add_ofInt_zero, Bool.false_eq_true, if_false, Scanner.cursors,
        List.cons_append]
      rw [Nat.add_right_comm, Nat.add_assoc]

/-- Hidden characters are not shown. -/
theorem shownFrom_append_of_hidden
    (hidden : ∀ count < used.length, spans.any (·.hides (position + count)) = true) :
    shownFrom depth spans position before (used ++ text) =
      shownFrom depth spans (position + used.length) (lastOf before used) text := by
  induction used generalizing position before with
  | nil => rfl
  | cons c used ih =>
      have first : spans.any (·.hides position) = true := hidden 0 (by simp)
      have others : ∀ count < used.length, spans.any (·.hides (position + 1 + count)) = true := by
        intro count small
        have := hidden (count + 1) (by simpa using small)
        rwa [← Nat.add_assoc, Nat.add_right_comm] at this
      rw [List.cons_append, shownFrom, ih others, lastOf_cons, List.length_cons]
      simp only [first, if_true]
      rw [Nat.add_right_comm, Nat.add_assoc]

/-- Behind a token only its turn counts. -/
theorem shownFrom_cons_of_stop_le (behind : span.stop ≤ position) :
    shownFrom depth (span :: spans) position before text =
      shownFrom (depth + .ofInt span.token.turn) spans position before text := by
  induction text generalizing position before with
  | nil => rfl
  | cons c text ih =>
      have seen : span.hides position = false := by
        simp only [Span.hides, Bool.and_eq_false_iff, decide_eq_false_iff_not]
        omega
      have deeper : depthAt (span :: spans) position = span.token.turn + depthAt spans position := by
        simp [depthAt, behind]
      have later : span.stop ≤ position + 1 := by omega
      rw [shownFrom, shownFrom, ih later, List.any_cons, seen, Bool.false_or, deeper, Int32.ofInt_add, Int32.add_assoc]

/-- What a token shows is what no string hides of its characters. -/
theorem shownFrom_token {token : Token} {stop : Nat} (visible : used ≠ [])
    (isStop : stop = position + used.length)
    (later : ∀ span ∈ spans, stop ≤ span.start ∧ span.start < span.stop) :
    shownFrom depth (⟨token, position, stop⟩ :: spans) position before (used ++ text) =
      Scanner.shownOf token depth text before used ++
        shownFrom (depth + .ofInt token.turn) spans stop (lastOf before used) text := by
  have flat (count : Nat) (small : count < used.length) :
      spans.any (·.hides (position + count)) = false ∧ depthAt spans (position + count) = 0 := by
    apply hides_and_depthAt_of_later
    intro span member
    have := later span member
    omega
  have ended (count : Nat) (small : count < used.length) :
      depthAt (⟨token, position, stop⟩ :: spans) (position + count) = 0 := by
    have notBehind : ¬ stop ≤ position + count := by omega
    rw [← (flat count small).2]
    simp [depthAt, notBehind]
  have behind := @shownFrom_cons_of_stop_le depth ⟨token, position, stop⟩ spans stop (lastOf before used)
    text (Nat.le_refl stop)
  cases string : token.isString with
  | false =>
      have plain : ∀ count < used.length,
          (⟨token, position, stop⟩ :: spans).any (·.hides (position + count)) = false ∧
            depthAt (⟨token, position, stop⟩ :: spans) (position + count) = 0 := by
        intro count small
        refine ⟨?_, ended count small⟩
        rw [List.any_cons, (flat count small).1, Span.hides, string]
        rfl
      rw [shownFrom_append plain, ← isStop, behind]
      simp [Scanner.shownOf, string]
  | true =>
      obtain ⟨quote, inside, rfl⟩ := List.exists_cons_of_ne_nil visible
      -- The first quote is shown, and all characters behind it are hidden.
      have first : ∀ count < [quote].length,
          (⟨token, position, stop⟩ :: spans).any (·.hides (position + count)) = false ∧
            depthAt (⟨token, position, stop⟩ :: spans) (position + count) = 0 := by
        intro count small
        obtain rfl : count = 0 := by simpa using small
        refine ⟨?_, ended 0 (by simp)⟩
        rw [List.any_cons, (flat 0 (by simp)).1]
        simp [Span.hides]
      have hidden : ∀ count < inside.length,
          (⟨token, position, stop⟩ :: spans).any (·.hides (position + 1 + count)) = true := by
        intro count small
        have before : position < position + 1 + count := by omega
        have after : position + 1 + count < stop := by
          simp only [List.length_cons] at isStop
          omega
        simp [Span.hides, string, before, after]
      have start := @shownFrom_append depth (⟨token, position, stop⟩ :: spans) position before [quote]
        (inside ++ text) first
      have rest := @shownFrom_append_of_hidden depth (⟨token, position, stop⟩ :: spans) (position + 1)
        (some quote) inside text hidden
      have length : position + 1 + inside.length = stop := by
        simp only [List.length_cons] at isStop
        omega
      rw [length] at rest
      rw [lastOf_cons] at behind
      simp only [List.singleton_append, List.length_singleton, lastOf_cons, lastOf_nil] at start
      rw [List.cons_append, start, rest, behind]
      simp [Scanner.shownOf, string, Scanner.cursors]

/-- A character that is shown stands in the text where no string hides it, as deep as the tokens before it lead. -/
theorem exists_of_mem_shownFrom {visit : Visit}
    (member : visit ∈ shownFrom depth spans position before text) :
    text[visit.position text]? = some visit.char ∧ visit.after = text.drop (visit.position text + 1) ∧
      spans.any (·.hides (position + visit.position text)) = false ∧
      visit.depth = depth + .ofInt (depthAt spans (position + visit.position text)) := by
  suffices ∃ count < text.length, text[count]? = some visit.char ∧ visit.after = text.drop (count + 1) ∧
      spans.any (·.hides (position + count)) = false ∧
      visit.depth = depth + .ofInt (depthAt spans (position + count)) by
    obtain ⟨count, small, isChar, after, visible, deep⟩ := this
    have isPosition : visit.position text = count := by
      simp only [Visit.position, after, List.length_drop]
      omega
    rw [isPosition]
    exact ⟨isChar, after, visible, deep⟩
  induction text generalizing position before with
  | nil => cases member
  | cons c text ih =>
      have later (member : visit ∈ shownFrom depth spans (position + 1) (some c) text) :
          ∃ count < (c :: text).length, (c :: text)[count]? = some visit.char ∧
            visit.after = (c :: text).drop (count + 1) ∧
              spans.any (·.hides (position + count)) = false ∧
              visit.depth = depth + .ofInt (depthAt spans (position + count)) := by
        obtain ⟨count, small, isChar, after, visible, deep⟩ := ih member
        rw [Nat.add_assoc, Nat.add_comm 1] at visible deep
        exact ⟨count + 1, by simpa using small, by simpa using isChar, by simpa using after, visible, deep⟩
      rw [shownFrom] at member
      cases hidden : spans.any (·.hides position) with
      | true =>
          simp only [hidden, if_true] at member
          exact later member
      | false =>
          simp only [hidden, Bool.false_eq_true, if_false] at member
          rcases List.mem_cons.mp member with rfl | member
          · exact ⟨0, by simp, by simp, by simp, hidden, rfl⟩
          · exact later member

end Token

namespace Scanner

variable {text : List Char} {spans : List Token.Span}

/-- Of a text that has tokens a scan shows what no string hides. -/
theorem trace_spansFrom {position : Nat} (spanned : Token.spansFrom position text = .ok spans)
    (depth : Int32) (before : Option Char) :
    trace 0 before ⟨depth, none, false⟩ text =
      (Token.shownFrom depth spans position before text,
        ⟨depth + .ofInt (Token.balance (spans.map Token.Span.token)), none, false⟩) := by
  fun_induction Token.spansFrom position text generalizing depth before spans with
  | case1 =>
      cases spanned
      rw [trace_nil, List.map_nil, Token.balance, add_ofInt_zero]
      rfl
  | case2 position c rest blank ih =>
      have within := Token.within_of_spansFrom spanned
      have later : ∀ span ∈ spans, position ≤ span.start ∧ position < span.stop := by
        intro span member
        have := (within span member).start_le
        have := (within span member).start_lt_stop
        omega
      obtain ⟨visible, flat⟩ := Token.hides_and_depthAt_of_later later
      have stepped : step ⟨depth, none, false⟩ c ([] ++ rest) = (⟨depth, none, false⟩, 0) :=
        step_plain rfl (isPlain_of_isBlank blank) _
      refine (trace_passes_outside rfl stepped).trans ?_
      rw [lastOf_cons, lastOf_nil, ih spanned, Token.shownFrom]
      simp [visible, flat, preceded]
  | case3 => cases spanned
  | case4 => cases spanned
  | case5 position c rest visible token following read others spannedOthers ih =>
      cases spanned
      obtain ⟨used, split, passesToken⟩ := passesToken_readToken read
      have shorter := Token.length_of_readToken read
      have lengths := congrArg List.length split
      simp only [List.length_cons, List.length_append] at lengths
      have length : rest.length + 1 - following.length = used.length := by omega
      have nonempty : used ≠ [] := by
        rintro rfl
        simp only [List.length_nil] at lengths
        omega
      rw [length] at ih spannedOthers ⊢
      have within := Token.within_of_spansFrom spannedOthers
      have passed := passesToken.passes depth before [] unquoted_nil
      rw [List.append_nil, ← split, ih spannedOthers] at passed
      rw [passed, split, Token.shownFrom_token nonempty rfl fun span member =>
        ⟨(within span member).start_le, (within span member).start_lt_stop⟩]
      simp [preceded, Int32.add_assoc, Int32.ofInt_add]

/-- A scan of a text that has tokens ends at the first character at which its test holds among those that no string
hides, and otherwise outside all strings. -/
theorem feed_spans (spanned : Token.spans text = .ok spans) (stop : Visit → Bool) :
    ({} : Scanner).feed stop text =
      firstIn stop text
        (Token.shown spans text, ⟨.ofInt (Token.balance (spans.map Token.Span.token)), none, false⟩) := by
  have traced := trace_spansFrom spanned 0 none
  rw [Int32.zero_add] at traced
  rw [feed, regular_fresh.scan_eq_firstIn]
  exact congrArg (firstIn stop text) traced

end Scanner

namespace Source

variable {text : List Char} {spans : List Token.Span} {position : Nat}

/-- What is found in a text that has tokens is a character that no string hides. -/
theorem exists_of_find (spanned : Token.spans text = .ok spans) {test : Visit → Bool}
    (found : find test text = some position) :
    ∃ visit, test visit = true ∧ text[position]? = some visit.char ∧
      visit.after = text.drop (position + 1) ∧ spans.any (·.hides position) = false := by
  rw [find, Scanner.feed_spans spanned, Scanner.firstIn] at found
  cases first : (Token.shown spans text).find? test with
  | none =>
      rw [first] at found
      cases found
  | some visit =>
      rw [first] at found
      cases found
      obtain ⟨isChar, after, visible, -⟩ := Token.exists_of_mem_shownFrom (List.mem_of_find?_eq_some first)
      rw [Nat.zero_add] at visible
      exact ⟨visit, List.find?_some first, isChar, after, visible⟩

/-- What is found in a string of a text that has tokens is the quote that opens it. -/
theorem quote_of_find (spanned : Token.spans text = .ok spans) {test : Visit → Bool}
    (found : find test text = some position) {span : Token.Span} (member : span ∈ spans)
    (quoted : span.quotes position) :
    ∃ visit, test visit = true ∧ text[position]? = some visit.char ∧ span.start = position ∧ QuoteMark visit.char := by
  obtain ⟨visit, holds, isChar, -, visible⟩ := exists_of_find spanned found
  obtain ⟨string, start, stop⟩ := quoted
  have notHidden := List.any_eq_false.mp visible span member
  have isStart : span.start = position := by
    simp only [Token.Span.hides, string, Bool.true_and, Bool.and_eq_true, decide_eq_true_eq] at notHidden
    omega
  obtain ⟨c, first, isQuote⟩ := (Token.within_of_spansFrom spanned span member).quote string
  rw [isStart, Nat.sub_zero, isChar] at first
  obtain rfl : visit.char = c := Option.some.inj first
  exact ⟨visit, holds, isChar, isStart, isQuote⟩

/-- A character other than a quote that is found in a text that has tokens belongs to no string. -/
theorem not_quotes_of_find (spanned : Token.spans text = .ok spans) {test : Visit → Bool}
    (blind : ∀ visit, test visit = true → ¬ QuoteMark visit.char)
    (found : find test text = some position) : ∀ span ∈ spans, ¬ span.quotes position := by
  intro span member quoted
  obtain ⟨visit, holds, -, -, isQuote⟩ := quote_of_find spanned found member quoted
  exact blind visit holds isQuote

/-- A word is found where its first character stands. -/
theorem head_of_findsWord {word : List Char} {visit : Visit}
    (found : (Text.dropStart? word (visit.char :: visit.after)).isSome = true) : ∀ c ∈ word.head?, c = visit.char := by
  cases word with
  | nil => simp
  | cons first others =>
      by_cases same : first = visit.char
      · simp [same]
      · simp [Text.dropStart?, same] at found

/-- The scanner and the reader of tokens agree on strings and brackets.  Whatever a scan of a text that has tokens looks
for, it is shown exactly the characters that no string hides behind its first quote, each as deep as the tokens before it
lead, and it ends outside all strings.  The depth is kept in 32 bits, so it is exact as long as the number fits.  Nothing
is found behind the first quote of a string; what is not a quote is not found in a string at all, and a word only at the
first quote of a string, if it is empty or begins with that quote. -/
theorem scan_agrees_with_tokens {text : List Char} {tokens : List Token}
    (lexed : Token.ofText text = .ok tokens) :
    ∃ spans, Token.spans text = .ok spans ∧ spans.map Token.Span.token = tokens ∧
      (∀ stop, ({} : Scanner).feed stop text =
        Scanner.firstIn stop text (Token.shown spans text, ⟨.ofInt (Token.balance tokens), none, false⟩)) ∧
      (∀ visit ∈ Token.shown spans text,
        let brackets := Token.depthAt spans (visit.position text)
        visit.depth = .ofInt brackets ∧
          (Int32.minValue.toInt ≤ brackets → brackets ≤ Int32.maxValue.toInt → visit.depth.toInt = brackets)) ∧
      (∀ test position, find test text = some position → ∀ span ∈ spans, span.hides position = false) ∧
      (∀ c position, ¬ QuoteMark c → findUnquoted c text = some position ∨ findTopLevel c text = some position →
        ∀ span ∈ spans, ¬ span.quotes position) ∧
      (∀ position, findAssign text = some position → ∀ span ∈ spans, ¬ span.quotes position) ∧
      ∀ word position, findWord word text = some position → ∀ span ∈ spans, span.quotes position →
        span.start = position ∧ ∀ c ∈ word.head?, QuoteMark c ∧ text[position]? = some c := by
  have erased := Token.ofText_eq_spansFrom 0 text
  rw [lexed] at erased
  cases spanned : Token.spansFrom 0 text with
  | error fault =>
      rw [spanned] at erased
      cases erased
  | ok spans =>
      rw [spanned] at erased
      obtain rfl : tokens = spans.map Token.Span.token := Except.ok.inj erased
      refine ⟨spans, spanned, rfl, Scanner.feed_spans spanned, ?_, ?_, ?_, ?_, ?_⟩
      · intro visit shown brackets
        obtain ⟨-, -, -, deep⟩ := Token.exists_of_mem_shownFrom shown
        have isDepth : visit.depth = .ofInt brackets := by
          rw [deep, Int32.zero_add, Nat.zero_add]
        refine ⟨isDepth, fun least most => ?_⟩
        rw [isDepth]
        exact Int32.toInt_ofInt_of_le least (Int.lt_add_one_of_le most)
      · intro test position found span member
        obtain ⟨visit, -, -, -, visible⟩ := exists_of_find spanned found
        simpa using List.any_eq_false.mp visible span member
      · rintro c position notQuote (found | found)
        · apply not_quotes_of_find spanned _ found
          intro visit holds
          rwa [beq_iff_eq.mp holds]
        · apply not_quotes_of_find spanned _ found
          intro visit holds
          simp only [Bool.and_eq_true, beq_iff_eq] at holds
          rwa [holds.1]
      · intro position found
        apply not_quotes_of_find spanned _ found
        intro visit holds
        simp only [Bool.and_eq_true, beq_iff_eq] at holds
        rw [holds.1.1.1]
        decide
      · intro word position found span member quoted
        obtain ⟨visit, holds, isChar, isStart, isQuote⟩ := quote_of_find spanned found member quoted
        have starts : (Text.dropStart? word (visit.char :: visit.after)).isSome = true := by
          cases dropped : Text.dropStart? word (visit.char :: visit.after) with
          | none => simp [dropped] at holds
          | some rest => rfl
        refine ⟨isStart, fun c first => ?_⟩
        rw [head_of_findsWord starts c first]
        exact ⟨isQuote, isChar⟩

/-- The sign of equality, the bracket and the quote in a string are passed over. -/
theorem scan_agrees_with_tokens_quoted :
    ∃ spans, Token.spans "['(\\'=', x] = \"]\"".toList = .ok spans ∧
      spans.map Token.Span.token =
        [.bracketLeft, .string "('=", .comma, .name "x", .bracketRight, .assign, .string "]"] ∧
      findAssign "['(\\'=', x] = \"]\"".toList = some 12 ∧ ∀ span ∈ spans, ¬ span.quotes 12 := by
  have lexed : Token.ofText "['(\\'=', x] = \"]\"".toList =
      .ok [.bracketLeft, .string "('=", .comma, .name "x", .bracketRight, .assign, .string "]"] := by
    cbv
  have found : findAssign "['(\\'=', x] = \"]\"".toList = some 12 := by
    decide +kernel
  obtain ⟨spans, spanned, same, -, -, -, -, outside, -⟩ := scan_agrees_with_tokens lexed
  exact ⟨spans, spanned, same, found, outside 12 found⟩

/-- A word that begins with a quote is found at the quote that opens a string. -/
example : findWord "'a'".toList "'a'".toList = some 0 := by
  decide +kernel

end Source

end GroupScript
