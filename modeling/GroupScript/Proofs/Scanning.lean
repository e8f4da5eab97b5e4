import GroupScript.Proofs.Trimming
import GroupScript.Source.Scanner

/-!
# Scanning a text in pieces

A scan looks ahead only for the two further quotes of a triple quote.  A text can therefore be scanned in pieces, the
second from where the first has led, unless the first ends and the second begins with a quote.
-/

namespace GroupScript

/-- The characters that begin and end strings. -/
abbrev QuoteMark (c : Char) : Prop :=
  c = '\'' ∨ c = '"'

/-- A text that does not begin with a quote. -/
def Unquoted (text : List Char) : Prop :=
  ∀ c ∈ text.head?, ¬ QuoteMark c

theorem unquoted_nil : Unquoted [] := by
  simp [Unquoted]

theorem unquoted_cons {c : Char} {rest : List Char} : Unquoted (c :: rest) ↔ ¬ QuoteMark c := by
  simp [Unquoted]

theorem startsWithTwo_append {quote : Char} (isQuote : QuoteMark quote) (text : List Char)
    {rest : List Char} (unquoted : Unquoted rest) :
    Token.startsWithTwo quote (text ++ rest) = Token.startsWithTwo quote text := by
  have other {c : Char} {more : List Char} (begins : rest = c :: more) : c ≠ quote := by
    rintro rfl
    exact unquoted_cons.mp (begins ▸ unquoted) isQuote
  match text, rest with
  | [], [] => rfl
  | [], [c] => rfl
  | [], c :: d :: more => simp [Token.startsWithTwo, other rfl]
  | [c], [] => rfl
  | [c], d :: more => simp [Token.startsWithTwo, other rfl]
  | c :: d :: text, rest => rfl

theorem getLast?_cons_of_drop {c d : Char} {text : List Char} {count : Nat}
    (last : (text.drop count).getLast? = some d) : (c :: text).getLast? = some d := by
  rw [List.getLast?_drop] at last
  split at last
  · cases last
  · cases text with
    | nil => cases last
    | cons e text => rwa [List.getLast?_cons_cons]

/-- Two texts between which no quote meets another one. -/
def Apart (text rest : List Char) : Prop :=
  Unquoted rest ∨ ∀ c ∈ text.getLast?, ¬ QuoteMark c

theorem Unquoted.apart {rest : List Char} (unquoted : Unquoted rest) (text : List Char) :
    Apart text rest :=
  .inl unquoted

theorem Apart.startsWithTwo_append {quote : Char} (isQuote : QuoteMark quote) {text rest : List Char}
    (apart : Apart (quote :: text) rest) :
    Token.startsWithTwo quote (text ++ rest) = Token.startsWithTwo quote text := by
  rcases apart with unquoted | ended
  · exact GroupScript.startsWithTwo_append isQuote text unquoted
  · match text with
    | [] => exact absurd isQuote (ended quote rfl)
    | [c] =>
        have other : c ≠ quote := by
          rintro rfl
          exact ended c rfl isQuote
        cases rest with
        | nil => rfl
        | cons d rest => simp [Token.startsWithTwo, other]
    | c :: d :: text => rfl

theorem Apart.drop {c : Char} {text rest : List Char} (apart : Apart (c :: text) rest) (count : Nat) :
    Apart (text.drop count) rest := by
  rcases apart with unquoted | ended
  · exact unquoted.apart _
  · exact .inr fun d last => ended d (getLast?_cons_of_drop last)

theorem length_of_startsWithTwo {quote : Char} {text : List Char}
    (starts : Token.startsWithTwo quote text = true) : 2 ≤ text.length := by
  match text with
  | [] => cases starts
  | [c] => cases starts
  | c :: d :: text => simp

namespace Scanner

/-- A state that scanning can reach: only quotes open strings, and only inside a string is a character escaped. -/
structure Regular (scanner : Scanner) : Prop where
  mark : ∀ quote ∈ scanner.quote, QuoteMark quote.mark
  outside : scanner.quote = none → scanner.escaped = false

theorem regular_fresh : Regular {} where
  mark := by simp
  outside _ := rfl

theorem Regular.step {scanner : Scanner} (regular : scanner.Regular) (c : Char)
    (rest : List Char) : (scanner.step c rest).1.Regular := by
  obtain ⟨depth, quote, escaped⟩ := scanner
  obtain ⟨mark, outside⟩ := regular
  cases quote with
  | none =>
      obtain rfl : escaped = false := outside rfl
      simp only [Scanner.step, stepOutside]
      split
      · rename_i isQuote
        exact ⟨by simpa using isQuote, nofun⟩
      · split
        · exact ⟨by simp, fun _ => rfl⟩
        · split <;> exact ⟨by simp, fun _ => rfl⟩
  | some quote =>
      simp only [Scanner.step, stepInside]
      cases escaped with
      | true => exact ⟨mark, nofun⟩
      | false =>
          simp only [Bool.false_eq_true, if_false]
          split
          · exact ⟨mark, nofun⟩
          · split
            · split
              · split
                · exact ⟨by simp, fun _ => rfl⟩
                · exact ⟨mark, nofun⟩
              · exact ⟨by simp, fun _ => rfl⟩
            · exact ⟨mark, nofun⟩

/-- A step looks past the end of a text only for quotes. -/
theorem Regular.step_append {scanner : Scanner} (regular : scanner.Regular) (c : Char)
    {text rest : List Char} (apart : Apart (c :: text) rest) :
    scanner.step c (text ++ rest) = scanner.step c text := by
  obtain ⟨depth, quote, escaped⟩ := scanner
  cases quote with
  | none =>
      simp only [Scanner.step, stepOutside]
      split
      · rename_i isQuote
        rw [apart.startsWithTwo_append isQuote]
      · rfl
  | some quote =>
      simp only [Scanner.step, stepInside]
      by_cases closes : c = quote.mark
      · have isQuote : QuoteMark c := closes ▸ regular.mark quote rfl
        rw [apart.startsWithTwo_append isQuote]
      · simp only [closes, if_false]

theorem skipped_step_le (scanner : Scanner) (c : Char) (rest : List Char) :
    (scanner.step c rest).2 ≤ rest.length := by
  have enough := @length_of_startsWithTwo c rest
  simp only [step, stepInside, stepOutside]
  grind

/-- Induction along the steps of a scan. -/
@[elab_as_elim]
theorem stepInduction {motive : Scanner → List Char → Prop}
    (nil : ∀ scanner, motive scanner [])
    (cons : ∀ scanner c rest,
      motive (scanner.step c rest).1 (rest.drop (scanner.step c rest).2) →
        motive scanner (c :: rest))
    (scanner : Scanner) (text : List Char) : motive scanner text := by
  induction count : text.length using Nat.strongRecOn generalizing scanner text with
  | ind length ih =>
      cases text with
      | nil => exact nil scanner
      | cons c rest =>
          refine cons scanner c rest (ih _ ?_ _ _ rfl)
          simp only [← count, List.length_drop, List.length_cons]
          omega

/-- Moves the position of a result. -/
def moved (count : Nat) (result : Option Nat × Scanner) : Option Nat × Scanner :=
  (result.1.map (· + count), result.2)

@[simp]
theorem moved_zero (result : Option Nat × Scanner) : moved 0 result = result := by
  simp [moved]

@[simp]
theorem moved_moved (first second : Nat) (result : Option Nat × Scanner) :
    moved first (moved second result) = moved (second + first) result := by
  simp [moved, Function.comp_def, Nat.add_assoc]

@[simp]
theorem moved_snd (count : Nat) (result : Option Nat × Scanner) :
    (moved count result).2 = result.2 :=
  rfl

theorem moved_fst_eq_none {count : Nat} {result : Option Nat × Scanner} :
    (moved count result).1 = none ↔ result.1 = none := by
  simp [moved]

theorem moved_eq_some {count position : Nat} {result : Option Nat × Scanner} {after : Scanner} :
    moved count result = (some position, after) ↔
      ∃ place, result = (some place, after) ∧ position = place + count := by
  obtain ⟨found, reached⟩ := result
  cases found with
  | none => simp [moved]
  | some place =>
      constructor
      · intro equal
        cases equal
        exact ⟨place, rfl, rfl⟩
      · rintro ⟨_, ⟨⟩, rfl⟩
        rfl

/-- A test that sees a character and its depth, but not what stands around it. -/
def seeing (test : Char → Int32 → Bool) (visit : Visit) : Bool :=
  test visit.char visit.depth

/-- Takes in a text up to the first character outside strings at which a test of it and its depth holds. -/
def search (test : Char → Int32 → Bool) (scanner : Scanner) (text : List Char) :
    Option Nat × Scanner :=
  scan (seeing test) 0 none scanner text

variable {test : Char → Int32 → Bool} {skipped : Nat} {before other : Option Char}
  {scanner after : Scanner} {text rest : List Char}

/-- What stands before a text does not matter to a test that does not see it. -/
theorem scan_seeing (before other : Option Char) :
    scan (seeing test) skipped before scanner text =
      scan (seeing test) skipped other scanner text := by
  cases text with
  | nil => cases skipped <;> rfl
  | cons c rest => cases skipped <;> rfl

theorem scan_skipped (enough : skipped ≤ text.length) :
    scan (seeing test) skipped before scanner text =
      moved skipped (search test scanner (text.drop skipped)) := by
  induction skipped generalizing before text with
  | zero => simpa [search] using scan_seeing before none
  | succ skipped ih =>
      cases text with
      | nil => simp at enough
      | cons c text =>
          rw [scan, ih (by simpa using enough)]
          exact moved_moved 1 skipped _

theorem search_nil : search test scanner [] = (none, scanner) :=
  rfl

theorem search_found {c : Char} (outside : scanner.quote = none)
    (holds : test c scanner.depth = true) : search test scanner (c :: rest) = (some 0, scanner) := by
  simp [search, scan, seeing, inString, outside, holds]

/-- A search that does not end at a character goes on behind what belongs to it. -/
theorem search_step {c : Char} (missed : scanner.quote = none → test c scanner.depth = false) :
    search test scanner (c :: rest) =
      moved ((scanner.step c rest).2 + 1)
        (search test (scanner.step c rest).1 (rest.drop (scanner.step c rest).2)) := by
  have goesOn : (!scanner.inString && seeing test ⟨none, c, rest, scanner.depth⟩) = false := by
    cases outside : scanner.quote with
    | none => simp [seeing, missed outside]
    | some quote => simp [inString, outside]
  rw [search, scan, goesOn]
  change moved 1 (scan (seeing test) (scanner.step c rest).2 (some c) (scanner.step c rest).1 rest) = _
  rw [scan_skipped (skipped_step_le scanner c rest)]
  exact moved_moved 1 _ _

theorem missed_of_search {c : Char} (missed : (search test scanner (c :: rest)).1 = none)
    (outside : scanner.quote = none) : test c scanner.depth = false := by
  cases holds : test c scanner.depth with
  | false => rfl
  | true =>
      rw [search_found outside holds] at missed
      cases missed

/-- A search that finds nothing in a text goes on in what follows it. -/
theorem search_append (regular : scanner.Regular) (apart : Apart text rest)
    (missed : (search test scanner text).1 = none) :
    search test scanner (text ++ rest) =
      moved text.length (search test (search test scanner text).2 rest) := by
  induction scanner, text using stepInduction with
  | nil scanner => simp [search_nil]
  | cons scanner c text ih =>
      have goesOn := missed_of_search missed
      have enough := skipped_step_le scanner c text
      rw [search_step goesOn] at missed ⊢
      rw [List.cons_append, search_step goesOn, regular.step_append c apart,
        List.drop_append_of_le_length enough,
        ih (regular.step c text) (apart.drop _) (moved_fst_eq_none.mp missed), moved_moved, moved_snd]
      congr 1
      simp only [List.length_drop, List.length_cons]
      omega

/-- A search that finds a character has taken in the text before it. -/
theorem search_eq_some {position : Nat} (regular : scanner.Regular)
    (blind : ∀ c depth, QuoteMark c → test c depth = false)
    (found : search test scanner text = (some position, after)) :
    ∃ first c rest, text = first ++ c :: rest ∧ first.length = position ∧
      test c after.depth = true ∧ after.quote = none ∧ search test scanner first = (none, after) := by
  induction scanner, text using stepInduction generalizing position with
  | nil scanner => cases found
  | cons scanner c text ih =>
      by_cases stops : scanner.quote = none ∧ test c scanner.depth = true
      · obtain ⟨outside, holds⟩ := stops
        rw [search_found outside holds] at found
        cases found
        exact ⟨[], c, text, rfl, rfl, holds, outside, rfl⟩
      · have goesOn : scanner.quote = none → test c scanner.depth = false := by
          intro outside
          simpa [outside] using stops
        have enough := skipped_step_le scanner c text
        rw [search_step goesOn] at found
        obtain ⟨place, inside, rfl⟩ := moved_eq_some.mp found
        obtain ⟨first, d, rest, split, rfl, holds, outside, led⟩ := ih (regular.step c text) inside
        have whole : text = (text.take (scanner.step c text).2 ++ first) ++ d :: rest := by
          rw [List.append_assoc, ← split, List.take_append_drop]
        have unquoted : Unquoted (d :: rest) := by
          refine unquoted_cons.mpr fun isQuote => ?_
          rw [blind d _ isQuote] at holds
          cases holds
        -- The text before the found character is scanned alike when nothing follows it.
        have sameStep := regular.step_append c
          (unquoted.apart (c :: (text.take (scanner.step c text).2 ++ first)))
        rw [← whole] at sameStep
        refine ⟨c :: (text.take (scanner.step c text).2 ++ first), d, rest, ?_, ?_, holds, outside, ?_⟩
        · exact congrArg (c :: ·) whole
        · simp only [List.length_cons, List.length_append, List.length_take]
          omega
        · rw [search_step goesOn, ← sameStep, List.drop_left' (by simp [enough]), led]
          rfl

/-- What is found in a text is also found if more follows. -/
theorem search_append_of_found {position : Nat} (regular : scanner.Regular)
    (blind : ∀ c depth, QuoteMark c → test c depth = false)
    (found : search test scanner text = (some position, after)) (rest : List Char) :
    search test scanner (text ++ rest) = (some position, after) := by
  obtain ⟨first, c, others, rfl, rfl, holds, outside, missed⟩ := search_eq_some regular blind found
  have unquoted : Unquoted (c :: (others ++ rest)) := by
    apply unquoted_cons.mpr
    intro isQuote
    rw [blind c _ isQuote] at holds
    cases holds
  have goesOn : (search test scanner first).1 = none := by rw [missed]
  rw [List.append_assoc, List.cons_append, search_append regular (unquoted.apart first) goesOn, missed,
    search_found outside holds]
  simp [moved]

/-- A search for a mark other than a quote passes over every quote. -/
theorem blind_mark {mark : Char} (unquoted : ¬ QuoteMark mark) (c : Char) (_ : Int32) (isQuote : QuoteMark c) :
    (c == mark) = false := by
  apply beq_eq_false_iff_ne.mpr
  rintro rfl
  exact unquoted isQuote

theorem search_mark_eq_some {mark : Char} {position : Nat} (regular : scanner.Regular) (unquoted : ¬ QuoteMark mark)
    (found : search (fun c _ => c == mark) scanner text = (some position, after)) :
    ∃ first rest, text = first ++ mark :: rest ∧ first.length = position ∧ after.quote = none ∧
      search (fun c _ => c == mark) scanner first = (none, after) := by
  obtain ⟨first, c, rest, split, isPosition, isMark, outside, led⟩ := search_eq_some regular (blind_mark unquoted) found
  obtain rfl : c = mark := eq_of_beq isMark
  exact ⟨first, rest, split, isPosition, outside, led⟩

/-- The state that all of a text leads to. -/
def through (scanner : Scanner) (text : List Char) : Scanner :=
  (search (fun _ _ => false) scanner text).2

theorem through_cons (c : Char) :
    scanner.through (c :: rest) =
      (scanner.step c rest).1.through (rest.drop (scanner.step c rest).2) := by
  rw [through, search_step (fun _ => rfl)]
  rfl

theorem Regular.through (regular : scanner.Regular) (text : List Char) :
    (scanner.through text).Regular := by
  induction scanner, text using stepInduction with
  | nil scanner => exact regular
  | cons scanner c text ih =>
      rw [through_cons]
      exact ih (regular.step c text)

theorem search_never (scanner : Scanner) (text : List Char) :
    (search (fun _ _ => false) scanner text).1 = none := by
  induction scanner, text using stepInduction with
  | nil scanner => rfl
  | cons scanner c text ih =>
      rw [search_step (fun _ => rfl), moved_fst_eq_none]
      exact ih

/-- A search that finds nothing takes in all of the text. -/
theorem through_eq_of_search (missed : (search test scanner text).1 = none) :
    scanner.through text = (search test scanner text).2 := by
  induction scanner, text using stepInduction with
  | nil scanner => rfl
  | cons scanner c text ih =>
      have goesOn := missed_of_search missed
      rw [search_step goesOn] at missed ⊢
      rw [through_cons, moved_snd]
      exact ih (moved_fst_eq_none.mp missed)

/-- A text in two pieces leads where the second leads from where the first has led. -/
theorem through_append (regular : scanner.Regular) (apart : Apart text rest) :
    scanner.through (text ++ rest) = (scanner.through text).through rest := by
  rw [through, search_append regular apart (search_never scanner text)]
  rfl

/-- Only a backslash escapes a character. -/
theorem Regular.of_escaped_step {c : Char} (regular : scanner.Regular)
    (escaped : (scanner.step c rest).1.escaped = true) : c = '\\' ∧ (scanner.step c rest).2 = 0 := by
  obtain ⟨depth, quote, pending⟩ := scanner
  cases quote with
  | none =>
      obtain rfl : pending = false := regular.outside rfl
      simp only [Scanner.step, stepOutside] at escaped
      grind
  | some quote =>
      simp only [Scanner.step, stepInside] at escaped ⊢
      grind

/-- A text after which a character is escaped ends with a backslash. -/
theorem Regular.getLast?_of_escaped (regular : scanner.Regular)
    (escaped : (scanner.through text).escaped = true) :
    text = [] ∧ scanner.escaped = true ∨ text.getLast? = some '\\' := by
  induction scanner, text using stepInduction with
  | nil scanner => exact .inl ⟨rfl, escaped⟩
  | cons scanner c text ih =>
      right
      rw [through_cons] at escaped
      rcases ih (regular.step c text) escaped with ⟨ended, pending⟩ | last
      · obtain ⟨rfl, none⟩ := regular.of_escaped_step pending
        rw [none, List.drop_zero] at ended
        rw [ended]
        rfl
      · exact getLast?_cons_of_drop last

/-- The state in which no character is escaped any more. -/
def settled (scanner : Scanner) : Scanner :=
  { scanner with escaped := false }

theorem Regular.settled (regular : scanner.Regular) : scanner.settled.Regular where
  mark := regular.mark
  outside _ := rfl

theorem settled_of_escaped (quiet : scanner.escaped = false) : scanner.settled = scanner := by
  obtain ⟨depth, quote, escaped⟩ := scanner
  cases quiet
  rfl

theorem Regular.settled_eq (regular : scanner.Regular) (outside : scanner.quote = none) :
    scanner.settled = scanner :=
  settled_of_escaped (regular.outside outside)

/-- The characters that begin or end strings and brackets. -/
def structuralMarks : List Char :=
  ['\'', '"', '(', '[', '\x7b', ')', ']', '\x7d']

/-- Whether a character outside strings leaves the state as it is. -/
def isPlain (c : Char) : Bool :=
  !structuralMarks.contains c

theorem step_plain (outside : scanner.quote = none) {c : Char} (plain : isPlain c = true)
    (rest : List Char) : scanner.step c rest = (scanner, 0) := by
  simp only [isPlain, structuralMarks, List.contains_cons, List.contains_nil, Bool.or_false,
    Bool.not_eq_true', Bool.or_eq_false_iff, beq_eq_false_iff_ne] at plain
  simp [step, outside, stepOutside, plain]

/-- A class of characters without structural marks consists of plain ones. -/
theorem isPlain_of_class {accept : Char → Bool}
    (others : (structuralMarks.all fun c => !accept c) = true) {c : Char} (accepted : accept c = true) :
    isPlain c = true := by
  cases found : structuralMarks.contains c with
  | false => rw [isPlain, found, Bool.not_false]
  | true =>
      have rejected := List.all_eq_true.mp others c (List.contains_iff_mem.mp found)
      rw [accepted] at rejected
      cases rejected

theorem isPlain_of_isBlank {c : Char} (blank : Text.isBlank c = true) : isPlain c = true :=
  isPlain_of_class (by decide) blank

/-- A blank does nothing but to be the character that is escaped. -/
theorem Regular.step_blank (regular : scanner.Regular) {c : Char} (blank : Text.isBlank c = true)
    (rest : List Char) : scanner.step c rest = (scanner.settled, 0) := by
  obtain ⟨depth, quote, escaped⟩ := scanner
  cases quote with
  | none => rw [step_plain rfl (isPlain_of_isBlank blank), regular.settled_eq rfl]
  | some quote =>
      have notBackslash : c ≠ '\\' := Text.ne_of_isBlank blank rfl
      have notMark : c ≠ quote.mark := by
        rcases regular.mark quote rfl with isMark | isMark
        · exact Text.ne_of_isBlank blank (isMark ▸ rfl)
        · exact Text.ne_of_isBlank blank (isMark ▸ rfl)
      cases escaped with
      | true => rfl
      | false => simp [Scanner.step, stepInside, Scanner.settled, notBackslash, notMark]

theorem unquoted_of_isBlank {c : Char} (blank : Text.isBlank c = true) : Unquoted (c :: rest) := by
  refine unquoted_cons.mpr ?_
  rintro (rfl | rfl) <;> cases blank

theorem unquoted_of_isAllBlank {blanks : List Char} (blank : Text.isAllBlank blanks = true) :
    Unquoted blanks := by
  cases blanks with
  | nil => exact unquoted_nil
  | cons c blanks => exact unquoted_of_isBlank (Text.isAllBlank_cons.mp blank).1

theorem Regular.through_blank (regular : scanner.Regular) {c : Char}
    (blank : Text.isBlank c = true) (rest : List Char) :
    scanner.through (c :: rest) = scanner.settled.through rest := by
  rw [through_cons, regular.step_blank blank]
  rfl

theorem Regular.quote_through_blanks (regular : scanner.Regular) {blanks : List Char}
    (blank : Text.isAllBlank blanks = true) : (scanner.through blanks).quote = scanner.quote := by
  induction blanks generalizing scanner with
  | nil => rfl
  | cons c blanks ih =>
      obtain ⟨first, others⟩ := Text.isAllBlank_cons.mp blank
      rw [regular.through_blank first, ih regular.settled others]
      rfl

theorem Regular.through_blanks (regular : scanner.Regular) (outside : scanner.quote = none)
    {blanks : List Char} (blank : Text.isAllBlank blanks = true) :
    scanner.through blanks = scanner := by
  induction blanks with
  | nil => rfl
  | cons c blanks ih =>
      obtain ⟨first, others⟩ := Text.isAllBlank_cons.mp blank
      rw [regular.through_blank first, regular.settled_eq outside, ih others]

/-- The blanks at the end of a text that ends outside strings do not count. -/
theorem Regular.through_trimEnd (regular : scanner.Regular)
    (outside : (scanner.through text).quote = none) :
    scanner.through (Text.trimEnd text) = scanner.through text := by
  obtain ⟨blanks, blank, split⟩ := Text.exists_trimEnd_eq text
  have joined := through_append regular ((unquoted_of_isAllBlank blank).apart (Text.trimEnd text))
  have reached := regular.through (Text.trimEnd text)
  rw [← split] at joined
  rw [joined, reached.quote_through_blanks blank] at outside
  rw [joined, reached.through_blanks outside blank]

end Scanner

namespace Source

theorem findUnquoted_eq_search (c : Char) (text : List Char) :
    findUnquoted c text = (Scanner.search (fun d _ => d == c) {} text).1 :=
  rfl

theorem findTopLevel_eq_search (c : Char) (text : List Char) :
    findTopLevel c text = (Scanner.search (fun d depth => d == c && depth == 0) {} text).1 :=
  rfl

theorem stripComment_of_missed {scanner : Scanner} {text : List Char}
    (missed : (scanner.search (fun c _ => c == '#') text).1 = none) :
    stripComment scanner text = (text, (scanner.search (fun c _ => c == '#') text).2.endLine) := by
  have fed : scanner.feed (fun visit => visit.char == '#') text =
      (none, (scanner.search (fun c _ => c == '#') text).2) :=
    Prod.ext missed rfl
  rw [stripComment, fed]

theorem stripComment_of_found {scanner after : Scanner} {text : List Char} {position : Nat}
    (found : scanner.search (fun c _ => c == '#') text = (some position, after)) :
    stripComment scanner text = (Text.trimEnd (text.take position), after.endLine) := by
  have fed : scanner.feed (fun visit => visit.char == '#') text = (some position, after) := found
  rw [stripComment, fed]

end Source

end GroupScript
