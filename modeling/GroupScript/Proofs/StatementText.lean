import GroupScript.Proofs.Separators
import GroupScript.Proofs.SettledParts

/-!
# The text of a statement and its first line

The text of a statement that is compiled is made up of settled parts and of arguments around which brackets are put
before they are read, so that the arguments can close a bracket which they do not open.  Both can be told from the first
line of the statement: the brackets on it are matched exactly if they are in the arguments on it.
-/

namespace GroupScript

open Source

/-! ### Brackets in sight -/

section Sight

variable {front text rest : List Char}

theorem Settles.matched_sight (settles : Settles text) : Matched (({} : Scanner).sight text) := by
  rw [Scanner.matched_sight_iff settles.uncommented, settles.closes]
  rfl

/-- A settled text has no part in whether the brackets behind it are matched. -/
theorem Settles.matched_sight_append (settles : Settles front) (apart : Apart front text) :
    Matched (({} : Scanner).sight (front ++ text)) ↔ Matched (({} : Scanner).sight text) := by
  have visible : ∀ c ∈ ({} : Scanner).shown front, (c != '#') = true :=
    fun c member => bne_iff_ne.mpr fun same => settles.uncommented (same ▸ member)
  rw [matched_iff_openAfter, matched_iff_openAfter, Scanner.sight, Scanner.sight, Scanner.openAfter_unquoted,
    Scanner.openAfter_unquoted, Scanner.regular_fresh.shown_append apart,
    ((Scanner.regular_fresh.through front).shown_of_outside settles.ends text).1,
    List.takeWhile_append_of_pos visible, openAfter_append, settles.closes, Option.bind_some]

theorem matched_sight_after_quiet (quiet : ∀ c ∈ front, isQuiet c = true) :
    Matched (({} : Scanner).sight (front ++ text)) ↔ Matched (({} : Scanner).sight text) :=
  (Settles.of_quiet quiet).matched_sight_append (.of_quiet quiet text)

theorem matched_sight_cons {c : Char} (quiet : isQuiet c = true) :
    Matched (({} : Scanner).sight (c :: text)) ↔ Matched (({} : Scanner).sight text) :=
  @matched_sight_after_quiet [c] text (by simpa using quiet)

theorem matched_sight_of_append (unquoted : Unquoted rest) (matched : Matched (({} : Scanner).sight (text ++ rest))) :
    Matched (({} : Scanner).sight text) := by
  rw [Scanner.sight, Scanner.regular_fresh.shown_append (unquoted.apart text), List.takeWhile_append] at matched
  split at matched
  · rename_i whole
    rw [List.filter_append] at matched
    rw [Scanner.sight, (List.takeWhile_prefix _).eq_of_length whole]
    exact matched.left
  · exact matched

theorem Scanner.mem_of_mem_shown {scanner : Scanner} {c : Char} (seen : c ∈ scanner.shown text) : c ∈ text := by
  obtain ⟨visit, visited, rfl⟩ := List.mem_map.mp seen
  obtain ⟨first, rfl⟩ := exists_of_mem_trace visited
  simp

theorem matched_sight_before_blanks {blanks : List Char} (blank : Text.isAllBlank blanks = true) :
    Matched (({} : Scanner).sight (text ++ blanks)) ↔ Matched (({} : Scanner).sight text) := by
  have apart := (Scanner.unquoted_of_isAllBlank blank).apart text
  refine ⟨matched_sight_of_append (Scanner.unquoted_of_isAllBlank blank), fun matched => ?_⟩
  have plain : ∀ c ∈ ((({} : Scanner).through text).shown blanks).takeWhile (· != '#'), isBracket c = false := by
    intro c member
    have isBlank := Scanner.mem_of_mem_shown ((List.takeWhile_prefix _).subset member)
    exact Scanner.isBracket_of_isPlain (Scanner.isPlain_of_isBlank (List.all_eq_true.mp blank c isBlank))
  rw [matched_iff_openAfter, Scanner.sight, Scanner.openAfter_unquoted] at matched ⊢
  rw [Scanner.regular_fresh.shown_append apart, List.takeWhile_append]
  split
  · rename_i whole
    rw [(List.takeWhile_prefix _).eq_of_length whole] at matched
    obtain ⟨opened, accepted⟩ := Option.isSome_iff_exists.mp matched
    rw [openAfter_append, accepted, Option.bind_some, openAfter_plain plain]
    rfl
  · exact matched

theorem matched_sight_trimEnd (text : List Char) :
    Matched (({} : Scanner).sight (Text.trimEnd text)) ↔ Matched (({} : Scanner).sight text) := by
  obtain ⟨blanks, blank, split⟩ := Text.exists_trimEnd_eq text
  conv_rhs => rw [split, matched_sight_before_blanks blank]

theorem matched_sight_trim (text : List Char) :
    Matched (({} : Scanner).sight (Text.trim text)) ↔ Matched (({} : Scanner).sight text) := by
  obtain ⟨blanks, blank, split⟩ := Text.exists_trimStart_eq text
  rw [Text.trim, matched_sight_trimEnd]
  conv_rhs => rw [split]
  exact (matched_sight_after_quiet fun c member => isQuiet_of_isBlank (List.all_eq_true.mp blank c member)).symm

/-- Nothing is seen of a comment. -/
theorem sight_append_comment (outside : (({} : Scanner).through text).quote = none) (comment : List Char) :
    ({} : Scanner).sight (text ++ '#' :: comment) = ({} : Scanner).sight text := by
  have apart : Apart text ('#' :: comment) := (unquoted_cons.mpr (by decide)).apart text
  rw [Scanner.sight, Scanner.regular_fresh.shown_append apart, Scanner.shown_outside outside, List.takeWhile_append]
  split
  · rename_i whole
    rw [Scanner.sight, (List.takeWhile_prefix _).eq_of_length whole, List.takeWhile_cons_of_neg (by decide),
      List.append_nil]
  · rfl

theorem matched_sight_stripComment (line : List Char) :
    Matched (({} : Scanner).sight (stripComment {} line).1) ↔ Matched (({} : Scanner).sight line) := by
  rcases found : ({} : Scanner).search (fun c _ => c == '#') line with ⟨_ | position, after⟩
  · rw [stripComment_of_missed (by rw [found])]
  · obtain ⟨first, comment, rfl, rfl, outside, led⟩ :=
      Scanner.search_mark_eq_some Scanner.regular_fresh (by decide) found
    have missed : (({} : Scanner).search (fun c _ => c == '#') first).1 = none := by rw [led]
    have reached : ({} : Scanner).through first = after := by rw [Scanner.through_eq_of_search missed, led]
    rw [stripComment_of_found found, List.take_left, matched_sight_trimEnd,
      sight_append_comment (by rw [reached, outside])]

end Sight

/-! ### Beginnings of statements -/

/-- A text that does not begin with a visible character. -/
def Parted (text : List Char) : Prop :=
  ∀ c ∈ text.head?, Text.isBlank c = true

theorem Parted.unquoted {text : List Char} (parted : Parted text) : Unquoted text :=
  fun c begins => not_quoteMark_of_isQuiet (isQuiet_of_isBlank (parted c begins))

theorem Parted.take {text : List Char} (parted : Parted text) (count : Nat) : Parted (text.take count) := by
  intro c begins
  rw [List.head?_take] at begins
  split at begins
  · cases begins
  · exact parted c begins

theorem Parted.trimEnd {text : List Char} (parted : Parted text) : Parted (Text.trimEnd text) := by
  intro c begins
  obtain ⟨blanks, -, split⟩ := Text.exists_trimEnd_eq text
  refine parted c ?_
  rw [split]
  exact List.mem_head?_append_of_mem_head? begins

theorem Parted.after_blanks {blanks text : List Char} (blank : Text.isAllBlank blanks = true) (parted : Parted text) :
    Parted (blanks ++ text) := by
  cases blanks with
  | nil => exact parted
  | cons c blanks =>
      rintro d ⟨⟩
      exact (Text.isAllBlank_cons.mp blank).1

/-- One text begins another one, which goes on behind a blank, or it is empty. -/
inductive Leads : List Char → List Char → Prop
  | empty (text : List Char) : Leads [] text
  | goesOn {first more : List Char} : Parted more → Leads first (first ++ more)

namespace Leads

variable {first more text : List Char}

theorem refl (text : List Char) : Leads text text := by
  have whole : Leads text (text ++ []) := .goesOn (by simp [Parted])
  rwa [List.append_nil] at whole

theorem matched_sight (leads : Leads first text) (matched : Matched (({} : Scanner).sight text)) :
    Matched (({} : Scanner).sight first) := by
  cases leads with
  | empty => exact Settles.nil.matched_sight
  | goesOn parted => exact matched_sight_of_append parted.unquoted matched

theorem head?_eq (leads : Leads first text) (visible : first ≠ []) : text.head? = first.head? := by
  cases leads with
  | empty => exact absurd rfl visible
  | goesOn parted => exact List.head?_append_of_ne_nil _ visible

/-- What is taken of a text up to a blank at most is taken of its beginning too. -/
theorem takeWhile_append {test : Char → Bool} (stops : ∀ c, Text.isBlank c = true → test c = false)
    (parted : Parted more) (first : List Char) :
    (first ++ more).takeWhile test = first.takeWhile test ∧
      (first ++ more).dropWhile test = first.dropWhile test ++ more := by
  induction first with
  | nil =>
      cases more with
      | nil => exact ⟨rfl, rfl⟩
      | cons c more => simp [stops c (parted c rfl)]
  | cons c first ih =>
      cases passes : test c with
      | true => simpa [passes] using ih
      | false => simp [passes]

theorem takeWhile_eq {test : Char → Bool} (leads : Leads first text) (visible : first ≠ [])
    (stops : ∀ c, Text.isBlank c = true → test c = false) : text.takeWhile test = first.takeWhile test := by
  cases leads with
  | empty => exact absurd rfl visible
  | goesOn parted => exact (takeWhile_append stops parted _).1

theorem trim_append (parted : Parted more) (first : List Char) :
    Leads (Text.trim first) (Text.trim (first ++ more)) := by
  by_cases empty : Text.trim first = []
  · rw [empty]
    exact .empty _
  obtain ⟨c, rest, visibleFirst, starts, -⟩ := Text.exists_trim_eq empty
  obtain ⟨before, blankBefore, splitBefore⟩ := Text.exists_trimStart_eq first
  obtain ⟨behind, blankBehind, splitBehind⟩ := Text.exists_trimEnd_eq (Text.trimStart first)
  obtain ⟨front, d, visibleLast, ended⟩ := Text.Tight.exists_last ⟨empty, Text.trim_trim first⟩
  have started : Text.trimStart (first ++ more) = Text.trimStart first ++ more := by
    conv_lhs => rw [splitBefore, List.append_assoc, Text.trimStart_blanks_append blankBefore]
    rw [starts, List.cons_append, Text.trimStart_of_head visibleFirst]
  -- The last visible character of the beginning keeps everything before it from being trimmed.
  have trimmed : Text.trim (first ++ more) = Text.trim first ++ Text.trimEnd (behind ++ more) := by
    rw [Text.trim, started, splitBehind, ← Text.trim, ended]
    simpa using Text.trimEnd_append_of_visible visibleLast front (behind ++ more)
  rw [trimmed]
  exact .goesOn (parted.after_blanks blankBehind).trimEnd

end Leads

/-! ### Arguments in brackets -/

namespace Source

/-- The words that begin a statement which may have another one behind its header. -/
def headerWords : List String := ["if", "while", "for", "def"]

/-- The words that arguments without parentheses follow. -/
def listWords : List String := ["print", "return"]

/-- The words that always begin a statement of their own kind. -/
def kindWords : List String := headerWords ++ listWords ++ ["try", "del", "break", "continue"]

/-- What stands behind the word that a statement begins with. -/
def afterKey (text : List Char) : List Char :=
  Text.trim (text.dropWhile Text.isNameChar)

/-- What stands behind the first blank. -/
def afterWord (text : List Char) : List Char :=
  Text.trim (text.dropWhile (!Text.isBlank ·))

/-- The head of a statement with a header, and what stands behind the header on the same line. -/
def header? (text : List Char) : Option (List Char × List Char) :=
  if keyOf text ∈ headerWords then
    (findTopLevel ':' (afterKey text)).map fun position =>
      ((afterKey text).take position, Text.trim ((afterKey text).drop (position + 1)))
  else none

/-- A line is a command: it does not begin with the word of another statement, and its first word, in which there are no
brackets and quotes, can be called with what follows. -/
structure IsCommand (scope : Scope) (workspace : Workspace) (text : List Char) : Prop where
  free : keyOf text ∉ kindWords
  quiet : ∀ c ∈ text.takeWhile (!Text.isBlank ·), isQuiet c = true
  called : ∃ input call after, Compile.commandCall? scope text ⟨input, workspace⟩ = .ok (some call) after

/-- The arguments on a line around which the statement on it puts brackets before it reads them: those of a print, of a
return and of a command, which may stand behind headers. -/
inductive Encloses (scope : Scope) (workspace : Workspace) : List Char → List Char → Prop
  | listed {text : List Char} : keyOf text ∈ listWords → Encloses scope workspace text (afterKey text)
  | command {text : List Char} : IsCommand scope workspace text → Encloses scope workspace text (afterWord text)
  | headed {text head tail arguments : List Char} :
      header? text = some (head, tail) → Encloses scope workspace tail arguments →
        Encloses scope workspace text arguments

/-- How the text of a statement is made up that is compiled.  Arguments around which brackets are put are settled if they
close no bracket that they do not open, and all else is settled in any case. -/
inductive Accepted (scope : Scope) (workspace : Workspace) : List Char → Prop
  | settled {text : List Char} : header? text = none → Settles text → Accepted scope workspace text
  | listed {text : List Char} :
      keyOf text ∈ listWords → (Matched (({} : Scanner).sight (afterKey text)) → Settles (afterKey text)) →
        Accepted scope workspace text
  | command {text : List Char} :
      IsCommand scope workspace text → (Matched (({} : Scanner).sight (afterWord text)) → Settles (afterWord text)) →
        Accepted scope workspace text
  | headed {text head tail : List Char} :
      header? text = some (head, tail) → Settles head → Accepted scope workspace tail → Accepted scope workspace text

variable {scope : Scope} {workspace : Workspace} {text first head tail arguments : List Char}

theorem header?_of_key (other : keyOf text ∉ headerWords) : header? text = none :=
  if_neg other

theorem key_of_header? (headed : header? text = some (head, tail)) : keyOf text ∈ headerWords := by
  by_contra other
  rw [header?_of_key other] at headed
  cases headed

theorem exists_of_header? (headed : header? text = some (head, tail)) :
    ∃ position, findTopLevel ':' (afterKey text) = some position ∧ head = (afterKey text).take position ∧
      tail = Text.trim ((afterKey text).drop (position + 1)) := by
  rw [header?, if_pos (key_of_header? headed)] at headed
  obtain ⟨position, found, made⟩ := Option.map_eq_some_iff.mp headed
  cases made
  exact ⟨position, found, rfl, rfl⟩

theorem split_of_header? (headed : header? text = some (head, tail)) :
    ∃ behind, afterKey text = head ++ ':' :: behind ∧ tail = Text.trim behind := by
  obtain ⟨position, found, rfl, rfl⟩ := exists_of_header? headed
  obtain ⟨before, visit, holds, split, rfl⟩ := split_of_find found
  refine ⟨visit.after, ?_, ?_⟩
  · rw [← eq_of_beq (Bool.and_eq_true_iff.mp holds).1, split, List.take_left]
  · rw [split, ← List.drop_drop, List.drop_left, List.drop_one, List.tail_cons]

theorem header?_of_listWords (listed : keyOf text ∈ listWords) : header? text = none := by
  apply header?_of_key
  simp only [listWords, List.mem_cons, List.not_mem_nil, or_false] at listed
  rcases listed with same | same <;> rw [same] <;> decide

theorem IsCommand.header?_eq_none (command : IsCommand scope workspace text) : header? text = none :=
  header?_of_key fun member => command.free (by simp [kindWords, member])

theorem header?_nil : header? [] = none :=
  header?_of_key (by decide)

theorem accepted_nil (scope : Scope) (workspace : Workspace) : Accepted scope workspace [] :=
  .settled header?_nil .nil

theorem matched_sight_afterKey (text : List Char) :
    Matched (({} : Scanner).sight (afterKey text)) ↔ Matched (({} : Scanner).sight text) := by
  have quiet : ∀ c ∈ text.takeWhile Text.isNameChar, isQuiet c = true :=
    fun c member => isQuiet_of_isNameChar (List.all_eq_true.mp List.all_takeWhile c member)
  rw [afterKey, matched_sight_trim, ← matched_sight_after_quiet quiet, List.takeWhile_append_dropWhile]

theorem matched_sight_afterWord (quiet : ∀ c ∈ text.takeWhile (!Text.isBlank ·), isQuiet c = true) :
    Matched (({} : Scanner).sight (afterWord text)) ↔ Matched (({} : Scanner).sight text) := by
  rw [afterWord, matched_sight_trim, ← matched_sight_after_quiet quiet, List.takeWhile_append_dropWhile]

theorem settles_of_afterWord (quiet : ∀ c ∈ text.takeWhile (!Text.isBlank ·), isQuiet c = true)
    (settles : Settles (afterWord text)) : Settles text := by
  rw [← List.takeWhile_append_dropWhile (p := (!Text.isBlank ·)) (l := text)]
  exact settles.of_trim.after_quiet quiet

theorem settles_of_afterKey (settles : Settles (afterKey text)) : Settles text := by
  rw [← List.takeWhile_append_dropWhile (p := Text.isNameChar) (l := text)]
  refine settles.of_trim.after_quiet fun c member => ?_
  exact isQuiet_of_isNameChar (List.all_eq_true.mp List.all_takeWhile c member)

/-- Behind a settled head the brackets of a statement are those behind its header. -/
theorem matched_sight_header (headed : header? text = some (head, tail)) (settles : Settles head) :
    Matched (({} : Scanner).sight tail) ↔ Matched (({} : Scanner).sight text) := by
  obtain ⟨behind, split, rfl⟩ := split_of_header? headed
  have apart : Apart head (':' :: behind) := (unquoted_cons.mpr (by decide)).apart head
  rw [← matched_sight_afterKey text, split, settles.matched_sight_append apart, matched_sight_trim, matched_sight_cons rfl]

/-- The text of a statement that is compiled is settled, if its brackets are matched. -/
theorem Accepted.settles (accepted : Accepted scope workspace text) (matched : Matched (({} : Scanner).sight text)) :
    Settles text := by
  induction accepted with
  | settled headless settles => exact settles
  | listed isList settles => exact settles_of_afterKey (settles ((matched_sight_afterKey _).mpr matched))
  | command isCommand settles =>
      exact settles_of_afterWord isCommand.quiet (settles ((matched_sight_afterWord isCommand.quiet).mpr matched))
  | headed headed settlesHead _ ih =>
      have settlesTail := ih ((matched_sight_header headed settlesHead).mpr matched)
      obtain ⟨behind, split, rfl⟩ := split_of_header? headed
      apply settles_of_afterKey
      rw [split]
      exact settlesHead.around settlesTail.of_trim rfl

end Source

/-! ### What the first line of a statement shows -/

namespace Source

variable {word first text : List Char}

theorem findWord_eq_zero_iff :
    findWord word text = some 0 ↔
      text ≠ [] ∧ ∃ rest, Text.dropStart? word text = some rest ∧ rest.head?.any Text.isNameChar = false := by
  cases text with
  | nil => simp [findWord, find, Scanner.feed, Scanner.scan]
  | cons c text =>
      rw [findWord, find, Scanner.feed, Scanner.scan]
      cases dropped : Text.dropStart? word (c :: text) with
      | none => simp [Scanner.inString]
      | some rest =>
          cases follows : rest.head?.any Text.isNameChar <;> simp [Scanner.inString, follows]

theorem dropStart?_append {rest : List Char} (dropped : Text.dropStart? word text = some rest) (more : List Char) :
    Text.dropStart? word (text ++ more) = some (rest ++ more) := by
  fun_induction Text.dropStart? word text with
  | case1 text =>
      cases dropped
      cases text ++ more <;> rfl
  | case2 => cases dropped
  | case3 word c text ih => simpa [Text.dropStart?] using ih dropped
  | case4 => cases dropped

end Source

namespace Leads

variable {first text head tail : List Char} {position : Nat}

theorem keyOf_eq (leads : Leads first text) (visible : first ≠ []) : keyOf text = keyOf first := by
  rw [keyOf, keyOf, leads.takeWhile_eq visible fun c => Text.isNameChar_of_isBlank]

theorem afterKey (leads : Leads first text) : Leads (Source.afterKey first) (Source.afterKey text) := by
  cases leads with
  | empty => exact .empty _
  | goesOn parted =>
      rw [Source.afterKey, Source.afterKey, (takeWhile_append (fun c => Text.isNameChar_of_isBlank) parted _).2]
      exact trim_append parted _

theorem afterWord (leads : Leads first text) : Leads (Source.afterWord first) (Source.afterWord text) := by
  cases leads with
  | empty => exact .empty _
  | goesOn parted =>
      rw [Source.afterWord, Source.afterWord, (takeWhile_append (fun c blank => by simp [blank]) parted _).2]
      exact trim_append parted _

theorem findTopLevel_eq_some (leads : Leads first text) (found : findTopLevel ':' first = some position) :
    findTopLevel ':' text = some position := by
  cases leads with
  | empty => cases found
  | goesOn parted =>
      rw [findTopLevel_eq_search] at found ⊢
      have blind (c : Char) (depth : Int32) (isQuote : QuoteMark c) : (c == ':' && depth == 0) = false := by
        rw [Scanner.blind_mark (by decide) c depth isQuote, Bool.false_and]
      have foundToo := Scanner.search_append_of_found Scanner.regular_fresh blind (Prod.ext found rfl)
      rw [foundToo]

theorem length_le_of_findTopLevel (leads : Leads first text) (missed : findTopLevel ':' first = none)
    (found : findTopLevel ':' text = some position) : first.length ≤ position := by
  cases leads with
  | empty => exact Nat.zero_le position
  | goesOn parted =>
      rw [findTopLevel_eq_search] at missed found
      rw [Scanner.search_append Scanner.regular_fresh (parted.unquoted.apart _) missed] at found
      obtain ⟨place, -, rfl⟩ := Option.map_eq_some_iff.mp found
      exact Nat.le_add_left _ _

theorem take (leads : Leads first text) (within : first.length ≤ position) : Leads first (text.take position) := by
  cases leads with
  | empty => exact .empty _
  | @goesOn _ more parted =>
      obtain ⟨count, rfl⟩ := Nat.exists_eq_add_of_le within
      rw [List.take_length_add_append]
      exact .goesOn (parted.take count)

theorem trim_drop (leads : Leads first text) (within : position ≤ first.length) :
    text.take position = first.take position ∧
      Leads (Text.trim (first.drop position)) (Text.trim (text.drop position)) := by
  cases leads with
  | empty =>
      obtain rfl := Nat.le_zero.mp within
      exact ⟨rfl, .empty _⟩
  | goesOn parted =>
      rw [List.take_append_of_le_length within, List.drop_append_of_le_length within]
      exact ⟨rfl, trim_append parted _⟩

theorem header?_eq_none (leads : Leads first text) (headless : header? text = none) : header? first = none := by
  by_cases empty : first = []
  · rw [empty, header?_nil]
  by_contra headed
  obtain ⟨⟨head, tail⟩, headed⟩ := Option.ne_none_iff_exists'.mp headed
  obtain ⟨position, found, -, -⟩ := exists_of_header? headed
  rw [header?, leads.keyOf_eq empty, if_pos (key_of_header? headed), leads.afterKey.findTopLevel_eq_some found]
    at headless
  cases headless

/-- The header of a statement stands on its first line, or else the line is a part of it. -/
theorem header?_cases (leads : Leads first text) (headed : header? text = some (head, tail)) :
    (∃ begun, header? first = some (head, begun) ∧ Leads begun tail) ∨
      header? first = none ∧ Leads (Source.afterKey first) head := by
  by_cases empty : first = []
  · rw [empty]
    exact .inr ⟨header?_nil, .empty _⟩
  have key := key_of_header? headed
  rw [leads.keyOf_eq empty] at key
  obtain ⟨position, found, rfl, rfl⟩ := exists_of_header? headed
  rw [header?, if_pos key]
  cases foundFirst : findTopLevel ':' (Source.afterKey first) with
  | none => exact .inr ⟨rfl, leads.afterKey.take (leads.afterKey.length_le_of_findTopLevel foundFirst found)⟩
  | some place =>
      obtain rfl : place = position :=
        Option.some.inj ((leads.afterKey.findTopLevel_eq_some foundFirst).symm.trans found)
      have within : place < (Source.afterKey first).length := Scanner.scan_lt foundFirst
      have same := (leads.afterKey.trim_drop (Nat.le_of_lt within)).1
      refine .inl ⟨_, ?_, (leads.afterKey.trim_drop within).2⟩
      rw [same, Option.map_some]

theorem findWord_eq_zero {word : List Char} (leads : Leads first text) (found : findWord word first = some 0) :
    findWord word text = some 0 := by
  obtain ⟨visible, rest, dropped, ends⟩ := findWord_eq_zero_iff.mp found
  cases leads with
  | empty => exact absurd rfl visible
  | @goesOn _ more parted =>
      refine findWord_eq_zero_iff.mpr ⟨by simp [visible], rest ++ more, dropStart?_append dropped more, ?_⟩
      cases rest with
      | cons c rest => exact ends
      | nil =>
          cases more with
          | nil => rfl
          | cons c more => exact Text.isNameChar_of_isBlank (parted c rfl)

end Leads

namespace Compile

variable {scope : Scope} {desk after : Desk} {workspace : Workspace} {first text call : List Char}

/-- What may follow the word of a command: nothing that makes it an operand. -/
def Introduces (rest : List Char) : Prop :=
  LogicalLine.startsWithOneOf operatorMarks rest = false ∧
    ∀ word ∈ operatorWords, findWord word.toList rest ≠ some 0

/-- The call that a command stands for, and what makes it one. -/
theorem commandCall?_eq_some_iff :
    commandCall? scope text desk = .ok (some call) after ↔
      (∀ c ∈ text.takeWhile (!Text.isBlank ·), commandStops.contains c = false) ∧
      (∃ value, valueOf? scope (String.ofList (text.takeWhile (!Text.isBlank ·))) desk = .ok (some value) after ∧
        value.isCallable = true) ∧
      Introduces (afterWord text) ∧ text.takeWhile (!Text.isBlank ·) ++ '(' :: (afterWord text ++ [')']) = call := by
  have behind : Text.trim (text.drop (text.takeWhile (!Text.isBlank ·)).length) = afterWord text := by
    have split := List.takeWhile_append_dropWhile (p := (!Text.isBlank ·)) (l := text)
    rw [afterWord, ← (congrArg (List.drop _) split.symm).trans List.drop_left]
  have introduces : Introduces (afterWord text) ↔
      (LogicalLine.startsWithOneOf operatorMarks (afterWord text) ||
        operatorWords.any fun word => findWord word.toList (afterWord text) == some 0) = false := by
    simp [Introduces, List.any_eq_false]
  simp only [commandCall?, behind, introduces, Bool.or_assoc]
  constructor
  · intro called
    split at called
    · cases called
    rename_i stops
    obtain ⟨found, between, valued, called⟩ := bind_eq_ok called
    cases found with
    | none => cases called
    | some value =>
        dsimp only at called
        split at called
        · cases called
        rename_i allowed
        cases called
        rw [Bool.or_eq_true, not_or, Bool.not_eq_true, Bool.not_eq_true, Bool.not_eq_false'] at allowed
        refine ⟨fun c member => ?_, ⟨value, valued, allowed.1⟩, allowed.2, rfl⟩
        simpa using fun stop => stops (List.any_eq_true.mpr ⟨c, member, stop⟩)
  · rintro ⟨stops, ⟨value, valued, callable⟩, allowed, rfl⟩
    rw [if_neg (by simpa using stops), bind_apply, valued]
    dsimp only
    rw [callable, allowed]
    rfl

end Compile

namespace Source

variable {scope : Scope} {workspace : Workspace} {first text head tail arguments : List Char}

/-- A command has the word that its first line begins with. -/
theorem IsCommand.quiet_of_leads (command : IsCommand scope workspace text) (leads : Leads first text) :
    ∀ c ∈ first.takeWhile (!Text.isBlank ·), isQuiet c = true := by
  by_cases empty : first = []
  · rw [empty]
    simp
  · rw [← leads.takeWhile_eq empty fun c blank => by simp [blank]]
    exact command.quiet

/-- If some of the arguments stand on the first line, then this line is a command by itself. -/
theorem IsCommand.of_leads (command : IsCommand scope workspace text) (leads : Leads first text)
    (visible : afterWord first ≠ []) : IsCommand scope workspace first := by
  have nonempty : first ≠ [] := by
    rintro rfl
    exact visible rfl
  have quiet := command.quiet_of_leads leads
  obtain ⟨free, -, input, call, after, called⟩ := command
  -- The word is the same, and whether an operator follows it shows in the first characters behind it.
  obtain ⟨stops, valued, ⟨unmarked, plain⟩, -⟩ := Compile.commandCall?_eq_some_iff.mp called
  rw [leads.takeWhile_eq nonempty fun c blank => by simp [blank]] at stops valued
  rw [leads.keyOf_eq nonempty] at free
  refine ⟨free, quiet, input, _, after, Compile.commandCall?_eq_some_iff.mpr ⟨stops, valued, ⟨?_, ?_⟩, rfl⟩⟩
  · rwa [LogicalLine.startsWithOneOf, leads.afterWord.head?_eq visible] at unmarked
  · exact fun word member found => plain word member (leads.afterWord.findWord_eq_zero found)

theorem Encloses.matched_sight (encloses : Encloses scope workspace text arguments) (headless : header? text = none)
    (matched : Matched (({} : Scanner).sight text)) : Matched (({} : Scanner).sight arguments) := by
  cases encloses with
  | listed isList => exact (matched_sight_afterKey text).mpr matched
  | command isCommand => exact (matched_sight_afterWord isCommand.quiet).mpr matched
  | headed headed _ =>
      rw [headless] at headed
      cases headed

theorem Encloses.of_header? (encloses : Encloses scope workspace text arguments)
    (headed : header? text = some (head, tail)) : Encloses scope workspace tail arguments := by
  cases encloses with
  | listed isList =>
      rw [header?_of_listWords isList] at headed
      cases headed
  | command isCommand =>
      rw [isCommand.header?_eq_none] at headed
      cases headed
  | headed headedToo inside =>
      rw [headed] at headedToo
      cases headedToo
      exact inside

/-- The brackets on the first line of a statement that is compiled are matched, unless there are arguments on the line that
are put in brackets and close a bracket that they do not open. -/
theorem Accepted.matched_sight_iff (accepted : Accepted scope workspace text) (leads : Leads first text) :
    Matched (({} : Scanner).sight first) ↔
      ∀ arguments, Encloses scope workspace first arguments → Matched (({} : Scanner).sight arguments) := by
  -- The induction follows the headers of the statement, and the first line gets shorter with its text.
  induction accepted generalizing first with
  | settled headless settles =>
      have matched := leads.matched_sight settles.matched_sight
      exact ⟨fun _ _ encloses => encloses.matched_sight (leads.header?_eq_none headless) matched, fun _ => matched⟩
  | listed isList _ =>
      have headless := leads.header?_eq_none (header?_of_listWords isList)
      refine ⟨fun matched _ encloses => encloses.matched_sight headless matched, fun each => ?_⟩
      by_cases empty : first = []
      · rw [empty]
        exact Settles.nil.matched_sight
      · rw [leads.keyOf_eq empty] at isList
        exact (matched_sight_afterKey first).mp (each _ (.listed isList))
  | command isCommand _ =>
      have headless := leads.header?_eq_none isCommand.header?_eq_none
      refine ⟨fun matched _ encloses => encloses.matched_sight headless matched, fun each => ?_⟩
      refine (matched_sight_afterWord (isCommand.quiet_of_leads leads)).mp ?_
      by_cases empty : afterWord first = []
      · rw [empty]
        exact Settles.nil.matched_sight
      · exact each _ (.command (isCommand.of_leads leads empty))
  | headed headed settlesHead _ ih =>
      -- The first line ends behind the header or within it.
      rcases leads.header?_cases headed with ⟨begun, headedFirst, leadsTail⟩ | ⟨headless, leadsHead⟩
      · rw [← matched_sight_header headedFirst settlesHead, ih leadsTail]
        constructor
        · exact fun each _ encloses => each _ (encloses.of_header? headedFirst)
        · exact fun each _ encloses => each _ (.headed headedFirst encloses)
      · have matched := (matched_sight_afterKey first).mp (leadsHead.matched_sight settlesHead.matched_sight)
        exact ⟨fun _ _ encloses => encloses.matched_sight headless matched, fun _ => matched⟩

end Source

end GroupScript
