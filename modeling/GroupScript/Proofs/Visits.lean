import GroupScript.Proofs.Scanning

/-!
# What a scan shows

A scan shows characters of a text to its test and ends at the first one at which the test holds.  Which characters it
would show, and in what state it would end, does not depend on the test: every scan finds the first character that its
test accepts among those of one list.
-/

namespace GroupScript

/-- The position of a character in the text that ends with what stands after it. -/
def Visit.position (text : List Char) (visit : Visit) : Nat :=
  text.length - (visit.after.length + 1)

/-- The last of some characters, or else the one before them. -/
def lastOf (before : Option Char) (text : List Char) : Option Char :=
  text.getLast?.or before

@[simp]
theorem lastOf_nil (before : Option Char) : lastOf before [] = before :=
  rfl

@[simp]
theorem lastOf_cons (before : Option Char) (c : Char) (text : List Char) :
    lastOf before (c :: text) = lastOf (some c) text := by
  cases text <;> simp [lastOf, List.getLast?_cons]

@[simp]
theorem lastOf_append (before : Option Char) (first second : List Char) :
    lastOf before (first ++ second) = lastOf (lastOf before first) second := by
  induction first generalizing before with
  | nil => rfl
  | cons c first ih => simp [ih]

namespace Scanner

/-- The characters of a text that a scan shows to its test as long as the test fails, and the state that all of the
text leads to. -/
def trace : Nat → Option Char → Scanner → List Char → List Visit × Scanner
  | _, _, scanner, [] => ([], scanner)
  | skipped + 1, _, scanner, c :: rest => trace skipped (some c) scanner rest
  | 0, before, scanner, c :: rest =>
      let others := trace (scanner.step c rest).2 (some c) (scanner.step c rest).1 rest
      (if scanner.inString then others.1 else ⟨before, c, rest, scanner.depth⟩ :: others.1, others.2)

/-- What a scan shows after it has shown some characters already. -/
def preceded (visits : List Visit) (traced : List Visit × Scanner) : List Visit × Scanner :=
  (visits ++ traced.1, traced.2)

@[simp]
theorem preceded_nil (traced : List Visit × Scanner) : preceded [] traced = traced :=
  rfl

@[simp]
theorem preceded_preceded (first second : List Visit) (traced : List Visit × Scanner) :
    preceded first (preceded second traced) = preceded (first ++ second) traced := by
  simp [preceded]

/-- The first character shown at which a test holds, with the state in which it is shown. -/
def firstIn (stop : Visit → Bool) (text : List Char) (traced : List Visit × Scanner) :
    Option Nat × Scanner :=
  match traced.1.find? stop with
  | some visit => (some (visit.position text), ⟨visit.depth, none, false⟩)
  | none => (none, traced.2)

variable {stop : Visit → Bool} {skipped : Nat} {before : Option Char} {scanner : Scanner}
  {text used rest : List Char}

theorem trace_nil : trace skipped before scanner [] = ([], scanner) := by
  cases skipped <;> rfl

theorem trace_inside {c : Char} {quote : Quote} (inside : scanner.quote = some quote) :
    trace 0 before scanner (c :: rest) =
      trace (scanner.step c rest).2 (some c) (scanner.step c rest).1 rest := by
  simp [trace, inString, inside]

theorem trace_outside {c : Char} (outside : scanner.quote = none) :
    trace 0 before scanner (c :: rest) =
      preceded [⟨before, c, rest, scanner.depth⟩]
        (trace (scanner.step c rest).2 (some c) (scanner.step c rest).1 rest) := by
  simp [trace, inString, outside, preceded]

/-- What is passed over is not shown. -/
theorem trace_skipped :
    trace used.length before scanner (used ++ rest) = trace 0 (lastOf before used) scanner rest := by
  induction used generalizing before with
  | nil => rfl
  | cons c used ih => simpa [trace] using ih

/-- A character of a string is taken in with what belongs to it. -/
theorem trace_passes_inside {c : Char} {quote : Quote} {next : Scanner}
    (inside : scanner.quote = some quote) (stepped : scanner.step c (used ++ rest) = (next, used.length)) :
    trace 0 before scanner (c :: (used ++ rest)) = trace 0 (lastOf before (c :: used)) next rest := by
  rw [trace_inside inside, stepped, trace_skipped, lastOf_cons]

/-- A character outside strings is shown and taken in with what belongs to it. -/
theorem trace_passes_outside {c : Char} {next : Scanner} (outside : scanner.quote = none)
    (stepped : scanner.step c (used ++ rest) = (next, used.length)) :
    trace 0 before scanner (c :: (used ++ rest)) =
      preceded [⟨before, c, used ++ rest, scanner.depth⟩]
        (trace 0 (lastOf before (c :: used)) next rest) := by
  rw [trace_outside outside, stepped, trace_skipped, lastOf_cons]

/-- Some characters of a text, shown one after the other at one depth. -/
def cursors (depth : Int32) (following : List Char) : Option Char → List Char → List Visit
  | _, [] => []
  | before, c :: used => ⟨before, c, used ++ following, depth⟩ :: cursors depth following (some c) used

theorem char_of_mem_cursors {depth : Int32} {visit : Visit}
    (shown : visit ∈ cursors depth rest before used) : visit.char ∈ used := by
  induction used generalizing before with
  | nil => cases shown
  | cons c used ih =>
      rcases List.mem_cons.mp shown with rfl | shown
      · exact List.mem_cons_self
      · exact List.mem_cons_of_mem c (ih shown)

/-- Plain characters are all shown. -/
theorem trace_plain (outside : scanner.quote = none) (plain : ∀ c ∈ used, isPlain c = true) :
    trace 0 before scanner (used ++ rest) =
      preceded (cursors scanner.depth rest before used) (trace 0 (lastOf before used) scanner rest) := by
  induction used generalizing before with
  | nil => rfl
  | cons c used ih =>
      have stepped : scanner.step c ([] ++ (used ++ rest)) = (scanner, 0) :=
        step_plain outside (plain c (by simp)) _
      have others := @ih (some c) fun d member => plain d (by simp [member])
      rw [lastOf_cons, List.cons_append]
      refine (trace_passes_outside outside stepped).trans ?_
      rw [lastOf_cons, lastOf_nil, others, preceded_preceded]
      rfl

theorem length_after_of_trace {visit : Visit} (shown : visit ∈ (trace skipped before scanner text).1) :
    visit.after.length < text.length := by
  induction text generalizing skipped before scanner with
  | nil => simp [trace_nil] at shown
  | cons c text ih =>
      have later {skipped : Nat} {scanner : Scanner}
          (shown : visit ∈ (trace skipped (some c) scanner text).1) :
          visit.after.length < (c :: text).length :=
        Nat.lt_succ_of_lt (ih shown)
      cases skipped with
      | succ skipped => exact later shown
      | zero =>
          cases quote : scanner.quote with
          | some quote =>
              rw [trace_inside quote] at shown
              exact later shown
          | none =>
              rw [trace_outside quote] at shown
              rcases List.mem_cons.mp shown with rfl | shown
              · exact Nat.lt_succ_self _
              · exact later shown

theorem position_append {visit : Visit} (within : visit.after.length < rest.length) :
    visit.position (used ++ rest) = visit.position rest + used.length := by
  simp only [Visit.position, List.length_append]
  omega

/-- What is found in a text is found in any longer one that ends with it. -/
theorem firstIn_append {traced : List Visit × Scanner}
    (within : ∀ visit ∈ traced.1, visit.after.length < rest.length) :
    firstIn stop (used ++ rest) traced = moved used.length (firstIn stop rest traced) := by
  unfold firstIn
  cases found : traced.1.find? stop with
  | none => rfl
  | some visit => simp [moved, position_append (within visit (List.mem_of_find?_eq_some found))]

theorem firstIn_trace_cons {c : Char} :
    firstIn stop (c :: text) (trace skipped before scanner text) =
      moved 1 (firstIn stop text (trace skipped before scanner text)) :=
  @firstIn_append stop [c] text _ fun _ => length_after_of_trace

theorem firstIn_preceded {visits : List Visit} (missed : ∀ visit ∈ visits, stop visit = false)
    (traced : List Visit × Scanner) :
    firstIn stop text (preceded visits traced) = firstIn stop text traced := by
  have none : visits.find? stop = none := by simpa using missed
  simp [firstIn, preceded, none]

/-- A scan ends at the first character shown at which its test holds. -/
theorem Regular.scan_eq_firstIn (regular : scanner.Regular) :
    scan stop skipped before scanner text = firstIn stop text (trace skipped before scanner text) := by
  induction text generalizing skipped before scanner with
  | nil => cases skipped <;> rfl
  | cons c text ih =>
      cases skipped with
      | succ skipped =>
          change moved 1 (scan stop skipped (some c) scanner text) = _
          rw [ih regular, ← firstIn_trace_cons, trace]
      | zero =>
          have goesOn : moved 1 (scan stop (scanner.step c text).2 (some c) (scanner.step c text).1 text) =
              firstIn stop (c :: text)
                (trace (scanner.step c text).2 (some c) (scanner.step c text).1 text) := by
            rw [ih (regular.step c text), ← firstIn_trace_cons]
          cases quote : scanner.quote with
          | some quote =>
              rw [trace_inside quote, ← goesOn]
              simp [scan, inString, quote, moved]
          | none =>
              rw [trace_outside quote]
              cases holds : stop ⟨before, c, text, scanner.depth⟩ with
              | false =>
                  rw [firstIn_preceded (by simpa using holds), ← goesOn]
                  simp [scan, holds, moved]
              | true =>
                  have settled : scanner = ⟨scanner.depth, none, false⟩ := by
                    rw [← quote, ← regular.outside quote]
                  simp [scan, inString, quote, holds, firstIn, preceded, Visit.position, ← settled]

/-- A search goes on behind a text in which the test holds at no character shown. -/
theorem search_of_trace {test : Char → Int32 → Bool} {visits : List Visit} {other : Option Char}
    {next : Scanner} (regular : scanner.Regular) (regularNext : next.Regular)
    (traced : trace 0 before scanner (used ++ rest) = preceded visits (trace 0 other next rest))
    (missed : ∀ visit ∈ visits, test visit.char visit.depth = false) :
    search test scanner (used ++ rest) = moved used.length (search test next rest) := by
  have unseen : ∀ visit ∈ visits, seeing test visit = false := missed
  rw [search, search, scan_seeing none before, scan_seeing none other, regular.scan_eq_firstIn,
    regularNext.scan_eq_firstIn, traced, firstIn_preceded unseen,
    firstIn_append fun _ => length_after_of_trace]

end Scanner

end GroupScript
